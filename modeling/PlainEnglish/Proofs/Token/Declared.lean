import PlainEnglish.Proofs.Token.Scan

/-!
# Scanning strings

The line that declares a string between quotes, and the line that prints it. If the first one is
scanned to the string, so is the second.
-/

namespace PlainEnglish

/-! ### The two lines -/

/-- The line that declares what a text spells as `x`. -/
def Text.declared (t : Text) : Text := "create variable x with value " ++ t

/-- The line that declares a string as `x`. -/
def Text.asDeclared (s : Text) : Text := "create variable x with value " ++ s.inScript

/-- The line that prints a string. -/
def Text.asPrinted (s : Text) : Text := "print " ++ s.inScript

/-- A string whose declaration is scanned to the declaration of this very string. -/
def Text.IsDeclarable (s : Text) : Prop :=
  (Token.scan s.asDeclared).map (fun t => (t.kind, t.text)) =
    ([(.keyword .createWord, "create"), (.keyword .variableWord, "variable"), (.identifier, "x"),
      (.keyword .withWord, "with"), (.keyword .valueWord, "value"), (.string, s),
      (.newline, "\n"), (.finish, "")] : List (Kind × Text))

/-! ### Words between quotes -/

/-- If the first words of a text joined are the whole text, they are all of its words. -/
lemma Text.joined_words_of_take {column : Nat} {t : Text} {taken left : List Word}
    (hwords : t.wordsFrom column = taken ++ left) (hjoined : Word.joined taken = t) :
    left = [] := by
  have hblank {word : Word} (h : word ∈ taken ++ left) (c : Char) (hc : c ∈ word.text) :
      isBlank c = false := Text.not_blank_of_mem_wordsFrom (hwords ▸ h) hc
  have hfilter := Word.filter_joined fun word hword =>
    hblank (List.mem_append_left left hword)
  have hflat := Text.flatMap_wordsFrom column t
  rw [hjoined] at hfilter
  rw [hwords, List.flatMap_append, hfilter] at hflat
  have hnone : left.flatMap Word.text = [] := by simpa using hflat
  cases left with
  | nil => rfl
  | cons word left =>
    have hmem : word ∈ t.wordsFrom column := by simp [hwords]
    simp [Text.wordsFrom_ne_nil hmem] at hnone

/-! ### The line of a declaration -/

/-- The words in front of the declared string. -/
def declaredWords : List Word :=
  [⟨"create", 1⟩, ⟨"variable", 8⟩, ⟨"x", 17⟩, ⟨"with", 19⟩, ⟨"value", 24⟩]

/-- The tokens in front of the declared string. -/
def declaredTokens : List Token :=
  [⟨.keyword .createWord, "create", 1, 1⟩, ⟨.keyword .variableWord, "variable", 1, 8⟩,
    ⟨.identifier, "x", 1, 17⟩, ⟨.keyword .withWord, "with", 1, 19⟩,
    ⟨.keyword .valueWord, "value", 1, 24⟩]

lemma Text.words_declared (t : Text) : t.declared.words = declaredWords ++ t.wordsFrom 30 := by
  have heq : t.declared = ("create" : Text) ++ ' ' :: (("variable" : Text) ++ ' ' ::
      (("x" : Text) ++ ' ' :: (("with" : Text) ++ ' ' :: (("value" : Text) ++ ' ' :: t)))) := rfl
  rw [heq, Text.words_eq_wordsFrom]
  iterate 5 rw [Text.wordsFrom_append_space (by decide)
    (Text.forall_eq_false_of_any (by decide))]
  rfl

lemma Token.ofLine_declared (rest : List Word) : Token.ofLine 1 (declaredWords ++ rest) =
    declaredTokens ++ (Token.ofWords (Token.ofValue 1) (rest.takeWhile Word.isValuePart) ++
      Token.ofLine 1 (rest.dropWhile Word.isValuePart)) :=
  Token.ofLine_declaration 1 1 8 19 24 ⟨"x", 17⟩ rest

lemma Token.ofPhysicalLine_declared (t : Text) : ∃ column,
    Token.ofPhysicalLine t.declared 1 = declaredTokens ++
      (Token.ofWords (Token.ofValue 1) ((t.wordsFrom 30).takeWhile Word.isValuePart) ++
        Token.ofLine 1 ((t.wordsFrom 30).dropWhile Word.isValuePart)) ++
      [⟨.newline, ['\n'], 1, column⟩] := by
  have hne : t.declared.words ≠ [] := by simp [Text.words_declared, declaredWords]
  rw [Token.ofPhysicalLine_of_words hne, Text.words_declared, Token.ofLine_declared]
  exact ⟨_, rfl⟩

/-- What is scanned to the same single token as a string between quotes, is this string. -/
lemma Token.joined_of_ofValue_eq {words : List Word} {t : Token} {s : Text}
    (h : Token.ofWords (Token.ofValue 1) words = [t]) (hkind : t.kind = .string)
    (htext : t.text = s) : Word.joined words = s.inScript := by
  have hne : words ≠ [] := by
    rintro rfl
    simp [Token.ofWords] at h
  have hrow := Token.isValueRow_value 1 hne
  generalize Token.ofWords (Token.ofValue 1) words = row at h hrow
  cases hrow with
  | string column quoted =>
    obtain rfl := List.singleton_inj.mp h
    rw [← htext, Text.inScript_inner quoted]
  | number column numeral =>
    obtain rfl := List.singleton_inj.mp h
    simp at hkind
  | expression column =>
    have hmem : t ∈ Token.ofExpression 1 column (Word.joined words) := by simp [h]
    rcases (Token.of_mem_ofExpression hmem).1 with hop | hbare
    · simp [hkind, Kind.isOperator] at hop
    · have := hbare.kind
      simp [hkind] at this

section

variable {s : Text}

lemma Text.IsDeclarable.isLineBreak_eq_false (h : s.IsDeclarable) {c : Char} (hc : c ∈ s) :
    isLineBreak c = false := by
  have hmem : (Kind.string, s) ∈ (Token.scan s.asDeclared).map fun t => (t.kind, t.text) := by
    rw [h]
    simp
  obtain ⟨t, ht, heq⟩ := List.mem_map.mp hmem
  obtain ⟨hkind, htext⟩ := Prod.mk.inj heq
  rw [← htext] at hc
  rw [Token.scan_eq, List.mem_append, List.mem_singleton] at ht
  rcases ht with ht | rfl
  · exact Token.isLineBreak_eq_false ht (by simp [hkind]) hc
  · simp at hkind

lemma Text.IsDeclarable.isLineBreak_inScript (h : s.IsDeclarable) {c : Char}
    (hc : c ∈ s.inScript) : isLineBreak c = false := by
  rcases Text.mem_inScript hc with rfl | hc
  · decide
  · exact h.isLineBreak_eq_false hc

lemma Text.IsDeclarable.isLineBreak_asDeclared (h : s.IsDeclarable) {c : Char}
    (hc : c ∈ s.asDeclared) : isLineBreak c = false := by
  rcases List.mem_append.mp hc with hc | hc
  · exact Text.forall_eq_false_of_any (by decide) c hc
  · exact h.isLineBreak_inScript hc

lemma Token.scan_of_no_break {t : Text} (hne : t ≠ []) (h : ∀ c ∈ t, isLineBreak c = false) :
    Token.scan t = Token.ofPhysicalLine t 1 ++ [⟨.finish, [], 2, 1⟩] := by
  rw [Token.scan_eq, Token.ofLines, Text.lines_of_no_break hne h]
  simp

lemma Token.ofPhysicalLine_asDeclared (s : Text) : ∃ column,
    Token.ofPhysicalLine s.asDeclared 1 = declaredTokens ++
      (Token.ofWords (Token.ofValue 1) ((s.inScript.wordsFrom 30).takeWhile Word.isValuePart) ++
        Token.ofLine 1 ((s.inScript.wordsFrom 30).dropWhile Word.isValuePart)) ++
      [⟨.newline, ['\n'], 1, column⟩] := Token.ofPhysicalLine_declared s.inScript

/-- The only token behind the first keywords of the declaration is the string. -/
lemma Text.IsDeclarable.exists_token (h : s.IsDeclarable) : ∃ t : Token,
    Token.ofWords (Token.ofValue 1) ((s.inScript.wordsFrom 30).takeWhile Word.isValuePart) ++
      Token.ofLine 1 ((s.inScript.wordsFrom 30).dropWhile Word.isValuePart) = [t] ∧
      t.kind = .string ∧ t.text = s := by
  obtain ⟨column, htokens⟩ := Token.ofPhysicalLine_asDeclared s
  have hne : s.asDeclared ≠ [] := List.append_ne_nil_of_right_ne_nil _ (List.cons_ne_nil _ _)
  have hscan := h
  rw [Text.IsDeclarable, Token.scan_of_no_break hne fun c => h.isLineBreak_asDeclared, htokens]
    at hscan
  generalize Token.ofWords _ _ ++ Token.ofLine _ _ = value at hscan ⊢
  have hvalue : value.map (fun t => (t.kind, t.text)) = [(Kind.string, s)] := by
    simp only [List.map_append, List.append_assoc] at hscan
    exact List.append_cancel_right (List.append_cancel_left hscan)
  obtain ⟨t, rfl, ht⟩ := List.map_eq_singleton_iff.mp hvalue
  exact ⟨t, rfl, Prod.mk.inj ht⟩

/-- All words behind the declaration are words of the string, and there is nothing between them
but single spaces. -/
lemma Text.IsDeclarable.joined_words (h : s.IsDeclarable) :
    (s.inScript.wordsFrom 30).dropWhile Word.isValuePart = [] ∧
      Word.joined (s.inScript.wordsFrom 30) = s.inScript := by
  obtain ⟨t, hvalue, hkind, htext⟩ := h.exists_token
  have hsplit := List.takeWhile_append_dropWhile (p := Word.isValuePart)
    (l := s.inScript.wordsFrom 30)
  rcases List.append_eq_singleton_iff.mp hvalue with ⟨-, hline⟩ | ⟨hvalue, -⟩
  · -- a further statement would begin with a keyword
    have hloose := Token.isLoose_head_ofLine 1
      ((s.inScript.wordsFrom 30).dropWhile Word.isValuePart) t (by rw [hline]; rfl)
    have := hloose.2
    simp [hkind, Kind.isOperand] at this
  · have hjoined := Token.joined_of_ofValue_eq hvalue hkind htext
    have hnil := Text.joined_words_of_take hsplit.symm hjoined
    rw [hnil, List.append_nil] at hsplit
    exact ⟨hnil, hsplit ▸ hjoined⟩

/-! ### The tokens of the two lines -/

lemma Text.IsDeclarable.ofPhysicalLine_asDeclared (h : s.IsDeclarable) : ∃ a b,
    Token.ofPhysicalLine s.asDeclared 1 =
      declaredTokens ++ [⟨.string, s, 1, a⟩, ⟨.newline, ['\n'], 1, b⟩] := by
  obtain ⟨hrest, hjoined⟩ := h.joined_words
  obtain ⟨column, htokens⟩ := Token.ofPhysicalLine_asDeclared s
  obtain ⟨a, hvalue⟩ := Token.exists_ofWords_eq (Token.ofValue 1) s.inScript_ne_nil hjoined
  have htaken : (s.inScript.wordsFrom 30).takeWhile Word.isValuePart =
      s.inScript.wordsFrom 30 := by
    simpa [hrest] using List.takeWhile_append_dropWhile (p := Word.isValuePart)
      (l := s.inScript.wordsFrom 30)
  refine ⟨a, column, ?_⟩
  rw [htokens, htaken, hrest, hvalue, Token.ofValue, if_pos s.isQuoted_inScript,
    Text.inner_inScript, Token.ofLine]
  rfl

lemma Text.words_asPrinted (s : Text) :
    s.asPrinted.words = ⟨"print", 1⟩ :: s.inScript.wordsFrom 7 := by
  have heq : s.asPrinted = ("print" : Text) ++ ' ' :: s.inScript := rfl
  rw [heq, Text.words_eq_wordsFrom, Text.wordsFrom_append_space (by decide)
    (Text.forall_eq_false_of_any (by decide))]
  rfl

lemma Text.IsDeclarable.ofPhysicalLine_asPrinted (h : s.IsDeclarable) : ∃ a b,
    Token.ofPhysicalLine s.asPrinted 1 = [⟨.keyword .printWord, "print", 1, 1⟩,
      ⟨.string, s, 1, a⟩, ⟨.newline, ['\n'], 1, b⟩] := by
  have hjoined : Word.joined (s.inScript.wordsFrom 7) = s.inScript := by
    have hdeclared := h.joined_words.2
    rw [Word.joined, Text.map_text_wordsFrom] at hdeclared ⊢
    exact hdeclared
  obtain ⟨a, hcontent⟩ := Token.exists_ofWords_eq (Token.ofContent 1) s.inScript_ne_nil hjoined
  have hline : Token.ofLine 1 (⟨"print", 1⟩ :: s.inScript.wordsFrom 7) = _ :=
    Token.ofLine_printing 1 1 (s.inScript.wordsFrom 7)
  have hne : s.asPrinted.words ≠ [] := by simp [Text.words_asPrinted]
  refine ⟨a, s.asPrinted.trimEnd.length + 1, ?_⟩
  rw [Token.ofPhysicalLine_of_words hne, Text.words_asPrinted, hline, hcontent, Token.ofContent,
    if_pos s.isQuoted_inScript, Text.inner_inScript]
  rfl

end

end PlainEnglish
