import Mathlib.Tactic
import Mathlib.Data.List.Chain
import Mathlib.Data.List.Pairwise
import PlainEnglish.Proofs.Text.Words
import PlainEnglish.Proofs.Token.Expression

/-!
# Scanned lines

The tokens of a line are keywords, names and the rows of values, and beside an operator there is
no other operand than a bare one.

Main statements: `Token.of_mem_ofLine`, `Token.isChain_ofLine`.
-/

namespace PlainEnglish

/-! ### Rows of words -/

/-- Words as one text with single spaces. -/
def Word.joined (words : List Word) : Text := Text.join [' '] (words.map Word.text)

lemma Word.mem_joined {words : List Word} {c : Char} (h : c ∈ Word.joined words) :
    c = ' ' ∨ ∃ word ∈ words, c ∈ word.text := by
  rcases Text.mem_join h with h | ⟨piece, hpiece, hc⟩
  · exact Or.inl (List.mem_singleton.mp h)
  · obtain ⟨word, hword, rfl⟩ := List.mem_map.mp hpiece
    exact Or.inr ⟨word, hword, hc⟩

/-- Joined words have the characters of the words, but for spaces. -/
lemma Word.filter_joined {words : List Word}
    (h : ∀ word ∈ words, ∀ c ∈ word.text, isBlank c = false) :
    (Word.joined words).filter (fun c => !isBlank c) = words.flatMap Word.text := by
  induction words with
  | nil => rfl
  | cons word rest ih =>
    rw [List.forall_mem_cons] at h
    have hword : word.text.filter (fun c => !isBlank c) = word.text := by
      rw [List.filter_eq_self]
      simpa using h.1
    cases rest with
    | nil => simp [Word.joined, hword]
    | cons next rest =>
      have hspace : [' '].filter (fun c => !isBlank c) = [] := by decide
      have hjoined : Word.joined (word :: next :: rest) =
          word.text ++ [' '] ++ Word.joined (next :: rest) := Text.join_cons _ _ _ _
      rw [hjoined, List.filter_append, List.filter_append, hword, hspace, ih h.2,
        List.append_nil]
      rfl

lemma Token.ofWords_cons (scan : Int → Text → List Token) (word : Word) (words : List Word) :
    Token.ofWords scan (word :: words) = scan word.column (Word.joined (word :: words)) := rfl

lemma Token.isValueRow_value (line : Int) {words : List Word} (h : words ≠ []) :
    Token.IsValueRow line (Word.joined words) (Token.ofWords (Token.ofValue line) words) := by
  obtain ⟨word, rest, rfl⟩ := List.exists_cons_of_ne_nil h
  exact Token.isValueRow_ofValue _ _ _

lemma Token.isValueRow_content (line : Int) {words : List Word} (h : words ≠ []) :
    Token.IsValueRow line (Word.joined words) (Token.ofWords (Token.ofContent line) words) := by
  obtain ⟨word, rest, rfl⟩ := List.exists_cons_of_ne_nil h
  exact Token.isValueRow_ofContent _ _ _

lemma Token.exists_ofWords_eq (scan : Int → Text → List Token) {words : List Word} {t : Text}
    (hne : t ≠ []) (h : Word.joined words = t) :
    ∃ column, Token.ofWords scan words = scan column t := by
  cases words with
  | nil => exact absurd h.symm hne
  | cons word rest => exact ⟨word.column, by rw [Token.ofWords_cons, h]⟩

/-! ### Lines with one statement -/

@[simp] lemma Keyword.spells_text (keyword keyword' : Keyword) (column : Nat) :
    Word.spells ⟨keyword.text, column⟩ keyword' = decide (keyword = keyword') := by
  cases keyword <;> cases keyword' <;> rfl

lemma Token.ofLine_printing (line : Int) (a : Nat) (words : List Word) :
    Token.ofLine line (⟨Keyword.printWord.text, a⟩ :: words) =
      Word.token line (.keyword .printWord) ⟨Keyword.printWord.text, a⟩ ::
        Token.ofWords (Token.ofContent line) words := by
  rw [Token.ofLine.eq_def]
  simp

/-- A declaration with a value, and what is left of the line. -/
lemma Token.ofLine_declaration (line : Int) (a b d e : Nat) (name : Word) (words : List Word) :
    Token.ofLine line (⟨Keyword.createWord.text, a⟩ :: ⟨Keyword.variableWord.text, b⟩ :: name ::
      ⟨Keyword.withWord.text, d⟩ :: ⟨Keyword.valueWord.text, e⟩ :: words) =
      Word.token line (.keyword .createWord) ⟨Keyword.createWord.text, a⟩ ::
      Word.token line (.keyword .variableWord) ⟨Keyword.variableWord.text, b⟩ ::
      name.token line .identifier ::
      Word.token line (.keyword .withWord) ⟨Keyword.withWord.text, d⟩ ::
      Word.token line (.keyword .valueWord) ⟨Keyword.valueWord.text, e⟩ ::
        (Token.ofWords (Token.ofValue line) (words.takeWhile Word.isValuePart) ++
          Token.ofLine line (words.dropWhile Word.isValuePart)) := by
  rw [Token.ofLine.eq_def]
  simp [Token.takeName, Token.takeValue]

/-! ### Where the tokens of a line come from -/

/-- A token of a line: a keyword, the name of a declaration, or a part of a value. -/
inductive Token.IsFrom (line : Int) (words : List Word) (t : Token) : Prop where
  | keyword (word : Word) (keyword : Keyword) (mem : word ∈ words)
      (eq : t = word.token line (.keyword keyword))
  | name (word : Word) (mem : word ∈ words) (eq : t = word.token line .identifier)
  | value (run : List Word) (row : List Token) (subset : run ⊆ words)
      (isRow : Token.IsValueRow line (Word.joined run) row) (mem : t ∈ row)

lemma Token.IsFrom.mono {line : Int} {words words' : List Word} {t : Token}
    (h : Token.IsFrom line words t) (hsub : words ⊆ words') : Token.IsFrom line words' t := by
  cases h with
  | keyword word keyword mem eq => exact .keyword word keyword (hsub mem) eq
  | name word mem eq => exact .name word (hsub mem) eq
  | value run row subset isRow mem =>
    exact .value run row (fun w hw => hsub (subset hw)) isRow mem

section

variable {line : Int} {words : List Word}

lemma Token.takeName_subset : (Token.takeName line words).2 ⊆ words := by
  cases words with
  | nil => simp [Token.takeName]
  | cons word rest => exact List.subset_cons_self word rest

lemma Token.takeValue_subset : (Token.takeValue line words).2 ⊆ words := by
  unfold Token.takeValue
  split
  · next first second rest =>
    split
    · intro word hword
      exact List.mem_cons_of_mem _
        (List.mem_cons_of_mem _ ((List.dropWhile_sublist _).subset hword))
    · exact List.Subset.refl _
  · exact List.Subset.refl _

lemma Token.of_mem_takeName {t : Token} (h : t ∈ (Token.takeName line words).1) :
    Token.IsFrom line words t := by
  cases words with
  | nil => simp [Token.takeName] at h
  | cons word rest =>
    obtain rfl := List.mem_singleton.mp h
    exact .name word List.mem_cons_self rfl

lemma Token.of_mem_takeValue {t : Token} (h : t ∈ (Token.takeValue line words).1) :
    Token.IsFrom line words t := by
  unfold Token.takeValue at h
  split at h
  · next first second rest =>
    split at h
    · simp only [List.mem_cons] at h
      rcases h with rfl | rfl | h
      · exact .keyword first .withWord (by simp) rfl
      · exact .keyword second .valueWord (by simp) rfl
      · generalize hrun : rest.takeWhile Word.isValuePart = run at h
        have hsub : run ⊆ first :: second :: rest := fun word hword =>
          List.mem_cons_of_mem _ (List.mem_cons_of_mem _
            ((List.takeWhile_sublist _).subset (hrun ▸ hword)))
        cases run with
        | nil => simp [Token.ofWords] at h
        | cons word run => exact .value _ _ hsub (Token.isValueRow_value line (by simp)) h
    · simp at h
  · simp at h

/-- Every token of a line comes from its words. -/
lemma Token.of_mem_ofLine {t : Token} (h : t ∈ Token.ofLine line words) :
    Token.IsFrom line words t := by
  fun_induction Token.ofLine line words with
  | case1 => simp at h
  | case2 first rest hprint =>
    rcases List.mem_cons.mp h with rfl | h
    · exact .keyword first .printWord (by simp) rfl
    · cases rest with
      | nil => simp [Token.ofWords] at h
      | cons word rest =>
        exact .value _ _ (List.subset_cons_self _ _) (Token.isValueRow_content line (by simp)) h
  | case3 => simp at h
  | case4 first hprint second more hcreate name value ih =>
    have hname := @Token.takeName_subset line more
    have hvalue := @Token.takeValue_subset line name.2
    have hmore : more ⊆ first :: second :: more := fun word hword => by simp [hword]
    simp only [List.mem_cons, List.mem_append] at h
    rcases h with rfl | rfl | (h | h) | h
    · exact .keyword first .createWord (by simp) rfl
    · exact .keyword second .variableWord (by simp) rfl
    · exact (Token.of_mem_takeName h).mono hmore
    · exact (Token.of_mem_takeValue h).mono fun word hword => hmore (hname hword)
    · exact (ih h).mono fun word hword => hmore (hname (hvalue hword))
  | case5 first hprint second more hcreate ih =>
    exact (ih h).mono (List.subset_cons_self _ _)

end

/-! ### Facts about single tokens -/

lemma Token.IsFrom.kind_ne {line : Int} {words : List Word} {t : Token}
    (h : Token.IsFrom line words t) : t.kind ≠ .newline ∧ t.kind ≠ .finish := by
  cases h with
  | keyword word keyword mem eq => simp [eq, Word.token]
  | name word mem eq => simp [eq, Word.token]
  | value run row subset isRow mem =>
    have hkind := isRow.kind_of_mem mem
    constructor <;> intro h <;> simp [h, Kind.isOperator, Kind.isOperand] at hkind

lemma Token.IsFrom.isNumeral {line : Int} {words : List Word} {t : Token}
    (h : Token.IsFrom line words t) (hnumber : t.kind = .number) : t.text.isNumeral = true := by
  cases h with
  | keyword word keyword mem eq => simp [eq, Word.token] at hnumber
  | name word mem eq => simp [eq, Word.token] at hnumber
  | value run row subset isRow mem => exact isRow.isNumeral mem hnumber

/-- A token of a line holds no blank but spaces. -/
lemma Token.IsFrom.not_blank {line : Int} {text : Text} {t : Token}
    (h : Token.IsFrom line text.words t) {c : Char} (hc : c ∈ t.text) :
    c = ' ' ∨ isBlank c = false := by
  cases h with
  | keyword word keyword mem eq =>
    rw [eq] at hc
    exact Or.inr (Text.not_blank_of_mem_wordsFrom mem hc)
  | name word mem eq =>
    rw [eq] at hc
    exact Or.inr (Text.not_blank_of_mem_wordsFrom mem hc)
  | value run row subset isRow mem =>
    rcases Word.mem_joined (isRow.mem_text mem hc) with rfl | ⟨word, hword, hc⟩
    · exact Or.inl rfl
    · exact Or.inr (Text.not_blank_of_mem_wordsFrom (subset hword) hc)

/-! ### Neighbours -/

/-- Two tokens may stand side by side: if one is an operator and the other an operand, the
operand is bare. -/
def Token.MayAdjoin (a b : Token) : Prop :=
  (a.kind.isOperator = true → b.kind.isOperand = true → b.IsBare) ∧
    (b.kind.isOperator = true → a.kind.isOperand = true → a.IsBare)

/-- A token that is neither an operator nor an operand. -/
def Token.IsLoose (t : Token) : Prop := t.kind.isOperator = false ∧ t.kind.isOperand = false

lemma Token.IsLoose.mayAdjoin_left {a b : Token} (h : a.IsLoose) : Token.MayAdjoin a b :=
  ⟨fun hop => absurd hop (by simp [h.1]), fun _ hop => absurd hop (by simp [h.2])⟩

lemma Token.IsLoose.mayAdjoin_right {a b : Token} (h : b.IsLoose) : Token.MayAdjoin a b :=
  ⟨fun _ hop => absurd hop (by simp [h.2]), fun hop => absurd hop (by simp [h.1])⟩

lemma Word.isLoose_keyword (line : Int) (keyword : Keyword) (word : Word) :
    (word.token line (.keyword keyword)).IsLoose := ⟨rfl, rfl⟩

lemma Token.IsValueRow.isChain {line : Int} {text : Text} {row : List Token}
    (h : Token.IsValueRow line text row) : row.IsChain Token.MayAdjoin := by
  cases h with
  | string => exact List.isChain_singleton _
  | number => exact List.isChain_singleton _
  | expression column =>
    -- all operands of an expression are bare, whatever stands beside them
    have hbare {t : Token} (ht : t ∈ Token.ofExpression line column text)
        (hoperand : t.kind.isOperand = true) : t.IsBare := by
      rcases (Token.of_mem_ofExpression ht).1 with hop | hbare
      · simp [Kind.isOperand_eq_false_of_isOperator hop] at hoperand
      · exact hbare
    have hpairwise : (Token.ofExpression line column text).Pairwise Token.MayAdjoin :=
      List.pairwise_of_forall_mem_list fun a ha b hb =>
        ⟨fun _ hoperand => hbare hb hoperand, fun _ hoperand => hbare ha hoperand⟩
    exact hpairwise.isChain

/-- Loose tokens end the rows of a line and begin the next ones. -/
lemma Token.isLoose_head_ofLine (line : Int) (words : List Word) :
    ∀ t ∈ (Token.ofLine line words).head?, t.IsLoose := by
  fun_induction Token.ofLine line words with
  | case1 => simp
  | case2 first rest hprint => simp [Word.isLoose_keyword]
  | case3 => simp
  | case4 first hprint second more hcreate name value ih => simp [Word.isLoose_keyword]
  | case5 first hprint second more hcreate ih => exact ih

lemma Token.isChain_cons_of_isLoose {t : Token} {tokens : List Token} (ht : t.IsLoose)
    (h : tokens.IsChain Token.MayAdjoin) : (t :: tokens).IsChain Token.MayAdjoin :=
  h.cons fun _ _ => ht.mayAdjoin_left

lemma Token.isChain_append_of_isLoose {tokens rest : List Token}
    (h : tokens.IsChain Token.MayAdjoin) (hrest : rest.IsChain Token.MayAdjoin)
    (hloose : ∀ t ∈ rest.head?, t.IsLoose) : (tokens ++ rest).IsChain Token.MayAdjoin :=
  h.append hrest fun _ _ t ht => (hloose t ht).mayAdjoin_right

lemma Token.isChain_takeValue (line : Int) (words : List Word) :
    (Token.takeValue line words).1.IsChain Token.MayAdjoin ∧
      ∀ t ∈ (Token.takeValue line words).1.head?, t.IsLoose := by
  unfold Token.takeValue
  split
  · next first second rest =>
    split
    · refine ⟨?_, by simp [Word.isLoose_keyword]⟩
      apply Token.isChain_cons_of_isLoose (Word.isLoose_keyword _ _ _)
      apply Token.isChain_cons_of_isLoose (Word.isLoose_keyword _ _ _)
      generalize rest.takeWhile Word.isValuePart = run
      cases run with
      | nil => exact List.isChain_nil
      | cons word run => exact (Token.isValueRow_value line (List.cons_ne_nil _ _)).isChain
    · exact ⟨List.isChain_nil, by simp⟩
  · exact ⟨List.isChain_nil, by simp⟩

/-- Beside an operator stands no operand of a line but a bare one. -/
lemma Token.isChain_ofLine (line : Int) (words : List Word) :
    (Token.ofLine line words).IsChain Token.MayAdjoin := by
  fun_induction Token.ofLine line words with
  | case1 => exact List.isChain_nil
  | case2 first rest hprint =>
    apply Token.isChain_cons_of_isLoose (Word.isLoose_keyword _ _ _)
    cases rest with
    | nil => exact List.isChain_nil
    | cons word rest => exact (Token.isValueRow_content line (List.cons_ne_nil _ _)).isChain
  | case3 => exact List.isChain_nil
  | case4 first hprint second more hcreate name value ih =>
    have hname : name.1.IsChain Token.MayAdjoin := by
      cases more with
      | nil => exact List.isChain_nil
      | cons word more => exact List.isChain_singleton _
    obtain ⟨hvalue, hhead⟩ := Token.isChain_takeValue line name.2
    apply Token.isChain_cons_of_isLoose (Word.isLoose_keyword _ _ _)
    apply Token.isChain_cons_of_isLoose (Word.isLoose_keyword _ _ _)
    exact Token.isChain_append_of_isLoose (Token.isChain_append_of_isLoose hname hvalue hhead) ih
      (Token.isLoose_head_ofLine line _)
  | case5 first hprint second more hcreate ih => exact ih

end PlainEnglish
