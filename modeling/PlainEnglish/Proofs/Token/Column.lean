import PlainEnglish.Proofs.Text.Columns
import PlainEnglish.Proofs.Token.Scan
import PlainEnglish.Proofs.Token.Segment
import PlainEnglish.Proofs.Token.Splitting

/-!
# Columns of tokens

The letters of a segment's tokens are those of its words, so the letters in front of a token lead
to the word in which it begins. The column of the token is that of the first word of its segment,
which is the word in which it begins only if that many letters stand in the first word.

Main statement: `Token.scan_columns`.
-/

namespace PlainEnglish

/-! ### Letters of words -/

/-- The word of a row in which a letter stands, the letters counted from zero. -/
def Word.holding? : List Word → Nat → Option Word
  | [], _ => none
  | word :: words, n =>
    if n < word.text.length then some word else Word.holding? words (n - word.text.length)

/-- It is the word with the letter among its own, behind the letters of the words in front of
it. -/
theorem Word.holding?_eq_some_iff {words : List Word} {n : Nat} {word : Word} :
    Word.holding? words n = some word ↔ ∃ before after, words = before ++ word :: after ∧
      (before.flatMap Word.text).length ≤ n ∧
      n < (before.flatMap Word.text).length + word.text.length := by
  induction words generalizing n with
  | nil => simp [Word.holding?]
  | cons first words ih =>
    rw [Word.holding?]
    constructor
    · intro h
      split at h
      · next hn =>
        obtain rfl := Option.some.inj h
        exact ⟨[], words, rfl, Nat.zero_le n, by simpa using hn⟩
      · next hn =>
        obtain ⟨before, after, rfl, hle, hlt⟩ := ih.mp h
        refine ⟨first :: before, after, rfl, ?_, ?_⟩
        all_goals
          rw [List.flatMap_cons, List.length_append]
          omega
    · rintro ⟨before, after, heq, hle, hlt⟩
      cases before with
      | nil =>
        obtain ⟨rfl, rfl⟩ := List.cons.inj heq
        rw [if_pos (by simpa using hlt)]
      | cons _ before =>
        obtain ⟨rfl, rfl⟩ := List.cons.inj heq
        rw [List.flatMap_cons, List.length_append] at hle hlt
        rw [if_neg (by omega), ih]
        exact ⟨before, after, rfl, by omega, by omega⟩

lemma Word.exists_holding? {words : List Word} {n : Nat}
    (h : n < (words.flatMap Word.text).length) :
    ∃ word ∈ words, Word.holding? words n = some word := by
  induction words generalizing n with
  | nil => simp at h
  | cons first words ih =>
    rw [Word.holding?]
    split
    · exact ⟨first, List.mem_cons_self, rfl⟩
    · next hn =>
      rw [List.flatMap_cons, List.length_append] at h
      obtain ⟨word, hword, heq⟩ := ih (n := n - first.text.length) (by omega)
      exact ⟨word, List.mem_cons_of_mem first hword, heq⟩

/-! ### Beginnings of tokens -/

/-- The character with which a token begins in its line. A string begins with its opening
quote. -/
def Token.opening? (t : Token) : Option Char :=
  if t.kind = .string then some '"' else t.text.head?

/-- How many letters stand in front of a token in its segment. -/
def Segment.offset (s : Segment) (line : Int) (i : Nat) : Nat :=
  (Token.letters ((s.tokens line).take i)).length

/-- The word of a segment in which a token begins. -/
def Segment.home? (s : Segment) (line : Int) (i : Nat) : Option Word :=
  Word.holding? s.words (s.offset line i)

section

variable {row : List Token} {i : Nat} {t : Token}

/-- Behind the letters of the tokens in front of it a token begins. -/
lemma Token.getElem?_letters (ht : row[i]? = some t) (htrimmed : t.text.IsTrimmed)
    (hne : t.text ≠ []) :
    (Token.letters row)[(Token.letters (row.take i)).length]? = t.text.head? := by
  have hletters : (Token.letters [t]).head? = t.text.head? := by
    rw [Token.letters, List.flatMap_singleton]
    exact htrimmed.head?_filter
  obtain ⟨hi, rfl⟩ := List.getElem?_eq_some_iff.mp ht
  have hne' : Token.letters [row[i]] ≠ [] := by
    intro hnil
    rw [hnil] at hletters
    exact hne (List.head?_eq_none_iff.mp hletters.symm)
  have hsplit : Token.letters row = Token.letters (row.take i) ++
      (Token.letters [row[i]] ++ Token.letters (row.drop (i + 1))) := by
    rw [← Token.letters_append, ← Token.letters_append, List.singleton_append,
      ← List.drop_eq_getElem_cons hi, List.take_append_drop]
  rw [hsplit, List.getElem?_append_right (Nat.le_refl _), Nat.sub_self, ← List.head?_eq_getElem?,
    List.head?_append_of_ne_nil _ hne', hletters]

lemma Token.opening?_of_ne_string (h : t.kind ≠ .string) : t.opening? = t.text.head? := if_neg h

variable {line : Int} {words : List Word}

/-- A token of a value or of printed content begins with the letter of its words to which the
letters of the tokens in front of it lead. -/
lemma Token.IsValueRow.getElem?_letters (hwords : ∀ word ∈ words, word.text.IsWord)
    (hne : words ≠ []) (h : Token.IsValueRow line (Word.joined words) row)
    (ht : row[i]? = some t) :
    t.opening?.isSome = true ∧
      (words.flatMap Word.text)[(Token.letters (row.take i)).length]? = t.opening? := by
  have hjoined := Word.filter_joined fun word hword => (hwords word hword).not_blank
  have hphrase : Text.IsPhrase (Word.joined words) := by
    apply Text.isPhrase_join (by simpa using hne)
    simpa using hwords
  -- whatever is not a string stands in the line as it is
  have hplain (hletters : Token.letters row = words.flatMap Word.text) (hkind : t.kind ≠ .string)
      (htext : t.text ≠ []) (htrimmed : t.text.IsTrimmed) : t.opening?.isSome = true ∧
        (words.flatMap Word.text)[(Token.letters (row.take i)).length]? = t.opening? := by
    rw [Token.opening?_of_ne_string hkind, ← hletters, Token.getElem?_letters ht htrimmed htext]
    exact ⟨by simpa using htext, rfl⟩
  cases h with
  | string column quoted =>
    obtain ⟨rfl, rfl⟩ : i = 0 ∧ _ = t := by
      cases i with
      | zero => exact ⟨rfl, by simpa using ht⟩
      | succ i => simp at ht
    have hquote : (Word.joined words).head? = some '"' := by
      rw [← Text.inScript_inner quoted]
      rfl
    refine ⟨rfl, ?_⟩
    rw [← hjoined, List.take_zero, Token.letters, List.flatMap_nil, List.filter_nil,
      List.length_nil, ← List.head?_eq_getElem?, hphrase.isTrimmed.head?_filter, hquote]
    rfl
  | number column numeral =>
    obtain rfl : _ = t := List.mem_singleton.mp (List.mem_of_getElem? ht) |>.symm
    apply hplain
    · rw [Token.letters, List.flatMap_singleton, hjoined]
    · exact Kind.noConfusion
    · exact hphrase.ne_nil
    · exact hphrase.isTrimmed
  | expression column =>
    have hmem := List.mem_of_getElem? ht
    have hletters : Token.letters (Token.ofExpression line column (Word.joined words)) =
        words.flatMap Word.text := by
      rw [Token.letters_ofExpression, hjoined]
    rcases Token.cases_of_mem_ofExpression hmem with
      ⟨op, hkind, htext⟩ | ⟨hkind, hne, htrimmed, -⟩
    · apply hplain hletters
      · rw [hkind]
        exact Kind.noConfusion
      · simp [htext]
      · rw [htext]
        exact Text.isTrimmed_symbol op
    · apply hplain hletters
      · rw [hkind]
        split <;> exact Kind.noConfusion
      · exact hne
      · exact htrimmed

end

/-! ### Places -/

section

variable {line column : Int} {text : Text} {t : Token}

lemma Token.place_of_mem_ofExpression (h : t ∈ Token.ofExpression line column text) :
    t.line = line ∧ t.column = column := by
  obtain ⟨fragment, -, rfl⟩ := List.mem_map.mp h
  exact ⟨rfl, rfl⟩

lemma Token.place_of_mem_ofContent (h : t ∈ Token.ofContent line column text) :
    t.line = line ∧ t.column = column := by
  rw [Token.ofContent] at h
  split at h
  · rw [List.mem_singleton.mp h]
    exact ⟨rfl, rfl⟩
  · exact Token.place_of_mem_ofExpression h

lemma Token.place_of_mem_ofValue (h : t ∈ Token.ofValue line column text) :
    t.line = line ∧ t.column = column := by
  rw [Token.ofValue] at h
  split at h
  · rw [List.mem_singleton.mp h]
    exact ⟨rfl, rfl⟩
  · split at h
    · rw [List.mem_singleton.mp h]
      exact ⟨rfl, rfl⟩
    · exact Token.place_of_mem_ofExpression h

lemma Token.place_of_mem_ofWords {scan : Int → Text → List Token} {words : List Word}
    (hscan : ∀ column text, ∀ t ∈ scan column text, t.line = line ∧ t.column = column)
    (h : t ∈ Token.ofWords scan words) :
    t.line = line ∧ ∃ first, words.head? = some first ∧ t.column = first.column := by
  cases words with
  | nil => exact absurd h List.not_mem_nil
  | cons first words =>
    obtain ⟨hline, hcolumn⟩ := hscan _ _ t h
    exact ⟨hline, first, rfl, hcolumn⟩

lemma Token.IsValueRow.isHidden {row : List Token} (h : Token.IsValueRow line text row)
    (ht : t ∈ row) : t.kind.isHidden = false := by
  have hkind := h.kind_of_mem ht
  cases hcase : t.kind <;> simp_all [Kind.isHidden, Kind.isOperator, Kind.isOperand]

end

/-! ### Segments -/

namespace Segment

variable {s : Segment} {line : Int} {i : Nat} {t : Token}

/-- The tokens of a segment have its line, and they all have the column of its first word. -/
lemma place_of_mem_tokens (h : t ∈ s.tokens line) :
    t.line = line ∧ ∃ first, s.words.head? = some first ∧ t.column = first.column := by
  cases s with
  | keyword k word =>
    rw [List.mem_singleton.mp h]
    exact ⟨rfl, word, rfl, rfl⟩
  | name word =>
    rw [List.mem_singleton.mp h]
    exact ⟨rfl, word, rfl, rfl⟩
  | value words =>
    have hscan (column : Int) (text : Text) (t : Token)
        (ht : t ∈ Token.ofValue line column text) :
        t.line = line ∧ t.column = column := Token.place_of_mem_ofValue ht
    exact Token.place_of_mem_ofWords hscan h
  | content words =>
    have hscan (column : Int) (text : Text) (t : Token)
        (ht : t ∈ Token.ofContent line column text) :
        t.line = line ∧ t.column = column := Token.place_of_mem_ofContent ht
    exact Token.place_of_mem_ofWords hscan h

/-- A segment with tokens is a single word, or its tokens are those of a value or of printed
content. -/
lemma eq_singleton_or_isValueRow (h : s.tokens line ≠ []) :
    (∃ word kind, s.words = [word] ∧ s.tokens line = [word.token line kind] ∧
      kind.isHidden = false ∧ kind ≠ .string) ∨
      (s.words ≠ [] ∧ Token.IsValueRow line (Word.joined s.words) (s.tokens line)) := by
  have hwords (scan : Int → Text → List Token) {words : List Word}
      (h : Token.ofWords scan words ≠ []) : words ≠ [] := by
    rintro rfl
    exact h rfl
  cases s with
  | keyword k word => exact Or.inl ⟨word, .keyword k, rfl, rfl, rfl, Kind.noConfusion⟩
  | name word => exact Or.inl ⟨word, .identifier, rfl, rfl, rfl, Kind.noConfusion⟩
  | value words => exact Or.inr ⟨hwords _ h, Token.isValueRow_value line (hwords _ h)⟩
  | content words => exact Or.inr ⟨hwords _ h, Token.isValueRow_content line (hwords _ h)⟩

lemma isHidden_of_mem_tokens (h : t ∈ s.tokens line) : t.kind.isHidden = false := by
  rcases s.eq_singleton_or_isValueRow (List.ne_nil_of_mem h) with
    ⟨word, kind, -, htokens, hhidden, -⟩ | ⟨-, hrow⟩
  · rw [htokens, List.mem_singleton] at h
    rwa [h]
  · exact hrow.isHidden h

/-- A token of a segment begins with the letter to which those in front of it lead. -/
lemma getElem?_offset (hwords : ∀ word ∈ s.words, word.text.IsWord)
    (ht : (s.tokens line)[i]? = some t) : t.opening?.isSome = true ∧
      (s.words.flatMap Word.text)[s.offset line i]? = t.opening? := by
  have hmem := List.mem_of_getElem? ht
  rcases s.eq_singleton_or_isValueRow (List.ne_nil_of_mem hmem) with
    ⟨word, kind, hsingle, htokens, -, hkind⟩ | ⟨hne, hrow⟩
  · have hword : word.text.IsWord := hwords word (by simp [hsingle])
    have hletters : Token.letters (s.tokens line) = s.words.flatMap Word.text := by
      have hfilter : word.text.filter (fun c => !isBlank c) = word.text := by
        rw [List.filter_eq_self]
        intro c hc
        rw [hword.not_blank c hc, Bool.not_false]
      rw [htokens, hsingle, Token.letters, List.flatMap_singleton, List.flatMap_singleton]
      exact hfilter
    obtain rfl : t = word.token line kind := by
      rwa [htokens, List.mem_singleton] at hmem
    rw [Token.opening?_of_ne_string hkind, ← hletters, Segment.offset, Token.getElem?_letters ht
      (Text.isTrimmed_of_not_blank hword.not_blank) hword.ne_nil]
    exact ⟨List.isSome_head?.mpr hword.ne_nil, rfl⟩
  · exact hrow.getElem?_letters hwords hne ht

/-- A token has the column of the word in which it begins if that is the first word of its
segment. -/
lemma column_eq_iff {first : Word} {rest : List Word} {n : Nat} {own : Word}
    (hcolumns : (first :: rest).Pairwise fun a b => a.column + a.text.length < b.column)
    (hown : Word.holding? (first :: rest) n = some own) :
    first.column = own.column ↔ n < first.text.length := by
  rw [Word.holding?] at hown
  split at hown
  · next hn =>
    obtain rfl := Option.some.inj hown
    exact iff_of_true rfl hn
  · next hn =>
    obtain ⟨before, after, rfl, -, -⟩ := Word.holding?_eq_some_iff.mp hown
    have hmem : own ∈ before ++ own :: after := by simp
    have hlt := List.rel_of_pairwise_cons hcolumns hmem
    exact iff_of_false (by omega) hn

end Segment

/-! ### Sources -/

/-- A source has the tokens of the segments of its lines. -/
lemma Token.filter_scan (source : Text) :
    (Token.scan source).filter (fun t => !t.kind.isHidden) =
      (source.lines.zipIdx 1).flatMap fun (text, line) =>
        (Segment.ofLine text.words).flatMap (Segment.tokens line) := by
  have hline (text : Text) (line : Int) :
      (Token.ofPhysicalLine text line).filter (fun t => !t.kind.isHidden) =
        (Segment.ofLine text.words).flatMap (Segment.tokens line) := by
    have hshown : (Token.ofLine line text.words).filter (fun t => !t.kind.isHidden) =
        Token.ofLine line text.words := by
      rw [List.filter_eq_self, Token.ofLine_eq_flatMap]
      intro t ht
      obtain ⟨s, -, ht⟩ := List.mem_flatMap.mp ht
      rw [Segment.isHidden_of_mem_tokens ht, Bool.not_false]
    rw [← Token.ofLine_eq_flatMap]
    by_cases hwords : text.words = []
    · simp [Token.ofPhysicalLine, hwords, Token.ofLine]
    · rw [Token.ofPhysicalLine_of_words hwords, List.filter_append, hshown]
      exact List.append_nil _
  rw [Token.scan_eq, List.filter_append, Token.ofLines, List.filter_flatMap]
  simp only [hline]
  exact List.append_nil _

/-- Every source has the tokens of the segments of its lines. Each of them begins in a word of
its segment, but it has the column of the first word of the segment, so its column is that of the
word in which it begins only if no more letters of its segment stand in front of it than the
first word has. -/
theorem Token.scan_columns (source : Text) :
    (Token.scan source).filter (fun t => !t.kind.isHidden) =
      ((source.lines.zipIdx 1).flatMap fun (text, line) =>
        (Segment.ofLine text.words).flatMap (Segment.tokens line)) ∧
    ∀ (text : Text) (line : Nat), (text, line) ∈ source.lines.zipIdx 1 →
      ∀ s ∈ Segment.ofLine text.words, ∀ (i : Nat) (t : Token), (s.tokens line)[i]? = some t →
      ∃ first own : Word,
        s.words.head? = some first ∧ first.StandsIn text ∧
        s.home? line i = some own ∧ own.StandsIn text ∧
        t.opening?.isSome = true ∧ (s.words.flatMap Word.text)[s.offset line i]? = t.opening? ∧
        t.line = line ∧ t.column = first.column ∧
        (t.column = own.column ↔ s.offset line i < first.text.length) := by
  refine ⟨Token.filter_scan source, ?_⟩
  intro text line _ s hs i t ht
  have hsub : s.words.Sublist text.words := Segment.words_sublist_of_mem hs
  have hstands {word : Word} (h : word ∈ s.words) : word.StandsIn text :=
    Text.standsIn_of_mem_words (hsub.subset h)
  obtain ⟨hsome, hletter⟩ := Segment.getElem?_offset (fun word hword => (hstands hword).1) ht
  obtain ⟨hline, first, hfirst, hcolumn⟩ := Segment.place_of_mem_tokens (List.mem_of_getElem? ht)
  have hoffset : s.offset line i < (s.words.flatMap Word.text).length := by
    by_contra hge
    rw [List.getElem?_eq_none (Nat.le_of_not_lt hge)] at hletter
    rw [← hletter] at hsome
    exact Bool.noConfusion hsome
  obtain ⟨own, hmem, hown⟩ := Word.exists_holding? hoffset
  obtain ⟨rest, hwords⟩ := List.head?_eq_some_iff.mp hfirst
  refine ⟨first, own, hfirst, hstands (List.mem_of_mem_head? hfirst), hown, hstands hmem, hsome,
    hletter, hline, hcolumn, ?_⟩
  rw [hcolumn, Nat.cast_inj]
  rw [hwords] at hown
  apply Segment.column_eq_iff _ hown
  exact hwords ▸ (Text.pairwise_words text).sublist hsub

/-- A line with a word for each token. -/
def spacedSource : Text := "print a + b"

/-- The words that it prints. -/
def spacedWords : List Word := [⟨"a", 7⟩, ⟨"+", 9⟩, ⟨"b", 11⟩]

lemma Segment.ofLine_spacedSource : Segment.ofLine spacedSource.words =
    [.keyword .printWord ⟨"print", 1⟩, .content spacedWords] := by
  have hwords : spacedSource.words = ⟨"print", 1⟩ :: spacedWords := by decide
  rw [hwords, Segment.ofLine.eq_def]
  rfl

lemma Segment.content_mem_spacedSource :
    Segment.content spacedWords ∈ Segment.ofLine spacedSource.words := by
  rw [Segment.ofLine_spacedSource]
  decide

lemma Segment.tokens_spacedWords : ((Segment.content spacedWords).tokens (1 : Nat))[1]? =
    some ⟨.operator .plus, "+", 1, 7⟩ := by decide

lemma Segment.home?_spacedWords :
    (Segment.content spacedWords).home? (1 : Nat) 1 = some ⟨"+", 9⟩ := by decide

theorem Token.scan_columns_spacedSource :
    Word.StandsIn ⟨"a", 7⟩ spacedSource ∧ Word.StandsIn ⟨"+", 9⟩ spacedSource ∧
      ¬(Segment.content spacedWords).offset (1 : Nat) 1 < 1 := by
  obtain ⟨first, own, hfirst, hstands, hown, hstands', -, -, -, -, hiff⟩ :=
    (Token.scan_columns spacedSource).2 spacedSource 1 (by decide) _
      Segment.content_mem_spacedSource 1 _ Segment.tokens_spacedWords
  obtain rfl := Option.some.inj hfirst
  obtain rfl := Option.some.inj (Segment.home?_spacedWords.symm.trans hown)
  exact ⟨hstands, hstands', mt hiff.mpr (by decide)⟩

/-- The operator of the line does not have the column of its word. -/
theorem Token.column_ne_home : ¬∀ (source text : Text) (line : Nat),
    (text, line) ∈ source.lines.zipIdx 1 → ∀ s ∈ Segment.ofLine text.words,
      ∀ (i : Nat) (t : Token), (s.tokens line)[i]? = some t →
        ∃ own, s.home? line i = some own ∧ t.column = own.column := by
  intro h
  obtain ⟨own, hown, hcolumn⟩ := h spacedSource spacedSource 1 (by decide) _
    Segment.content_mem_spacedSource 1 _ Segment.tokens_spacedWords
  obtain rfl := Option.some.inj (Segment.home?_spacedWords.symm.trans hown)
  exact absurd hcolumn (by decide)

end PlainEnglish
