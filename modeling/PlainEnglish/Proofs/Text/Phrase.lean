import PlainEnglish.Token.Basic
import PlainEnglish.Proofs.Text.Split
import PlainEnglish.Proofs.Text.Words

/-!
# Phrases

A phrase is words with single spaces between them. Its words are its pieces between spaces, and a
trimmed part of a phrase is a phrase.

Main statements: `Text.IsPhrase.map_text_wordsFrom`, `Text.IsPhrase.trim_part`.
-/

namespace PlainEnglish

/-! ### Words and phrases -/

/-- Some characters, none of which is blank. -/
structure Text.IsWord (t : Text) : Prop where
  ne_nil : t ≠ []
  not_blank : ∀ c ∈ t, isBlank c = false

lemma Text.isWord_of_mem_wordsFrom {column : Nat} {t : Text} {word : Word}
    (h : word ∈ t.wordsFrom column) : word.text.IsWord :=
  ⟨Text.wordsFrom_ne_nil h, fun _ => Text.not_blank_of_mem_wordsFrom h⟩

def Text.IsPhrase (t : Text) : Prop := ∀ piece ∈ t.splitAt ' ', piece.IsWord

section

variable {s t : Text}

lemma Text.IsWord.space_not_mem (h : t.IsWord) : ' ' ∉ t := by
  intro hmem
  have hspace := h.not_blank _ hmem
  exact absurd hspace (by decide)

lemma Text.IsWord.isPhrase (h : t.IsWord) : t.IsPhrase := by
  intro piece hpiece
  rw [Text.splitAt_of_not_mem h.space_not_mem] at hpiece
  rwa [List.mem_singleton.mp hpiece]

lemma Text.IsPhrase.append_space (hs : s.IsPhrase) (ht : t.IsPhrase) :
    Text.IsPhrase (s ++ ' ' :: t) := by
  intro piece hpiece
  rw [Text.splitAt_append_cons, List.mem_append] at hpiece
  rcases hpiece with h | h
  · exact hs piece h
  · exact ht piece h

lemma Text.isPhrase_join_cons {next : Text} {rest : List Text} (hs : s.IsPhrase)
    (h : (Text.join [' '] (next :: rest)).IsPhrase) :
    (Text.join [' '] (s :: next :: rest)).IsPhrase := by
  rw [Text.join_cons, List.append_assoc, List.singleton_append]
  exact hs.append_space h

/-- Words joined by spaces are a phrase with these words. -/
lemma Text.splitAt_join_words {words : List Text} (hne : words ≠ [])
    (h : ∀ word ∈ words, word.IsWord) : Text.splitAt ' ' (Text.join [' '] words) = words :=
  Text.splitAt_join hne fun word hword => (h word hword).space_not_mem

lemma Text.isPhrase_join {words : List Text} (hne : words ≠ [])
    (h : ∀ word ∈ words, word.IsWord) :
    Text.IsPhrase (Text.join [' '] words) := by
  intro piece hpiece
  rw [Text.splitAt_join_words hne h] at hpiece
  exact h piece hpiece

lemma Text.IsPhrase.ne_nil (h : t.IsPhrase) : t ≠ [] := by
  rintro rfl
  exact (h [] (by simp)).ne_nil rfl

/-- The only blanks of a phrase are spaces. -/
lemma Text.IsPhrase.eq_space_or (h : t.IsPhrase) {c : Char} (hc : c ∈ t) :
    c = ' ' ∨ isBlank c = false := by
  rw [← Text.join_splitAt ' ' t] at hc
  rcases Text.mem_join hc with hc | ⟨piece, hpiece, hc⟩
  · exact Or.inl (List.mem_singleton.mp hc)
  · exact Or.inr ((h piece hpiece).not_blank c hc)

lemma Text.IsPhrase.isLineBreak_eq_false (h : t.IsPhrase) {c : Char} (hc : c ∈ t) :
    isLineBreak c = false := by
  by_contra hbreak
  rw [Bool.not_eq_false] at hbreak
  rcases h.eq_space_or hc with rfl | hblank
  · exact absurd hbreak (by decide)
  · simp [isBlank_of_isLineBreak hbreak] at hblank

/-! ### The words of a phrase -/

lemma Text.wordsFrom_join_cons (h : s.IsWord) (next : Text) (rest : List Text) (column : Nat) :
    (Text.join [' '] (s :: next :: rest)).wordsFrom column =
      ⟨s, column⟩ :: (Text.join [' '] (next :: rest)).wordsFrom (column + s.length + 1) := by
  rw [Text.join_cons, List.append_assoc, List.singleton_append,
    Text.wordsFrom_append_space h.ne_nil h.not_blank]

lemma Text.map_text_wordsFrom_join {words : List Text} (hne : words ≠ [])
    (h : ∀ word ∈ words, word.IsWord) (column : Nat) :
    ((Text.join [' '] words).wordsFrom column).map Word.text = words := by
  induction words generalizing column with
  | nil => exact absurd rfl hne
  | cons word words ih =>
    rw [List.forall_mem_cons] at h
    cases words with
    | nil =>
      rw [Text.join_singleton, ← List.append_nil word,
        Text.wordsFrom_append h.1.ne_nil h.1.not_blank (by simp)]
      simp
    | cons next words =>
      rw [Text.wordsFrom_join_cons h.1, List.map_cons, ih (List.cons_ne_nil _ _) h.2]

/-- The words of a phrase are its pieces between spaces. -/
theorem Text.IsPhrase.map_text_wordsFrom (h : t.IsPhrase) (column : Nat) :
    (t.wordsFrom column).map Word.text = t.splitAt ' ' := by
  obtain ⟨first, rest, heq, -⟩ := Text.splitAt_eq_cons ' ' t
  have hwords := Text.map_text_wordsFrom_join (by simp [heq]) h column
  rwa [Text.join_splitAt] at hwords

lemma Text.IsPhrase.join_wordsFrom (h : t.IsPhrase) (column : Nat) :
    Text.join [' '] ((t.wordsFrom column).map Word.text) = t := by
  rw [h.map_text_wordsFrom, Text.join_splitAt]

/-! ### Parts of a phrase -/

lemma Text.IsPhrase.not_two_spaces (h : t.IsPhrase) : ¬[' ', ' '] <:+: t := by
  rintro ⟨before, after, rfl⟩
  rw [List.append_assoc, List.cons_append, List.cons_append, List.nil_append] at h
  have hempty : [] ∈ Text.splitAt ' ' (before ++ ' ' :: ' ' :: after) := by
    rw [Text.splitAt_append_cons, Text.splitAt_cons, if_pos rfl]
    simp
  exact (h [] hempty).ne_nil rfl

lemma Text.isTrimmed_join {words : List Text} (hne : words ≠ [])
    (h : ∀ word ∈ words, word.IsWord) : Text.IsTrimmed (Text.join [' '] words) := by
  induction words with
  | nil => exact absurd rfl hne
  | cons word words ih =>
    rw [List.forall_mem_cons] at h
    have hword := Text.isTrimmed_of_not_blank h.1.not_blank
    cases words with
    | nil => rwa [Text.join_singleton]
    | cons next words =>
      have hrest := ih (List.cons_ne_nil _ _) h.2
      have hne := (Text.isPhrase_join (List.cons_ne_nil next words) h.2).ne_nil
      rw [Text.join_cons]
      exact Text.isTrimmed_append hword h.1.ne_nil hrest hne [' ']

lemma Text.IsPhrase.isTrimmed (h : t.IsPhrase) : t.IsTrimmed := by
  obtain ⟨first, rest, heq, -⟩ := Text.splitAt_eq_cons ' ' t
  have htrimmed := Text.isTrimmed_join (by simp [heq]) h
  rwa [Text.join_splitAt] at htrimmed

/-- What is left of a part of a phrase without the blanks at its ends is a phrase. -/
theorem Text.IsPhrase.trim_part (h : t.IsPhrase) (hs : s <:+: t) (hne : s.trim ≠ []) :
    s.trim.IsPhrase := by
  have hpart := s.isInfix_trim.trans hs
  obtain ⟨hhead, hlast⟩ := s.isTrimmed_trim
  generalize s.trim = u at hne hpart hhead hlast
  obtain ⟨first, rest, heq, hfirst, ⟨after, hu, hafter⟩, hrest⟩ := Text.splitAt_eq_cons ' ' u
  have hblank {c : Char} (hc : c ∈ u) (hspace : c ≠ ' ') : isBlank c = false :=
    (h.eq_space_or (hpart.subset hc)).resolve_left hspace
  rw [Text.IsPhrase, heq, List.forall_mem_cons]
  constructor
  · refine ⟨?_, fun c hc => hblank (by simp [hu, hc]) (by rintro rfl; exact hfirst hc)⟩
    -- an empty first piece would leave a space at the beginning
    rintro rfl
    rw [List.nil_append] at hu
    subst hu
    obtain ⟨c, after, rfl⟩ := List.exists_cons_of_ne_nil hne
    have hspace : isBlank c = false := hhead c rfl
    rw [hafter c rfl] at hspace
    exact absurd hspace (by decide)
  · intro piece hpiece
    obtain ⟨hnone, before, after, hu, hafter⟩ := hrest piece hpiece
    refine ⟨?_, fun c hc => hblank (by simp [hu, hc]) (by rintro rfl; exact hnone hc)⟩
    -- an empty piece would leave a space at the end, or two spaces side by side
    rintro rfl
    rw [List.nil_append] at hu
    cases after with
    | nil =>
      have hspace : isBlank ' ' = false := hlast ' ' (by simp [hu])
      exact absurd hspace (by decide)
    | cons c after =>
      obtain rfl := hafter c rfl
      have htwo : [' ', ' '] <:+: u := ⟨before, after, by simp [hu]⟩
      exact h.not_two_spaces (htwo.trans hpart)

/-! ### Phrases without printing statements -/

/-- A phrase in which no word begins like a statement that prints. -/
def Text.IsValuePhrase (t : Text) : Prop :=
  t.IsPhrase ∧ ∀ piece ∈ t.splitAt ' ', ¬Keyword.printWord.text <+: piece

lemma Text.IsValuePhrase.append_space (hs : s.IsValuePhrase) (ht : t.IsValuePhrase) :
    Text.IsValuePhrase (s ++ ' ' :: t) := by
  refine ⟨hs.1.append_space ht.1, fun piece hpiece => ?_⟩
  rw [Text.splitAt_append_cons, List.mem_append] at hpiece
  rcases hpiece with h | h
  · exact hs.2 piece h
  · exact ht.2 piece h

lemma Text.IsWord.isValuePhrase (h : t.IsWord) (hprint : ¬Keyword.printWord.text <+: t) :
    t.IsValuePhrase := by
  refine ⟨h.isPhrase, ?_⟩
  rw [Text.splitAt_of_not_mem h.space_not_mem, List.forall_mem_singleton]
  exact hprint

/-- What is left of a part of such a phrase is another one, if its first word does not begin in
the midst of a word like a statement that prints. -/
lemma Text.IsValuePhrase.trim_part (h : t.IsValuePhrase) (hs : s <:+: t) (hne : s.trim ≠ [])
    (hprint : ¬Keyword.printWord.text <+: s.trim) : s.trim.IsValuePhrase := by
  have hspace : ' ' ∉ Keyword.printWord.text := by decide
  refine ⟨h.1.trim_part hs hne,
    (Text.forall_not_prefix_iff hspace).mpr ⟨hprint, fun hinside => ?_⟩⟩
  exact ((Text.forall_not_prefix_iff hspace).mp h.2).2 (hinside.trans (s.isInfix_trim.trans hs))

end

end PlainEnglish
