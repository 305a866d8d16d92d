import Mathlib.Tactic
import PlainEnglish.Proofs.Text.Blank

/-!
# Words

The words of a line are read off from left to right: blanks are passed over, and a run of
characters that are not blank is a word in the column where it begins.
-/

namespace PlainEnglish

/-- The words of the rest of a line that begins in the given column. -/
def Text.wordsFrom (column : Nat) (t : Text) : List Word :=
  (t.zipIdx column).foldr Word.extend []

lemma Text.words_eq_wordsFrom (t : Text) : t.words = t.wordsFrom 1 := rfl

@[simp] lemma Text.wordsFrom_nil (column : Nat) : Text.wordsFrom column [] = [] := rfl

lemma Text.wordsFrom_cons (column : Nat) (c : Char) (t : Text) :
    Text.wordsFrom column (c :: t) = Word.extend (c, column) (t.wordsFrom (column + 1)) := by
  rw [Text.wordsFrom, List.zipIdx_cons, List.foldr_cons, Text.wordsFrom]

lemma Text.wordsFrom_blank_cons {c : Char} (h : isBlank c = true) (column : Nat) (t : Text) :
    Text.wordsFrom column (c :: t) = t.wordsFrom (column + 1) := by
  simp [Text.wordsFrom_cons, Word.extend, h]

/-! ### The first word -/

/-- The words that a character extends, when it is not blank. -/
lemma Word.extend_cases {c : Char} (h : isBlank c = false) (column : Nat) (words : List Word) :
    (∃ word rest, words = word :: rest ∧ word.column = column + 1 ∧
      Word.extend (c, column) words = ⟨c :: word.text, column⟩ :: rest) ∨
    Word.extend (c, column) words = ⟨[c], column⟩ :: words := by
  cases words with
  | nil => simp [Word.extend, h]
  | cons word rest =>
    by_cases hcolumn : word.column = column + 1
    · exact Or.inl ⟨word, rest, rfl, hcolumn, by simp [Word.extend, h, hcolumn]⟩
    · exact Or.inr (by simp [Word.extend, h, hcolumn])

/-- The words of a line are those of its rest, but for a word that its first character begins. -/
lemma Text.mem_wordsFrom_cons {column : Nat} {c : Char} {t : Text} {word : Word}
    (h : word ∈ Text.wordsFrom column (c :: t)) :
    word ∈ t.wordsFrom (column + 1) ∨ ∃ u, word = ⟨c :: u, column⟩ := by
  by_cases hc : isBlank c = true
  · rw [Text.wordsFrom_blank_cons hc] at h
    exact Or.inl h
  · rw [Bool.not_eq_true] at hc
    rw [Text.wordsFrom_cons] at h
    rcases Word.extend_cases hc column (t.wordsFrom (column + 1)) with
      ⟨first, rest, heq, -, hext⟩ | hext
    · rw [hext] at h
      rcases List.mem_cons.mp h with rfl | h
      · exact Or.inr ⟨_, rfl⟩
      · exact Or.inl (heq ▸ List.mem_cons_of_mem _ h)
    · rw [hext] at h
      rcases List.mem_cons.mp h with rfl | h
      · exact Or.inr ⟨_, rfl⟩
      · exact Or.inl h

lemma Text.wordsFrom_column_le {column : Nat} {t : Text} {word : Word}
    (h : word ∈ t.wordsFrom column) : column ≤ word.column := by
  induction t generalizing column with
  | nil => simp at h
  | cons c t ih =>
    rcases Text.mem_wordsFrom_cons h with h | ⟨u, rfl⟩
    · exact Nat.le_of_succ_le (ih h)
    · exact Nat.le_refl _

/-- A row of characters that are not blank is a word, if no such character follows it. -/
lemma Text.wordsFrom_append {w : Text} (hne : w ≠ []) (hw : ∀ c ∈ w, isBlank c = false)
    {rest : Text} (hrest : ∀ c ∈ rest.head?, isBlank c = true) (column : Nat) :
    Text.wordsFrom column (w ++ rest) = ⟨w, column⟩ :: rest.wordsFrom (column + w.length) := by
  induction w generalizing column with
  | nil => exact absurd rfl hne
  | cons c w ih =>
    rw [List.forall_mem_cons] at hw
    cases w with
    | nil =>
      -- the rest begins with a blank, so its first word lies further to the right
      have hfar : ∀ word ∈ rest.wordsFrom (column + 1), word.column ≠ column + 1 := by
        cases rest with
        | nil => simp
        | cons b rest =>
          rw [Text.wordsFrom_blank_cons (hrest b rfl)]
          intro word hword
          have := Text.wordsFrom_column_le hword
          omega
      rw [List.singleton_append, Text.wordsFrom_cons, List.length_singleton]
      rcases Word.extend_cases hw.1 column (rest.wordsFrom (column + 1)) with
        ⟨first, more, heq, hcolumn, -⟩ | hext
      · exact absurd hcolumn (hfar first (heq ▸ List.mem_cons_self))
      · exact hext
    | cons d w =>
      rw [List.cons_append, Text.wordsFrom_cons, ih (by simp) hw.2, Word.extend.eq_def]
      simp [hw.1, Nat.add_right_comm, ← Nat.add_assoc]

/-- A word with a space behind it. -/
lemma Text.wordsFrom_append_space {w : Text} (hne : w ≠ []) (hw : ∀ c ∈ w, isBlank c = false)
    (rest : Text) (column : Nat) : Text.wordsFrom column (w ++ ' ' :: rest) =
      ⟨w, column⟩ :: rest.wordsFrom (column + w.length + 1) := by
  have hspace : isBlank ' ' = true := by decide
  rw [Text.wordsFrom_append hne hw (by simpa using hspace), Text.wordsFrom_blank_cons hspace]

/-! ### The characters of the words -/

lemma Text.wordsFrom_ne_nil {column : Nat} {t : Text} {word : Word}
    (h : word ∈ t.wordsFrom column) : word.text ≠ [] := by
  induction t generalizing column with
  | nil => simp at h
  | cons c t ih =>
    rcases Text.mem_wordsFrom_cons h with h | ⟨u, rfl⟩
    · exact ih h
    · simp

/-- The words hold the characters that are not blank, in order. -/
lemma Text.flatMap_wordsFrom (column : Nat) (t : Text) :
    (t.wordsFrom column).flatMap Word.text = t.filter fun c => !isBlank c := by
  induction t generalizing column with
  | nil => rfl
  | cons c t ih =>
    rw [Text.wordsFrom_cons]
    by_cases hc : isBlank c = true
    · simp [Word.extend, hc, ih]
    · rw [Bool.not_eq_true] at hc
      have ih := ih (column + 1)
      rcases Word.extend_cases hc column (Text.wordsFrom (column + 1) t) with
        ⟨first, rest, heq, -, hext⟩ | hext
      · rw [heq, List.flatMap_cons] at ih
        rw [hext]
        simp [hc, ih]
      · rw [hext]
        simp [hc, ih]

lemma Text.not_blank_of_mem_wordsFrom {column : Nat} {t : Text} {word : Word}
    (h : word ∈ t.wordsFrom column) {c : Char} (hc : c ∈ word.text) : isBlank c = false := by
  have hmem : c ∈ (t.wordsFrom column).flatMap Word.text := List.mem_flatMap.mpr ⟨word, h, hc⟩
  rw [Text.flatMap_wordsFrom, List.mem_filter] at hmem
  simpa using hmem.2

/-- A line has no words exactly if all of it is blank. -/
lemma Text.words_eq_nil_iff {t : Text} : t.words = [] ↔ t.any (fun c => !isBlank c) = false := by
  have hflat := Text.flatMap_wordsFrom 1 t
  rw [List.any_eq_false, ← List.filter_eq_nil_iff, ← hflat, List.flatMap_eq_nil_iff,
    Text.words_eq_wordsFrom]
  constructor
  · intro h word hword
    simp [h] at hword
  · intro h
    by_contra hne
    obtain ⟨word, rest, heq⟩ := List.exists_cons_of_ne_nil hne
    have hmem : word ∈ t.wordsFrom 1 := heq ▸ List.mem_cons_self
    exact Text.wordsFrom_ne_nil hmem (h word hmem)

/-! ### Columns -/

lemma Text.wordsFrom_add (column k : Nat) (t : Text) : t.wordsFrom (column + k) =
    (t.wordsFrom column).map fun word => ⟨word.text, word.column + k⟩ := by
  induction t generalizing column with
  | nil => rfl
  | cons c t ih =>
    rw [Text.wordsFrom_cons, Text.wordsFrom_cons, Nat.add_right_comm, ih]
    generalize Text.wordsFrom (column + 1) t = words
    by_cases hc : isBlank c = true
    · simp [Word.extend, hc]
    · cases words with
      | nil => simp [Word.extend, hc]
      | cons word rest =>
        have hcolumn : word.column + k = column + k + 1 ↔ word.column = column + 1 := by omega
        by_cases h : word.column = column + 1
        · simp [Word.extend, hc, h, Nat.add_right_comm]
        · simp [Word.extend, hc, hcolumn, h]

/-- The texts of the words do not depend on where the line begins. -/
lemma Text.map_text_wordsFrom (column : Nat) (t : Text) :
    (t.wordsFrom column).map Word.text = t.words.map Word.text := by
  have hzero (k : Nat) : (t.wordsFrom k).map Word.text = (t.wordsFrom 0).map Word.text := by
    rw [← Nat.zero_add k, Text.wordsFrom_add, List.map_map]
    rfl
  rw [Text.words_eq_wordsFrom, hzero column, hzero 1]

end PlainEnglish
