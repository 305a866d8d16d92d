import PlainEnglish.Proofs.Text.Phrase

/-!
# Where words stand

A word stands in the column of its first character, between blanks or the ends of the line. Words
stand apart from each other, so the column tells the word.

Main statements: `Text.standsIn_of_mem_words`, `Text.pairwise_words`.
-/

namespace PlainEnglish

/-- A line is empty, it begins with a blank, or it begins with a word that a blank or nothing
follows. -/
@[elab_as_elim]
theorem Text.wordInduction {motive : Text → Prop} (nil : motive [])
    (blank : ∀ c t, isBlank c = true → motive t → motive (c :: t))
    (word : ∀ w rest : Text, w.IsWord → (∀ c ∈ rest.head?, isBlank c = true) → motive rest →
      motive (w ++ rest)) (t : Text) : motive t := by
  induction hn : t.length using Nat.strong_induction_on generalizing t with
  | _ n ih =>
    subst hn
    cases t with
    | nil => exact nil
    | cons c t =>
      by_cases hc : isBlank c = true
      · exact blank c t hc (ih t.length (by simp) t rfl)
      · have hsplit := List.takeWhile_append_dropWhile (p := fun d => !isBlank d) (l := c :: t)
        have hword : Text.IsWord ((c :: t).takeWhile fun d => !isBlank d) := by
          constructor
          · simp [hc]
          · intro d hd
            simpa using List.mem_takeWhile_imp hd
        have hrest : ∀ d ∈ ((c :: t).dropWhile fun d => !isBlank d).head?, isBlank d = true := by
          intro d hd
          simpa using head?_dropWhile (fun d => !isBlank d) (c :: t) d hd
        have hshort : ((c :: t).dropWhile fun d => !isBlank d).length < (c :: t).length := by
          have hlength := congrArg List.length hsplit
          have hpos := List.length_pos_of_ne_nil hword.ne_nil
          rw [List.length_append] at hlength
          omega
        rw [← hsplit]
        exact word _ _ hword hrest (ih _ hshort _ rfl)

/-! ### Places -/

/-- A word is a whole word of a line and has the column of its first character, counted from
one. -/
def Word.StandsIn (word : Word) (line : Text) : Prop :=
  word.text.IsWord ∧ ∃ before after, line = before ++ (word.text ++ after) ∧
    word.column = before.length + 1 ∧ (∀ c ∈ before.getLast?, isBlank c = true) ∧
    ∀ c ∈ after.head?, isBlank c = true

lemma Text.wordsFrom_word {w rest : Text} (hw : w.IsWord)
    (hrest : ∀ c ∈ rest.head?, isBlank c = true) (column : Nat) :
    Text.wordsFrom column (w ++ rest) = ⟨w, column⟩ :: rest.wordsFrom (column + w.length) :=
  Text.wordsFrom_append hw.ne_nil hw.not_blank hrest column

lemma Text.exists_place_of_mem_wordsFrom {t : Text} : ∀ {column : Nat} {word : Word},
    word ∈ t.wordsFrom column → ∃ before after, t = before ++ (word.text ++ after) ∧
      word.column = column + before.length ∧ (∀ c ∈ before.getLast?, isBlank c = true) ∧
      ∀ c ∈ after.head?, isBlank c = true := by
  induction t using Text.wordInduction with
  | nil => simp
  | blank c t hc ih =>
    intro column word hword
    rw [Text.wordsFrom_blank_cons hc] at hword
    obtain ⟨before, after, rfl, hcolumn, hbefore, hafter⟩ := ih hword
    refine ⟨c :: before, after, rfl, by simp only [List.length_cons]; omega, ?_, hafter⟩
    intro d hd
    rw [List.getLast?_cons, Option.mem_some_iff] at hd
    cases hlast : before.getLast? with
    | none => simpa [hlast, ← hd] using hc
    | some e => simpa [hlast, ← hd] using hbefore e hlast
  | word w rest hw hrest ih =>
    intro column word hword
    rw [Text.wordsFrom_word hw hrest] at hword
    rcases List.mem_cons.mp hword with rfl | hword
    · exact ⟨[], rest, rfl, by simp, by simp, hrest⟩
    · obtain ⟨before, after, rfl, hcolumn, hbefore, hafter⟩ := ih hword
      refine ⟨w ++ before, after, by simp, by simp only [List.length_append]; omega, ?_, hafter⟩
      -- a further word does not stand right at the beginning of what follows the first one
      have hne : before ≠ [] := by
        rintro rfl
        have hnext := Text.isWord_of_mem_wordsFrom hword
        obtain ⟨c, u, hu⟩ := List.exists_cons_of_ne_nil hnext.ne_nil
        have hblank : isBlank c = true := hrest c (by simp [hu])
        have hnot : isBlank c = false := hnext.not_blank c (by simp [hu])
        simp [hblank] at hnot
      rwa [List.getLast?_append_of_ne_nil _ hne]

/-- The words of a line stand in it. -/
theorem Text.standsIn_of_mem_words {line : Text} {word : Word} (h : word ∈ line.words) :
    word.StandsIn line := by
  rw [Text.words_eq_wordsFrom] at h
  obtain ⟨before, after, hline, hcolumn, hbefore, hafter⟩ := Text.exists_place_of_mem_wordsFrom h
  exact ⟨Text.isWord_of_mem_wordsFrom h, before, after, hline, by omega, hbefore, hafter⟩

/-- Each word ends in front of a blank that stands in front of the next one. -/
lemma Text.pairwise_wordsFrom {t : Text} : ∀ column : Nat,
    (t.wordsFrom column).Pairwise fun a b => a.column + a.text.length < b.column := by
  induction t using Text.wordInduction with
  | nil => simp
  | blank c t hc ih =>
    intro column
    rw [Text.wordsFrom_blank_cons hc]
    exact ih (column + 1)
  | word w rest hw hrest ih =>
    intro column
    rw [Text.wordsFrom_word hw hrest, List.pairwise_cons]
    refine ⟨?_, ih (column + w.length)⟩
    intro word hword
    cases rest with
    | nil => simp at hword
    | cons c rest =>
      rw [Text.wordsFrom_blank_cons (hrest c rfl)] at hword
      exact Text.wordsFrom_column_le hword

theorem Text.pairwise_words (line : Text) :
    line.words.Pairwise fun a b => a.column + a.text.length < b.column :=
  Text.pairwise_wordsFrom 1

end PlainEnglish
