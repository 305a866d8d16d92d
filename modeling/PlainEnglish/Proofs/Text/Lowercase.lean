import PlainEnglish.Proofs.Text.Blank
import PlainEnglish.Text.Lowercase

/-!
# Small letters

A character that has no small letter is kept, and below the Latin letters with marks nothing but
the capital letters from A to Z has one. Every character is put in small letters by itself, but
for the sigma: which of the two small ones it becomes depends on what stands around it.

Main statements: `Text.mem_lowercase`, `smallLetter_of_lt`, `Text.map_lowercase`.
-/

namespace PlainEnglish

section

variable {t before done : Text} {c : Char}

/-! ### Characters that have no small letter -/

lemma Text.mem_lowercaseAfter_of_mem (h : c ∈ done) : c ∈ Text.lowercaseAfter before t done := by
  induction t generalizing before done with
  | nil => exact List.mem_reverse.mpr h
  | cons a t ih => exact ih (List.mem_append_right _ h)

/-- A character that is its own small letter is still there in small letters. -/
lemma Text.mem_lowercase (hdotted : c ≠ '\u0130') (hsigma : c ≠ '\u03a3')
    (hsmall : smallLetter c = c) (h : c ∈ t) : c ∈ t.lowercase := by
  suffices ∀ before done, c ∈ Text.lowercaseAfter before t done from this [] []
  induction t with
  | nil => exact absurd h List.not_mem_nil
  | cons a t ih =>
    intro before done
    rcases List.mem_cons.mp h with rfl | h
    · rw [Text.lowercaseAfter]
      refine Text.mem_lowercaseAfter_of_mem (List.mem_append_left _ ?_)
      rw [if_neg hdotted, if_neg hsigma, hsmall]
      exact List.mem_singleton_self c
    · exact ih h _ _

/-- Below the Latin letters with marks nothing but the letters from A to Z has a small letter. -/
lemma smallLetter_of_lt (hlt : c.toNat < 0xc0) (hcapital : c.isUpper = false) :
    smallLetter c = c := by
  have hrows : ∀ row ∈ capitalRows, row.1 = 0x41 ∧ row.2.1 = 0x5a ∨ 0xc0 ≤ row.1 := by
    decide +kernel
  rw [smallLetter]
  split
  · next hfind =>
    have hrow := List.find?_some hfind
    simp only [Bool.and_eq_true, decide_eq_true_eq] at hrow
    obtain ⟨⟨hfirst, hlast⟩, -⟩ := hrow
    rcases hrows _ (List.mem_of_find?_eq_some hfind) with ⟨rfl, rfl⟩ | hle
    · rw [Char.isUpper_iff.mpr ⟨hfirst, hlast⟩] at hcapital
      exact Bool.noConfusion hcapital
    · exact absurd (hle.trans hfirst) (by omega)
  · rfl

/-! ### One character at a time -/

/-- The small letters of a character that is looked at by itself. -/
def smallLettersAlone (c : Char) : Text :=
  if c = '\u0130' then ['i', '\u0307'] else [smallLetter c]

/-- What does not tell the two small sigmas apart sees every character put in small letters by
itself. -/
lemma Text.map_lowercase {α : Type} (f : Char → α) (hsigma : f '\u03c2' = f '\u03c3')
    (t : Text) :
    t.lowercase.map f = t.flatMap fun c => (smallLettersAlone c).map f := by
  suffices ∀ before done, (Text.lowercaseAfter before t done).map f =
      done.reverse.map f ++ t.flatMap fun c => (smallLettersAlone c).map f from this [] []
  induction t with
  | nil =>
    intro before done
    rw [Text.lowercaseAfter, List.flatMap_nil, List.append_nil]
  | cons c t ih =>
    intro before done
    rw [Text.lowercaseAfter, ih, List.reverse_append, List.map_append, List.append_assoc,
      List.flatMap_cons]
    congr 2
    by_cases hdotted : c = '\u0130'
    · subst hdotted
      rfl
    · rw [if_neg hdotted, smallLettersAlone, if_neg hdotted]
      by_cases hcapital : c = '\u03a3'
      · have hsmall : smallLetter '\u03a3' = '\u03c3' := by decide +kernel
        subst hcapital
        rw [if_pos rfl, hsmall]
        split
        · simpa using hsigma
        · rfl
      · rw [if_neg hcapital]
        rfl

end

end PlainEnglish
