import PlainEnglish.Journal.Level
import PlainEnglish.Proofs.Text.Lowercase

/-!
# Names of levels

The name of a level is written in small letters and nothing else. So it still names its level
once it is put in small letters, and no text with a digit, a sign or a bracket names a level in
any case.

Main statements: `Text.ofName?_of_isLevelName`, `Text.isLevelName_lowercase_of_mem`.
-/

namespace PlainEnglish

section

variable {t : Text} {c : Char}

/-! ### Names -/

lemma Text.isLevelName_iff : t.isLevelName = true ↔ t ∈ Level.names.map Prod.fst := by
  simp [Text.isLevelName]

lemma Text.lowercase_of_isLevelName (h : t.isLevelName = true) : t.lowercase = t := by
  have hnames : ∀ t ∈ Level.names.map Prod.fst, t.lowercase = t := by decide +kernel
  exact hnames t (Text.isLevelName_iff.mp h)

/-- The name of a level stands for that level, in small letters too. -/
lemma Text.ofName?_of_isLevelName (h : t.isLevelName = true) :
    Level.ofName? t.lowercase = some (Level.ofAnyName t) := by
  have hnames : ∀ t ∈ Level.names.map Prod.fst, (Level.ofName? t).isSome := by decide
  obtain ⟨level, hlevel⟩ := Option.isSome_iff_exists.mp (hnames t (Text.isLevelName_iff.mp h))
  rw [Level.ofAnyName, Text.lowercase_of_isLevelName h, hlevel, Option.getD_some]

/-! ### Texts that are no names -/

/-- The digits, signs and brackets that stand in every number, moment, list and table. -/
def Text.marks : Text := "0123456789.+-:[\x7b"

/-- A text with a mark names no level. -/
lemma Text.isLevelName_lowercase_of_mem (hc : c ∈ Text.marks) (h : c ∈ t) :
    t.lowercase.isLevelName = false := by
  have hmarks : Text.marks.all fun c => c ≠ '\u0130' ∧ c ≠ '\u03a3' ∧ smallLetter c = c := by
    decide +kernel
  have hnames : (Level.names.map Prod.fst).all fun name => Text.marks.all (· ∉ name) := by decide
  obtain ⟨hdotted, hsigma, hsmall⟩ := of_decide_eq_true (List.all_eq_true.mp hmarks c hc)
  rw [← Bool.not_eq_true, Text.isLevelName_iff]
  intro hname
  have hfree := List.all_eq_true.mp (List.all_eq_true.mp hnames _ hname) c hc
  exact of_decide_eq_true hfree (Text.mem_lowercase hdotted hsigma hsmall h)

end

end PlainEnglish
