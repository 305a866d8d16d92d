import Mathlib.Tactic
import PlainEnglish.Journal.Registry

/-!
# Loggers, their places and the tree of their names

Further loggers are put behind those that are there, so a logger stays in its place, and names of
different loggers lead to different places. The tree of loggers is read off the dots of a name
from its end. Whatever other loggers there are, a name that goes on behind the main one with a
single dot is found below it, and no name is that does not go on with a dot.

Main statements: `Registry.logger_eq_iff`, `Registry.isMain_of_isMainName`,
`Registry.isMain_of_isForeign`.
-/

namespace PlainEnglish

/-! ### Places -/

section

variable {r r' : Registry} {name other : Text} {i : Nat}

lemma Registry.idxOf?_logger (r : Registry) (name : Text) :
    (r.logger name).2.loggers.idxOf? name.loggerName = some (r.logger name).1 := by
  unfold Registry.logger
  split
  · next i hfound => exact hfound
  · next hnone =>
    simp only [List.idxOf?, List.findIdx?_append] at hnone ⊢
    rw [hnone]
    simp

lemma Registry.logger_of_idxOf? (h : r.loggers.idxOf? name.loggerName = some i) :
    r.logger name = (i, r) := by
  simp only [Registry.logger, h]

lemma Registry.prefix_logger (r : Registry) (name : Text) :
    r.loggers <+: (r.logger name).2.loggers := by
  unfold Registry.logger
  split
  · exact List.prefix_rfl
  · exact List.prefix_append _ _

/-- Making a logger changes nothing else. -/
lemma Registry.logger_snd (r : Registry) (name : Text) :
    (r.logger name).2 = { r with loggers := (r.logger name).2.loggers } := by
  unfold Registry.logger
  split <;> rfl

/-- However many loggers are made later, a name leads to the place of an earlier logger if and
only if it is the name of that logger. -/
lemma Registry.logger_eq_iff (h : (r.logger name).2.loggers <+: r'.loggers) :
    (r'.logger other).1 = (r.logger name).1 ↔ other.loggerName = name.loggerName := by
  have hname : r'.loggers.idxOf? name.loggerName = some (r.logger name).1 :=
    h.findIdx?_eq_some (r.idxOf?_logger name)
  constructor
  · intro hplace
    have hother := r'.idxOf?_logger other
    rw [hplace] at hother
    have hname := (r'.prefix_logger other).findIdx?_eq_some hname
    obtain ⟨_, heq, -⟩ := List.idxOf?_eq_some_iff.mp hother
    obtain ⟨_, heq', -⟩ := List.idxOf?_eq_some_iff.mp hname
    exact heq.symm.trans heq'
  · intro heq
    rw [← heq] at hname
    rw [Registry.logger_of_idxOf? hname]

end

/-! ### The tree of names -/

/-- The name of the main logger, or of one below it: what follows the dot behind that name begins
with no further dot. -/
inductive Text.IsMainName : Text → Prop where
  | main : IsMainName mainLogger
  | below (rest : Text) (h : rest.head? ≠ some '.') : IsMainName (mainLogger ++ '.' :: rest)

/-- The name of a logger that is neither the main one nor goes on behind its name with a dot. -/
def Text.IsForeign (name : Text) : Prop := name ≠ mainLogger ∧ ¬mainLogger ++ ['.'] <+: name

section

variable {r : Registry} {name t : Text}

lemma Text.loggerName_of_isMainName (h : name.IsMainName) : name.loggerName = name := by
  cases h with
  | main => rfl
  | below rest h => rfl

lemma Text.isForeign_loggerName (h : name.IsForeign) : name.loggerName.IsForeign := by
  unfold Text.loggerName
  split
  · exact ⟨by decide, by decide⟩
  · exact h

/-- A name that is spelled backwards is read up to the dot behind the main logger, unless a dot
next to that one has counted. -/
lemma Registry.isBelowMain_of_append_eq (r : Registry) (t : Text) : ∀ front : Text,
    front.getLast? ≠ some '.' → front ++ '.' :: mainLogger.reverse = t →
      r.isBelowMain t = true := by
  have htail {c : Char} {x : Text} (h : (c :: x).getLast? ≠ some '.') :
      x.getLast? ≠ some '.' := by
    cases x with
    | nil => exact (Option.some_ne_none '.').symm
    | cons d x => rwa [List.getLast?_cons_cons] at h
  fun_induction r.isBelowMain t with
  | case1 => exact fun _ _ _ => rfl
  | case2 c x above habove hmem ih =>
    rintro (_ | ⟨d, front⟩) h ht
    · exact absurd (List.reverse_eq_iff.mpr (List.cons.inj ht).2.symm) habove
    · exact ih front (htail h) (List.cons.inj ht).2
  | case3 c x above habove hmem ih =>
    -- The dot counts, so the next character does not: the reading goes on two characters
    -- further.
    rintro (_ | ⟨d, _ | ⟨e, front⟩⟩) h ht
    · exact absurd (List.reverse_eq_iff.mpr (List.cons.inj ht).2.symm) habove
    · obtain ⟨rfl, -⟩ := List.cons.inj ht
      exact absurd rfl h
    · exact ih front (htail (htail h)) (List.cons.inj (List.cons.inj ht).2).2
  | case4 c x hdot ih =>
    rintro (_ | ⟨d, front⟩) h ht
    · obtain ⟨rfl, rfl⟩ := List.cons.inj ht
      exact (hdot _ _ rfl rfl).elim
    · exact ih front (htail h) (List.cons.inj ht).2
  | case5 =>
    exact fun front _ ht =>
      absurd ht (List.append_ne_nil_of_right_ne_nil front (List.cons_ne_nil _ _))

lemma Registry.suffix_of_isBelowMain (h : r.isBelowMain t = true) :
    '.' :: mainLogger.reverse <:+ t := by
  fun_induction r.isBelowMain t with
  | case1 c x above habove => rw [← habove, List.reverse_reverse]
  | case2 c x above habove hmem ih => exact (ih h).trans (List.suffix_cons _ _)
  | case3 c x above habove hmem ih =>
    exact ((ih h).trans (List.suffix_cons _ _)).trans (List.suffix_cons _ _)
  | case4 c x hdot ih => exact (ih h).trans (List.suffix_cons _ _)
  | case5 => exact absurd h Bool.false_ne_true

lemma Registry.isMain_of_isMainName (r : Registry) (h : name.IsMainName) :
    r.isMain name = true := by
  rw [Registry.isMain, Bool.or_eq_true, decide_eq_true_eq]
  cases h with
  | main => exact .inl rfl
  | below rest h =>
    right
    have hreverse : (mainLogger ++ '.' :: rest).reverse =
        rest.reverse ++ '.' :: mainLogger.reverse := by simp
    rw [hreverse]
    exact r.isBelowMain_of_append_eq _ rest.reverse (by rwa [List.getLast?_reverse]) rfl

lemma Registry.isMain_of_isForeign (r : Registry) (h : name.IsForeign) :
    r.isMain name = false := by
  rw [← Bool.not_eq_true, Registry.isMain, Bool.or_eq_true, decide_eq_true_eq, not_or]
  refine ⟨h.1, fun hbelow => h.2 ?_⟩
  have hsuffix := Registry.suffix_of_isBelowMain hbelow
  have hreverse : '.' :: mainLogger.reverse = (mainLogger ++ ['.']).reverse := by simp
  rwa [hreverse, List.reverse_suffix] at hsuffix

end

end PlainEnglish
