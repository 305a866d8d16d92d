import Mathlib.Tactic
import PlainEnglish.Preview.Value
import PlainEnglish.Proofs.Number.Plain

/-!
# Values up to the sign of zero

A negative number of a script is read as a difference, and so minus zero is read as zero. No
value that is computed or printed afterwards shows this: the operations respect likeness up to
the sign of zero, and alike values are printed alike.

Main statements: `Operator.apply_alike`, `Value.Alike.render_eq`.
-/

namespace PlainEnglish

/-! ### Numbers -/

/-- Two numbers are equal, or both are zero. -/
inductive Number.Alike : Number → Number → Prop where
  | refl (x : Number) : Number.Alike x x
  | zero (a b : Bool) : Number.Alike (.signedZero a) (.signedZero b)

@[simp] lemma Number.isZero_signedZero (negative : Bool) :
    (Number.signedZero negative).isZero = true := rfl

@[simp] lemma Magnitude.units_zero (h : 0 < magnitudeCount) : Magnitude.units ⟨0, h⟩ = 0 :=
  Magnitude.units_eq_zero_iff.mpr rfl

@[simp] lemma Magnitude.signedUnits_zero (negative : Bool) (h : 0 < magnitudeCount) :
    Magnitude.signedUnits negative ⟨0, h⟩ = 0 := by
  rw [Magnitude.signedUnits, Magnitude.units_zero]
  cases negative <;> rfl

lemma Number.ofUnits_zero (negative : Bool) {b : Nat} (hb : 0 < b) :
    Number.ofUnits negative 0 b = .signedZero negative :=
  Number.ofUnits_eq_signedZero (by omega) negative

section

variable {x x' y y' : Number}

lemma Number.Alike.negate (h : Number.Alike x y) : Number.Alike x.negate y.negate := by
  cases h with
  | refl => exact .refl _
  | zero a b => exact .zero _ _

lemma Number.Alike.add (hx : Number.Alike x x') (hy : Number.Alike y y') :
    Number.Alike (x.add y) (x'.add y') := by
  cases hx with
  | refl =>
    cases hy with
    | refl => exact .refl _
    | zero a b =>
      cases x with
      | nan => exact .refl _
      | infinite s => exact .refl _
      | finite s m =>
        simp only [Number.add, Number.signedZero, Magnitude.signedUnits_zero, add_zero]
        split
        · exact .zero _ _
        · exact .refl _
  | zero a b =>
    cases hy with
    | refl =>
      cases y with
      | nan => exact .refl _
      | infinite s => exact .refl _
      | finite s m =>
        simp only [Number.add, Number.signedZero, Magnitude.signedUnits_zero, zero_add]
        split
        · exact .zero _ _
        · exact .refl _
    | zero c d =>
      simp only [Number.add, Number.signedZero, Magnitude.signedUnits_zero, add_zero, if_true]
      exact .zero _ _

lemma Number.Alike.subtract (hx : Number.Alike x x') (hy : Number.Alike y y') :
    Number.Alike (x.subtract y) (x'.subtract y') := hx.add hy.negate

lemma Number.multiply_comm (x y : Number) : x.multiply y = y.multiply x := by
  cases x <;> cases y <;> simp [Number.multiply, Bool.xor_comm, Nat.mul_comm]

lemma Number.signedZero_multiply_alike (a b : Bool) (y : Number) :
    Number.Alike ((Number.signedZero a).multiply y) ((Number.signedZero b).multiply y) := by
  cases y with
  | nan => exact .refl _
  | infinite s => exact .refl _
  | finite s m =>
    simp only [Number.multiply, Number.signedZero, Magnitude.units_zero, zero_mul,
      Number.ofUnits_zero _ unitsPerOne_pos]
    exact .zero _ _

lemma Number.Alike.multiply (hx : Number.Alike x x') (hy : Number.Alike y y') :
    Number.Alike (x.multiply y) (x'.multiply y') := by
  cases hx with
  | refl =>
    cases hy with
    | refl => exact .refl _
    | zero a b =>
      rw [Number.multiply_comm x, Number.multiply_comm x]
      exact Number.signedZero_multiply_alike a b x
  | zero a b =>
    cases hy with
    | refl => exact Number.signedZero_multiply_alike a b y
    | zero c d =>
      simp only [Number.multiply, Number.signedZero, Magnitude.units_zero, zero_mul,
        Number.ofUnits_zero _ unitsPerOne_pos]
      exact .zero _ _

/-- Zero of either sign is divided alike, and division by zero is no division. -/
lemma Number.Alike.divide (hx : Number.Alike x x') (y : Number) (hy : y.isZero = false) :
    Number.Alike (x.divide y) (x'.divide y) := by
  cases hx with
  | refl => exact .refl _
  | zero a b =>
    cases y with
    | nan => exact .refl _
    | infinite s => exact .zero _ _
    | finite s m =>
      have hm : m.val ≠ 0 := by simpa [Number.isZero] using hy
      have hunits : 0 < m.units := Nat.pos_of_ne_zero (mt Magnitude.units_eq_zero_iff.mp hm)
      simp only [Number.divide, Number.signedZero, if_neg hm, Magnitude.units_zero, zero_mul,
        Number.ofUnits_zero _ hunits]
      exact .zero _ _

lemma Number.Alike.onNumbers (op : Operator) (hx : Number.Alike x x') (hy : Number.Alike y y') :
    Number.Alike (op.onNumbers x y) (op.onNumbers x' y') := by
  cases op with
  | plus => exact hx.add hy
  | minus => exact hx.subtract hy
  | times => exact hx.multiply hy
  | «over» =>
    cases hy with
    | refl =>
      simp only [Operator.onNumbers]
      split
      · exact .refl _
      · next hzero => exact hx.divide y (by simpa using hzero)
    | zero a b => simp [Operator.onNumbers, Number.Alike.refl]

lemma Number.Alike.plain_eq (h : Number.Alike x y) : x.plain = y.plain := by
  cases h with
  | refl => rfl
  | zero a b =>
    rw [Number.signedZero, Number.signedZero, Number.plain_finite a, Number.plain_finite b]
    simp

end

/-- A finite number in plain notation names the number, but for the sign of zero. -/
lemma Number.exists_ofText?_plain (negative : Bool) (m : Magnitude) :
    ∃ y, Number.ofText? (Number.plain (.finite negative m)) = some y ∧
      Number.Alike y (.finite negative m) := by
  refine ⟨_, Number.ofText?_plain negative m, ?_⟩
  by_cases hm : m.val = 0
  · obtain rfl : m = ⟨0, by decide⟩ := Fin.ext hm
    exact .zero _ _
  · have hne : (m.val != 0) = true := by simpa using hm
    rw [hne, Bool.and_true]
    exact .refl _

/-- A magnitude taken from zero, as a script with a minus sign in front of it is read. -/
lemma Number.zero_subtract_alike (m : Magnitude) :
    Number.Alike (Number.zero.subtract (.finite false m)) (.finite true m) := by
  have hneg : Magnitude.signedUnits true m = -m.units := rfl
  simp only [Number.subtract, Number.negate, Number.add, Number.zero, Number.signedZero,
    Magnitude.signedUnits_zero, zero_add, Bool.not_false, hneg, neg_eq_zero, Int.natCast_eq_zero,
    Int.natAbs_neg, Int.natAbs_natCast]
  split
  · next h =>
    obtain rfl : m = ⟨0, by decide⟩ := Fin.ext (Magnitude.units_eq_zero_iff.mp h)
    exact .zero _ _
  · next h =>
    have hlt : decide (-(m.units : Int) < 0) = true := by
      rw [decide_eq_true_eq]
      omega
    rw [hlt, Number.ofUnits_units]
    exact .refl _

/-! ### Values -/

/-- Two values are equal, or both are zero. -/
inductive Value.Alike : Value → Value → Prop where
  | number {x y : Number} (h : Number.Alike x y) : Value.Alike (.number x) (.number y)
  | text (t : Text) : Value.Alike (.text t) (.text t)

lemma Value.Alike.refl (v : Value) : Value.Alike v v := by
  cases v with
  | number x => exact .number (.refl x)
  | text t => exact .text t

/-- Alike values are printed alike. -/
lemma Value.Alike.render_eq {v w : Value} (h : Value.Alike v w) : v.render = w.render := by
  cases h with
  | number h => exact h.plain_eq
  | text t => rfl

lemma Value.Alike.toNumber {v w : Value} (h : Value.Alike v w) :
    Number.Alike v.toNumber w.toNumber := by
  cases h with
  | number h => exact h
  | text t => exact .refl _

lemma Operator.apply_alike (op : Operator) {v v' w w' : Value} (hv : Value.Alike v v')
    (hw : Value.Alike w w') : Value.Alike (op.apply v w) (op.apply v' w') := by
  have hnumbers : Value.Alike (.number (op.onNumbers v.toNumber w.toNumber))
      (.number (op.onNumbers v'.toNumber w'.toNumber)) :=
    .number (.onNumbers op hv.toNumber hw.toNumber)
  have htexts : Value.Alike (.text (v.render ++ w.render)) (.text (v'.render ++ w'.render)) := by
    rw [hv.render_eq, hw.render_eq]
    exact .text _
  cases op with
  | plus =>
    cases hv with
    | number hx =>
      cases hw with
      | number hy => exact hnumbers
      | text t => exact htexts
    | text s => exact htexts
  | minus => exact hnumbers
  | times => exact hnumbers
  | «over» => exact hnumbers

end PlainEnglish
