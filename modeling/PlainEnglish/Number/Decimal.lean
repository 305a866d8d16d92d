import PlainEnglish.Number.Basic

/-!
# Decimals

A decimal is a natural number times a power of ten. Each decimal has a nearest number, and each
magnitude has a shortest decimal: the one on the coarsest grid of powers of ten of which the
magnitude is still the nearest number.
-/

namespace PlainEnglish

/-- The decimal `coefficient * 10 ^ exponent`. -/
structure Decimal where
  coefficient : Nat
  exponent : Int
deriving DecidableEq, Repr

/-- The number nearest to a decimal, with the given sign. Exponents far outside of the range of
finite numbers are settled without computing the power. -/
def Decimal.toNumber (negative : Bool) (d : Decimal) : Number :=
  if d.coefficient = 0 then .signedZero negative
  else
    match d.exponent with
    | .ofNat k =>
      if 400 < k then .infinite negative
      else .ofUnits negative (d.coefficient * Nat.pow 10 k * unitsPerOne) 1
    | .negSucc k =>
      if d.coefficient.log2 + 1200 < 3 * (k + 1) then .signedZero negative
      else .ofUnits negative (d.coefficient * unitsPerOne) (Nat.pow 10 (k + 1))

/-! ### The shortest decimal -/

/-- The magnitude as a decimal, without any rounding. -/
def Magnitude.exactDecimal (m : Magnitude) : Decimal := ⟨m.units * Nat.pow 5 1074, -1074⟩

/-- Whether the magnitude is the number nearest to the decimal. -/
def Magnitude.readsBack (m : Magnitude) (d : Decimal) : Bool :=
  d.toNumber false = .finite false m

/-- The multiple of `10 ^ exponent` next to the magnitude of which the magnitude is the nearest
number. Of two the nearer is taken, and of two that are equally near the even one. -/
def Magnitude.onGrid? (m : Magnitude) (exponent : Int) : Option Decimal :=
  let a := m.units * Nat.pow 10 (-exponent).toNat
  let b := unitsPerOne * Nat.pow 10 exponent.toNat
  let below : Decimal := ⟨a / b, exponent⟩
  let above : Decimal := ⟨a / b + 1, exponent⟩
  let nearest : Decimal := ⟨divNearest a b, exponent⟩
  match m.readsBack below, m.readsBack above with
  | true, true => some nearest
  | true, false => some below
  | false, true => some above
  | false, false => none

/-- The exponent of a power of ten that is larger than the magnitude, and at most three places
too large. -/
def Magnitude.exponentAbove (m : Magnitude) : Int :=
  ((m.units.log2 : Int) - 1073) * 30103 / 100000 + 2

/-- The shortest decimal of which the magnitude is the nearest number. -/
def Magnitude.shortest (m : Magnitude) : Decimal :=
  ((List.range 24).findSome?
    fun (step : Nat) => m.onGrid? (m.exponentAbove - step)).getD m.exactDecimal

end PlainEnglish
