import PlainEnglish.Text.Basic

/-!
# Numbers

The numbers of the language are floating point numbers of sixty-four bits. A finite number is a
sign and a magnitude, and the magnitudes are known by their rank in ascending order: rank zero is
zero, rank one is the smallest positive magnitude, `2 ^ -1074`, and every magnitude is a multiple
of it.
-/

namespace PlainEnglish

/-- How many ranks share a step size: `2 ^ 52`. -/
abbrev ranksPerStep : Nat := 0x10000000000000

/-- How many finite magnitudes there are. -/
abbrev magnitudeCount : Nat := 2047 * ranksPerStep

/-- A finite magnitude, given by its rank among all of them. -/
abbrev Magnitude := Fin magnitudeCount

/-- The value of a magnitude as a multiple of the smallest positive one. -/
def Magnitude.units (m : Magnitude) : Nat :=
  if m.val < 2 * ranksPerStep then m.val
  else (ranksPerStep + m.val % ranksPerStep) * Nat.pow 2 (m.val / ranksPerStep - 1)

/-- How many units make one. -/
def unitsPerOne : Nat := Nat.pow 2 1074

/-- A number of the language. -/
inductive Number where
  | nan
  | infinite (negative : Bool)
  | finite (negative : Bool) (magnitude : Magnitude)
deriving DecidableEq, Repr

/-- Whether a number is finite. -/
def Number.isFinite : Number → Bool
  | .finite _ _ => true
  | _ => false

/-- Zero with the given sign. -/
def Number.signedZero (negative : Bool) : Number := .finite negative ⟨0, by decide⟩

/-- Zero. -/
def Number.zero : Number := .signedZero false

/-- One. -/
def Number.one : Number := .finite false ⟨1023 * ranksPerStep, by decide⟩

/-- Whether a number is zero, of either sign. -/
def Number.isZero : Number → Bool
  | .finite _ magnitude => magnitude.val = 0
  | _ => false

/-! ### Rounding -/

/-- The quotient rounded to the nearest natural number, and to the even one of two. -/
def divNearest (a b : Nat) : Nat :=
  let quotient := a / b
  let remainder := a % b
  if 2 * remainder > b ∨ (2 * remainder = b ∧ quotient % 2 = 1) then quotient + 1 else quotient

/-- The rank of the magnitude nearest to `a / b` units. Where the step between neighbours is
`2 ^ shift` units the ranks grow by one with each step, also from one step size to the next, so a
quotient that is rounded up to the next step size needs no care. -/
def nearestRank (a b : Nat) : Nat :=
  let shift := (a / b).log2 - 52
  shift * ranksPerStep + divNearest a (b * Nat.pow 2 shift)

/-- The number nearest to `a / b` units, with the given sign. -/
def Number.ofUnits (negative : Bool) (a b : Nat) : Number :=
  if h : nearestRank a b < magnitudeCount then .finite negative ⟨nearestRank a b, h⟩
  else .infinite negative

/-! ### Bits -/

/-- The value of the first of sixty-four bits, which is the sign: `2 ^ 63`. -/
abbrev signBit : Nat := 0x8000000000000000

/-- The number that sixty-four bits stand for. -/
def Number.ofBits (bits : Nat) : Number :=
  let negative := bits / signBit % 2 = 1
  let rank := bits % signBit
  if h : rank < magnitudeCount then .finite negative ⟨rank, h⟩
  else if rank = magnitudeCount then .infinite negative
  else .nan

/-- The sixty-four bits of a number. -/
def Number.toBits : Number → Nat
  | .nan => 0x7ff8000000000000
  | .infinite negative => negative.toNat * signBit + magnitudeCount
  | .finite negative magnitude => negative.toNat * signBit + magnitude.val

end PlainEnglish
