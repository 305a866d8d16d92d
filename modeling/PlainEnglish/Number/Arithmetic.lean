import PlainEnglish.Number.Basic

/-!
# Arithmetic

Each operation rounds its exact result to the nearest number.
-/

namespace PlainEnglish

/-- A finite number as a signed multiple of the unit. -/
def Magnitude.signedUnits (negative : Bool) (m : Magnitude) : Int :=
  if negative then -(m.units : Int) else m.units

/-- The number with the opposite sign. -/
def Number.negate : Number → Number
  | .nan => .nan
  | .infinite negative => .infinite !negative
  | .finite negative magnitude => .finite (!negative) magnitude

/-- The sum of two numbers. -/
def Number.add : Number → Number → Number
  | .nan, _ => .nan
  | _, .nan => .nan
  | .infinite a, .infinite b => if a = b then .infinite a else .nan
  | .infinite a, .finite _ _ => .infinite a
  | .finite _ _, .infinite b => .infinite b
  | .finite a m, .finite b n =>
    let sum := m.signedUnits a + n.signedUnits b
    if sum = 0 then .signedZero (a && b) else .ofUnits (sum < 0) sum.natAbs 1

/-- The difference of two numbers. -/
def Number.subtract (x y : Number) : Number := x.add y.negate

/-- The product of two numbers. -/
def Number.multiply : Number → Number → Number
  | .nan, _ => .nan
  | _, .nan => .nan
  | .infinite a, .infinite b => .infinite (a != b)
  | .infinite a, .finite b n => if n.val = 0 then .nan else .infinite (a != b)
  | .finite a m, .infinite b => if m.val = 0 then .nan else .infinite (a != b)
  | .finite a m, .finite b n => .ofUnits (a != b) (m.units * n.units) unitsPerOne

/-- The quotient of two numbers. -/
def Number.divide : Number → Number → Number
  | .nan, _ => .nan
  | _, .nan => .nan
  | .infinite _, .infinite _ => .nan
  | .infinite a, .finite b _ => .infinite (a != b)
  | .finite a _, .infinite b => .signedZero (a != b)
  | .finite a m, .finite b n =>
    if n.val = 0 then if m.val = 0 then .nan else .infinite (a != b)
    else .ofUnits (a != b) (m.units * unitsPerOne) n.units

end PlainEnglish
