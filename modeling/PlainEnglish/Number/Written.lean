import PlainEnglish.Number.Decimal

/-!
# Written numbers

Programs show numbers in plain decimal notation, whatever their size. Settings show them as they
would be written in a document: with a point or an exponent.
-/

namespace PlainEnglish

/-- A minus sign for negative numbers. -/
def Text.sign (negative : Bool) : Text := if negative then ['-'] else []

/-- Without the zeros at the end of its fraction, and without a point that ends it. -/
def Text.trimFraction (t : Text) : Text :=
  if '.' ∈ t then ((t.reverse.dropWhile (· = '0')).dropWhile (· = '.')).reverse else t

/-- A decimal without an exponent. -/
def Decimal.plain (d : Decimal) : Text :=
  let digits := Text.ofNat d.coefficient
  match d.exponent with
  | .ofNat k => digits ++ List.replicate k '0'
  | .negSucc k =>
    let filled := List.replicate (k + 2 - digits.length) '0' ++ digits
    let point := filled.length - (k + 1)
    filled.take point ++ '.' :: filled.drop point

/-- A number in plain decimal notation: no exponent, no fraction that ends in zero, and no sign
for zero. Whole numbers below `10 ^ 21` show all their digits, others the shortest digits that
tell them apart. -/
def Number.plain : Number → Text
  | .nan => "NaN"
  | .infinite negative => Text.sign negative ++ "Infinity"
  | .finite negative magnitude =>
    let units := magnitude.units
    if units % unitsPerOne = 0 ∧ units / unitsPerOne < Nat.pow 10 21 then
      Text.sign (negative && units != 0) ++ Text.ofNat (units / unitsPerOne)
    else Text.sign negative ++ Text.trimFraction magnitude.shortest.plain

/-! ### In documents -/

/-- The digits of a number with the first one in front of the point, and the power of ten. -/
def Decimal.scientific (d : Decimal) : Text :=
  let digits := (Text.ofNat d.coefficient)
  let exponent := d.exponent + digits.length - 1
  let mantissa := match digits with
    | first :: [] => [first]
    | first :: rest => first :: '.' :: rest
    | [] => []
  let power := Text.ofNat exponent.natAbs
  mantissa ++ 'e' :: (if exponent < 0 then '-' else '+') ::
    (List.replicate (2 - power.length) '0' ++ power)

/-- A number as a document has it: the shortest digits that tell it apart, with a point from
`10 ^ -4` up to `10 ^ 16` and with an exponent otherwise. -/
def Number.literal : Number → Text
  | .nan => "nan"
  | .infinite negative => Text.sign negative ++ "inf"
  | .finite negative magnitude =>
    if magnitude.val = 0 then Text.sign negative ++ "0.0"
    else
      let d := magnitude.shortest
      let place := d.exponent + (Text.ofNat d.coefficient).length
      Text.sign negative ++
        if -4 < place ∧ place ≤ 16 then
          if 0 ≤ d.exponent then d.plain ++ ".0" else d.plain
        else d.scientific

end PlainEnglish
