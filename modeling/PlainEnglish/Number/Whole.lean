import PlainEnglish.Number.Numeral

/-!
# Whole numbers

A whole number is digits of any script with single underscores between them, behind a sign or
none. Padding around it is ignored. Neither in reading nor in writing may it have too many
digits.
-/

namespace PlainEnglish

/-- The greatest number of digits that a whole number may be written with. -/
def mostDigits : Nat := 4300

/-- The words for a whole number with too many digits, and how many it has, if they were
counted. -/
def tooManyDigits (count : Option Nat) : Text :=
  let value : Text :=
    match count with
    | some digits => ": value has " ++ Text.ofNat digits ++ " digits"
    | none => []
  "Exceeds the limit (" ++ Text.ofNat mostDigits ++ " digits) for integer string conversion" ++
    value ++ "; use sys.set_int_max_str_digits() to increase the limit"

/-- The least natural number with too many digits. -/
def leastTooLong : Nat := Nat.pow 10 mostDigits

/-- Whether a whole number can be written. -/
def isWritable (n : Int) : Bool := n.natAbs < leastTooLong

/-- The whole number that a text names, unless it has too many digits. -/
def Text.integer? (t : Text) : Option Int :=
  let (negative, unsigned) := Text.takeSign (Text.trimPadding t)
  (Text.dropUnderscores? unsigned).bind fun digits =>
    if digits ≠ [] ∧ digits.all isDigit ∧ digits.length ≤ mostDigits then
      let value : Int := Text.digitsValue digits
      some (if negative then -value else value)
    else none

end PlainEnglish
