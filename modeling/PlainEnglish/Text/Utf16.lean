import PlainEnglish.Text.Basic

/-!
# Characters of code units

A code unit has sixteen bits. A character beyond the first plane takes two of them, a pair whose
halves are no characters by themselves. A row of code units in which a half stands alone has no
text here: what a program does with such a row is left open.
-/

namespace PlainEnglish

/-- Two code units that make one character are joined. -/
def Text.joinPair (unit : Nat) (rest : List Nat) : List Nat :=
  match rest with
  | low :: more =>
    if 0xd800 ≤ unit ∧ unit < 0xdc00 ∧ 0xdc00 ≤ low ∧ low < 0xe000 then
      (0x10000 + (unit - 0xd800) * 0x400 + (low - 0xdc00)) :: more
    else unit :: rest
  | [] => [unit]

/-- Whether a code unit is half of a pair. -/
def isHalf (unit : Nat) : Bool := 0xd800 ≤ unit && unit < 0xe000

/-- The characters with the given code points, unless one of these is half of a pair. -/
def Text.ofCodePoints? (points : List Nat) : Option Text :=
  if points.any isHalf then none else some (points.map Char.ofNat)

/-- The characters of a row of code units, unless half of a pair stands alone in it. -/
def Text.ofUnits? (units : List Nat) : Option Text :=
  Text.ofCodePoints? (units.foldr Text.joinPair [])

end PlainEnglish
