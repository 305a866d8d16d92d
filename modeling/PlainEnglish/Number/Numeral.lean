import PlainEnglish.Text.Blank
import PlainEnglish.Text.Digit
import PlainEnglish.Text.Lowercase
import PlainEnglish.Number.Decimal

/-!
# Numerals

A numeral is a sign, digits with at most one point among or beside them, and an exponent, where
only the digits are necessary. Digits of every script count.
-/

namespace PlainEnglish

/-- The parts of a numeral: the digits before and after the point, and the exponent. -/
structure Numeral where
  negative : Bool
  whole : Text
  fraction : Text
  exponent : Int
deriving DecidableEq, Repr

/-- A sign in front of a text, `true` for minus, and what follows it. -/
def Text.takeSign : Text → Bool × Text
  | '+' :: rest => (false, rest)
  | '-' :: rest => (true, rest)
  | rest => (false, rest)

/-- The digits that a text begins with, and what follows them. -/
def Text.takeDigits (t : Text) : Text × Text := (t.takeWhile isDigit, t.dropWhile isDigit)

/-- The digits behind a point that a text begins with, and what follows them. -/
def Text.takeFraction : Text → Text × Text
  | '.' :: rest => Text.takeDigits rest
  | rest => ([], rest)

/-- The exponent that a whole text spells; a text without one stands for exponent zero. -/
def Text.exponent? : Text → Option Int
  | [] => some 0
  | c :: rest =>
    if c = 'e' ∨ c = 'E' then
      let (negative, digits) := Text.takeSign rest
      if digits ≠ [] ∧ digits.all isDigit then
        let value : Int := Text.digitsValue digits
        some (if negative then -value else value)
      else none
    else none

/-- The numeral that a whole text spells. -/
def Numeral.read? (t : Text) : Option Numeral :=
  let (negative, unsigned) := Text.takeSign t
  let (whole, afterWhole) := Text.takeDigits unsigned
  let (fraction, afterFraction) := Text.takeFraction afterWhole
  if whole = [] ∧ fraction = [] then none
  else (Text.exponent? afterFraction).map fun exponent => ⟨negative, whole, fraction, exponent⟩

/-- The number nearest to a numeral. -/
def Numeral.toNumber (n : Numeral) : Number :=
  Decimal.toNumber n.negative
    ⟨Text.digitsValue (n.whole ++ n.fraction), n.exponent - n.fraction.length⟩

/-- Whether a whole text is a numeral. -/
def Text.isNumeral (t : Text) : Bool := (Numeral.read? t).isSome

/-! ### Numbers in words and figures -/

/-- Whether each underscore of a text stands between two digits, when `afterDigit` tells whether
a digit stands in front of the text. -/
def Text.underscoresOk (afterDigit : Bool) : Text → Bool
  | [] => true
  | '_' :: rest =>
    if afterDigit && rest.head?.any isDigit then underscoresOk false rest else false
  | c :: rest => underscoresOk (isDigit c) rest

/-- The text without its underscores, each of which must stand between two digits. -/
def Text.dropUnderscores? (t : Text) : Option Text :=
  if Text.underscoresOk false t then some (t.filter (· ≠ '_')) else none

/-- Whether a character may stand around a number: any blank but the four separators of
records. -/
def isPadding (c : Char) : Bool := isBlank c && !('\x1c' ≤ c && c ≤ '\x1f')

/-- The text without the padding at both ends. -/
def Text.trimPadding (t : Text) : Text :=
  ((t.dropWhile isPadding).reverse.dropWhile isPadding).reverse

/-- The number that a text names: a numeral, which may have underscores between its digits, or a
word for infinity or for no number. Padding around it is ignored. -/
def Number.ofText? (t : Text) : Option Number :=
  let trimmed := Text.trimPadding t
  let (negative, word) := Text.takeSign trimmed
  let word := word.map Char.toLower
  if word = "inf" ∨ word = "infinity" then some (.infinite negative)
  else if word = "nan" then some .nan
  else ((Text.dropUnderscores? trimmed).bind Numeral.read?).map Numeral.toNumber

end PlainEnglish
