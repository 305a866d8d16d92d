import PlainEnglish.Text.Basic

/-!
# Lines

A line ends at any of the line breaks of the standard, and a carriage return with a newline
behind it is one break. The last line need not end with a break, and an ended last line has no
empty line behind it.
-/

namespace PlainEnglish

/-- Whether a character ends a line. -/
def isLineBreak (c : Char) : Bool :=
  ('\n' ≤ c && c ≤ '\r') || ('\x1c' ≤ c && c ≤ '\x1e') || c == '\x85' || c == '\u2028' ||
  c == '\u2029'

/-- Each carriage return that has a newline behind it takes the newline's place. -/
def Text.joinReturns (t : Text) : Text :=
  t.foldr
    (fun c rest =>
      if c = '\r' ∧ rest.head? = some '\n' then '\r' :: rest.tail else c :: rest) []

/-- The physical lines of a text, without their breaks. -/
def Text.lines (t : Text) : List Text :=
  t.joinReturns.foldr
    (fun c lines => if isLineBreak c then [] :: lines else Text.consToFirst c lines) []

/-- The text as it is read from a file: every carriage return, with or without a newline behind
it, becomes one newline. -/
def Text.withNewlines (t : Text) : Text :=
  t.joinReturns.map fun c => if c = '\r' then '\n' else c

end PlainEnglish
