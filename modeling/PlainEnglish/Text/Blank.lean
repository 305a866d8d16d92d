import PlainEnglish.Text.Basic

/-!
# Blank characters

The white space of the language: spaces of every width, tabs, and all characters that end a line.
-/

namespace PlainEnglish

/-- Whether a character separates words. -/
def isBlank (c : Char) : Bool :=
  ('\t' ≤ c && c ≤ '\r') || ('\x1c' ≤ c && c ≤ ' ') || c == '\x85' || c == '\xa0' ||
  c == '\u1680' || ('\u2000' ≤ c && c ≤ '\u200a') || c == '\u2028' || c == '\u2029' ||
  c == '\u202f' || c == '\u205f' || c == '\u3000'

/-- The text without the blanks it begins with. -/
def Text.trimStart (t : Text) : Text := t.dropWhile isBlank

/-- The text without the blanks it ends with. -/
def Text.trimEnd (t : Text) : Text := (t.reverse.dropWhile isBlank).reverse

/-- The text without the blanks at both ends. -/
def Text.trim (t : Text) : Text := t.trimStart.trimEnd

/-! ### Words -/

/-- A word of a line: a maximal run of characters that are not blank, and the column, counted
from one, of its first character. -/
structure Word where
  text : Text
  column : Nat
deriving DecidableEq, Repr

/-- Extends the words of the rest of a line by the character that stands in front of it. -/
def Word.extend (c : Char × Nat) (words : List Word) : List Word :=
  if isBlank c.1 then words
  else
    match words with
    | word :: rest =>
      if word.column = c.2 + 1 then ⟨c.1 :: word.text, c.2⟩ :: rest
      else ⟨[c.1], c.2⟩ :: words
    | [] => [⟨[c.1], c.2⟩]

/-- The words of a line, from left to right. -/
def Text.words (line : Text) : List Word := (line.zipIdx 1).foldr Word.extend []

end PlainEnglish
