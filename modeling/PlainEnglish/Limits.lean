/-!
# Limits

How deep calls may be nested depends on the machine and on where the program is called from, and
so does how much memory there is. What is read, shown and written here takes its limits as
arguments.
-/

namespace PlainEnglish

/-- How much there is room for: the levels of a JSON document, of a value in a TOML document and
of a value that is shown, and the width to which a text can be filled up. What is read from a
JSON document is shown with fewer calls around it than it was read with, and a width is a signed
number of 64 bits however much memory there is. -/
structure Limits where
  json : Nat
  toml : Nat
  shown : Nat
  width : Nat
  json_le_shown : json ≤ shown
  width_le : width ≤ 0x7fffffffffffffff

/-- What there is room for on a stack of a thousand calls, some of which are taken already, with
as much memory as can be told. -/
def Limits.standard : Limits where
  json := 960
  toml := 970
  shown := 970
  width := 0x7fffffffffffffff
  json_le_shown := by decide
  width_le := by decide

end PlainEnglish
