import PlainEnglish.Json.Basic
import PlainEnglish.Number.Written
import PlainEnglish.Text.Quoted

/-!
# Writing JSON

Documents hold plain ASCII only: all other characters are escaped, those beyond the first plane
as a pair of code units.
-/

namespace PlainEnglish

/-- One code unit as an escape. -/
def Json.unitEscape (unit : Nat) : Text := '\\' :: 'u' :: Text.hex 4 unit

/-- A character between quotes. -/
def Json.writeChar (c : Char) : Text :=
  if c = '"' then ['\\', '"']
  else if c = '\\' then ['\\', '\\']
  else if c = '\n' then ['\\', 'n']
  else if c = '\r' then ['\\', 'r']
  else if c = '\t' then ['\\', 't']
  else if c = '\x08' then ['\\', 'b']
  else if c = '\x0c' then ['\\', 'f']
  else if ' ' ≤ c ∧ c ≤ '~' then [c]
  else if c.toNat < 0x10000 then Json.unitEscape c.toNat
  else
    Json.unitEscape (0xd800 + (c.toNat - 0x10000) / 0x400) ++
      Json.unitEscape (0xdc00 + (c.toNat - 0x10000) % 0x400)

/-- A text between quotes. -/
def Json.writeText (t : Text) : Text := '"' :: t.flatMap Json.writeChar ++ ['"']

/-- A number. -/
def Json.writeNumber : Number → Text
  | .nan => "NaN"
  | .infinite negative => Text.sign negative ++ "Infinity"
  | x => x.literal

/-- How the parts of a document are kept apart: nothing but the marks, a space behind each mark,
or a new line for each part with the given number of spaces for each level. -/
inductive Json.Layout where
  | compact
  | spaced
  | indented (width : Nat)
deriving DecidableEq, Repr

/-- What stands in front of a part that is `level` levels deep. -/
def Json.Layout.lead (layout : Json.Layout) (level : Nat) : Text :=
  match layout with
  | .indented width => '\n' :: List.replicate (width * level) ' '
  | _ => []

/-- What stands between two parts that are `level` levels deep. -/
def Json.Layout.separator (layout : Json.Layout) (level : Nat) : Text :=
  match layout with
  | .spaced => [',', ' ']
  | _ => ',' :: layout.lead level

/-- What stands between a key and its value. -/
def Json.Layout.colon (layout : Json.Layout) : Text :=
  match layout with
  | .compact => [':']
  | _ => [':', ' ']

mutual

/-- A value that stands `level` levels deep. -/
def Json.writeAt (layout : Json.Layout) (level : Nat) : Json → Text
  | .null => "null"
  | .bool true => "true"
  | .bool false => "false"
  | .integer n => Text.ofInt n
  | .number x => Json.writeNumber x
  | .text t => Json.writeText t
  | .array [] => ['[', ']']
  | .array items =>
    '[' :: layout.lead (level + 1) ++
      Text.join (layout.separator (level + 1)) (Json.writeItems layout (level + 1) items) ++
      layout.lead level ++ [']']
  | .object [] => ['\x7b', '\x7d']
  | .object entries =>
    '\x7b' :: layout.lead (level + 1) ++
      Text.join (layout.separator (level + 1)) (Json.writeEntries layout (level + 1) entries) ++
      layout.lead level ++ ['\x7d']

/-- Values that stand `level` levels deep. -/
def Json.writeItems (layout : Json.Layout) (level : Nat) : List Json → List Text
  | [] => []
  | item :: items => Json.writeAt layout level item :: Json.writeItems layout level items

/-- Entries that stand `level` levels deep. -/
def Json.writeEntries (layout : Json.Layout) (level : Nat) : List (Text × Json) → List Text
  | [] => []
  | (key, value) :: entries =>
    (Json.writeText key ++ layout.colon ++ Json.writeAt layout level value) ::
      Json.writeEntries layout level entries

end

/-- A value as a document. -/
def Json.write (layout : Json.Layout) (value : Json) : Text := Json.writeAt layout 0 value

end PlainEnglish
