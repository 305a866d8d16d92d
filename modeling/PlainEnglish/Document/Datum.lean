import PlainEnglish.Document.Moment
import PlainEnglish.Files.Basic
import PlainEnglish.Json.Basic
import PlainEnglish.Number.Written
import PlainEnglish.Text.Quoted

/-!
# Data

The values that settings documents hold, whatever language they are written in.
-/

namespace PlainEnglish

/-- A value of a document. The entries of a table keep their order. -/
inductive Datum where
  | null
  | bool (b : Bool)
  | integer (n : Int)
  | number (x : Number)
  | text (t : Text)
  | moment (m : Moment)
  | list (items : List Datum)
  | table (entries : List (Text × Datum))
deriving Repr, Inhabited

/-- The entries of a table. -/
abbrev Table := List (Text × Datum)

/-- The value of a table under a key. -/
def Table.value? (table : Table) (key : Text) : Option Datum := table.lookup key

/-- The table with an entry put under a key, in the place of the entry that the key already
has. -/
def Table.insert (key : Text) (value : Datum) : Table → Table
  | [] => [(key, value)]
  | (k, v) :: rest =>
    if k = key then (key, value) :: rest else (k, v) :: Table.insert key value rest

/-- Whether a value says nothing: null, false, zero, and whatever is empty. -/
def Datum.isVoid : Datum → Bool
  | .null => true
  | .bool b => !b
  | .integer n => n = 0
  | .number x => x.isZero
  | .text t => t.isEmpty
  | .moment _ => false
  | .list items => items.isEmpty
  | .table entries => entries.isEmpty

mutual

/-- A JSON value as a value of a document. -/
def Datum.ofJson : Json → Datum
  | .null => .null
  | .bool b => .bool b
  | .integer n => .integer n
  | .number x => .number x
  | .text t => .text t
  | .array items => .list (Datum.ofItems items)
  | .object entries => .table (Datum.ofEntries entries)

/-- JSON values as values of a document. -/
def Datum.ofItems : List Json → List Datum
  | [] => []
  | item :: items => Datum.ofJson item :: Datum.ofItems items

/-- The entries of a JSON object as entries of a table. -/
def Datum.ofEntries : List (Text × Json) → List (Text × Datum)
  | [] => []
  | (key, value) :: entries => (key, Datum.ofJson value) :: Datum.ofEntries entries

end

/-! ### As text -/

mutual

/-- Why a value cannot be written, if it cannot: it is nested deeper than `room` allows, or it
holds an integer with too many digits. -/
def Datum.obstacle? (room : Nat) : Datum → Option ReadFailure
  | .integer n => if isWritable n then none else some (.hugeInteger none)
  | .list items => if room = 0 then some .tooDeep else Datum.obstacleInItems? (room - 1) items
  | .table entries =>
    if room = 0 then some .tooDeep else Datum.obstacleInEntries? (room - 1) entries
  | _ => none

/-- Why values cannot be written, if they cannot. -/
def Datum.obstacleInItems? (room : Nat) : List Datum → Option ReadFailure
  | [] => none
  | item :: items => (item.obstacle? room).or (Datum.obstacleInItems? room items)

/-- Why entries of a table cannot be written, if they cannot. -/
def Datum.obstacleInEntries? (room : Nat) : List (Text × Datum) → Option ReadFailure
  | [] => none
  | (_, value) :: entries => (value.obstacle? room).or (Datum.obstacleInEntries? room entries)

end

mutual

/-- A value as messages show it: texts between quotes, lists and tables in brackets. -/
def Datum.inspect : Datum → Text
  | .null => "None"
  | .bool true => "True"
  | .bool false => "False"
  | .integer n => Text.ofInt n
  | .number x => x.literal
  | .text t => t.quoted
  | .moment m => m.inspect
  | .list items => '[' :: Text.join ", " (Datum.inspectItems items) ++ [']']
  | .table entries => '\x7b' :: Text.join ", " (Datum.inspectEntries entries) ++ ['\x7d']

/-- Values as messages show them. -/
def Datum.inspectItems : List Datum → List Text
  | [] => []
  | item :: items => item.inspect :: Datum.inspectItems items

/-- Entries of a table as messages show them. -/
def Datum.inspectEntries : List (Text × Datum) → List Text
  | [] => []
  | (key, value) :: entries =>
    (key.quoted ++ ": " ++ value.inspect) :: Datum.inspectEntries entries

end

/-- A value as plain text: a text is itself, and other values are as messages show them, but for
moments, which are written with the marks of the calendar and the clock. -/
def Datum.show : Datum → Text
  | .text t => t
  | .moment m => m.show
  | d => d.inspect

end PlainEnglish
