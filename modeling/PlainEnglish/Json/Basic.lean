import PlainEnglish.Number.Basic

/-!
# JSON values

The entries of an object keep their order.
-/

namespace PlainEnglish

/-- A JSON value. Numbers without a point and an exponent are integers of any size. -/
inductive Json where
  | null
  | bool (b : Bool)
  | integer (n : Int)
  | number (x : Number)
  | text (t : Text)
  | array (items : List Json)
  | object (entries : List (Text × Json))
deriving Repr, Inhabited

/-- The entry of a list of entries under a key. -/
def Json.find? (key : Text) (entries : List (Text × Json)) : Option Json := entries.lookup key

/-- An entry is put under a key: in the place of the entry that the key already has, and behind
all others if there is none. -/
def Json.insert (key : Text) (value : Json) : List (Text × Json) → List (Text × Json)
  | [] => [(key, value)]
  | (k, v) :: rest =>
    if k = key then (key, value) :: rest else (k, v) :: Json.insert key value rest

mutual

/-- Whether all numbers of a value are finite. -/
def Json.isFinite : Json → Bool
  | .number x => x.isFinite
  | .array items => Json.allFinite items
  | .object entries => Json.entriesFinite entries
  | _ => true

/-- Whether all numbers of values are finite. -/
def Json.allFinite : List Json → Bool
  | [] => true
  | item :: items => item.isFinite && Json.allFinite items

/-- Whether all numbers of the values of entries are finite. -/
def Json.entriesFinite : List (Text × Json) → Bool
  | [] => true
  | (_, value) :: entries => value.isFinite && Json.entriesFinite entries

end

/-- A text as a value. -/
def Json.ofText (t : Text) : Json := .text t

/-- A list of texts as a value. -/
def Json.ofTexts (ts : List Text) : Json := .array (ts.map .text)

end PlainEnglish
