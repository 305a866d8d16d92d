import PlainEnglish.Json.Basic
import PlainEnglish.Number.Whole
import PlainEnglish.Text.Hex
import PlainEnglish.Text.Utf16

/-!
# Reading JSON

A document is read from left to right, and reading stops at the first fault. Beside the standard
grammar the words for infinities and for no number are values, and a later entry of an object
replaces an earlier one with the same key. Documents may not be nested too deep. Reading also
stops at a text with half of a pair of code units; such a document is given up and not called
faulty.
-/

namespace PlainEnglish

/-- What can be wrong with a document. -/
inductive Json.Fault where
  | byteOrderMark
  | expectedValue
  | expectedName
  | expectedColon
  | expectedComma
  | extraData
  | openText
  | controlCharacter
  | unknownEscape
  | badUnicodeEscape
  | hugeInteger (digits : Nat)
  | tooDeep
  | halfPair
deriving DecidableEq, Repr

/-- The words for a fault. -/
def Json.Fault.message : Json.Fault → Text
  | .byteOrderMark => "Unexpected UTF-8 BOM (decode using utf-8-sig)"
  | .expectedValue => "Expecting value"
  | .expectedName => "Expecting property name enclosed in double quotes"
  | .expectedColon => "Expecting ':' delimiter"
  | .expectedComma => "Expecting ',' delimiter"
  | .extraData => "Extra data"
  | .openText => "Unterminated string starting at"
  | .controlCharacter => "Invalid control character at"
  | .unknownEscape => "Invalid \\escape"
  | .badUnicodeEscape => "Invalid \\uXXXX escape"
  | .hugeInteger digits => tooManyDigits (some digits)
  | .tooDeep => "Nested too deep"
  | .halfPair => "Half of a pair of code units"

/-- A fault and the part of the document that begins at it. -/
structure Json.Stop where
  fault : Json.Fault
  rest : Text

/-- A result of reading a part of a document: what was read and what follows it. -/
abbrev Json.Reading (α : Type) := Except Json.Stop (α × Text)

/-- Whether a character may stand between the parts of a document. -/
def Json.isSpace (c : Char) : Bool := c == ' ' || c == '\t' || c == '\n' || c == '\r'

/-- The document from its next part on. -/
def Json.skipSpace (t : Text) : Text := t.dropWhile Json.isSpace

/-! ### Texts -/

/-- The number that four hexadecimal digits spell. -/
def Json.hexValue4? (a b c d : Char) : Option Nat := do
  let a ← hexDigit? a
  let b ← hexDigit? b
  let c ← hexDigit? c
  let d ← hexDigit? d
  return ((a * 16 + b) * 16 + c) * 16 + d

/-- The character that a short escape stands for. -/
def Json.escaped? (c : Char) : Option Char :=
  match c with
  | '"' => some '"'
  | '\\' => some '\\'
  | '/' => some '/'
  | 'b' => some '\x08'
  | 'f' => some '\x0c'
  | 'n' => some '\n'
  | 'r' => some '\r'
  | 't' => some '\t'
  | _ => none

/-- The code units of a text up to its closing quote. -/
def Json.readUnits (opening : Text) (units : List Nat) : Text → Json.Reading (List Nat)
  | [] => .error ⟨.openText, opening⟩
  | '"' :: rest => .ok (units.reverse, rest)
  | '\\' :: 'u' :: rest =>
    match rest with
    | a :: b :: c :: d :: e :: rest' =>
      match Json.hexValue4? a b c d with
      | some unit => Json.readUnits opening (unit :: units) (e :: rest')
      | none => .error ⟨.badUnicodeEscape, 'u' :: rest⟩
    | _ => .error ⟨.badUnicodeEscape, 'u' :: rest⟩
  | '\\' :: [] => .error ⟨.openText, opening⟩
  | '\\' :: c :: rest =>
    match Json.escaped? c with
    | some c => Json.readUnits opening (c.toNat :: units) rest
    | none => .error ⟨.unknownEscape, '\\' :: c :: rest⟩
  | c :: rest =>
    if c < ' ' then .error ⟨.controlCharacter, c :: rest⟩
    else Json.readUnits opening (c.toNat :: units) rest

/-- The text whose opening quote is the first character of `opening`. -/
def Json.readText (opening : Text) : Json.Reading Text :=
  match Json.readUnits opening [] opening.tail with
  | .error stop => .error stop
  | .ok (units, rest) =>
    match Text.ofUnits? units with
    | some t => .ok (t, rest)
    | none => .error ⟨.halfPair, opening⟩

/-! ### Numbers -/

/-- Whether a character is one of the ten plain digits. -/
def Json.isPlainDigit (c : Char) : Bool := '0' ≤ c && c ≤ '9'

/-- The digits of a whole number, which begins with zero only if it is zero. -/
def Json.readWhole? (t : Text) : Option (Text × Text) :=
  match t with
  | '0' :: rest => some (['0'], rest)
  | _ =>
    let digits := t.takeWhile Json.isPlainDigit
    if digits = [] then none else some (digits, t.dropWhile Json.isPlainDigit)

/-- A point with digits behind it, if there is one. -/
def Json.readFraction (t : Text) : Text × Text :=
  match t with
  | '.' :: rest =>
    let digits := rest.takeWhile Json.isPlainDigit
    if digits = [] then ([], t) else ('.' :: digits, rest.dropWhile Json.isPlainDigit)
  | _ => ([], t)

/-- The letter of an exponent with its sign and digits, if there is one. -/
def Json.readExponent (t : Text) : Text × Text :=
  match t with
  | e :: rest =>
    if e = 'e' ∨ e = 'E' then
      let (sign, unsigned) : Text × Text :=
        match rest with
        | '+' :: rest => (['+'], rest)
        | '-' :: rest => (['-'], rest)
        | _ => ([], rest)
      let digits := unsigned.takeWhile Json.isPlainDigit
      if digits = [] then ([], t)
      else (e :: sign ++ digits, unsigned.dropWhile Json.isPlainDigit)
    else ([], t)
  | [] => ([], t)

/-- The number that a document begins with. -/
def Json.readNumber (t : Text) : Json.Reading Json :=
  let (sign, unsigned) : Text × Text :=
    match t with
    | '-' :: rest => (['-'], rest)
    | _ => ([], t)
  match Json.readWhole? unsigned with
  | none => .error ⟨.expectedValue, t⟩
  | some (whole, afterWhole) =>
    let (fraction, afterFraction) := Json.readFraction afterWhole
    let (exponent, rest) := Json.readExponent afterFraction
    if fraction = [] ∧ exponent = [] then
      if mostDigits < whole.length then .error ⟨.hugeInteger whole.length, t⟩
      else
        let value : Int := Text.digitsValue whole
        .ok (.integer (if sign = [] then value else -value), rest)
    else
      match Numeral.read? (sign ++ whole ++ fraction ++ exponent) with
      | some numeral => .ok (.number numeral.toNumber, rest)
      | none => .error ⟨.expectedValue, t⟩

/-! ### Values -/

/-- The values that are written as a word. -/
def Json.wordValues : List (Text × Json) :=
  [("null", .null), ("true", .bool true), ("false", .bool false), ("NaN", .number .nan),
    ("Infinity", .number (.infinite false)), ("-Infinity", .number (.infinite true))]

/-- The value whose word a document begins with. -/
def Json.readWord? (t : Text) : Option (Json × Text) :=
  (Json.wordValues.find? fun entry => entry.1.isPrefixOf t).map fun entry =>
    (entry.2, t.drop entry.1.length)

mutual

/-- The value that a document begins with, nested no deeper than `room` allows. Each step of the
reading uses up one unit of `fuel`, and two units for each character are enough. -/
def Json.readValue : Nat → Nat → Text → Json.Reading Json
  | 0, _, t => .error ⟨.expectedValue, t⟩
  | fuel + 1, room, t =>
    match t with
    | '"' :: _ => (Json.readText t).map fun (content, rest) => (.text content, rest)
    | '[' :: rest =>
      if room = 0 then .error ⟨.tooDeep, t⟩
      else
        match Json.skipSpace rest with
        | ']' :: rest => .ok (.array [], rest)
        | rest => Json.readItems fuel (room - 1) [] rest
    | '{' :: rest =>
      if room = 0 then .error ⟨.tooDeep, t⟩
      else
        match Json.skipSpace rest with
        | '}' :: rest => .ok (.object [], rest)
        | rest => Json.readEntries fuel (room - 1) [] rest
    | _ =>
      match Json.readWord? t with
      | some result => .ok result
      | none => Json.readNumber t

/-- The items of an array up to its end, behind the items that are already read. -/
def Json.readItems : Nat → Nat → List Json → Text → Json.Reading Json
  | 0, _, _, t => .error ⟨.expectedValue, t⟩
  | fuel + 1, room, items, t =>
    match Json.readValue fuel room t with
    | .error stop => .error stop
    | .ok (item, rest) =>
      match Json.skipSpace rest with
      | ']' :: rest => .ok (.array (item :: items).reverse, rest)
      | ',' :: rest => Json.readItems fuel room (item :: items) (Json.skipSpace rest)
      | rest => .error ⟨.expectedComma, rest⟩

/-- The entries of an object up to its end, after the entries that are already read. -/
def Json.readEntries : Nat → Nat → List (Text × Json) → Text → Json.Reading Json
  | 0, _, _, t => .error ⟨.expectedValue, t⟩
  | fuel + 1, room, entries, t =>
    match t with
    | '"' :: _ =>
      match Json.readText t with
      | .error stop => .error stop
      | .ok (key, rest) =>
        match Json.skipSpace rest with
        | ':' :: rest =>
          match Json.readValue fuel room (Json.skipSpace rest) with
          | .error stop => .error stop
          | .ok (value, rest) =>
            match Json.skipSpace rest with
            | '}' :: rest => .ok (.object (Json.insert key value entries), rest)
            | ',' :: rest =>
              Json.readEntries fuel room (Json.insert key value entries) (Json.skipSpace rest)
            | rest => .error ⟨.expectedComma, rest⟩
        | rest => .error ⟨.expectedColon, rest⟩
    | _ => .error ⟨.expectedName, t⟩

end

/-- The value of a whole document, nested no deeper than `room` allows. -/
def Json.readAll (room : Nat) (t : Text) : Except Json.Stop Json :=
  if t.head? = some '\ufeff' then .error ⟨.byteOrderMark, t⟩
  else
    match Json.readValue (2 * t.length + 2) room (Json.skipSpace t) with
    | .error stop => .error stop
    | .ok (value, rest) =>
      match Json.skipSpace rest with
      | [] => .ok value
      | rest => .error ⟨.extraData, rest⟩

/-- A fault of a document and the place of it, counted in characters from zero. -/
structure Json.ReadError where
  fault : Json.Fault
  offset : Nat
deriving DecidableEq, Repr

/-- The line of a place of a document. -/
def Json.ReadError.line (e : Json.ReadError) (document : Text) : Nat :=
  (document.take e.offset).count '\n' + 1

/-- The value of a whole document, nested no deeper than `room` allows, or its first fault. -/
def Json.readWithin (room : Nat) (t : Text) : Except Json.ReadError Json :=
  match Json.readAll room t with
  | .ok value => .ok value
  | .error stop => .error ⟨stop.fault, t.length - stop.rest.length⟩

end PlainEnglish
