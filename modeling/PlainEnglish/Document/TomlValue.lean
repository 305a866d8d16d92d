import PlainEnglish.Document.Namespace
import PlainEnglish.Json.Read

/-!
# TOML values

Each reader takes a value, or a part of one, off the beginning of a text.
-/

namespace PlainEnglish

/-- What can be wrong with a TOML document. -/
inductive Toml.Fault where
  | malformed
  | hugeInteger (digits : Nat)
  | tooDeep
deriving DecidableEq, Repr

/-- A result of reading a part of a document: what was read and what follows it. -/
abbrev Toml.Reading (α : Type) := Except Toml.Fault (α × Text)

/-! ### Blanks and comments -/

/-- Whether a character is a blank within a line. -/
def Toml.isSpace (c : Char) : Bool := c == ' ' || c == '\t'

/-- The text from the next part of the line on. -/
def Toml.skipSpace (t : Text) : Text := t.dropWhile Toml.isSpace

/-- Whether a character is a blank or ends a line. -/
def Toml.isSpaceOrNewline (c : Char) : Bool := Toml.isSpace c || c == '\n'

/-- Whether a character may not stand in texts and comments of one line. -/
def Toml.isControl (c : Char) : Bool := (c < ' ' && c != '\t') || c == '\x7f'

/-- Whether a character may not stand in texts of several lines. -/
def Toml.isControlInLines (c : Char) : Bool := Toml.isControl c && c != '\n'

/-- The text behind the comment that it begins with, if it begins with one. -/
def Toml.skipComment (t : Text) : Except Toml.Fault Text :=
  match t with
  | '#' :: rest =>
    if (rest.takeWhile (· ≠ '\n')).any Toml.isControl then .error .malformed
    else .ok (rest.dropWhile (· ≠ '\n'))
  | _ => .ok t

/-- The text from its next part on, past the ends of lines and comments. -/
def Toml.skipLines : Nat → Text → Except Toml.Fault Text
  | 0, t => .ok t
  | fuel + 1, t =>
    let t := t.dropWhile Toml.isSpaceOrNewline
    match t with
    | '#' :: _ =>
      match Toml.skipComment t with
      | .ok rest => Toml.skipLines fuel rest
      | .error e => .error e
    | _ => .ok t

/-! ### Texts -/

/-- The character that a short escape stands for. -/
def Toml.escaped? (c : Char) : Option Char :=
  match c with
  | 'b' => some '\x08'
  | 't' => some '\t'
  | 'n' => some '\n'
  | 'f' => some '\x0c'
  | 'r' => some '\r'
  | '"' => some '"'
  | '\\' => some '\\'
  | _ => none

/-- The character whose code point has the given number of hexadecimal digits. -/
def Toml.readCodePoint (width : Nat) (t : Text) : Toml.Reading Char :=
  let digits := t.take width
  if digits.length = width ∧ digits.all fun c => (hexDigit? c).isSome then
    let n := digits.foldl (fun n c => n * 16 + (hexDigit? c).getD 0) 0
    if n < 0xd800 ∨ (0xe000 ≤ n ∧ n < 0x110000) then .ok (Char.ofNat n, t.drop width)
    else .error .malformed
  else .error .malformed

/-- What an escape stands for, from behind its backslash on. In texts of several lines an escape
at the end of a line takes away all blanks up to the next character. -/
def Toml.readEscape (severalLines : Bool) (t : Text) : Toml.Reading Text :=
  match t with
  | [] => .error .malformed
  | c :: rest =>
    if severalLines && c == '\n' then .ok ([], rest.dropWhile Toml.isSpaceOrNewline)
    else if severalLines && Toml.isSpace c then
      match Toml.skipSpace rest with
      | [] => .ok ([], [])
      | '\n' :: rest => .ok ([], rest.dropWhile Toml.isSpaceOrNewline)
      | _ => .error .malformed
    else if c = 'u' then (Toml.readCodePoint 4 rest).map fun (c, rest) => ([c], rest)
    else if c = 'U' then (Toml.readCodePoint 8 rest).map fun (c, rest) => ([c], rest)
    else
      match Toml.escaped? c with
      | some c => .ok ([c], rest)
      | none => .error .malformed

/-- The rest of a text with escapes, up to its closing quotes. -/
def Toml.readBasic (severalLines : Bool) : Nat → Text → Text → Toml.Reading Text
  | 0, _, _ => .error .malformed
  | fuel + 1, done, t =>
    match t with
    | [] => .error .malformed
    | '"' :: rest =>
      if severalLines then
        match rest with
        | '"' :: '"' :: rest => .ok (done.reverse, rest)
        | _ => Toml.readBasic severalLines fuel ('"' :: done) rest
      else .ok (done.reverse, rest)
    | '\\' :: rest =>
      match Toml.readEscape severalLines rest with
      | .ok (chars, rest) => Toml.readBasic severalLines fuel (chars.reverse ++ done) rest
      | .error e => .error e
    | c :: rest =>
      if if severalLines then Toml.isControlInLines c else Toml.isControl c then
        .error .malformed
      else Toml.readBasic severalLines fuel (c :: done) rest

/-- A text without escapes, from behind its opening quote on. -/
def Toml.readLiteral (t : Text) : Toml.Reading Text :=
  let body := t.takeWhile (· ≠ '\'')
  match t.dropWhile (· ≠ '\'') with
  | _ :: rest => if body.any Toml.isControl then .error .malformed else .ok (body, rest)
  | [] => .error .malformed

/-- The rest of a text of several lines without escapes, up to its closing quotes. -/
def Toml.readLiteralLines (done : Text) : Text → Toml.Reading Text
  | [] => .error .malformed
  | '\'' :: '\'' :: '\'' :: rest =>
    if done.any Toml.isControlInLines then .error .malformed else .ok (done.reverse, rest)
  | c :: rest => Toml.readLiteralLines (c :: done) rest

/-- Up to two more quotes that stand in front of the closing ones. -/
def Toml.moreQuotes (quote : Char) (result : Text × Text) : Text × Text :=
  match result with
  | (body, c :: d :: rest) =>
    if c = quote then
      if d = quote then (body ++ [quote, quote], rest) else (body ++ [quote], d :: rest)
    else result
  | (body, [c]) => if c = quote then (body ++ [quote], []) else result
  | _ => result

/-- Without the newline that a text begins with. -/
def Toml.dropFirstNewline : Text → Text
  | '\n' :: rest => rest
  | t => t

/-- The text in quotes of either kind that a document begins with, on one line or, if it is a
value, on several. -/
def Toml.readText (isValue : Bool) (t : Text) : Toml.Reading Text :=
  match t with
  | '"' :: rest =>
    match isValue, rest with
    | true, '"' :: '"' :: rest =>
      (Toml.readBasic true (rest.length + 1) [] (Toml.dropFirstNewline rest)).map
        (Toml.moreQuotes '"')
    | _, _ => Toml.readBasic false (rest.length + 1) [] rest
  | '\'' :: rest =>
    match isValue, rest with
    | true, '\'' :: '\'' :: rest =>
      (Toml.readLiteralLines [] (Toml.dropFirstNewline rest)).map (Toml.moreQuotes '\'')
    | _, _ => Toml.readLiteral rest
  | _ => .error .malformed

/-! ### Keys -/

/-- Whether a character may stand in a key without quotes. -/
def Toml.isKeyChar (c : Char) : Bool :=
  ('a' ≤ c && c ≤ 'z') || ('A' ≤ c && c ≤ 'Z') || ('0' ≤ c && c ≤ '9') || c == '-' || c == '_'

/-- One key. -/
def Toml.readKey (t : Text) : Toml.Reading Text :=
  let key := t.takeWhile Toml.isKeyChar
  if key = [] then Toml.readText false t else .ok (key, t.dropWhile Toml.isKeyChar)

/-- Keys with points between them, behind the keys that are already read; blanks behind them are
skipped. -/
def Toml.readPath : Nat → KeyPath → Text → Toml.Reading KeyPath
  | 0, _, _ => .error .malformed
  | fuel + 1, done, t =>
    match Toml.readKey t with
    | .error e => .error e
    | .ok (key, rest) =>
      match Toml.skipSpace rest with
      | '.' :: rest => Toml.readPath fuel (key :: done) (Toml.skipSpace rest)
      | rest => .ok ((key :: done).reverse, rest)

/-! ### Moments -/

/-- A number of exactly the given number of plain digits. -/
def Toml.readDigits? (width : Nat) (t : Text) : Option (Nat × Text) :=
  let digits := t.take width
  if digits.length = width ∧ digits.all Json.isPlainDigit then
    some (Text.digitsValue digits, t.drop width)
  else none

/-- The text behind the given character. -/
def Toml.readMark? (mark : Char) : Text → Option Text
  | c :: rest => if c = mark then some rest else none
  | [] => none

/-- A number of two digits within bounds. -/
def Toml.readPair? (low high : Nat) (t : Text) : Option (Nat × Text) :=
  match Toml.readDigits? 2 t with
  | some (n, rest) => if low ≤ n ∧ n ≤ high then some (n, rest) else none
  | none => none

/-- A day of the calendar; its existence is not looked at. -/
def Toml.readDay? (t : Text) : Option (Day × Text) := do
  let (year, t) ← Toml.readDigits? 4 t
  let t ← Toml.readMark? '-' t
  let (month, t) ← Toml.readPair? 1 12 t
  let t ← Toml.readMark? '-' t
  let (day, t) ← Toml.readPair? 1 31 t
  return (⟨year, month, day⟩, t)

/-- The microseconds behind a point, if there are any; digits beyond the sixth do not count. -/
def Toml.readMicroseconds (t : Text) : Nat × Text :=
  match t with
  | '.' :: rest =>
    let digits := rest.takeWhile Json.isPlainDigit
    if digits = [] then (0, t)
    else
      (Text.digitsValue ((digits ++ List.replicate 6 '0').take 6),
        rest.dropWhile Json.isPlainDigit)
  | _ => (0, t)

/-- A time of day. -/
def Toml.readTime? (t : Text) : Option (TimeOfDay × Text) := do
  let (hour, t) ← Toml.readPair? 0 23 t
  let t ← Toml.readMark? ':' t
  let (minute, t) ← Toml.readPair? 0 59 t
  let t ← Toml.readMark? ':' t
  let (second, t) ← Toml.readPair? 0 59 t
  let (microsecond, t) := Toml.readMicroseconds t
  return (⟨hour, minute, second, microsecond⟩, t)

/-- The hours and minutes of a distance from universal time. -/
def Toml.readHoursMinutes? (t : Text) : Option (Int × Text) := do
  let (hour, t) ← Toml.readPair? 0 23 t
  let t ← Toml.readMark? ':' t
  let (minute, t) ← Toml.readPair? 0 59 t
  return (((hour * 60 + minute : Nat) : Int), t)

/-- The distance from universal time, if one is given. -/
def Toml.readOffset (t : Text) : Option Int × Text :=
  match t with
  | c :: rest =>
    if c = 'Z' ∨ c = 'z' then (some 0, rest)
    else if c = '+' then
      match Toml.readHoursMinutes? rest with
      | some (offset, rest) => (some offset, rest)
      | none => (none, t)
    else if c = '-' then
      match Toml.readHoursMinutes? rest with
      | some (offset, rest) => (some (-offset), rest)
      | none => (none, t)
    else (none, t)
  | [] => (none, t)

/-- The time of day behind a day, with its distance from universal time, if one is given. -/
def Toml.readDayTime? (t : Text) : Option (TimeOfDay × Option Int × Text) :=
  match t with
  | c :: rest =>
    if c = 'T' ∨ c = 't' ∨ c = ' ' then
      (Toml.readTime? rest).map fun (time, rest) =>
        let (offset, rest) := Toml.readOffset rest
        (time, offset, rest)
    else none
  | [] => none

/-- The moment that a document begins with, if it begins with one. -/
def Toml.readMoment? (t : Text) : Option (Toml.Reading Moment) :=
  match Toml.readDay? t with
  | some (day, rest) =>
    some (if day.exists then
      match Toml.readDayTime? rest with
      | some (time, offset, rest) => .ok (.both day time offset, rest)
      | none => .ok (.day day, rest)
    else .error .malformed)
  | none => (Toml.readTime? t).map fun (time, rest) => .ok (.time time, rest)

/-! ### Numbers -/

/-- Digits with single underscores between them. -/
def Toml.takeDigits (isDigit : Char → Bool) : Text → Text × Text
  | c :: rest =>
    if isDigit c then
      let (digits, rest) := Toml.takeDigits isDigit rest
      (c :: digits, rest)
    else
      match c, rest with
      | '_', d :: _ =>
        if isDigit d then Toml.takeDigits isDigit rest else ([], c :: rest)
      | _, _ => ([], c :: rest)
  | [] => ([], [])

/-- Digits with single underscores between them, of which the first one is a digit. -/
def Toml.takeNumber (isDigit : Char → Bool) (t : Text) : Text × Text :=
  if t.head?.any isDigit then Toml.takeDigits isDigit t else ([], t)

/-- Whether a character is a digit of a number that is not written in tens. -/
def Toml.isBaseDigit (base : Nat) (c : Char) : Bool := (hexDigit? c).any (· < base)

/-- The base that a letter stands for. -/
def Toml.base? (c : Char) : Option Nat :=
  match c with
  | 'x' => some 16
  | 'o' => some 8
  | 'b' => some 2
  | _ => none

/-- The whole number with a base in front that a document begins with, if it begins with one. -/
def Toml.readBased? (t : Text) : Option (Int × Text) :=
  match t with
  | '0' :: letter :: rest =>
    match Toml.base? letter with
    | some base =>
      match Toml.takeNumber (Toml.isBaseDigit base) rest with
      | ([], _) => none
      | (digits, rest) =>
        some (((digits.foldl (fun n c => n * base + (hexDigit? c).getD 0) 0 : Nat) : Int), rest)
    | none => none
  | _ => none

/-- The fraction with its point that a document begins with, if it begins with one. -/
def Toml.readFraction (t : Text) : Text × Text :=
  match t with
  | '.' :: rest =>
    match Toml.takeNumber Json.isPlainDigit rest with
    | ([], _) => ([], t)
    | (digits, rest) => ('.' :: digits, rest)
  | _ => ([], t)

/-- The sign that a document begins with, if it begins with one. -/
def Toml.readSign (t : Text) : Text × Text :=
  match t with
  | '+' :: rest => (['+'], rest)
  | '-' :: rest => (['-'], rest)
  | _ => ([], t)

/-- The exponent with its letter that a document begins with, if it begins with one. -/
def Toml.readExponent (t : Text) : Text × Text :=
  match t with
  | c :: rest =>
    if c = 'e' ∨ c = 'E' then
      let (sign, unsigned) := Toml.readSign rest
      match Toml.takeNumber Json.isPlainDigit unsigned with
      | ([], _) => ([], t)
      | (digits, rest) => (c :: sign ++ digits, rest)
    else ([], t)
  | [] => ([], t)

/-- The whole part of a number in tens, which begins with zero only if it is zero. -/
def Toml.readWhole (t : Text) : Text × Text :=
  match t with
  | '0' :: rest => (['0'], rest)
  | _ => Toml.takeNumber Json.isPlainDigit t

/-- The number in tens that a document begins with, if it begins with one. -/
def Toml.readTens? (t : Text) : Option (Toml.Reading Datum) :=
  let (sign, unsigned) := Toml.readSign t
  match Toml.readWhole unsigned with
  | ([], _) => none
  | (whole, afterWhole) =>
    let (fraction, afterFraction) := Toml.readFraction afterWhole
    let (exponent, rest) := Toml.readExponent afterFraction
    some (if fraction = [] ∧ exponent = [] then
      if mostDigits < whole.length then .error (.hugeInteger whole.length)
      else
        let value : Int := Text.digitsValue whole
        .ok (.integer (if sign = ['-'] then -value else value), rest)
    else
      match Numeral.read? (sign ++ whole ++ fraction ++ exponent) with
      | some numeral => .ok (.number numeral.toNumber, rest)
      | none => .error .malformed)

/-- The words for numbers that have no figures. -/
def Toml.numberWords : List (Text × Number) :=
  [("inf", .infinite false), ("nan", .nan), ("-inf", .infinite true), ("+inf", .infinite false),
    ("-nan", .nan), ("+nan", .nan)]

/-- The number that a document begins with. -/
def Toml.readNumber (t : Text) : Toml.Reading Datum :=
  match Toml.readBased? t with
  | some (n, rest) => .ok (.integer n, rest)
  | none =>
    match Toml.readTens? t with
    | some reading => reading
    | none =>
      match Toml.numberWords.find? fun entry => entry.1.isPrefixOf t with
      | some (word, x) => .ok (.number x, t.drop word.length)
      | none => .error .malformed

/-! ### Values -/

/-- Whether a value is a list or a table. -/
def Datum.hasParts : Datum → Bool
  | .list _ | .table _ => true
  | _ => false

mutual

/-- The value that a document begins with, nested no deeper than `room` allows: a list takes two
units of it, and a table in braces three. Each step of the reading uses up one unit of `fuel`. -/
def Toml.readValue : Nat → Nat → Text → Toml.Reading Datum
  | 0, _, _ => .error .malformed
  | fuel + 1, room, t =>
    match t with
    | '"' :: _ | '\'' :: _ =>
      (Toml.readText true t).map fun (content, rest) => (.text content, rest)
    | 't' :: 'r' :: 'u' :: 'e' :: rest => .ok (.bool true, rest)
    | 'f' :: 'a' :: 'l' :: 's' :: 'e' :: rest => .ok (.bool false, rest)
    | '[' :: rest =>
      if room < 2 then .error .tooDeep
      else
        match Toml.skipLines (rest.length + 1) rest with
        | .error e => .error e
        | .ok (']' :: rest) => .ok (.list [], rest)
        | .ok rest => Toml.readItems fuel (room - 2) [] rest
    | '\x7b' :: rest =>
      if room < 3 then .error .tooDeep
      else
        match Toml.skipSpace rest with
        | '\x7d' :: rest => .ok (.table [], rest)
        | rest => Toml.readEntries fuel (room - 3) Namespace.empty [] rest
    | _ =>
      match Toml.readMoment? t with
      | some reading => reading.map fun (moment, rest) => (.moment moment, rest)
      | none => Toml.readNumber t

/-- The items of a list up to its end, behind the items that are already read. -/
def Toml.readItems : Nat → Nat → List Datum → Text → Toml.Reading Datum
  | 0, _, _, _ => .error .malformed
  | fuel + 1, room, items, t =>
    match Toml.readValue fuel room t with
    | .error e => .error e
    | .ok (item, rest) =>
      match Toml.skipLines (rest.length + 1) rest with
      | .error e => .error e
      | .ok (']' :: rest) => .ok (.list (item :: items).reverse, rest)
      | .ok (',' :: rest) =>
        match Toml.skipLines (rest.length + 1) rest with
        | .error e => .error e
        | .ok (']' :: rest) => .ok (.list (item :: items).reverse, rest)
        | .ok rest => Toml.readItems fuel room (item :: items) rest
      | .ok _ => .error .malformed

/-- The entries of a table in braces up to its end, after the entries that are already read. -/
def Toml.readEntries : Nat → Nat → Namespace → Table → Text → Toml.Reading Datum
  | 0, _, _, _, _ => .error .malformed
  | fuel + 1, room, names, table, t =>
    match Toml.readPath (t.length + 1) [] t with
    | .error e => .error e
    | .ok (path, '=' :: rest) =>
      match Toml.readValue fuel room (Toml.skipSpace rest) with
      | .error e => .error e
      | .ok (value, rest) =>
        if names.isFrozen path then .error .malformed
        else
          match Table.changeAt false (Table.addNew (path.getLastD []) value)
            path.dropLast table with
          | none => .error .malformed
          | some table =>
            match Toml.skipSpace rest with
            | '\x7d' :: rest => .ok (.table table, rest)
            | ',' :: rest =>
              let names := if value.hasParts then names.freeze path else names
              Toml.readEntries fuel room names table (Toml.skipSpace rest)
            | _ => .error .malformed
    | .ok _ => .error .malformed

end

end PlainEnglish
