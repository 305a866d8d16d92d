import PlainEnglish.Document.TomlValue

/-!
# TOML documents

A document is a row of statements, one on a line: entries, which go into the table opened last,
and headers, which open a table or add one to a list of tables.
-/

namespace PlainEnglish

/-- A document up to some statement: its tables, what is settled about them, and the path of the
table that is open. -/
structure Toml.State where
  root : Table
  names : Namespace
  header : KeyPath

/-- An entry is put into the open table. -/
def Toml.State.addEntry (s : Toml.State) (path : KeyPath) (value : Datum) : Option Toml.State :=
  let inner := (List.range (path.length - 1)).map fun i => s.header ++ path.take (i + 1)
  if inner.any s.names.isOpened then none
  else
    let names := inner.foldl Namespace.openLater s.names
    let parent := s.header ++ path.dropLast
    if names.isFrozen parent then none
    else
      (Table.changeAt true (Table.addNew (path.getLastD []) value) parent s.root).map fun root =>
        let names := if value.hasParts then names.freeze (s.header ++ path) else names
        { s with root, names }

/-- A table is opened. -/
def Toml.State.openTable (s : Toml.State) (path : KeyPath) : Option Toml.State :=
  if s.names.isOpened path || s.names.isFrozen path then none
  else
    (Table.changeAt true some path s.root).map fun root =>
      { root, names := s.names.open path, header := path }

/-- A table is added to a list of tables and opened. -/
def Toml.State.openItem (s : Toml.State) (path : KeyPath) : Option Toml.State :=
  if s.names.isFrozen path then none
  else
    (Table.changeAt true (Table.addToList (path.getLastD [])) path.dropLast s.root).map
      fun root => { root, names := (s.names.release path).open path, header := path }

/-- What follows a closing bracket, of which there are as many as of `brackets`. -/
def Toml.closing? (brackets t : Text) : Option Text :=
  if brackets.isPrefixOf t then some (t.drop brackets.length) else none

/-- The state after a header, from behind its opening brackets on. -/
def Toml.readHeader (s : Toml.State) (brackets : Text)
    (openPath : Toml.State → KeyPath → Option Toml.State) (t : Text) : Toml.Reading Toml.State :=
  match Toml.readPath (t.length + 1) [] (Toml.skipSpace t) with
  | .error e => .error e
  | .ok (path, rest) =>
    match openPath { s with names := s.names.settle } path, Toml.closing? brackets rest with
    | some s, some rest => .ok (s, rest)
    | _, _ => .error .malformed

/-- The state after an entry, whose value is nested no deeper than `room` allows. -/
def Toml.readEntry (room : Nat) (s : Toml.State) (t : Text) : Toml.Reading Toml.State :=
  match Toml.readPath (t.length + 1) [] t with
  | .error e => .error e
  | .ok (path, '=' :: rest) =>
    match Toml.readValue (2 * rest.length + 2) room (Toml.skipSpace rest) with
    | .error e => .error e
    | .ok (value, rest) =>
      match s.addEntry path value with
      | some s => .ok (s, rest)
      | none => .error .malformed
  | .ok _ => .error .malformed

/-- Whether a character may begin a key. -/
def Toml.beginsKey (c : Char) : Bool := Toml.isKeyChar c || c == '"' || c == '\''

/-- The state after the statement that a line begins with, if it begins with one. -/
def Toml.readStatement (room : Nat) (s : Toml.State) (t : Text) : Toml.Reading Toml.State :=
  match t with
  | '[' :: '[' :: rest => Toml.readHeader s [']', ']'] Toml.State.openItem rest
  | '[' :: rest => Toml.readHeader s [']'] Toml.State.openTable rest
  | c :: _ =>
    if Toml.beginsKey c then Toml.readEntry room s t
    else if c = '#' ∨ c = '\n' then .ok (s, t)
    else .error .malformed
  | [] => .ok (s, [])

/-- The state after all lines of a text. -/
def Toml.readLines (room : Nat) : Nat → Toml.State → Text → Except Toml.Fault Toml.State
  | 0, s, _ => .ok s
  | fuel + 1, s, t =>
    match Toml.readStatement room s (Toml.skipSpace t) with
    | .error e => .error e
    | .ok (s, rest) =>
      match Toml.skipComment (Toml.skipSpace rest) with
      | .error e => .error e
      | .ok [] => .ok s
      | .ok (c :: rest) =>
        if c = '\n' then Toml.readLines room fuel s rest else .error .malformed

/-- The text with a newline in the place of every carriage return and newline. -/
def Toml.joinNewlines : Text → Text
  | '\r' :: '\n' :: rest => '\n' :: Toml.joinNewlines rest
  | c :: rest => c :: Toml.joinNewlines rest
  | [] => []

/-- The table that a document spells, with values nested no deeper than `room` allows. -/
def Toml.read (room : Nat) (t : Text) : Except Toml.Fault Table :=
  (Toml.readLines room (t.length + 1) ⟨[], Namespace.empty, []⟩ (Toml.joinNewlines t)).map
    (·.root)

end PlainEnglish
