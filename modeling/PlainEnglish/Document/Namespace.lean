import PlainEnglish.Document.Datum

/-!
# Name spaces of a document

Tables of a document are reached by paths of keys. A path leads through a list of tables into the
last one of them. Some tables must not be opened a second time, and some must not be changed at
all.
-/

namespace PlainEnglish

/-- A path of keys. -/
abbrev KeyPath := List Text

/-- The table that a path leads to is replaced by what `change` makes of it. Tables that are
missing on the way are made. There is no such table if something else stands in the way, and a
list stands in the way unless `throughLists` is set. -/
def Table.changeAt (throughLists : Bool) (change : Table → Option Table) :
    KeyPath → Table → Option Table
  | [], table => change table
  | key :: path, table =>
    let changed : Option Datum :=
      match table.value? key with
      | none => (Table.changeAt throughLists change path []).map .table
      | some (.table inner) => (Table.changeAt throughLists change path inner).map .table
      | some (.list items) =>
        if throughLists then
          match items.getLast? with
          | some (.table inner) =>
            (Table.changeAt throughLists change path inner).map fun inner =>
              .list (items.dropLast ++ [.table inner])
          | _ => none
        else none
      | some _ => none
    changed.map fun value => Table.insert key value table

/-- A new entry of a table, which must not have one with the same key. -/
def Table.addNew (key : Text) (value : Datum) (table : Table) : Option Table :=
  match table.value? key with
  | none => some (Table.insert key value table)
  | some _ => none

/-- One more empty table at the end of a list of tables, which is made if there is none. -/
def Table.addToList (key : Text) (table : Table) : Option Table :=
  match table.value? key with
  | none => some (Table.insert key (.list [.table []]) table)
  | some (.list items) => some (Table.insert key (.list (items ++ [.table []])) table)
  | some _ => none

/-- What is already settled about the tables of a document: the paths that were opened, those
that will count as opened from the next header on, and those below which nothing may change. -/
structure Namespace where
  opened : List KeyPath
  pending : List KeyPath
  frozen : List KeyPath
deriving DecidableEq, Repr

/-- Nothing is settled. -/
def Namespace.empty : Namespace := ⟨[], [], []⟩

/-- Whether a path was opened. -/
def Namespace.isOpened (n : Namespace) (path : KeyPath) : Bool := path ∈ n.opened

/-- Whether nothing may change below a path. -/
def Namespace.isFrozen (n : Namespace) (path : KeyPath) : Bool :=
  n.frozen.any fun frozen => frozen.isPrefixOf path

/-- A path is opened. -/
def Namespace.open (n : Namespace) (path : KeyPath) : Namespace :=
  { n with opened := path :: n.opened }

/-- A path will count as opened from the next header on. -/
def Namespace.openLater (n : Namespace) (path : KeyPath) : Namespace :=
  { n with pending := path :: n.pending }

/-- The next header begins. -/
def Namespace.settle (n : Namespace) : Namespace :=
  { n with opened := n.pending ++ n.opened, pending := [] }

/-- Nothing may change below a path. -/
def Namespace.freeze (n : Namespace) (path : KeyPath) : Namespace :=
  { n with frozen := path :: n.frozen }

/-- Nothing is settled any more about a path and what is below it. -/
def Namespace.release (n : Namespace) (path : KeyPath) : Namespace :=
  { n with
    opened := n.opened.filter fun p => !path.isPrefixOf p
    frozen := n.frozen.filter fun p => !path.isPrefixOf p }

end PlainEnglish
