import PlainEnglish.Text.Utf8

/-!
# Paths

A path is a row of names, from the root of all files on or from the working directory on.
-/

namespace PlainEnglish

/-- A path: whether it begins at the root, and its names. -/
structure Path where
  fromRoot : Bool
  names : List Text
deriving DecidableEq, Repr

/-- The path that a text spells. Empty names and names of a single dot do not count. -/
def Path.ofText (t : Text) : Path :=
  ⟨t.head? = some '/', (Text.splitAt '/' t).filter fun name => name ≠ [] && name ≠ ['.']⟩

/-- A path as text. -/
def Path.text (p : Path) : Text :=
  let joined := Text.join ['/'] p.names
  if p.fromRoot then '/' :: joined else if joined = [] then ['.'] else joined

/-- The place that another path leads to from here. -/
def Path.follow (base p : Path) : Path :=
  if p.fromRoot then p else ⟨base.fromRoot, base.names ++ p.names⟩

/-- Names with each double dot taken together with the name in front of it; the names in front
come in `done`, the nearest first. -/
def Path.withoutDots (done : List Text) : List Text → List Text
  | [] => done.reverse
  | name :: rest => Path.withoutDots (if name = ['.', '.'] then done.tail else name :: done) rest

/-- The place that a path leads to from a directory, without any double dots. -/
def Path.resolve (directory p : Path) : Path :=
  let whole := directory.follow p
  ⟨whole.fromRoot, Path.withoutDots [] whole.names⟩

/-! ### Length -/

/-- Whether a name is too long to be looked for: it takes more than 255 bytes. -/
def Text.isLongName (name : Text) : Bool := 255 < name.utf8Size

/-- Whether a path is too long to be looked at: it takes more than 4095 bytes. -/
def Path.isLong (p : Path) : Bool := 4095 < p.text.utf8Size

/-! ### Endings -/

/-- Whether the last name of a path has the given ending behind a point that is not its first
character. -/
def Path.hasEnding (p : Path) (ending : Text) : Bool :=
  match p.names.getLast? with
  | some name => ending.length + 1 < name.length && Text.endsWith name ('.' :: ending)
  | none => false

end PlainEnglish
