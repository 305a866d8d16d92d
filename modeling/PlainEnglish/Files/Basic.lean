import PlainEnglish.Files.Path
import PlainEnglish.Number.Whole
import PlainEnglish.Text.Lines

/-!
# Files

What stands at a path is a file with its bytes, a file that cannot be opened, or a directory. Not
everything can be read that is there, and not every path can be looked at.
-/

namespace PlainEnglish

/-- What stands at a path. A file that cannot be opened comes with the words for why. -/
inductive Entry where
  | file (bytes : ByteArray)
  | closed (reason : Text)
  | directory

/-- Why something cannot be read or written: a file is no text, it cannot be opened, a directory
stands in its place, the names of its path are too long or hold a null character, it is nested
too deep, it holds an integer with too many digits, which are not counted where the integer is
only too long to be shown, it holds half of a pair of code units, or a text is wider than there
is room for. -/
inductive ReadFailure where
  | notText
  | closed (reason : Text)
  | isDirectory
  | longName
  | nullCharacter
  | tooDeep
  | hugeInteger (digits : Option Nat)
  | halfPair
  | tooWide
deriving DecidableEq, Repr

/-- The words for why something cannot be read. -/
def ReadFailure.message : ReadFailure → Text
  | .notText => "A file is not text"
  | .closed reason => reason
  | .isDirectory => "A directory stands in the place of a file"
  | .longName => "A name is too long"
  | .nullCharacter => "embedded null byte"
  | .tooDeep => "A document is nested too deep"
  | .hugeInteger digits => tooManyDigits digits
  | .halfPair => "A document holds half of a pair of code units"
  | .tooWide => "A text is too wide"

/-- All that can be looked at, by path. -/
abbrev Files := Path → Except ReadFailure (Option Entry)

/-- The first of several paths at which something stands, with what stands there. -/
def Files.first? (files : Files) : List Path → Except ReadFailure (Option (Path × Entry))
  | [] => .ok none
  | path :: paths =>
    match files path with
    | .error failure => .error failure
    | .ok (some entry) => .ok (some (path, entry))
    | .ok none => Files.first? files paths

/-- The characters of a file, unchanged. -/
def Entry.characters : Entry → Except ReadFailure Text
  | .closed reason => .error (.closed reason)
  | .directory => .error .isDirectory
  | .file bytes =>
    match Text.ofBytes? bytes with
    | some t => .ok t
    | none => .error .notText

/-- The text of a file, with a newline for every line break that returns the carriage. -/
def Entry.text (e : Entry) : Except ReadFailure Text := e.characters.map Text.withNewlines

end PlainEnglish
