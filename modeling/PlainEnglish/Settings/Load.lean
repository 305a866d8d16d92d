import PlainEnglish.Document.Toml
import PlainEnglish.Files.Basic
import PlainEnglish.Limits
import PlainEnglish.Settings.Document

/-!
# Loading settings

Settings are loaded from a document that is named or, if none is, from the first of the usual
ones in the working directory. Without a document the standard settings are in force. The
environment has the last word on the log level.
-/

namespace PlainEnglish

/-- The names under which a document is looked for. -/
def Settings.documentNames : List Text := ["ebpl.toml", ".ebplrc"]

/-- Why no settings could be loaded: the document at a path is at fault, or it cannot be read. -/
inductive LoadError where
  | fault (path : Path) (f : SettingsFault)
  | unreadable (failure : ReadFailure)

/-- The paths at which a document is looked for: the one that is named, if there is one, or else
the usual ones in the working directory. -/
def Settings.candidates (directory : Path) (named : Option Path) : List Path :=
  match named with
  | some path => [path]
  | none => Settings.documentNames.map fun name => directory.follow ⟨false, [name]⟩

/-- The document to load settings from, with its path. One that is named counts only if it is
there. -/
def Settings.locate (files : Files) (directory : Path) (named : Option Path) :
    Except ReadFailure (Option (Path × Entry)) :=
  files.first? (Settings.candidates directory named)

/-- Why a TOML document is given up at a fault, if it is given up there. -/
def Toml.Fault.failure? : Toml.Fault → Option ReadFailure
  | .malformed => none
  | .tooDeep => some .tooDeep
  | .hugeInteger digits => some (.hugeInteger (some digits))

/-- Why a JSON document is given up at a fault, if it is given up there. -/
def Json.Fault.failure? : Json.Fault → Option ReadFailure
  | .tooDeep => some .tooDeep
  | .hugeInteger digits => some (.hugeInteger (some digits))
  | .halfPair => some .halfPair
  | _ => none

/-- The table of a TOML document. -/
def Table.ofToml (limits : Limits) (path : Path) (document : Entry) : Except LoadError Table :=
  match document.characters with
  | .error failure => .error (.unreadable failure)
  | .ok t =>
    match Toml.read limits.toml t with
    | .ok table => .ok table
    | .error fault =>
      match fault.failure? with
      | some failure => .error (.unreadable failure)
      | none => .error (.fault path .malformedToml)

/-- The table of a JSON document. -/
def Table.ofJson (limits : Limits) (path : Path) (document : Entry) : Except LoadError Table :=
  match document.text with
  | .error failure => .error (.unreadable failure)
  | .ok t =>
    match Json.readWithin limits.json t with
    | .ok (.object entries) => .ok (Datum.ofEntries entries)
    | .ok _ => .error (.fault path .notObject)
    | .error e =>
      match e.fault.failure? with
      | some failure => .error (.unreadable failure)
      | none => .error (.fault path (.malformedJson e.fault (e.line t)))

/-- The table of the document at a path, whose ending tells its language. -/
def Table.ofEntry (limits : Limits) (path : Path) (document : Entry) : Except LoadError Table :=
  if path.hasEnding "toml" then Table.ofToml limits path document
  else Table.ofJson limits path document

/-- The settings that the document at a path lays down. -/
def Settings.ofEntry (limits : Limits) (path : Path) (document : Entry) :
    Except LoadError Settings :=
  match Table.ofEntry limits path document with
  | .error e => .error e
  | .ok table =>
    match Settings.ofDocument limits.shown table with
    | .ok settings => .ok settings
    | .error (.unwritable failure) => .error (.unreadable failure)
    | .error f => .error (.fault path f)

/-- The settings in force: those of the document, or the standard ones, in the environment. -/
def Settings.load (files : Files) (directory : Path) (named : Option Path)
    (environment : List (Text × Text)) (limits : Limits := .standard) :
    Except LoadError Settings :=
  match Settings.locate files directory named with
  | .error failure => .error (.unreadable failure)
  | .ok none => .ok (Settings.standard.inEnvironment environment)
  | .ok (some (path, entry)) =>
    (Settings.ofEntry limits path entry).map (·.inEnvironment environment)

end PlainEnglish
