import PlainEnglish.Diagnostic
import PlainEnglish.Document.Datum
import PlainEnglish.Json.Read
import PlainEnglish.Settings.Basic

/-!
# Settings in documents

A document lays down settings in its table `compiler`. Each setting has a key of its own; one
that is missing keeps its standard, and one of the wrong sort is a fault. A value is shown if it
is nested no deeper than `room` allows.
-/

namespace PlainEnglish

/-- What can be wrong with a document that lays down settings. A value that has to be shown may
be one that cannot be written. -/
inductive SettingsFault where
  | malformedJson (fault : Json.Fault) (line : Nat)
  | notObject
  | malformedToml
  | notTable
  | notLines
  | unknownLevel (name : Text)
  | notWidth (key : Text) (value : Datum)
  | notFlag (key : Text) (value : Datum)
  | unwritable (failure : ReadFailure)
deriving Repr

/-- The words for a fault. -/
def SettingsFault.message : SettingsFault → Text
  | .malformedJson fault _ => "Invalid JSON: " ++ fault.message
  | .notObject => "Configuration must be a JSON object"
  | .malformedToml => "Invalid TOML: the document breaks the grammar"
  | .notTable => "'compiler' section must be a table"
  | .notLines => "'header_lines' must be a list of strings"
  | .unknownLevel name =>
    "Unknown log level '" ++ name ++ "' (use one of: " ++
      Text.join ", " (Level.names.map Prod.fst) ++ ")"
  | .notWidth key value =>
    key.inQuotes ++ " must be a non-negative integer, got " ++ value.inspect
  | .notFlag key value => key.inQuotes ++ " must be true or false, got " ++ value.inspect
  | .unwritable failure => failure.message

/-- The line of a fault, if it is known. -/
def SettingsFault.line : SettingsFault → Option Int
  | .malformedJson _ line => some line
  | _ => none

/-- A fault of the document with the given path, as a diagnostic. -/
def SettingsFault.diagnostic (path : Text) (fault : SettingsFault) : Diagnostic where
  subject := .settings (some path)
  message := fault.message
  line := fault.line
  column := none

/-! ### Single settings -/

/-- A fault that shows a value, or the one that the value cannot be shown. -/
def SettingsFault.showing (room : Nat) (value : Datum) (fault : SettingsFault) : SettingsFault :=
  match value.obstacle? room with
  | some failure => .unwritable failure
  | none => fault

/-- A value as plain text. -/
def Datum.shown (room : Nat) (value : Datum) : Except SettingsFault Text :=
  match value.obstacle? room with
  | some failure => .error (.unwritable failure)
  | none => .ok value.show

/-- The table of a document that lays down settings; it is empty if it says nothing. -/
def Table.settingsPart (document : Table) : Except SettingsFault Table :=
  match document.value? "compiler" with
  | none => .ok []
  | some value =>
    if value.isVoid then .ok []
    else
      match value with
      | .table entries => .ok entries
      | _ => .error .notTable

/-- The lines above every script: a single text, or a list of values taken as texts. -/
def Table.headerLines (room : Nat) (part : Table) : Except SettingsFault (List Text) :=
  match part.value? "header_lines" with
  | none => .ok Settings.standard.headerLines
  | some (.text line) => .ok [line]
  | some (.list items) => items.mapM (Datum.shown room)
  | some _ => .error .notLines

/-- The name of the log level, whether there is such a level or not, in small letters. -/
def Table.levelName (room : Nat) (part : Table) : Except SettingsFault Text :=
  match part.value? "log_level" with
  | none => .ok Settings.standard.logLevel
  | some value =>
    if value.isVoid then .ok Settings.standard.logLevel
    else (value.shown room).map Text.lowercase

/-- The log level, in any letter case. -/
def Table.logLevel (room : Nat) (part : Table) : Except SettingsFault Text :=
  match part.levelName room with
  | .error fault => .error fault
  | .ok name => if name.isLevelName then .ok name else .error (.unknownLevel name)

/-- A width. -/
def Table.width (room : Nat) (part : Table) (key : Text) (standard : Int) :
    Except SettingsFault Int :=
  match part.value? key with
  | none => .ok standard
  | some (.integer n) =>
    if 0 ≤ n then .ok n else .error (.showing room (.integer n) (.notWidth key (.integer n)))
  | some value => .error (.showing room value (.notWidth key value))

/-- A setting that is on or off. -/
def Table.flag (room : Nat) (part : Table) (key : Text) (standard : Bool) :
    Except SettingsFault Bool :=
  match part.value? key with
  | none => .ok standard
  | some (.bool b) => .ok b
  | some value => .error (.showing room value (.notFlag key value))

/-! ### All settings -/

/-- The settings that a document lays down, or its first fault. -/
def Settings.ofDocument (room : Nat) (document : Table) : Except SettingsFault Settings := do
  let part ← document.settingsPart
  let headerLines ← part.headerLines room
  let logLevel ← part.logLevel room
  let indentWidth ← part.width room "indent_width" Settings.standard.indentWidth
  let tokenPadWidth ← part.width room "token_pad_width" Settings.standard.tokenPadWidth
  let simulate ← part.flag room "simulate" Settings.standard.simulate
  return { headerLines, indentWidth, tokenPadWidth, simulate, logLevel }

end PlainEnglish
