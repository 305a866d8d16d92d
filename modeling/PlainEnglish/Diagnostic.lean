import PlainEnglish.Text.Basic

/-!
# Diagnostics

A diagnostic is a message with a code and, where they are known, a line and a column.
-/

namespace PlainEnglish

/-- What a diagnostic is about, with what is known only for that: the kinds of tokens that were
expected and the one that was found, the line of a script, or the path of a settings document. -/
inductive Diagnostic.Subject where
  | general
  | grammar (expected : List Text) (found : Option Text)
  | preview (sourceLine : Option Text)
  | settings (path : Option Text)
deriving DecidableEq, Repr

/-- The code of a diagnostic that is given no other. -/
def Diagnostic.Subject.code : Diagnostic.Subject → Text
  | .general => "EBPL_ERROR"
  | .grammar _ _ => "SYNTAX_ERROR"
  | .preview _ => "SIMULATION_ERROR"
  | .settings _ => "CONFIG_ERROR"

/-- A message with its subject, its place and its code. -/
structure Diagnostic where
  subject : Diagnostic.Subject
  message : Text
  line : Option Int
  column : Option Int
  code : Text := subject.code
deriving DecidableEq, Repr

/-- The place of a diagnostic; a column without a line is left out. -/
def Diagnostic.place (d : Diagnostic) : List Text :=
  match d.line, d.column with
  | some line, some column => ["Line " ++ Text.ofInt line ++ ":" ++ Text.ofInt column]
  | some line, none => ["Line " ++ Text.ofInt line]
  | none, _ => []

/-- The document that a diagnostic is about, if its path is known and not empty. -/
def Diagnostic.document (d : Diagnostic) : List Text :=
  match d.subject with
  | .settings (some path) => if path = [] then [] else ["File: " ++ path]
  | _ => []

/-- A diagnostic in one text. -/
def Diagnostic.text (d : Diagnostic) : Text :=
  Text.join " | " (d.document ++ d.place ++ ["[" ++ d.code ++ "] " ++ d.message])

end PlainEnglish
