import PlainEnglish.Document.Datum
import PlainEnglish.Text.Blank
import PlainEnglish.Text.Lowercase

/-!
# Errors of commands

A command that fails says why, with a code and, where there is one, a hint. When it is asked to
say more, it adds what it knows about the circumstances and a trace.
-/

namespace PlainEnglish

/-- The kinds of errors of commands. -/
inductive CommandError.Kind where
  | settings
  | missingFile
  | compilation
  | dependency
deriving DecidableEq, Repr

/-- The code of a kind of error. -/
def CommandError.Kind.code : CommandError.Kind → Text
  | .settings => "CLI_CONFIG_ERROR"
  | .missingFile => "CLI_FILE_NOT_FOUND"
  | .compilation => "CLI_COMPILE_ERROR"
  | .dependency => "CLI_DEPENDENCY_ERROR"

/-- The status of a failure of the program itself, as against one of its use. -/
def failureStatus : Int := 1

/-- The status of a wrong use of the program. -/
def usageStatus : Int := 2

/-- The status with which a command ends after an error of a kind. -/
def CommandError.Kind.status : CommandError.Kind → Int
  | .compilation => failureStatus
  | _ => usageStatus

/-- An error of a command. -/
structure CommandError where
  message : Text
  code : Text
  status : Int := failureStatus
  hint : Option Text := none
  context : Table := []
deriving Repr

/-- An error of the given kind. -/
def CommandError.ofKind (kind : CommandError.Kind) (message : Text) (hint : Option Text) :
    CommandError where
  message := message
  code := kind.code
  status := kind.status
  hint := hint

/-- What a command complains about: an error of its own, or one that has come from somewhere
else, with the name of its kind. -/
inductive Complaint where
  | own (e : CommandError)
  | foreign (kind text : Text)
deriving Repr

/-- The status with which a command ends after a complaint. -/
def Complaint.status : Complaint → Int
  | .own e => e.status
  | .foreign _ _ => failureStatus

/-- A complaint in one text, without anything around it. -/
def Complaint.text : Complaint → Text
  | .own e => e.message
  | .foreign _ text => text

/-! ### Complaints as they are printed -/

/-- The line with the hint of an error, if it has one that is not empty. -/
def CommandError.hintLines (e : CommandError) : List Text :=
  match e.hint with
  | some hint => if hint = [] then [] else ["Hint: " ++ hint]
  | none => []

/-- The lines with the context of an error, if it has one. -/
def CommandError.contextLines (e : CommandError) : List Text :=
  if e.context.isEmpty then []
  else "\nContext:".toList :: e.context.map fun (key, value) => "  " ++ key ++ ": " ++ value.show

/-- A complaint as it is printed; one that is to say more ends with the trace. -/
def Complaint.describe (verbose : Bool) (trace : Text) (complaint : Complaint) : Text :=
  let lines : List Text :=
    match complaint with
    | .own e =>
      ("Error [" ++ e.code ++ "]: " ++ e.message) :: e.hintLines ++
        if verbose then e.contextLines else []
    | .foreign kind text => ["Error: " ++ kind ++ ": " ++ text]
  Text.join ['\n'] (lines ++ if verbose then ["\nTraceback:".toList, trace] else [])

/-! ### When more is said -/

/-- The environment variables that ask to say more. -/
def verboseVariables : List Text := ["EBPL_VERBOSE", "EBPL_DEBUG"]

/-- Whether a text says yes, in any letter case and with blanks around it. -/
def Text.isYes (t : Text) : Bool :=
  (["1", "true", "yes", "on"] : List Text).contains t.trim.lowercase

/-- Whether complaints are to say more: a switch asks for it, or the environment does. -/
def saysMore (switch : Bool) (environment : List (Text × Text)) : Bool :=
  switch || verboseVariables.any fun name => (environment.lookup name).any Text.isYes

end PlainEnglish
