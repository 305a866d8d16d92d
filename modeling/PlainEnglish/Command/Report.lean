import PlainEnglish.Command.Invocation
import PlainEnglish.Files.Basic
import PlainEnglish.Settings.Basic

/-!
# Reports

What running the program comes to: the texts it prints, the service it starts and how it ends.
-/

namespace PlainEnglish

/-- How the program ends: with a status, or without one because something could not be read or
written. -/
inductive Ending where
  | status (n : Int)
  | unreadable (failure : ReadFailure)
deriving DecidableEq, Repr

/-- A service that is started. -/
structure Hosting where
  endpoint : Endpoint
  logLevel : Text
  settings : Settings
deriving DecidableEq, Repr

/-- What running the program comes to. Each printed text is followed by a newline. -/
structure Report where
  ending : Ending := .status 0
  printed : List Text := []
  errors : List Text := []
  hosting : Option Hosting := none
deriving DecidableEq, Repr

/-- Printed texts in one. -/
def Text.ofPrinted (printed : List Text) : Text := printed.flatMap (· ++ ['\n'])

/-- All that is printed. -/
def Report.output (r : Report) : Text := Text.ofPrinted r.printed

/-- All that is printed about errors and by the log. -/
def Report.errorOutput (r : Report) : Text := Text.ofPrinted r.errors

/-- The report of a refusal. -/
def Report.ofRefusal : Refusal → Report
  | .help u status => { ending := .status status, printed := [u.page] }
  | .version => { printed := [versionLine] }
  | .mistake u m =>
    { ending := .status usageStatus
      errors := [u.synopsis, u.program ++ ": error: " ++ m.message] }

end PlainEnglish
