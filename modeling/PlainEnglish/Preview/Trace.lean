import PlainEnglish.Diagnostic
import PlainEnglish.Preview.Evaluate

/-!
# The trace of a script

The lines of a script are gone through from top to bottom. A line with an equals sign assigns,
and a line of the form of a printing statement prints; a line can do both. Blank lines and
comments are passed over. The only fault is an assignment to nothing, and then nothing of the
trace is kept.
-/

namespace PlainEnglish

/-- What a script has printed, the latest line first, and the values of its variables. -/
structure Trace where
  printed : List Text
  env : Environment
deriving DecidableEq, Repr

/-- A line of a script that assigns to nothing, with its number. -/
structure PreviewError where
  line : Nat
  source : Text
deriving DecidableEq, Repr

/-- The words for a fault of a script. -/
def PreviewError.message (_ : PreviewError) : Text := "Assignment without a target name"

/-- A fault of a script as a diagnostic. -/
def PreviewError.diagnostic (e : PreviewError) : Diagnostic where
  subject := .preview (some e.source)
  message := e.message
  line := some e.line
  column := none

/-- A fault of a script as it is told to users. -/
def PreviewError.report (e : PreviewError) : Text :=
  "Simulation error: " ++ e.message ++ " (line " ++ Text.ofNat e.line ++ ")"

/-! ### Lines -/

/-- Whether a trimmed line does nothing: a blank line or a comment. -/
def Text.isIdle (line : Text) : Bool := line.isEmpty || line.head? = some '#'

/-- The two sides of the first equals sign of a line, trimmed. -/
def Text.assignment? (line : Text) : Option (Text × Text) :=
  if '=' ∈ line then
    some (Text.trim (line.takeWhile (· ≠ '=')), Text.trim (line.dropWhile (· ≠ '=')).tail)
  else none

/-- The content of a line that prints, trimmed. -/
def Text.printContent? (line : Text) : Option Text :=
  if Text.startsWith line "print(" && Text.endsWith line ")" then
    some (Text.trim (line.drop 6).dropLast)
  else none

/-- The variables after the assignment of a trimmed line, if it has one with a right side. -/
def Environment.afterLine (env : Environment) (number : Nat) (line : Text) :
    Except PreviewError Environment :=
  match Text.assignment? line with
  | some (name, expression) =>
    if expression = [] then .ok env
    else if name = [] then .error ⟨number, line⟩
    else .ok (env.define name (env.evaluate expression))
  | none => .ok env

/-- The trace after one more line. -/
def Trace.afterLine (trace : Trace) (number : Nat) (line : Text) : Except PreviewError Trace :=
  let line := Text.trim line
  if Text.isIdle line then .ok trace
  else
    (trace.env.afterLine number line).map fun env =>
      match Text.printContent? line with
      | some content => ⟨env.printed content :: trace.printed, env⟩
      | none => ⟨trace.printed, env⟩

/-- The trace after more lines, which come with their numbers. -/
def Trace.afterLines (trace : Trace) : List (Text × Nat) → Except PreviewError Trace
  | [] => .ok trace
  | (line, number) :: lines =>
    match trace.afterLine number line with
    | .ok trace => trace.afterLines lines
    | .error e => .error e

/-- The trace of a whole script. -/
def Trace.ofScript (script : Text) : Except PreviewError Trace :=
  Trace.afterLines ⟨[], []⟩ ((Text.splitAt '\n' script).zipIdx 1)

/-- The printed lines, from first to last. -/
def Trace.lines (trace : Trace) : List Text := trace.printed.reverse

/-! ### Results -/

/-- The result of a preview as it is told to users: the printed lines, the report of a fault,
which is empty if there is none, and the variables. -/
structure Preview where
  lines : List Text
  report : Text
  env : Environment
deriving DecidableEq, Repr

/-- The preview of a script. -/
def Preview.ofScript (script : Text) : Preview :=
  match Trace.ofScript script with
  | .ok trace => ⟨trace.lines, [], trace.env⟩
  | .error e => ⟨[], e.report, []⟩

/-- All that a preview prints. -/
def Preview.output (p : Preview) : Text := Text.join ['\n'] p.lines

/-- Whether a preview has come to its end. -/
def Preview.isOk (p : Preview) : Bool := p.report.isEmpty

end PlainEnglish
