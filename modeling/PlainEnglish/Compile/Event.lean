import PlainEnglish.Journal.Record
import PlainEnglish.Program.SyntaxError

/-!
# Events of a compilation

Each compilation tells how it ended, and also whether its preview failed.
-/

namespace PlainEnglish

/-- What a compilation tells about itself. -/
inductive CompileEvent where
  | syntaxError (e : SyntaxError)
  | previewFailed (report : Text)
  | compiled (statements tokens : Nat)
deriving Repr

/-- The logger of the events of compilations. -/
def pipelineLogger : Text := "ebpl.pipeline"

/-- The name of an event. -/
def CompileEvent.name : CompileEvent → Text
  | .syntaxError _ => "syntax_error"
  | .previewFailed _ => "simulation_error"
  | .compiled _ _ => "compiled"

/-- The level of an event. -/
def CompileEvent.level : CompileEvent → Level
  | .syntaxError _ => .info
  | .previewFailed _ => .warning
  | .compiled _ _ => .debug

/-- The message of an event. -/
def CompileEvent.message : CompileEvent → Text
  | .syntaxError _ => "Compilation failed"
  | .previewFailed _ => "Execution preview failed"
  | .compiled _ _ => "Compiled program"

/-- A value that may be missing. -/
def Json.ofOption {α : Type} (f : α → Json) : Option α → Json
  | some a => f a
  | none => .null

/-- The data of an event. -/
def CompileEvent.data : CompileEvent → List (Text × Json)
  | .syntaxError e =>
    [("line", Json.ofOption .integer e.line), ("expected", Json.ofTexts e.expected),
      ("found", Json.ofOption .text e.found)]
  | .previewFailed report => [("error", .text report)]
  | .compiled statements tokens =>
    [("statements", .integer statements), ("tokens", .integer tokens)]

/-- The record of an event. -/
def CompileEvent.record (e : CompileEvent) : Record where
  logger := pipelineLogger
  level := e.level
  message := e.message
  event := some ⟨e.name, e.data⟩

end PlainEnglish
