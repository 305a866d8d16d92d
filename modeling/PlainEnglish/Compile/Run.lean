import PlainEnglish.Compile.Event
import PlainEnglish.Compile.Outcome
import PlainEnglish.Limits
import PlainEnglish.Preview.Trace
import PlainEnglish.Program.Parse
import PlainEnglish.Script
import PlainEnglish.Text.Quoted

/-!
# Compiling

A source text is scanned and parsed, its script is written, and the script is previewed if the
settings ask for it. Every stage leaves a record, and the compilation tells its events.
-/

namespace PlainEnglish

/-- The outcome of a compilation and its records, in order. -/
structure Compilation where
  outcome : Outcome
  records : List Record
deriving Repr

/-- The words for tokens that make no program. -/
def ParseError.message : ParseError → Text
  | .grammar e => e.message
  | .notNumber t => "could not convert string to float: " ++ t.quoted

/-! ### Records of the stages -/

/-- The record of the scanning of a source text. -/
def Record.ofScan (source : Text) (tokens : List Token) : Record where
  logger := "ebpl.lexer"
  level := .debug
  message :=
    "Tokenized " ++ Text.ofNat (Text.lines source).length ++ " line(s) into " ++
      Text.ofNat tokens.length ++ " token(s)"

/-- The record of the parsing of a program. -/
def Record.ofParse (program : Program) : Record where
  logger := "ebpl.parser"
  level := .debug
  message := "Parsed " ++ Text.ofNat program.length ++ " statement(s)"

/-- The record of the writing of a script. -/
def Record.ofScript (program : Program) : Record where
  logger := "ebpl.codegen"
  level := .debug
  message := "Generated " ++ Text.ofNat program.length ++ " statement line(s)"

/-- The record of a preview. -/
def Record.ofPreview (result : Except PreviewError Trace) : Record where
  logger := "ebpl.runtime"
  level :=
    match result with
    | .ok _ => .debug
    | .error _ => .warning
  message :=
    match result with
    | .ok trace => "Simulated " ++ Text.ofNat trace.lines.length ++ " print line(s)"
    | .error e => "Simulation failed: " ++ e.diagnostic.text

/-! ### The whole -/

/-- The preview of a script with its records, if the settings ask for it. -/
def Settings.preview (settings : Settings) (script : Text) : Preview × List Record :=
  if settings.simulate then
    let result := Trace.ofScript script
    let preview := Preview.ofScript script
    (preview, Record.ofPreview result ::
      if preview.isOk then [] else [(CompileEvent.previewFailed preview.report).record])
  else (⟨[], [], []⟩, [])

/-- The compilation of a source text. -/
def compile (settings : Settings) (source : Text) : Compilation :=
  let tokens := Token.scan source
  match Program.ofTokens tokens with
  | .error e =>
    ⟨.failed e.message, Record.ofScan source tokens ::
      match e with
      | .grammar e => [(CompileEvent.syntaxError e).record]
      | .notNumber _ => []⟩
  | .ok program =>
    let script := program.script settings
    let (preview, records) := settings.preview script
    ⟨.compiled (Token.listing settings.tokenPadWidth tokens) script preview.output
        preview.report,
      [Record.ofScan source tokens, Record.ofParse program, Record.ofScript program] ++
        records ++ [(CompileEvent.compiled program.length tokens.length).record]⟩

/-- Whether a compilation comes to an end: if the source text is a program, there is room for the
listing of its tokens. -/
def compiles (limits : Limits) (settings : Settings) (source : Text) : Bool :=
  let tokens := Token.scan source
  match Program.ofTokens tokens with
  | .error _ => true
  | .ok _ => Token.canList limits.width settings.tokenPadWidth tokens

/-- The compilation of a source text, if it comes to an end. -/
def compileWithin (limits : Limits) (settings : Settings) (source : Text) : Option Compilation :=
  if compiles limits settings source then some (compile settings source) else none

/-- The events of a compilation: the records that are not those of a single stage. -/
def Compilation.events (c : Compilation) : List Record :=
  c.records.filter fun r => r.logger = pipelineLogger

end PlainEnglish
