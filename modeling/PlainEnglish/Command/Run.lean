import PlainEnglish.Catalogue
import PlainEnglish.Command.Report
import PlainEnglish.Compile.Run
import PlainEnglish.Json.Write
import PlainEnglish.Settings.Load

/-!
# Running the program

The words of the command line are read, then the settings are loaded, and then the task is
carried out. The log goes to the error output, and so does every complaint.
-/

namespace PlainEnglish

/-- What the program finds around it: the working directory, the files as seen from there, what
stands on its input, the environment, what the clock shows, where errors are traced to, whether
there is a server, and how much there is room for. -/
structure Surroundings where
  directory : Path
  files : Files
  input : Text
  environment : List (Text × Text)
  clock : Text
  trace : Text
  hasServer : Bool
  limits : Limits := .standard

/-- The lines of the log for records, from the level of the settings on. -/
def Surroundings.log (around : Surroundings) (settings : Settings) (records : List Record) :
    List Text :=
  Record.log around.clock (Level.ofAnyName settings.logLevel) records

/-- The report of an error, behind what has been printed already. -/
def Surroundings.complain (around : Surroundings) (verbose : Bool) (e : CommandError)
    (before : Report) : Report :=
  let complaint := Complaint.own e
  let text := complaint.describe (saysMore verbose around.environment) around.trace
  { before with ending := .status complaint.status, errors := before.errors ++ [text] }

/-! ### Compiling -/

/-- An outcome as a whole document. -/
def Outcome.document (o : Outcome) : Text := Json.write (.indented 2) o.toJson

/-- Whether a view shows the output: it is asked for, or nothing else is. -/
def View.showsOutput (v : View) : Bool := v.output || !(v.listing || v.script)

/-- The parts of an outcome that a view shows. -/
def View.parts (v : View) (listing : List Text) (script output : Text) : List Text :=
  (if v.listing then [Text.join ['\n'] listing] else []) ++
    (if v.script then [script] else []) ++ if v.showsOutput then [output] else []

/-- What is printed of an outcome. A failure is printed as a whole document only. -/
def View.printed (v : View) (o : Outcome) : List Text :=
  if v.whole then [o.document]
  else
    match o with
    | .failed _ => []
    | .compiled listing script output _ =>
      [Text.join "\n\n" ((v.parts listing script output).filter (· ≠ []))]

/-- What is printed about the preview of an outcome: its report, where the output is shown. -/
def View.warnings (v : View) (o : Outcome) : List Text :=
  match o with
  | .failed _ => []
  | .compiled _ _ _ report =>
    if v.whole || !v.showsOutput || report.isEmpty then [] else [report]

/-- The report of a compilation that comes to an end. -/
def Surroundings.reportOf (around : Surroundings) (settings : Settings) (verbose : Bool)
    (view : View) (compilation : Compilation) : Report :=
  let report : Report :=
    { printed := view.printed compilation.outcome
      errors := around.log settings compilation.records ++ view.warnings compilation.outcome }
  match compilation.outcome with
  | .failed message => around.complain verbose (.ofKind .compilation message none) report
  | .compiled _ _ _ _ => report

/-- The report of compiling a source text. All records are there before the listing is made. -/
def Surroundings.compile (around : Surroundings) (settings : Settings) (verbose : Bool)
    (view : View) (source : Text) : Report :=
  match compileWithin around.limits settings source with
  | some compilation => around.reportOf settings verbose view compilation
  | none =>
    { ending := .unreadable .tooWide
      errors := around.log settings (PlainEnglish.compile settings source).records }

/-- The error for a file that there is not. -/
def CommandError.noFile (file : Text) : CommandError :=
  .ofKind .missingFile ("No such file: " ++ file)
    (some "Pass the path to an .ebpl file or '-' to read from stdin")

/-- The error for a file that cannot be opened. -/
def CommandError.closedFile (file reason : Text) : CommandError :=
  .ofKind .missingFile ("Could not read " ++ file ++ ": " ++ reason) none

/-- The source text of a file, or of the input if the name is a hyphen, unless there is no such
file or it cannot be opened. -/
def Surroundings.source (around : Surroundings) (file : Text) :
    Except ReadFailure (Except CommandError Text) :=
  if file = ['-'] then .ok (.ok around.input.withNewlines)
  else
    match around.files (Path.ofText file) with
    | .error failure => .error failure
    | .ok (some (.file bytes)) => (Entry.file bytes).text.map .ok
    | .ok (some (.closed reason)) => .ok (.error (.closedFile file reason))
    | .ok _ => .ok (.error (.noFile file))

/-! ### Examples -/

/-- An example in the catalogue. -/
def Example.entry (e : Example) : Text := "  " ++ Text.padEnd 16 e.slug ++ ' ' :: e.description

/-- The lines of the catalogue. -/
def Example.catalogue : List Text :=
  Example.categories.flatMap fun (category, title) =>
    (title ++ [':']) :: (Example.list (some category)).map Example.entry

/-- The error for an example that there is not. -/
def CommandError.noExample (name : Text) : CommandError :=
  .ofKind .missingFile (Example.unknown name)
    (some "Run 'ebpl examples' to list the available examples")

/-! ### Serving -/

/-- The error when there is no server. -/
def CommandError.noServer : CommandError :=
  .ofKind .dependency "uvicorn is required to run the EBPL server"
    (some "Install with: pip install uvicorn")

/-- The host as the log shows it. -/
def Endpoint.hostText (e : Endpoint) : Text := e.host.getD ['[', ']']

/-- The record of the start of a service; it cannot be written without a number. -/
def Record.ofStart? (e : Endpoint) : Option Record :=
  e.number.map fun number =>
    { logger := "ebpl.cli"
      level := .info
      message := "Starting EBPL server on " ++ e.hostText ++ ':' :: Text.ofInt number }

/-- A service, whose own log knows only the longer one of the two names of a level. -/
def Hosting.ofSettings (settings : Settings) (e : Endpoint) : Hosting where
  endpoint := e
  logLevel := if settings.logLevel = "warn" then "warning" else settings.logLevel
  settings := settings

/-! ### Tasks -/

/-- The report of a task. -/
def Surroundings.perform (around : Surroundings) (settings : Settings) (verbose : Bool) :
    Task → Report
  | .compile file view =>
    match around.source file with
    | .ok (.ok source) => around.compile settings verbose view source
    | .ok (.error e) => around.complain verbose e {}
    | .error failure => { ending := .unreadable failure }
  | .catalogue => { printed := Example.catalogue }
  | .source name =>
    match Example.find? name with
    | some e => { printed := [e.source] }
    | none => around.complain verbose (.noExample name) {}
  | .run name view =>
    match Example.find? name with
    | some e => around.compile settings verbose view e.source
    | none => around.complain verbose (.noExample name) {}
  | .serve e =>
    if around.hasServer then
      { errors := around.log settings (Record.ofStart? e).toList
        hosting := some (.ofSettings settings e) }
    else around.complain verbose .noServer {}

/-- The settings with the log level of an invocation, if it has one. -/
def Settings.ofInvocation (i : Invocation) (settings : Settings) : Settings :=
  match i.logLevel with
  | some level => { settings with logLevel := level }
  | none => settings

/-- The settings of an invocation. A switch has the last word on the log level. No document can
be named with a null character. -/
def Surroundings.settings (around : Surroundings) (i : Invocation) : Except LoadError Settings :=
  if i.document.any fun name => decide ('\x00' ∈ name) then .error (.unreadable .nullCharacter)
  else
    (Settings.load around.files around.directory (i.named around.directory) around.environment
      around.limits).map (Settings.ofInvocation i)

/-- The report of an invocation. -/
def Surroundings.invoke (around : Surroundings) (i : Invocation) : Report :=
  match around.settings i with
  | .ok settings => around.perform settings i.verbose i.task
  | .error (.unreadable failure) => { ending := .unreadable failure }
  | .error (.fault path fault) =>
    around.complain i.verbose
      (.ofKind .settings (fault.diagnostic path.text).text
        (some "Fix the [compiler] section of ebpl.toml"))
      {}

/-- The report of a whole run of the program. -/
def Surroundings.run (around : Surroundings) (words : List Text) : Report :=
  match Invocation.read words with
  | .ok i => around.invoke i
  | .error refusal => .ofRefusal refusal

/-! ### What a run needs -/

/-- The paths that a run of the program looks at, as seen from the working directory. -/
def Invocation.paths (directory : Path) (words : List Text) : List Path :=
  match Invocation.read words with
  | .error _ => []
  | .ok i =>
    let sources :=
      match i.task with
      | .compile file _ => [Path.ofText file]
      | _ => []
    Settings.candidates directory (i.named directory) ++ sources

/-- Whether a run of the program reads its input. -/
def Invocation.readsInput (words : List Text) : Bool :=
  match Invocation.read words with
  | .error _ => false
  | .ok i =>
    match i.task with
    | .compile file _ => file = ['-']
    | _ => false

end PlainEnglish
