import PlainEnglish.Command.Error
import PlainEnglish.Command.Usage
import PlainEnglish.Files.Path
import PlainEnglish.Usage.Given
import PlainEnglish.Usage.Page

/-!
# Invocations

What the program is asked to do by the words of its command line.
-/

namespace PlainEnglish

/-- Which parts of a result are to be shown: all of it as a document, or else its listing, its
script or its output. -/
structure View where
  whole : Bool
  listing : Bool
  script : Bool
  output : Bool
deriving DecidableEq, Repr

/-- Where a service is reached: a host, and a number there. Either can be blanked out. -/
structure Endpoint where
  host : Option Text
  number : Option Int
deriving DecidableEq, Repr

/-- Where a service is reached when nothing else is asked for. -/
def Endpoint.standard : Endpoint := ⟨some "127.0.0.1", some 8000⟩

/-- What the program is to do: to compile a file, to show the catalogue of examples, to show the
source of an example or compile it, or to serve requests. -/
inductive Task where
  | compile (file : Text) (view : View)
  | catalogue
  | source (name : Text)
  | run (name : Text) (view : View)
  | serve (e : Endpoint)
deriving DecidableEq, Repr

/-- A task, with what is asked for beside it. -/
structure Invocation where
  document : Option Text
  verbose : Bool
  logLevel : Option Text
  task : Task
deriving DecidableEq, Repr

/-- What the program does instead of a task: it shows a page of help, the version, or a mistake
in the words of a usage. -/
inductive Refusal where
  | help (u : Usage) (status : Int)
  | version
  | mistake (u : Usage) (m : UsageMistake)
deriving DecidableEq, Repr

/-- What becomes of an interrupted reading. -/
def Refusal.ofInterruption (u : Usage) : Interruption → Refusal
  | .help => .help u 0
  | .version => .version
  | .mistake m => .mistake u m

/-- What the words for a usage give. -/
def Usage.given (u : Usage) (words : List Text) : Except Refusal Given :=
  match u.read words with
  | .ok g => .ok g
  | .error stop => .error (.ofInterruption u stop)

/-! ### Tasks -/

/-- The view that marks ask for. -/
def View.ofGiven (g : Given) : View where
  whole := g.isMarked jsonSwitch
  listing := g.isMarked tokensSwitch
  script := g.isMarked codeSwitch
  output := g.isMarked runSwitch

/-- The task of compiling a file. -/
def Task.ofCompile (g : Given) : Task := .compile (g.operand.getD []) (.ofGiven g)

/-- The task about examples. Without a name it is about the catalogue. -/
def Task.ofExamples (g : Given) : Task :=
  match g.operand.getD [] with
  | [] => .catalogue
  | name => if g.isMarked runSwitch then .run name (.ofGiven g) else .source name

/-- The task of serving. -/
def Task.ofServe (g : Given) : Task :=
  .serve {
    host := (g.setting? hostSwitch).getD Endpoint.standard.host
    number :=
      match g.setting? numberSwitch with
      | some value => value.bind Text.integer?
      | none => Endpoint.standard.number }

/-- The usages of the commands, each with what its words mean. -/
def Task.commands : List (Text × Usage × (Given → Task)) :=
  [(compileCommand, .compile, .ofCompile), (examplesCommand, .examples, .ofExamples),
    (serveCommand, .serve, .ofServe)]

/-! ### Invocations -/

/-- A word that says something: an empty word says nothing. -/
def Text.nonempty? (t : Text) : Option Text := if t = [] then none else some t

/-- What the words of a command line ask for. A word that means nothing, to the program or to the
command, is a mistake in the words of the program. -/
def Invocation.read (words : List Text) : Except Refusal Invocation :=
  match Usage.main.given words with
  | .error refusal => .error refusal
  | .ok main =>
    match main.operand.bind fun name => Task.commands.lookup name with
    | none =>
      if main.unknown = [] then .error (.help .main usageStatus)
      else .error (.mistake .main (.unknownWords main.unknown))
    | some (usage, task) =>
      match usage.given main.behind with
      | .error refusal => .error refusal
      | .ok g =>
        let unknown := main.unknown ++ g.unknown
        if unknown ≠ [] then .error (.mistake .main (.unknownWords unknown))
        else
          .ok {
            document := (main.value? configSwitch).bind Text.nonempty?
            verbose := main.isMarked verboseSwitch
            logLevel := main.value? levelSwitch
            task := task g }

/-- The path of the document that an invocation names. -/
def Invocation.named (i : Invocation) (directory : Path) : Option Path :=
  i.document.map fun name => directory.resolve (Path.ofText name)

end PlainEnglish
