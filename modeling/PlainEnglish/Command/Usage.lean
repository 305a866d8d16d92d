import PlainEnglish.Usage.Basic
import PlainEnglish.Version

/-!
# The usages of the program

The program has switches of its own, and three commands.
-/

namespace PlainEnglish

/-! ### Names of switches and commands -/

/-- The switch that names a settings document. -/
def configSwitch : Text := "--config"

/-- The switch that asks to say more. -/
def verboseSwitch : Text := "--verbose"

/-- The switch that names a log level. -/
def levelSwitch : Text := "--log-level"

/-- The switch for the listing of tokens. -/
def tokensSwitch : Text := "--tokens"

/-- The switch for the script. -/
def codeSwitch : Text := "--code"

/-- The switch for the output. -/
def runSwitch : Text := "--run"

/-- The switch for the whole result. -/
def jsonSwitch : Text := "--json"

/-- The switch for the host to serve on. -/
def hostSwitch : Text := "--host"

/-- The switch for the number at the host to serve on. -/
def numberSwitch : Text := "--port"

/-- The command that compiles a program. -/
def compileCommand : Text := "compile"

/-- The command that shows examples. -/
def examplesCommand : Text := "examples"

/-- The command that serves requests. -/
def serveCommand : Text := "serve"

/-! ### Usages -/

/-- The usage of the program as a whole. -/
def Usage.main : Usage where
  program := programName
  purpose := "EBPL compiler – translate plain-English programs into Python"
  switches := [
    Switch.help,
    { name := "--version"
      effect := .version
      purpose := "show program's version number and exit" },
    { name := configSwitch
      effect := .value .any
      purpose := "Path to an ebpl.toml configuration file" },
    { name := verboseSwitch
      effect := .mark
      purpose := "Print full tracebacks and detailed CLI errors (or set EBPL_VERBOSE=1)" },
    { name := levelSwitch
      effect := .value (.oneOf ["debug", "info", "warn", "error"])
      purpose := "Set logging level (or set EBPL_LOG_LEVEL)" }]
  operand := some (.command "command" "Available commands"
    [(compileCommand, "Translate an EBPL program and show what it prints"),
      (examplesCommand, "List, show or compile the built-in example programs"),
      (serveCommand, "Run the EBPL HTTP API")])

/-- The program together with one of its commands. -/
def commandCall (command : Text) : Text := programName ++ ' ' :: command

/-- The usage of the command that compiles a program. -/
def Usage.compile : Usage where
  program := commandCall compileCommand
  switches := [
    Switch.help,
    { name := tokensSwitch
      effect := .mark
      purpose := "Print the token listing" },
    { name := codeSwitch
      effect := .mark
      purpose := "Print the generated Python code" },
    { name := runSwitch
      effect := .mark
      purpose := "Also print the output trace when --tokens or --code is given" },
    { name := jsonSwitch
      effect := .mark
      purpose := "Print the full compile result as JSON" }]
  operand := some (.required "file" "Path to the .ebpl source file, or '-' for stdin")

/-- The usage of the command that shows examples. -/
def Usage.examples : Usage where
  program := commandCall examplesCommand
  switches := [
    Switch.help,
    { name := runSwitch
      effect := .mark
      purpose := "Compile the example and print its output" },
    { name := codeSwitch
      effect := .mark
      purpose := "Print the generated Python code (with --run)" },
    { name := tokensSwitch
      effect := .mark
      purpose := "Print the token listing (with --run)" },
    { name := jsonSwitch
      effect := .mark
      purpose := "Print the compile result as JSON (with --run)" }]
  operand := some (.optional "name" "Example name, e.g. basic-math")

/-- The usage of the command that serves requests. -/
def Usage.serve : Usage where
  program := commandCall serveCommand
  switches := [
    Switch.help,
    { name := hostSwitch
      effect := .value .any
      purpose := "Host to bind server to (default: 127.0.0.1)" },
    { name := numberSwitch
      effect := .value .integer
      purpose := "Port to bind server to (default: 8000)" }]

end PlainEnglish
