import PlainEnglish.Command.Run

/-!
# The program

The outer layer of the program: it collects what the program finds around it, and prints what
running the program comes to. Times are not shown in the log, errors are not traced, and there is
no server.
-/

namespace PlainEnglish

/-- The environment variables that the program looks at. -/
def watchedVariables : List Text := logLevelVariable :: verboseVariables

/-- The variables among the watched ones that are set, with their values. -/
def readEnvironment : IO (List (Text × Text)) :=
  watchedVariables.filterMapM fun name => do
    let value ← IO.getEnv (String.ofList name)
    return value.map fun value => (name, value.toList)

/-- The file at a place, which may be one that cannot be opened. -/
def readFile (place : String) : IO Entry := do
  try return .file (← IO.FS.readBinFile place)
  catch e => return .closed e.toString.toList

/-- What stands at a path. -/
def readEntry (path : Path) : IO (Except ReadFailure (Option Entry)) := do
  let place := (← IO.currentDir) / String.ofList path.text
  if path.names.any fun name => decide ('\x00' ∈ name) then return .ok none
  else if path.isLong || path.names.any Text.isLongName then return .error .longName
  else if ← place.isDir then return .ok (some .directory)
  else if ← place.pathExists then return .ok (some (← readFile place.toString))
  else return .ok none

/-- What stands on the input, read only if a run of the program needs it. -/
def readInput (words : List Text) : IO Text := do
  if Invocation.readsInput words then
    let input ← (← IO.getStdin).readToEnd
    return input.toList
  else return []

/-- What the program finds around it when it is run with the given words. -/
def readSurroundings (words : List Text) : IO Surroundings := do
  let here ← IO.currentDir
  let directory := Path.ofText here.toString.toList
  let entries ← (Invocation.paths directory words).mapM
    fun path => return (path, ← readEntry path)
  return {
    directory := directory
    files := fun path => (entries.lookup path).getD (.ok none)
    input := ← readInput words
    environment := ← readEnvironment
    clock := ['-']
    trace := ['-']
    hasServer := false }

/-- Prints a report, and gives the status to end with. -/
def Report.print (r : Report) : IO UInt32 := do
  let output ← IO.getStdout
  let errorOutput ← IO.getStderr
  output.putStr (String.ofList r.output)
  errorOutput.putStr (String.ofList r.errorOutput)
  match r.ending with
  | .status n => return n.toNat.toUInt32
  | .unreadable failure =>
    errorOutput.putStrLn (String.ofList failure.message)
    return failureStatus.toNat.toUInt32

end PlainEnglish

open PlainEnglish in
/-- Runs the program with the words of its command line. -/
def main (arguments : List String) : IO UInt32 := do
  let words := arguments.map String.toList
  let around ← readSurroundings words
  (around.run words).print
