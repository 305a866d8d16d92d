import PlainEnglish.Text.Quoted
import PlainEnglish.Usage.Basic

/-!
# Mistakes in command lines
-/

namespace PlainEnglish

/-- What can be wrong with a command line. -/
inductive UsageMistake where
  | ambiguous (word : Text) (candidates : List Switch)
  | needlessValue (s : Switch) (value : Text)
  | missingValue (s : Switch)
  | notInteger (s : Switch) (value : Text)
  | notChoice (s : Switch) (value : Text) (choices : List Text)
  | notCommand (name value : Text) (commands : List Text)
  | missingOperand (name : Text)
  | unknownWords (words : List Text)
deriving DecidableEq, Repr

/-- A switch or an operand that is at fault, with what is wrong. -/
def UsageMistake.inArgument (name fault : Text) : Text := "argument " ++ name ++ ": " ++ fault

/-- The words for a value that is none of the choices. -/
def UsageMistake.invalidChoice (value : Text) (choices : List Text) : Text :=
  "invalid choice: " ++ value.quoted ++ " (choose from " ++
    Text.join ", " (choices.map Text.quoted) ++ ")"

/-- A switch in the words for a mistake. -/
def Switch.label (s : Switch) : Text := Text.join ['/'] s.names

/-- The words for a mistake. -/
def UsageMistake.message : UsageMistake → Text
  | .ambiguous word candidates =>
    "ambiguous option: " ++ word ++ " could match " ++
      Text.join ", " (candidates.map fun s => s.name)
  | .needlessValue s value => inArgument s.label ("ignored explicit argument " ++ value.quoted)
  | .missingValue s => inArgument s.label "expected one argument"
  | .notInteger s value => inArgument s.label ("invalid int value: " ++ value.quoted)
  | .notChoice s value choices => inArgument s.label (invalidChoice value choices)
  | .notCommand name value commands => inArgument name (invalidChoice value commands)
  | .missingOperand name => "the following arguments are required: " ++ name
  | .unknownWords words => "unrecognized arguments: " ++ Text.join [' '] words

end PlainEnglish
