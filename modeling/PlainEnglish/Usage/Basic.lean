import PlainEnglish.Text.Basic

/-!
# Usage

What may stand on a command line: switches, which begin with hyphens, and at most one operand. A
switch can have a value. The operand can be a further command, to which all words behind it
belong.
-/

namespace PlainEnglish

/-- What the value of a switch has to be. -/
inductive ValueRule where
  | any
  | oneOf (choices : List Text)
  | integer
deriving DecidableEq, Repr

/-- What a switch does: it asks for the page of help or the version, leaves a mark, or sets a
value. -/
inductive SwitchEffect where
  | help
  | version
  | mark
  | value (rule : ValueRule)
deriving DecidableEq, Repr

/-- A switch. Its name begins with two hyphens; behind a single one it may have a letter. -/
structure Switch where
  name : Text
  letter : Option Char := none
  effect : SwitchEffect
  purpose : Text
deriving DecidableEq, Repr

/-- An operand, which may be left out unless it is required, or a choice of commands with the
purpose of each. -/
inductive Operand where
  | required (name purpose : Text)
  | optional (name purpose : Text)
  | command (name purpose : Text) (commands : List (Text × Text))
deriving DecidableEq, Repr

/-- The usage of a program, or of one of its commands. -/
structure Usage where
  program : Text
  purpose : Text := []
  switches : List Switch
  operand : Option Operand := none
deriving DecidableEq, Repr

/-- Every name of a switch, the letter first. -/
def Switch.names (s : Switch) : List Text := s.letter.toList.map (fun c => ['-', c]) ++ [s.name]

/-- The switch that every command has. -/
def Switch.help : Switch where
  name := "--help"
  letter := some 'h'
  effect := .help
  purpose := "show this help message and exit"

/-- The switch with the given name or letter. -/
def Usage.find? (u : Usage) (name : Text) : Option Switch :=
  u.switches.find? fun s => name ∈ s.names

end PlainEnglish
