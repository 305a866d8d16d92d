import PlainEnglish.Number.Written
import PlainEnglish.Program.Basic
import PlainEnglish.Settings.Basic

/-!
# Scripts

The script of a program has the header lines, an empty line and then one line for each statement.
Expressions are written with all their parentheses.
-/

namespace PlainEnglish

/-- A text in a script: between double quotes, unchanged. -/
def Text.inScript (t : Text) : Text := '"' :: t ++ ['"']

/-- An expression in a script. -/
def Expression.render : Expression → Text
  | .number x => x.plain
  | .string t => t.inScript
  | .name t => t
  | .binary left op right =>
    '(' :: left.render ++ [' ', op.symbol, ' '] ++ right.render ++ [')']

/-- A statement in a script, after the given number of spaces; none if the number is negative. -/
def Statement.render (spaces : Int) (statement : Statement) : Text :=
  List.replicate spaces.toNat ' ' ++
    match statement with
    | .declaration name value _ => name ++ " = " ++ value.render
    | .printing value _ => "print(" ++ value.render ++ ")"

/-- The lines of the script of a program. -/
def Program.scriptLines (settings : Settings) (program : Program) : List Text :=
  settings.headerLines ++ [] :: program.map (Statement.render (0 * settings.indentWidth))

/-- The script of a program. -/
def Program.script (settings : Settings) (program : Program) : Text :=
  Text.join ['\n'] (program.scriptLines settings)

end PlainEnglish
