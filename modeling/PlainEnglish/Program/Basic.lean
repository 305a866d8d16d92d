import PlainEnglish.Number.Basic
import PlainEnglish.Token.Basic

/-!
# Programs

A program is a row of statements. Each statement knows the line on which it begins.
-/

namespace PlainEnglish

/-- What stands for a value. -/
inductive Expression where
  | number (x : Number)
  | string (t : Text)
  | name (t : Text)
  | binary (left : Expression) (op : Operator) (right : Expression)
deriving DecidableEq, Repr

/-- A statement: the declaration of a variable, or the printing of a value. -/
inductive Statement where
  | declaration (name : Text) (value : Expression) (line : Int)
  | printing (value : Expression) (line : Int)
deriving DecidableEq, Repr

/-- A program. -/
abbrev Program := List Statement

/-- The line on which a statement begins. -/
def Statement.line : Statement → Int
  | .declaration _ _ line => line
  | .printing _ line => line

end PlainEnglish
