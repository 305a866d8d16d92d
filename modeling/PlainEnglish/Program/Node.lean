import PlainEnglish.Program.Basic

/-!
# Loose trees

A tree of nodes of which any may stand anywhere, as it comes from outside. It is a program only
if statements stand where statements belong, and expressions where expressions belong.
-/

namespace PlainEnglish

/-- A node of a loose tree. -/
inductive Node where
  | number (x : Number)
  | string (t : Text)
  | name (t : Text)
  | binary (left : Node) (op : Operator) (right : Node)
  | declaration (name : Text) (value : Node) (line : Int)
  | printing (value : Node) (line : Int)
  | program (statements : List Node)
deriving Repr, Inhabited

/-- The sort of a node. -/
def Node.sort : Node → Text
  | .number _ => "NumberLiteral"
  | .string _ => "StringLiteral"
  | .name _ => "Identifier"
  | .binary _ _ _ => "BinaryOperation"
  | .declaration _ _ _ => "VariableDeclaration"
  | .printing _ _ => "PrintStatement"
  | .program _ => "Program"

/-- A node that stands where one of its sort does not belong. -/
inductive Node.Misplaced where
  | expression (sort : Text)
  | statement (sort : Text)
deriving DecidableEq, Repr

/-- The words for a misplaced node. -/
def Node.Misplaced.message : Node.Misplaced → Text
  | .expression sort => "Unsupported expression node: " ++ sort
  | .statement sort => "Unsupported statement node: " ++ sort

/-- The expression that a tree makes, or its first misplaced node from the left. -/
def Node.toExpression : Node → Except Node.Misplaced Expression
  | .number x => .ok (.number x)
  | .string t => .ok (.string t)
  | .name t => .ok (.name t)
  | .binary left op right =>
    match left.toExpression with
    | .error e => .error e
    | .ok l =>
      match right.toExpression with
      | .error e => .error e
      | .ok r => .ok (.binary l op r)
  | node => .error (.expression node.sort)

/-- The statement that a tree makes, or its first misplaced node. -/
def Node.toStatement : Node → Except Node.Misplaced Statement
  | .declaration label value line => value.toExpression.map fun v => .declaration label v line
  | .printing value line => value.toExpression.map fun v => .printing v line
  | node => .error (.statement node.sort)

/-- The program that a row of trees makes, or the first misplaced node. -/
def Program.ofNodes : List Node → Except Node.Misplaced Program
  | [] => .ok []
  | node :: nodes =>
    match node.toStatement with
    | .error e => .error e
    | .ok statement => (Program.ofNodes nodes).map (statement :: ·)

/-- The tree of an expression. -/
def Expression.toNode : Expression → Node
  | .number x => .number x
  | .string t => .string t
  | .name t => .name t
  | .binary left op right => .binary left.toNode op right.toNode

/-- The tree of a statement. -/
def Statement.toNode : Statement → Node
  | .declaration label value line => .declaration label value.toNode line
  | .printing value line => .printing value.toNode line

/-- The tree of a program. -/
def Program.toNode (p : Program) : Node := .program (p.map Statement.toNode)

end PlainEnglish
