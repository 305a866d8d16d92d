import PlainEnglish.Preview.Value
import PlainEnglish.Token.Scan

/-!
# Evaluating the text of a script

The preview knows a script only as text. It takes away all parentheses and applies a single
operator: the first of the four that occurs at all, to what stands next to its first occurrence.
-/

namespace PlainEnglish

/-- The text without its parentheses. -/
def Text.dropParentheses (t : Text) : Text := t.filter fun c => c ≠ '(' && c ≠ ')'

/-- The first of the operators that occurs in a text. -/
def Operator.findIn? (t : Text) : Option Operator := Operator.all.find? fun op => op.symbol ∈ t

/-- The values of operands that name nothing. -/
def Operator.defaults : Operator → Number × Number
  | .plus => (.zero, .zero)
  | .minus => (.zero, .zero)
  | .times => (.one, .one)
  | .over => (.zero, .one)

/-- The value of an operand: a numeral, the value of a variable, or the default. -/
def Environment.operand (env : Environment) (t : Text) (default : Number) : Value :=
  match Numeral.read? t with
  | some numeral => .number numeral.toNumber
  | none => (env.value? t).getD (.number default)

/-- The value of a text without an operator. -/
def Value.ofText (t : Text) : Value :=
  match Numeral.read? t with
  | some numeral => .number numeral.toNumber
  | none => .text (if Text.isQuoted t then Text.inner t else t)

/-- The value of an expression of a script. -/
def Environment.evaluate (env : Environment) (expression : Text) : Value :=
  let t := Text.dropParentheses expression
  match Operator.findIn? t with
  | some op =>
    match Text.splitAt op.symbol t with
    | left :: right :: _ =>
      op.apply (env.operand left.trim op.defaults.1) (env.operand right.trim op.defaults.2)
    | _ => .text t
  | none => Value.ofText t.trim

/-- What is printed for the content of a printing line: the value of a variable, a text between
quotes, the value of an expression with an operator, or else the content itself. -/
def Environment.printed (env : Environment) (content : Text) : Text :=
  match env.value? content with
  | some value => value.render
  | none =>
    if Text.isQuoted content then Text.inner content
    else
      match Operator.findIn? (Text.dropParentheses content) with
      | some _ => (env.evaluate content).render
      | none => content

end PlainEnglish
