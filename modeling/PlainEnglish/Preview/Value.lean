import PlainEnglish.Number.Arithmetic
import PlainEnglish.Number.Numeral
import PlainEnglish.Number.Written
import PlainEnglish.Token.Basic

/-!
# Values

The preview computes with numbers and texts.
-/

namespace PlainEnglish

/-- A value of the preview. -/
inductive Value where
  | number (x : Number)
  | text (t : Text)
deriving DecidableEq, Repr

/-- A value as it is printed. -/
def Value.render : Value → Text
  | .number x => x.plain
  | .text t => t

/-- A value as a number; a text that is no numeral counts as no number. -/
def Value.toNumber : Value → Number
  | .number x => x
  | .text t =>
    match Numeral.read? t with
    | some numeral => numeral.toNumber
    | none => .nan

/-- An operator applied to two numbers; division by zero gives zero. -/
def Operator.onNumbers (op : Operator) (x y : Number) : Number :=
  match op with
  | .plus => x.add y
  | .minus => x.subtract y
  | .times => x.multiply y
  | .over => if y.isZero then .zero else x.divide y

/-- An operator applied to two values: plus puts the renderings together if there is a text among
them, and otherwise the values are taken as numbers. -/
def Operator.apply (op : Operator) (left right : Value) : Value :=
  match op, left, right with
  | .plus, .text _, _ => .text (left.render ++ right.render)
  | .plus, _, .text _ => .text (left.render ++ right.render)
  | _, _, _ => .number (op.onNumbers left.toNumber right.toNumber)

/-! ### Environments -/

/-- The values of the variables, the newest first. An older value of a variable does not
count. -/
abbrev Environment := List (Text × Value)

/-- The value of a variable. -/
def Environment.value? (env : Environment) (name : Text) : Option Value := env.lookup name

/-- A variable gets a value. -/
def Environment.define (env : Environment) (name : Text) (value : Value) : Environment :=
  (name, value) :: env

/-- Whether one text comes before or with another one in the order of their characters. -/
def Text.le : Text → Text → Bool
  | [], _ => true
  | _ :: _, [] => false
  | a :: s, b :: t => if a = b then Text.le s t else a < b

/-- The variables with their values, sorted by name. -/
def Environment.variables (env : Environment) : List (Text × Value) :=
  let names := (env.map Prod.fst).eraseDups.mergeSort Text.le
  names.filterMap fun name => (env.value? name).map (name, ·)

end PlainEnglish
