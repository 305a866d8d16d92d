import PlainEnglish.Preview.Trace
import PlainEnglish.Proofs.Number.Literal
import PlainEnglish.Proofs.Preview.Evaluate
import PlainEnglish.Proofs.Text.Split

/-!
# A preview that may fail

The preview once more, made of operations of which each fails where it has no result: a text that
names no number, a row without a part, a name without a value, a division by zero, the whole part
of an infinity. Whatever a script contains, none of them fails, so the only fault of a script is
an assignment to nothing.

Main statement: `Checked.ofScript_eq`.
-/

namespace PlainEnglish

/-- What may go wrong while a script is gone through. -/
inductive Fault where
  | nameless (e : PreviewError)
  | unreadable (t : Text)
  | missing (i : Nat)
  | undefined (name : Text)
  | divisor
  | boundless (x : Number)
deriving DecidableEq, Repr

namespace Checked

/-! ### Operations that may fail -/

/-- The number that a text names. -/
def number (t : Text) : Except Fault Number :=
  match Number.ofText? t with
  | some x => .ok x
  | none => .error (.unreadable t)

/-- The decimal that a text spells, with its sign. -/
def decimal (t : Text) : Except Fault (Bool × Decimal) :=
  match Numeral.read? t with
  | some n => .ok (n.negative, n.toDecimal)
  | none => .error (.unreadable t)

/-- A part of a row. -/
def part (parts : List Text) (i : Nat) : Except Fault Text :=
  match parts[i]? with
  | some t => .ok t
  | none => .error (.missing i)

/-- The value of a variable. -/
def value (env : Environment) (name : Text) : Except Fault Value :=
  match env.value? name with
  | some v => .ok v
  | none => .error (.undefined name)

/-- A quotient. -/
def divide (x y : Number) : Except Fault Number :=
  if y.isZero then .error .divisor else .ok (x.divide y)

/-- A natural number with a sign. -/
def signed (negative : Bool) (n : Nat) : Int := if negative then -n else n

/-- The whole part of a number. -/
def truncate : Number → Except Fault Int
  | .finite negative m => .ok (signed negative (m.units / unitsPerOne))
  | x => .error (.boundless x)

/-! ### Values -/

/-- A number in plain decimal notation. -/
def plain (x : Number) : Except Fault Text :=
  match x with
  | .nan => .ok "NaN"
  | .infinite negative => .ok (Text.sign negative ++ "Infinity")
  | .finite negative m => do
    let whole ← truncate x
    if signed negative m.units = whole * unitsPerOne ∧ m.units < Nat.pow 10 21 * unitsPerOne then
      return Text.ofInt whole
    let (negative, d) ← decimal x.literal
    return Text.trimFraction (Text.sign negative ++ d.plain)

def render : Value → Except Fault Text
  | .number x => plain x
  | .text t => .ok t

def toNumber : Value → Except Fault Number
  | .number x => .ok x
  | .text t => if t.isNumeral then number t else .ok .nan

/-- An operator applied to two numbers. -/
def onNumbers (op : Operator) (x y : Number) : Except Fault Number :=
  match op with
  | .plus => .ok (x.add y)
  | .minus => .ok (x.subtract y)
  | .times => .ok (x.multiply y)
  | .over => if y.isZero then .ok .zero else divide x y

/-- An operator applied to two values. -/
def apply (op : Operator) (left right : Value) : Except Fault Value :=
  match op, left, right with
  | .plus, .text _, _ | .plus, _, .text _ => do
    return .text ((← render left) ++ (← render right))
  | _, _, _ => do
    return .number (← onNumbers op (← toNumber left) (← toNumber right))

/-! ### Expressions -/

/-- The value of an operand. -/
def operand (env : Environment) (t : Text) (default : Number) : Except Fault Value := do
  if t.isNumeral then return .number (← number t)
  if (env.value? t).isSome then value env t
  else return .number default

/-- The value of an expression of a script. -/
def evaluate (env : Environment) (expression : Text) : Except Fault Value := do
  let t := expression.dropParentheses
  match Operator.findIn? t with
  | some op =>
    let parts := (t.splitAt op.symbol).map Text.trim
    let left ← operand env (← part parts 0) op.defaults.1
    let right ← operand env (← part parts 1) op.defaults.2
    apply op left right
  | none =>
    if t.trim.isNumeral then return .number (← number t.trim)
    else return .text (if t.trim.isQuoted then t.trim.inner else t.trim)

/-- What is printed for the content of a printing line. -/
def printed (env : Environment) (content : Text) : Except Fault Text := do
  if (env.value? content).isSome then render (← value env content)
  else if content.isQuoted then return content.inner
  else
    match Operator.findIn? content.dropParentheses with
    | some _ => render (← evaluate env content)
    | none => return content

/-! ### Lines -/

/-- What stands before and what stands behind the first separator of a text. -/
def splitFirst (separator : Char) (t : Text) : List Text :=
  if separator ∈ t then
    [t.takeWhile (· ≠ separator), (t.dropWhile (· ≠ separator)).tail]
  else [t]

/-- The variables after the assignment of a trimmed line. -/
def assigned (env : Environment) (number : Nat) (line : Text) : Except Fault Environment :=
  if '=' ∈ line then
    match (splitFirst '=' line).map Text.trim with
    | [name, expression] =>
      if expression = [] then .ok env
      else if name = [] then .error (.nameless ⟨number, line⟩)
      else do return env.define name (← evaluate env expression)
    | parts => .error (.missing parts.length)
  else .ok env

/-- The trace after one more line. -/
def afterLine (trace : Trace) (number : Nat) (line : Text) : Except Fault Trace := do
  if line.trim.isIdle then return trace
  let env ← assigned trace.env number line.trim
  match line.trim.printContent? with
  | some content => return ⟨(← printed env content) :: trace.printed, env⟩
  | none => return ⟨trace.printed, env⟩

/-- The trace after more lines, which come with their numbers. -/
def afterLines (trace : Trace) : List (Text × Nat) → Except Fault Trace
  | [] => return trace
  | (line, number) :: lines => do afterLines (← afterLine trace number line) lines

/-- The trace of a whole script. -/
def ofScript (script : Text) : Except Fault Trace :=
  afterLines ⟨[], []⟩ ((script.splitAt '\n').zipIdx 1)

/-! ### Numbers -/

@[simp] lemma ok_bind {α β : Type} (a : α) (f : α → Except Fault β) :
    (Except.ok a >>= f) = f a := rfl

@[simp] lemma pure_eq {α : Type} (a : α) : (pure a : Except Fault α) = .ok a := rfl

lemma number_of_read? {t : Text} {n : Numeral} (h : Numeral.read? t = some n) :
    number t = .ok n.toNumber := by
  rw [number, Number.ofText?_of_read? h]

lemma toNumber_eq (v : Value) : toNumber v = .ok v.toNumber := by
  cases v with
  | number x => rfl
  | text t =>
    rw [toNumber, Value.toNumber]
    cases hn : Numeral.read? t with
    | none => rw [if_neg (by simp [Text.isNumeral, hn])]
    | some n => rw [if_pos (by simp [Text.isNumeral, hn]), number_of_read? hn]

/-- Nothing is divided by zero. -/
lemma onNumbers_eq (op : Operator) (x y : Number) :
    onNumbers op x y = .ok (op.onNumbers x y) := by
  cases op with
  | plus => rfl
  | minus => rfl
  | times => rfl
  | «over» =>
    rw [onNumbers, Operator.onNumbers]
    by_cases hy : y.isZero = true
    · rw [if_pos hy, if_pos hy]
    · rw [if_neg hy, if_neg hy, divide, if_neg hy]

/-! ### Renderings -/

lemma signed_eq_mul_iff {negative : Bool} {a b c : Nat} :
    signed negative a = signed negative b * c ↔ a = b * c := by
  cases negative with
  | false =>
    rw [← Nat.cast_inj (R := Int), Nat.cast_mul]
    rfl
  | true =>
    change -(a : Int) = -(b : Int) * c ↔ a = b * c
    rw [neg_mul, neg_inj, ← Nat.cast_mul, Nat.cast_inj]

lemma eq_div_mul_iff {a b : Nat} : a = a / b * b ↔ a % b = 0 := by
  have hsplit := Nat.div_add_mod' a b
  omega

lemma ofInt_signed (negative : Bool) (n : Nat) :
    Text.ofInt (signed negative n) = Text.sign (negative && n != 0) ++ Text.ofNat n := by
  cases negative with
  | false => rfl
  | true => exact Text.ofInt_neg n

/-- A whole number below the bound has its digits, and every other number is a decimal. -/
lemma plain_finite_eq (negative : Bool) (m : Magnitude) :
    plain (.finite negative m) = .ok (Number.plain (.finite negative m)) := by
  have hcondition : (signed negative m.units =
      signed negative (m.units / unitsPerOne) * unitsPerOne ∧
      m.units < Nat.pow 10 21 * unitsPerOne) ↔
      (m.units % unitsPerOne = 0 ∧ m.units / unitsPerOne < Nat.pow 10 21) := by
    rw [signed_eq_mul_iff, eq_div_mul_iff]
    exact and_congr_right' (Nat.div_lt_iff_lt_mul unitsPerOne_pos).symm
  simp only [plain, truncate, ok_bind, pure_eq, Number.plain]
  by_cases h : m.units % unitsPerOne = 0 ∧ m.units / unitsPerOne < Nat.pow 10 21
  · rw [if_pos h, if_pos (hcondition.mpr h), ofInt_signed]
    have hzero : (m.units / unitsPerOne != 0) = (m.units != 0) := by
      rw [Bool.eq_iff_iff, bne_iff_ne, bne_iff_ne, not_iff_not]
      constructor
      · intro hquotient
        rw [eq_div_mul_iff.mpr h.1, hquotient, Nat.zero_mul]
      · intro hunits
        rw [hunits, Nat.zero_div]
    rw [hzero]
  · rw [if_neg h, if_neg (mt hcondition.mp h)]
    have hm : m.val ≠ 0 := by
      intro hzero
      rw [Magnitude.units_eq_zero_iff.mpr hzero, Nat.zero_mod, Nat.zero_div] at h
      exact h ⟨rfl, Nat.pow_pos (by decide)⟩
    obtain ⟨n, hread, hsign, hdecimal⟩ := Number.read?_literal negative hm
    simp only [decimal, hread, ok_bind, hsign, Text.trimFraction_sign, hdecimal]

lemma plain_eq (x : Number) : plain x = .ok x.plain := by
  cases x with
  | nan => rfl
  | infinite negative => rfl
  | finite negative m => exact plain_finite_eq negative m

lemma render_eq (v : Value) : render v = .ok v.render := by
  cases v with
  | number x => exact plain_eq x
  | text t => rfl

lemma apply_eq (op : Operator) (left right : Value) :
    apply op left right = .ok (op.apply left right) := by
  cases op <;> cases left <;> cases right <;>
    simp [apply, Operator.apply, render_eq, toNumber_eq, onNumbers_eq]

/-! ### Expressions -/

section

variable (env : Environment)

/-- What is taken for a numeral is read, and what is looked up has a value. -/
lemma operand_eq (t : Text) (default : Number) :
    operand env t default = .ok (env.operand t default) := by
  rw [operand, Environment.operand]
  cases hn : Numeral.read? t with
  | some n =>
    rw [if_pos (by simp [Text.isNumeral, hn]), number_of_read? hn]
    rfl
  | none =>
    rw [if_neg (by simp [Text.isNumeral, hn])]
    cases hv : env.value? t with
    | some v => simp [value, hv]
    | none => simp

lemma evaluate_eq (expression : Text) :
    evaluate env expression = .ok (env.evaluate expression) := by
  simp only [evaluate, Environment.evaluate]
  cases hop : Operator.findIn? expression.dropParentheses with
  | some op =>
    obtain ⟨left, right, more, hsplit⟩ :=
      Text.exists_splitAt_of_mem (Operator.symbol_mem_of_findIn? hop)
    simp [hsplit, part, operand_eq, apply_eq]
  | none =>
    rw [Value.ofText]
    cases hn : Numeral.read? expression.dropParentheses.trim with
    | some n => simp [Text.isNumeral, hn, number_of_read? hn]
    | none => simp [Text.isNumeral, hn]

lemma printed_eq (content : Text) : printed env content = .ok (env.printed content) := by
  rw [printed, Environment.printed]
  cases hv : env.value? content with
  | some v => simp [value, hv, render_eq]
  | none =>
    by_cases hquoted : content.isQuoted = true
    · simp [hquoted]
    · cases hop : Operator.findIn? content.dropParentheses with
      | some op => simp [hquoted, evaluate_eq, render_eq]
      | none => simp [hquoted]

end

/-! ### Scripts -/

/-- A line with an equals sign has two sides, and all that can be missing is the name. -/
lemma assigned_eq (env : Environment) (number : Nat) (line : Text) :
    assigned env number line = (env.afterLine number line).mapError .nameless := by
  rw [assigned, Environment.afterLine, Text.assignment?]
  by_cases hequals : '=' ∈ line
  · simp only [splitFirst, if_pos hequals, List.map_cons, List.map_nil, evaluate_eq, ok_bind,
      pure_eq]
    by_cases hvalue : Text.trim (line.dropWhile (· ≠ '=')).tail = []
    · rw [if_pos hvalue, if_pos hvalue]
      rfl
    · rw [if_neg hvalue, if_neg hvalue]
      by_cases hname : Text.trim (line.takeWhile (· ≠ '=')) = []
      · rw [if_pos hname, if_pos hname]
        rfl
      · rw [if_neg hname, if_neg hname]
        rfl
  · rw [if_neg hequals, if_neg hequals]
    rfl

lemma afterLine_eq (trace : Trace) (number : Nat) (line : Text) :
    afterLine trace number line = (trace.afterLine number line).mapError .nameless := by
  rw [afterLine, Trace.afterLine]
  by_cases hidle : line.trim.isIdle = true
  · simp [hidle]
    rfl
  · simp only [if_neg hidle, assigned_eq, printed_eq]
    cases henv : trace.env.afterLine number line.trim with
    | error e => rfl
    | ok env => cases line.trim.printContent? <;> rfl

lemma afterLines_eq (trace : Trace) (lines : List (Text × Nat)) :
    afterLines trace lines = (trace.afterLines lines).mapError .nameless := by
  induction lines generalizing trace with
  | nil => rfl
  | cons first lines ih =>
    obtain ⟨line, number⟩ := first
    rw [afterLines, Trace.afterLines, afterLine_eq]
    cases trace.afterLine number line with
    | error e => rfl
    | ok trace => exact ih trace

/-- A preview that may fail has the trace of the preview, or its fault. -/
theorem ofScript_eq (script : Text) :
    ofScript script = (Trace.ofScript script).mapError .nameless :=
  afterLines_eq _ _

end Checked

end PlainEnglish
