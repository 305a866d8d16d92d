import PlainEnglish.Number.Numeral
import PlainEnglish.Program.Basic
import PlainEnglish.Program.Cursor
import PlainEnglish.Token.Scan

/-!
# Parsing

A program is statements and newlines up to the end token. A declaration is its four keywords with
a name in their midst and an expression behind them, and a statement that prints is its keyword
and an expression. An expression is operands with operators between them; it is grouped from the
left, and all operators bind alike. Parsing stops at the first token that does not fit.
-/

namespace PlainEnglish

/-! ### Expressions -/

/-- A single operand. -/
def Parser.operand : Parser Expression := fun c =>
  match c.ahead with
  | t :: _ =>
    match t.kind with
    | .number =>
      match Number.ofText? t.text with
      | some x => (.ok (.number x), c.next)
      | none => (.error (.notNumber t.text), c.next)
    | .string => (.ok (.string t.text), c.next)
    | .identifier => (.ok (.name t.text), c.next)
    | _ => (.error (.grammar (.unexpected .operand t)), c)
  | [] => (.error (.grammar (.endOfInput .operand (c.last.map Token.line))), c)

theorem Parser.operand_forward : Parser.operand.Forward := by
  intro c
  unfold Parser.operand
  split
  · split
    · split <;> exact c.length_next_le
    · exact c.length_next_le
    · exact c.length_next_le
    · exact Nat.le_refl _
  · exact Nat.le_refl _

/-- The operators and operands that follow an expression, which becomes the leftmost operand. -/
def Parser.chain (left : Expression) (c : Cursor) : Except ParseError Expression × Cursor :=
  match _h : c.ahead with
  | t :: _ =>
    match t.kind with
    | .operator op =>
      match _hc : Parser.operand c.next with
      | (.ok right, c') => Parser.chain (.binary left op right) c'
      | (.error e, c') => (.error e, c')
    | _ => (.ok left, c)
  | [] => (.ok left, c)
termination_by c.ahead.length
decreasing_by
  have hlt := Cursor.length_next_lt _h
  have hle := Parser.operand_forward c.next
  rw [_hc] at hle
  exact Nat.lt_of_le_of_lt hle hlt

theorem Parser.chain_forward (left : Expression) (c : Cursor) :
    (Parser.chain left c).2.ahead.length ≤ c.ahead.length := by
  fun_induction Parser.chain left c with
  | case1 left c t rest h op hop right c' hc ih =>
    have hlt := Cursor.length_next_lt h
    have hle := Parser.operand_forward c.next
    rw [hc] at hle
    simp only at hle
    omega
  | case2 left c t rest h op hop e c' hc =>
    have hlt := Cursor.length_next_lt h
    have hle := Parser.operand_forward c.next
    rw [hc] at hle
    simp only at hle ⊢
    omega
  | case3 => exact Nat.le_refl _
  | case4 => exact Nat.le_refl _

/-- An expression: as many operands as operators between them reach. -/
def Parser.expression : Parser Expression := do
  let first ← Parser.operand
  Parser.chain first

theorem Parser.expression_forward : Parser.expression.Forward :=
  Parser.operand_forward.bind Parser.chain_forward

/-! ### Statements -/

/-- The declaration of a variable. -/
def Parser.declaration : Parser Statement := do
  let start ← Parser.expect (.keyword .createWord)
  let _ ← Parser.expect (.keyword .variableWord)
  let name ← Parser.expect .identifier
  let _ ← Parser.expect (.keyword .withWord)
  let _ ← Parser.expect (.keyword .valueWord)
  let value ← Parser.expression
  return .declaration name.text value start.line

/-- A statement that prints. -/
def Parser.printing : Parser Statement := do
  let start ← Parser.expect (.keyword .printWord)
  let value ← Parser.expression
  return .printing value start.line

/-- A statement of either sort. A token that begins none is passed over before the parser
fails. -/
def Parser.statement : Parser Statement := fun c =>
  if c.isAt [.keyword .createWord] then Parser.declaration c
  else if c.isAt [.keyword .printWord] then Parser.printing c
  else
    match c.ahead with
    | t :: _ => (.error (.grammar (.unexpected .statement t)), c.next)
    | [] => (.error (.grammar (.endOfInput (.kind .finish) (c.last.map Token.line))), c)

/-- A parser that begins by expecting the kind of the next token moves by one token at least. -/
theorem Parser.length_expect_bind_lt {α : Type} {kind : Kind} {f : Token → Parser α}
    (hf : ∀ t, (f t).Forward) {c : Cursor} (h : c.isAt [kind]) :
    ((Parser.expect kind >>= f) c).2.ahead.length < c.ahead.length := by
  obtain ⟨passed, ahead⟩ := c
  cases ahead with
  | nil => simp [Cursor.isAt, Cursor.current] at h
  | cons t rest =>
    have hk : t.kind = kind := by simpa [Cursor.isAt, Cursor.current] using h
    have hf' := hf t ⟨t :: passed, rest⟩
    simp only [Parser.bind_apply, Parser.expect, hk, if_true, Cursor.next]
    exact Nat.lt_succ_of_le hf'

/-- A statement takes up at least one token. -/
theorem Parser.length_statement_lt {c : Cursor} (h : c.ahead ≠ []) :
    (Parser.statement c).2.ahead.length < c.ahead.length := by
  unfold Parser.statement
  split
  · next hc =>
    exact Parser.length_expect_bind_lt (fun _ => (Parser.expect_forward _).bind fun _ =>
      (Parser.expect_forward _).bind fun _ => (Parser.expect_forward _).bind fun _ =>
        (Parser.expect_forward _).bind fun _ => Parser.expression_forward.bind fun _ =>
          Parser.pure_forward _) hc
  · split
    · next hc =>
      exact Parser.length_expect_bind_lt (fun _ => Parser.expression_forward.bind fun _ =>
        Parser.pure_forward _) hc
    · split
      · next t rest heq => exact Cursor.length_next_lt heq
      · next heq => exact absurd heq h

/-! ### Programs -/

/-- The statements up to the end token, behind the statements that are already found. -/
def Parser.programAfter (done : Program) (c : Cursor) : Except ParseError Program × Cursor :=
  match _h : c.ahead with
  | [] => (.error (.grammar (.endOfInput (.kind .finish) (c.last.map Token.line))), c)
  | t :: _ =>
    if t.kind = .finish then (.ok done.reverse, c)
    else if t.kind = .newline then Parser.programAfter done c.next
    else
      match _hc : Parser.statement c with
      | (.ok statement, c') => Parser.programAfter (statement :: done) c'
      | (.error e, c') => (.error e, c')
termination_by c.ahead.length
decreasing_by
  · exact Cursor.length_next_lt _h
  · have hlt := @Parser.length_statement_lt c (by rw [_h]; exact List.cons_ne_nil _ _)
    rw [_hc] at hlt
    exact hlt

/-- A whole program. The end token is not passed, and nothing behind it is looked at. -/
def Parser.program : Parser Program := Parser.programAfter []

/-- The program that a row of tokens makes. -/
def Program.ofTokens (tokens : List Token) : Except ParseError Program :=
  (Parser.program (Cursor.start tokens)).1

/-- The program that a source text spells. -/
def Program.parse (source : Text) : Except ParseError Program :=
  Program.ofTokens (Token.scan source)

end PlainEnglish
