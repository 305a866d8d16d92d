import PlainEnglish.Program.SyntaxError

/-!
# Cursors

A cursor is a place in a row of tokens: between the tokens that are passed and those ahead. A
parser moves it forward, and leaves it where it has got to when it fails.
-/

namespace PlainEnglish

/-- A place in a row of tokens; of the tokens that are passed the nearest comes first. -/
structure Cursor where
  passed : List Token
  ahead : List Token
deriving DecidableEq, Repr

/-- The place in front of all tokens. -/
def Cursor.start (tokens : List Token) : Cursor := ⟨[], tokens⟩

/-- The whole row of tokens. -/
def Cursor.tokens (c : Cursor) : List Token := c.passed.reverse ++ c.ahead

/-- How many tokens are passed. -/
def Cursor.position (c : Cursor) : Nat := c.passed.length

/-- The next token. -/
def Cursor.current (c : Cursor) : Option Token := c.ahead.head?

/-- Whether the next token is of one of the given kinds. -/
def Cursor.isAt (c : Cursor) (kinds : List Kind) : Bool := c.current.any fun t => t.kind ∈ kinds

/-- The place behind the next token. -/
def Cursor.next (c : Cursor) : Cursor :=
  match c.ahead with
  | t :: rest => ⟨t :: c.passed, rest⟩
  | [] => c

/-- The last token of the row. -/
def Cursor.last (c : Cursor) : Option Token := c.ahead.getLast? <|> c.passed.head?

/-! ### Parsers -/

/-- What moves a cursor forward and finds something, or fails. -/
def Parser (α : Type) : Type := Cursor → Except ParseError α × Cursor

/-- A parser that finds a value without moving. -/
def Parser.found {α : Type} (a : α) : Parser α := fun c => (.ok a, c)

/-- One parser after the other; the second one is not started if the first one fails. -/
def Parser.andThen {α β : Type} (p : Parser α) (f : α → Parser β) : Parser β := fun c =>
  match p c with
  | (.ok a, c') => f a c'
  | (.error e, c') => (.error e, c')

instance : Monad Parser where
  pure := Parser.found
  bind := Parser.andThen

/-- A parser that moves by one token. -/
def Parser.advance : Parser Token := fun c =>
  match c.ahead with
  | t :: _ => (.ok t, c.next)
  | [] => (.error (.grammar (.endOfInput (.kind .finish) (c.last.map Token.line))), c)

/-- A parser that moves by one token of the given kind, and fails in front of any other. -/
def Parser.expect (kind : Kind) : Parser Token := fun c =>
  match c.ahead with
  | t :: _ =>
    if t.kind = kind then (.ok t, c.next)
    else (.error (.grammar (.unexpected (.kind kind) t)), c)
  | [] => (.error (.grammar (.endOfInput (.kind kind) (c.last.map Token.line))), c)

/-! ### Where parsers lead -/

/-- The parser never goes back. -/
def Parser.Forward {α : Type} (p : Parser α) : Prop :=
  ∀ c, (p c).2.ahead.length ≤ c.ahead.length

theorem Cursor.length_next_le (c : Cursor) : c.next.ahead.length ≤ c.ahead.length := by
  unfold Cursor.next
  split <;> simp_all

theorem Cursor.length_next_lt {c : Cursor} {t : Token} {rest : List Token}
    (h : c.ahead = t :: rest) : c.next.ahead.length < c.ahead.length := by
  simp [Cursor.next, h]

theorem Parser.bind_apply {α β : Type} (p : Parser α) (f : α → Parser β) (c : Cursor) :
    (p >>= f) c = match p c with
      | (.ok a, c') => f a c'
      | (.error e, c') => (.error e, c') := rfl

theorem Parser.pure_apply {α : Type} (a : α) (c : Cursor) : (pure a : Parser α) c = (.ok a, c) :=
  rfl

theorem Parser.Forward.bind {α β : Type} {p : Parser α} {f : α → Parser β} (hp : p.Forward)
    (hf : ∀ a, (f a).Forward) : (p >>= f).Forward := by
  intro c
  have h := hp c
  rw [Parser.bind_apply]
  split
  · next a c' heq =>
    rw [heq] at h
    exact Nat.le_trans (hf a c') h
  · next e c' heq =>
    rw [heq] at h
    exact h

theorem Parser.pure_forward {α : Type} (a : α) : (pure a : Parser α).Forward :=
  fun _ => Nat.le_refl _

theorem Parser.expect_forward (kind : Kind) : (Parser.expect kind).Forward := by
  intro c
  unfold Parser.expect
  split
  · split
    · exact c.length_next_le
    · exact Nat.le_refl _
  · exact Nat.le_refl _

end PlainEnglish
