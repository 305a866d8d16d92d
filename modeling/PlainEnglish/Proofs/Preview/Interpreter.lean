import PlainEnglish.Preview.Trace
import PlainEnglish.Proofs.Preview.Evaluate
import PlainEnglish.Proofs.Token.Scan

/-!
# Running programs on their trees

An interpreter of programs that looks at their statements and never at a script, and what the
expressions of a scanned program look like if none of them has more than one operator.

Main statement: `Program.isScanned_of_parse`.
-/

namespace PlainEnglish

open Grammar

/-! ### The interpreter -/

/-- The value of an expression, in which a lone name means what `lone` makes of it. A name beside
an operator means its value, or the default of the operator if it has none. -/
def Expression.value (env : Environment) (lone : Text → Value) : Expression → Value
  | .number x => .number x
  | .string t => .text t
  | .name t => lone t
  | .binary left op right =>
    op.apply (left.value env fun t => (env.value? t).getD (.number op.defaults.1))
      (right.value env fun t => (env.value? t).getD (.number op.defaults.2))

/-- A statement run on what has been printed so far and the values of the variables. A lone name
is declared as its own text, and it is printed as its value, or as its own text if it has
none. -/
def Statement.run (trace : Trace) : Statement → Trace
  | .declaration name value _ =>
    ⟨trace.printed, trace.env.define name (value.value trace.env Value.text)⟩
  | .printing value _ =>
    let printed := value.value trace.env fun t => (trace.env.value? t).getD (.text t)
    ⟨printed.render :: trace.printed, trace.env⟩

/-- A program run from nothing. -/
def Program.run (program : Program) : Trace := program.foldl Statement.run ⟨[], []⟩

/-! ### Programs without nested operations -/

/-- A finite number, a string, or a name. -/
inductive Expression.IsOperand : Expression → Prop where
  | number (negative : Bool) (m : Magnitude) : IsOperand (.number (.finite negative m))
  | string (t : Text) : IsOperand (.string t)
  | name {t : Text} (h : t.IsName) : IsOperand (.name t)

/-- An operand, or an operation on two operands. -/
inductive Expression.IsFlat : Expression → Prop where
  | operand {e : Expression} (h : e.IsOperand) : IsFlat e
  | operation {left right : Expression} (hleft : left.IsOperand) (op : Operator)
      (hright : right.IsOperand) : IsFlat (.binary left op right)

/-- A statement with a flat expression, which declares a name if it declares anything. -/
def Statement.IsFlat : Statement → Prop
  | .declaration name value _ => name.IsName ∧ value.IsFlat
  | .printing value _ => value.IsFlat

/-- A statement that declares no string with an operator or a parenthesis in it. -/
def Statement.DeclaresInert : Statement → Prop
  | .declaration _ value _ => ∀ t, value = .string t → t.IsInert
  | .printing _ _ => True

lemma Statement.IsFlat.value {s : Statement} (h : s.IsFlat) : s.value.IsFlat := by
  cases s with
  | declaration name value line => exact h.2
  | printing value line => exact h

/-! ### Scanned expressions -/

/-- An operand beside an operator in a scanned program: a number without a sign, or a name. -/
inductive Expression.IsTerm : Expression → Prop where
  | number (m : Magnitude) : IsTerm (.number (.finite false m))
  | name {t : Text} (h : t.IsName) : IsTerm (.name t)

/-- A flat expression of a scanned program. -/
inductive Expression.IsScanned : Expression → Prop where
  | number (negative : Bool) (m : Magnitude) : IsScanned (.number (.finite negative m))
  | string {t : Text} (h : '\n' ∉ t) : IsScanned (.string t)
  | name {t : Text} (h : t.IsName) : IsScanned (.name t)
  | operation {left right : Expression} (hleft : left.IsTerm) (op : Operator)
      (hright : right.IsTerm) : IsScanned (.binary left op right)

lemma Expression.not_isOperand_binary {left right : Expression} {op : Operator} :
    ¬(Expression.binary left op right).IsOperand := by
  rintro ⟨⟩

lemma Expression.isFlat_binary_iff {left right : Expression} {op : Operator} :
    (Expression.binary left op right).IsFlat ↔ left.IsOperand ∧ right.IsOperand := by
  constructor
  · intro h
    cases h with
    | operand h => exact absurd h Expression.not_isOperand_binary
    | operation hleft op hright => exact ⟨hleft, hright⟩
  · rintro ⟨hleft, hright⟩
    exact .operation hleft op hright

namespace Grammar

lemma Primary.isOperand_of_isFlat {p : Primary} (h : p.expression.IsFlat) :
    p.expression.IsOperand := by
  generalize he : p.expression = e at h
  cases h with
  | operand h => exact h
  | operation => exact absurd he (p.expression_ne_binary _ _ _)

/-- A bare operand of a scanned program is a term. -/
lemma Primary.isTerm {p : Primary} (hbare : p.token.IsBare)
    (hnumeral : p.token.kind = .number → p.token.text.isNumeral = true)
    (h : p.expression.IsOperand) : p.expression.IsTerm := by
  cases p with
  | number t =>
    obtain ⟨x, hx, hform⟩ :=
      Number.exists_ofText?_of_not_mem (hnumeral t.property) hbare.minus_not_mem
    simp only [Primary.token] at hx
    rw [Primary.expression, hx, Option.getD_some] at h ⊢
    rcases hform with ⟨m, rfl⟩ | rfl
    · exact .number m
    · cases h
  | string t =>
    have hkind := hbare.kind
    simp [Primary.token, t.property] at hkind
  | name t =>
    cases h with
    | name h => exact .name h

lemma Primary.isScanned {p : Primary} (hbreak : p.token.kind = .string → '\n' ∉ p.token.text)
    (h : p.expression.IsOperand) : p.expression.IsScanned := by
  cases p with
  | number t =>
    generalize he : (Primary.number t).expression = e at h
    cases h with
    | number negative m => exact .number negative m
    | string => simp [Primary.expression] at he
    | name => simp [Primary.expression] at he
  | string t => exact .string (hbreak t.property)
  | name t =>
    cases h with
    | name h => exact .name h

/-- An expression is flat only if it has no operator, or one between two operands. -/
lemma Chain.links_of_isFlat {c : Chain} (h : c.expression.IsFlat) :
    c.links = [] ∨ ∃ l, c.links = [l] ∧ c.first.expression.IsOperand ∧
      l.primary.expression.IsOperand := by
  obtain ⟨first, links⟩ := c
  rcases List.eq_nil_or_concat' links with rfl | ⟨init, last, rfl⟩
  · exact Or.inl rfl
  · rw [Chain.expression, List.foldl_append, List.foldl_cons, List.foldl_nil, Link.extend,
      Expression.isFlat_binary_iff] at h
    -- a second operator would make the left operand an operation
    rcases List.eq_nil_or_concat' init with rfl | ⟨init', last', rfl⟩
    · exact Or.inr ⟨last, rfl, h⟩
    · rw [List.foldl_append, List.foldl_cons, List.foldl_nil, Link.extend] at h
      exact absurd h.1 Expression.not_isOperand_binary

lemma Chain.isScanned {c : Chain} (hchain : c.tokens.IsChain Token.MayAdjoin)
    (hnumeral : ∀ t ∈ c.tokens, t.kind = .number → t.text.isNumeral = true)
    (hbreak : ∀ t ∈ c.tokens, t.kind = .string → '\n' ∉ t.text) (h : c.expression.IsFlat) :
    c.expression.IsScanned := by
  have hlinks := Chain.links_of_isFlat h
  obtain ⟨first, links⟩ := c
  rcases hlinks with rfl | ⟨l, rfl, hleft, hright⟩
  · exact Primary.isScanned (hbreak _ (by simp [Chain.tokens])) (Primary.isOperand_of_isFlat h)
  · have htokens : (Chain.mk first [l]).tokens = [first.token, l.sign.val, l.primary.token] :=
      rfl
    rw [htokens] at hchain hnumeral
    rw [List.isChain_cons_cons, List.isChain_cons_cons] at hchain
    have hoperand (p : Primary) : p.token.kind.isOperand = true := by
      rcases p.token_kind with h | h | h <;> simp [h, Kind.isOperand]
    have hfirst := hchain.1.2 l.sign_isOperator (hoperand first)
    have hlast := hchain.2.1.1 l.sign_isOperator (hoperand l.primary)
    exact .operation (Primary.isTerm hfirst (hnumeral _ (by simp)) hleft) l.op
      (Primary.isTerm hlast (hnumeral _ (by simp)) hright)

lemma Clause.exists_chain {c : Clause} {s : Statement} (h : c.statement? = some s) :
    ∃ chain : Chain, s.value = chain.expression ∧ chain.tokens <:+ c.tokens := by
  cases c with
  | newline t => simp [Clause.statement?] at h
  | declaration create variableWord name withWord valueWord chain =>
    obtain rfl := Option.some.inj h
    exact ⟨chain, rfl, [_, _, _, _, _], rfl⟩
  | printing print chain =>
    obtain rfl := Option.some.inj h
    exact ⟨chain, rfl, [_], rfl⟩

lemma Derivation.tokens_part {d : Derivation} {c : Clause} (h : c ∈ d) :
    c.tokens <:+: Derivation.tokens d := by
  obtain ⟨before, after, rfl⟩ := List.append_of_mem h
  exact ⟨Derivation.tokens before, Derivation.tokens after, by simp [Derivation.tokens]⟩

end Grammar

/-- What scanning leaves of the flat expressions of a program: beside an operator no operand is a
string or has a sign, and no string has a newline in it. -/
theorem Program.isScanned_of_parse {source : Text} {p : Program}
    (h : Program.parse source = .ok p) {s : Statement} (hs : s ∈ p) (hflat : s.value.IsFlat) :
    s.value.IsScanned := by
  obtain ⟨d, htokens, rfl⟩ := Program.parse_eq_ok_iff.mp h
  obtain ⟨c, hc, hstatement⟩ := Derivation.mem_program_iff.mp hs
  obtain ⟨chain, hvalue, hsuffix⟩ := Clause.exists_chain hstatement
  have hpart : chain.tokens <:+: Token.ofLines source :=
    htokens ▸ hsuffix.isInfix.trans (Derivation.tokens_part hc)
  have hchain : chain.tokens.IsChain Token.MayAdjoin :=
    List.IsChain.infix (Token.isChain_ofLines source) hpart
  rw [hvalue] at hflat ⊢
  refine Chain.isScanned hchain ?_ ?_ hflat
  · exact fun t ht => Token.isNumeral_of_mem_ofLines (hpart.subset ht)
  · intro t ht hkind hmem
    have hbreak := Token.isLineBreak_eq_false (hpart.subset ht) (by simp [hkind]) hmem
    exact absurd hbreak (by decide)

end PlainEnglish
