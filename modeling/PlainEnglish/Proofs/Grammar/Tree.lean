import Mathlib.Tactic
import PlainEnglish.Number.Numeral
import PlainEnglish.Program.Basic
import PlainEnglish.Proofs.Token.Expression

/-!
# Derivation trees

The grammar of programs as trees. The leaves of a tree are tokens of the kinds that the grammar
asks for, so a tree is well formed by construction, and the tokens of a tree are the word that it
derives.

A word has at most one tree: `Derivation.tokens_injective`.
-/

namespace PlainEnglish

/-- A token of the given kind. -/
abbrev Token.OfKind (kind : Kind) : Type := {t : Token // t.kind = kind}

lemma Token.OfKind.kind_eq {kind kind' : Kind} {t : Token.OfKind kind} {u : Token.OfKind kind'}
    (h : t.val = u.val) : kind = kind' :=
  t.property.symm.trans ((congrArg Token.kind h).trans u.property)

/-- What a statement declares or prints. -/
def Statement.value : Statement → Expression
  | .declaration _ value _ => value
  | .printing value _ => value

namespace Grammar

/-! ### Trees -/

/-- A number, a string or a name. -/
inductive Primary where
  | number (t : Token.OfKind .number)
  | string (t : Token.OfKind .string)
  | name (t : Token.OfKind .identifier)

/-- An operator with the operand behind it. -/
structure Link where
  op : Operator
  sign : Token.OfKind (.operator op)
  primary : Primary

/-- An expression: operands with operators between them. -/
structure Chain where
  first : Primary
  links : List Link

/-- A statement, or a newline between statements. -/
inductive Clause where
  | newline (t : Token.OfKind .newline)
  | declaration (create : Token.OfKind (.keyword .createWord))
      (variableWord : Token.OfKind (.keyword .variableWord)) (name : Token.OfKind .identifier)
      (withWord : Token.OfKind (.keyword .withWord))
      (valueWord : Token.OfKind (.keyword .valueWord))
      (chain : Chain)
  | printing (print : Token.OfKind (.keyword .printWord)) (chain : Chain)

/-- A derivation of a program, up to the end token. -/
abbrev Derivation := List Clause

/-! ### Words -/

def Primary.token : Primary → Token
  | .number t | .string t | .name t => t.val

def Link.tokens (l : Link) : List Token := [l.sign.val, l.primary.token]

def Chain.tokens (c : Chain) : List Token := c.first.token :: c.links.flatMap Link.tokens

def Clause.tokens : Clause → List Token
  | .newline t => [t.val]
  | .declaration create variableWord name withWord valueWord chain =>
    create.val :: variableWord.val :: name.val :: withWord.val :: valueWord.val :: chain.tokens
  | .printing print chain => print.val :: chain.tokens

def Derivation.tokens (d : Derivation) : List Token := d.flatMap Clause.tokens

/-! ### Meanings -/

/-- An operand as an expression. A number token that names no number stands for no number. -/
def Primary.expression : Primary → Expression
  | .number t => .number ((Number.ofText? t.val.text).getD .nan)
  | .string t => .string t.val.text
  | .name t => .name t.val.text

/-- An expression as the left operand of a link. -/
def Link.extend (left : Expression) (l : Link) : Expression :=
  .binary left l.op l.primary.expression

/-- The operands of a chain grouped from the left. -/
def Chain.expression (c : Chain) : Expression := c.links.foldl Link.extend c.first.expression

/-- What holds of the first operand and is kept by every operation holds of the expression. -/
lemma Chain.expression_induction {motive : Expression → Prop} (c : Chain)
    (first : motive c.first.expression)
    (link : ∀ left, ∀ l ∈ c.links, motive left → motive (Link.extend left l)) :
    motive c.expression :=
  List.foldlRecOn c.links Link.extend first fun left hleft l hl => link left l hl hleft

/-- The statement of a clause, which has the line of its first token; a newline has none. -/
def Clause.statement? : Clause → Option Statement
  | .newline _ => none
  | .declaration create _ name _ _ chain =>
    some (.declaration name.val.text chain.expression create.val.line)
  | .printing print chain => some (.printing chain.expression print.val.line)

def Derivation.program (d : Derivation) : Program := d.filterMap Clause.statement?

@[simp] lemma Derivation.tokens_nil : Derivation.tokens [] = [] := rfl

@[simp] lemma Derivation.tokens_cons (c : Clause) (d : Derivation) :
    Derivation.tokens (c :: d) = c.tokens ++ Derivation.tokens d := rfl

lemma Derivation.tokens_append (d e : Derivation) :
    Derivation.tokens (d ++ e) = d.tokens ++ e.tokens := List.flatMap_append

@[simp] lemma Derivation.program_nil : Derivation.program [] = [] := rfl

@[simp] lemma Derivation.program_cons (c : Clause) (d : Derivation) :
    Derivation.program (c :: d) = c.statement?.toList ++ Derivation.program d := by
  cases h : c.statement? <;> simp [Derivation.program, h]

lemma Derivation.program_append (d e : Derivation) :
    Derivation.program (d ++ e) = d.program ++ e.program := List.filterMap_append

/-! ### Kinds of tokens -/

lemma Primary.token_kind (p : Primary) :
    p.token.kind = .number ∨ p.token.kind = .string ∨ p.token.kind = .identifier := by
  cases p with
  | number t => exact Or.inl t.property
  | string t => exact Or.inr (Or.inl t.property)
  | name t => exact Or.inr (Or.inr t.property)

@[simp] lemma Link.sign_isOperator (l : Link) : l.sign.val.kind.isOperator = true := by
  simp [l.sign.property, Kind.isOperator]

/-- A clause begins with a newline, or with the first keyword of a statement. -/
lemma Clause.tokens_eq_cons (c : Clause) : ∃ t rest, c.tokens = t :: rest ∧
    (t.kind = .newline ∨ t.kind = .keyword .createWord ∨ t.kind = .keyword .printWord) := by
  cases c with
  | newline t => exact ⟨_, _, rfl, Or.inl t.property⟩
  | declaration create _ _ _ _ _ => exact ⟨_, _, rfl, Or.inr (Or.inl create.property)⟩
  | printing print _ => exact ⟨_, _, rfl, Or.inr (Or.inr print.property)⟩

/-- A clause is a newline, or a statement that begins with no newline. -/
lemma Clause.newline_or_statement (c : Clause) : (∃ t, c = .newline t) ∨
    ∃ s t rest, c.statement? = some s ∧ c.tokens = t :: rest ∧ t.kind ≠ .newline := by
  cases c with
  | newline t => exact Or.inl ⟨t, rfl⟩
  | declaration create _ _ _ _ _ => exact Or.inr ⟨_, _, _, rfl, rfl, by simp [create.property]⟩
  | printing print _ => exact Or.inr ⟨_, _, _, rfl, rfl, by simp [print.property]⟩

lemma Chain.kind_ne_finish {c : Chain} {t : Token} (h : t ∈ c.tokens) : t.kind ≠ .finish := by
  have operand (p : Primary) : p.token.kind ≠ .finish := by
    rcases p.token_kind with h | h | h <;> simp [h]
  simp only [Chain.tokens, List.mem_cons, List.mem_flatMap, Link.tokens, List.not_mem_nil,
    or_false] at h
  rcases h with rfl | ⟨l, -, rfl | rfl⟩
  · exact operand _
  · simp [l.sign.property]
  · exact operand _

lemma Clause.kind_ne_finish {c : Clause} {t : Token} (h : t ∈ c.tokens) : t.kind ≠ .finish := by
  cases c with
  | newline t' =>
    obtain rfl := List.mem_singleton.mp h
    simp [t'.property]
  | declaration create variableWord name withWord valueWord chain =>
    simp only [Clause.tokens, List.mem_cons] at h
    rcases h with rfl | rfl | rfl | rfl | rfl | h
    · simp [create.property]
    · simp [variableWord.property]
    · simp [name.property]
    · simp [withWord.property]
    · simp [valueWord.property]
    · exact Chain.kind_ne_finish h
  | printing print chain =>
    rcases List.mem_cons.mp h with rfl | h
    · simp [print.property]
    · exact Chain.kind_ne_finish h

/-- No end token stands in the word of a derivation. -/
lemma Derivation.kind_ne_finish {d : Derivation} {t : Token} (h : t ∈ d.tokens) :
    t.kind ≠ .finish := by
  obtain ⟨c, -, hc⟩ := List.mem_flatMap.mp h
  exact Clause.kind_ne_finish hc

/-! ### Tokens that end an expression -/

/-- A row of tokens that an expression in front of it cannot go on with. -/
def EndsChain (rest : List Token) : Prop := ∀ t ∈ rest.head?, t.kind.isOperator = false

lemma endsChain_cons {t : Token} {rest : List Token} (h : t.kind.isOperator = false) :
    EndsChain (t :: rest) := by
  simpa [EndsChain] using h

lemma endsChain_cons_of_ne {t : Token} {rest : List Token} (h : ∀ op, t.kind ≠ .operator op) :
    EndsChain (t :: rest) := by
  apply endsChain_cons
  cases hkind : t.kind with
  | operator op => exact absurd hkind (h op)
  | _ => rfl

lemma not_endsChain_link (l : Link) (rest : List Token) : ¬EndsChain (l.tokens ++ rest) := by
  simp [EndsChain, Link.tokens]

/-- What follows an expression in a program: more clauses, and then the end token or nothing. -/
lemma Derivation.endsChain_append (d : Derivation) {rest : List Token} (h : EndsChain rest) :
    EndsChain (d.tokens ++ rest) := by
  cases d with
  | nil => exact h
  | cons c d =>
    obtain ⟨t, tail, htokens, hkind⟩ := c.tokens_eq_cons
    simp only [Derivation.tokens_cons, htokens, List.cons_append]
    apply endsChain_cons
    rcases hkind with h | h | h <;> simp [h, Kind.isOperator]

/-! ### Words have one tree -/

lemma Primary.token_injective : Function.Injective Primary.token := by
  intro p q h
  cases p with
  | number t =>
    cases q with
    | number u => rw [Subtype.ext h]
    | string u => exact nomatch Token.OfKind.kind_eq h
    | name u => exact nomatch Token.OfKind.kind_eq h
  | string t =>
    cases q with
    | number u => exact nomatch Token.OfKind.kind_eq h
    | string u => rw [Subtype.ext h]
    | name u => exact nomatch Token.OfKind.kind_eq h
  | name t =>
    cases q with
    | number u => exact nomatch Token.OfKind.kind_eq h
    | string u => exact nomatch Token.OfKind.kind_eq h
    | name u => rw [Subtype.ext h]

lemma Link.tokens_injective : Function.Injective Link.tokens := by
  rintro ⟨op, sign, p⟩ ⟨op', sign', q⟩ h
  simp only [Link.tokens, List.cons.injEq, and_true] at h
  obtain rfl : op = op' := by simpa using Token.OfKind.kind_eq h.1
  rw [Subtype.ext h.1, Primary.token_injective h.2]

/-- Links that are followed by no operator are told by their tokens. -/
lemma links_append_inj {ls ms : List Link} {r s : List Token} (hr : EndsChain r)
    (hs : EndsChain s) (h : ls.flatMap Link.tokens ++ r = ms.flatMap Link.tokens ++ s) :
    ls = ms ∧ r = s := by
  induction ls generalizing ms with
  | nil =>
    cases ms with
    | nil => exact ⟨rfl, by simpa using h⟩
    | cons m ms =>
      simp only [List.flatMap_nil, List.nil_append, List.flatMap_cons, List.append_assoc] at h
      exact absurd (h ▸ hr) (not_endsChain_link m _)
  | cons l ls ih =>
    cases ms with
    | nil =>
      simp only [List.flatMap_nil, List.nil_append, List.flatMap_cons, List.append_assoc] at h
      exact absurd (h ▸ hs) (not_endsChain_link l _)
    | cons m ms =>
      simp only [List.flatMap_cons, List.append_assoc] at h
      obtain ⟨hlm, hrest⟩ := List.append_inj h rfl
      obtain ⟨rfl, rfl⟩ := ih hrest
      exact ⟨by rw [Link.tokens_injective hlm], rfl⟩

lemma Chain.tokens_append_inj {c e : Chain} {r s : List Token} (hr : EndsChain r)
    (hs : EndsChain s) (h : c.tokens ++ r = e.tokens ++ s) : c = e ∧ r = s := by
  obtain ⟨p, ls⟩ := c
  obtain ⟨q, ms⟩ := e
  simp only [Chain.tokens, List.cons_append, List.cons.injEq] at h
  obtain ⟨rfl, rfl⟩ := links_append_inj hr hs h.2
  exact ⟨by rw [Primary.token_injective h.1], rfl⟩

lemma Clause.tokens_append_inj {c e : Clause} {r s : List Token} (hr : EndsChain r)
    (hs : EndsChain s) (h : c.tokens ++ r = e.tokens ++ s) : c = e ∧ r = s := by
  -- the first token tells the sort of a clause
  cases c with
  | newline t =>
    cases e with
    | newline u =>
      obtain ⟨htu, hrest⟩ := List.cons.inj h
      exact ⟨by rw [Subtype.ext htu], hrest⟩
    | declaration create _ _ _ _ _ => exact nomatch Token.OfKind.kind_eq (List.cons.inj h).1
    | printing print _ => exact nomatch Token.OfKind.kind_eq (List.cons.inj h).1
  | declaration a₁ a₂ a₃ a₄ a₅ chain =>
    cases e with
    | newline u => exact nomatch Token.OfKind.kind_eq (List.cons.inj h).1
    | declaration b₁ b₂ b₃ b₄ b₅ chain' =>
      simp only [Clause.tokens, List.cons_append, List.cons.injEq] at h
      obtain ⟨h₁, h₂, h₃, h₄, h₅, hchain⟩ := h
      obtain ⟨rfl, rfl⟩ := Chain.tokens_append_inj hr hs hchain
      rw [Subtype.ext h₁, Subtype.ext h₂, Subtype.ext h₃, Subtype.ext h₄, Subtype.ext h₅]
      exact ⟨rfl, rfl⟩
    | printing print _ => exact nomatch Token.OfKind.kind_eq (List.cons.inj h).1
  | printing a chain =>
    cases e with
    | newline u => exact nomatch Token.OfKind.kind_eq (List.cons.inj h).1
    | declaration create _ _ _ _ _ => exact nomatch Token.OfKind.kind_eq (List.cons.inj h).1
    | printing b chain' =>
      obtain ⟨hab, hchain⟩ := List.cons.inj h
      obtain ⟨rfl, rfl⟩ := Chain.tokens_append_inj hr hs hchain
      exact ⟨by rw [Subtype.ext hab], rfl⟩

/-- The grammar is unambiguous. -/
theorem Derivation.tokens_injective : Function.Injective Derivation.tokens := by
  intro d e h
  have hnil : EndsChain [] := by simp [EndsChain]
  induction d generalizing e with
  | nil =>
    cases e with
    | nil => rfl
    | cons c e =>
      obtain ⟨t, rest, hc, -⟩ := c.tokens_eq_cons
      simp [hc] at h
  | cons c d ih =>
    cases e with
    | nil =>
      obtain ⟨t, rest, hc, -⟩ := c.tokens_eq_cons
      simp [hc] at h
    | cons c' e =>
      have hd := Derivation.endsChain_append d hnil
      have he := Derivation.endsChain_append e hnil
      rw [List.append_nil] at hd he
      rw [Derivation.tokens_cons, Derivation.tokens_cons] at h
      obtain ⟨rfl, hrest⟩ := Clause.tokens_append_inj hd he h
      rw [ih hrest]

end Grammar

end PlainEnglish
