import PlainEnglish.Proofs.Grammar.Program

/-!
# Where parsing fails

Tokens that begin with whole statements and with the beginning of one more fail at a token that
cannot come next, whatever stands behind it.

Main statement: `Program.ofTokens_of_stub`.
-/

namespace PlainEnglish

namespace Grammar

/-! ### Beginnings of statements -/

/-- What stands in front of an operand: nothing, or an expression with an operator behind it. -/
inductive Opening where
  | empty
  | after (chain : Chain) (op : Operator) (sign : Token.OfKind (.operator op))

/-- The beginning of a statement that needs more tokens. -/
inductive Stub where
  | started (create : Token.OfKind (.keyword .createWord))
  | nameless (create : Token.OfKind (.keyword .createWord))
      (variableWord : Token.OfKind (.keyword .variableWord))
  | named (create : Token.OfKind (.keyword .createWord))
      (variableWord : Token.OfKind (.keyword .variableWord)) (name : Token.OfKind .identifier)
  | valueless (create : Token.OfKind (.keyword .createWord))
      (variableWord : Token.OfKind (.keyword .variableWord)) (name : Token.OfKind .identifier)
      (withWord : Token.OfKind (.keyword .withWord))
  | declaring (create : Token.OfKind (.keyword .createWord))
      (variableWord : Token.OfKind (.keyword .variableWord)) (name : Token.OfKind .identifier)
      (withWord : Token.OfKind (.keyword .withWord))
      (valueWord : Token.OfKind (.keyword .valueWord))
      (opening : Opening)
  | printing (print : Token.OfKind (.keyword .printWord)) (opening : Opening)

def Opening.tokens : Opening → List Token
  | .empty => []
  | .after chain _ sign => chain.tokens ++ [sign.val]

def Stub.tokens : Stub → List Token
  | .started create => [create.val]
  | .nameless create variableWord => [create.val, variableWord.val]
  | .named create variableWord name => [create.val, variableWord.val, name.val]
  | .valueless create variableWord name withWord =>
    [create.val, variableWord.val, name.val, withWord.val]
  | .declaring create variableWord name withWord valueWord opening =>
    create.val :: variableWord.val :: name.val :: withWord.val :: valueWord.val :: opening.tokens
  | .printing print opening => print.val :: opening.tokens

/-- What the grammar expects behind the beginning of a statement. -/
def Stub.wanted : Stub → Expectation
  | .started _ => .kind (.keyword .variableWord)
  | .nameless _ _ => .kind .identifier
  | .named _ _ _ => .kind (.keyword .withWord)
  | .valueless _ _ _ _ => .kind (.keyword .valueWord)
  | .declaring _ _ _ _ _ _ => .operand
  | .printing _ _ => .operand

lemma Stub.tokens_eq_cons (s : Stub) : ∃ t rest, s.tokens = t :: rest ∧
    (t.kind = .keyword .createWord ∨ t.kind = .keyword .printWord) := by
  cases s with
  | started create => exact ⟨_, _, rfl, Or.inl create.property⟩
  | nameless create _ => exact ⟨_, _, rfl, Or.inl create.property⟩
  | named create _ _ => exact ⟨_, _, rfl, Or.inl create.property⟩
  | valueless create _ _ _ => exact ⟨_, _, rfl, Or.inl create.property⟩
  | declaring create _ _ _ _ _ => exact ⟨_, _, rfl, Or.inl create.property⟩
  | printing print _ => exact ⟨_, _, rfl, Or.inr print.property⟩

end Grammar

open Grammar

/-! ### Steps of parsers -/

section

variable {α β : Type} {p : Parser α} {f : α → Parser β} {c c' : Cursor} {t : Token}
  {rest : List Token}

lemma Parser.bind_of_ok {a : α} (h : p c = (.ok a, c')) : (p >>= f) c = f a c' := by
  rw [Parser.bind_apply, h]

lemma Parser.bind_of_error {e : ParseError} (h : p c = (.error e, c')) :
    (p >>= f) c = (.error e, c') := by
  rw [Parser.bind_apply, h]

lemma Parser.expect_eq_error {kind : Kind} (h : c.ahead = t :: rest) (ht : t.kind ≠ kind) :
    Parser.expect kind c = (.error (.grammar (.unexpected (.kind kind) t)), c) := by
  simp [Parser.expect, h, ht]

lemma Parser.operand_eq_error (h : c.ahead = t :: rest)
    (ht : t.kind ∉ Expectation.operand.kinds) :
    Parser.operand c = (.error (.grammar (.unexpected .operand t)), c) := by
  simp only [Expectation.kinds, List.mem_cons, List.not_mem_nil, or_false, not_or] at ht
  unfold Parser.operand
  rw [h]
  split <;> simp_all

lemma Parser.chain_of_operand_error {left : Expression} {op : Operator} {e : ParseError}
    (h : c.ahead = t :: rest) (ht : t.kind = .operator op)
    (hright : Parser.operand c.next = (.error e, c')) :
    Parser.chain left c = (.error e, c') := by
  rw [Parser.chain.eq_def]
  split
  · next t' rest' h' =>
    obtain ⟨rfl, -⟩ := List.cons.inj (h.symm.trans h')
    split
    · split
      · next right c₁ hc => simp [hright] at hc
      · next e' c₁ hc =>
        obtain ⟨rfl, rfl⟩ := by simpa using hright.symm.trans hc
        rfl
    · next hop => exact absurd ht (hop op)
  · next h' => simp [h'] at h

lemma Parser.programAfter_of_error {done : Program} {e : ParseError} (h : c.ahead = t :: rest)
    (hfinish : t.kind ≠ .finish) (hnewline : t.kind ≠ .newline)
    (hs : Parser.statement c = (.error e, c')) :
    Parser.programAfter done c = (.error e, c') := by
  rw [Parser.programAfter.eq_def]
  split
  · next h' => simp [h'] at h
  · next t' rest' h' =>
    obtain ⟨rfl, -⟩ := List.cons.inj (h.symm.trans h')
    rw [if_neg hfinish, if_neg hnewline]
    split
    · next s c₁ hc => simp [hs] at hc
    · next e' c₁ hc =>
      obtain ⟨rfl, rfl⟩ := by simpa using hs.symm.trans hc
      rfl

end

/-! ### Failing behind a beginning -/

section

variable {c c' : Cursor} {t : Token} {rest : List Token}

lemma Parser.expression_of_opening {opening : Opening}
    (hreadable : ∀ u ∈ opening.tokens, u.IsReadable) (hpass : c.Passes opening.tokens c')
    (hahead : c'.ahead = t :: rest) (ht : t.kind ∉ Expectation.operand.kinds) :
    Parser.expression c = (.error (.grammar (.unexpected .operand t)), c') := by
  have hoperand := Parser.operand_eq_error hahead ht
  cases opening with
  | empty =>
    obtain rfl := Cursor.passes_nil.mp hpass
    exact Parser.bind_of_error hoperand
  | after chain op sign =>
    rw [Opening.tokens, List.forall_mem_append] at hreadable
    rw [Opening.tokens, Cursor.passes_append] at hpass
    obtain ⟨c₁, hchain, hsign⟩ := hpass
    obtain ⟨c₂, hfirst, hlinks⟩ := Cursor.passes_cons.mp hchain
    obtain ⟨hop, rfl⟩ := Cursor.passes_singleton.mp hsign
    obtain ⟨hp, hl⟩ := (Chain.readable_iff chain).mp hreadable.1
    have hleft : Parser.operand c = (.ok chain.first.expression, c₂) :=
      Parser.operand_eq_ok_iff.mpr ⟨_, hp, hfirst, rfl⟩
    calc Parser.expression c
        = Parser.chain chain.first.expression c₂ := Parser.bind_of_ok hleft
      _ = Parser.chain chain.expression c₁ := Parser.chain_of_links hl hlinks
      _ = (.error (.grammar (.unexpected .operand t)), c₁.next) :=
        Parser.chain_of_operand_error hop sign.property hoperand

/-- A token of the expected kind is passed, whatever comes next. -/
lemma Parser.expect_bind_of_passes {kind : Kind} {u : Token.OfKind kind} {tokens : List Token}
    (h : c.Passes (u.val :: tokens) c') : ∃ c₁, c₁.Passes tokens c' ∧
      ∀ {β : Type} (f : Token → Parser β), (Parser.expect kind >>= f) c = f u.val c₁ := by
  obtain ⟨c₁, hu, hrest⟩ := Cursor.passes_cons.mp h
  exact ⟨c₁, hrest, fun f => Parser.bind_of_ok (Parser.expect_eq_ok_iff.mpr ⟨u.property, hu⟩)⟩

lemma Parser.expect_bind_of_ne {β : Type} {kind : Kind} {f : Token → Parser β}
    (hahead : c.ahead = t :: rest) (ht : t.kind ∉ (Expectation.kind kind).kinds) :
    (Parser.expect kind >>= f) c = (.error (.grammar (.unexpected (.kind kind) t)), c) :=
  Parser.bind_of_error (Parser.expect_eq_error hahead (mt List.mem_singleton.mpr ht))

/-- Behind the beginning of a statement a token that is not expected is where parsing fails. -/
lemma Parser.statement_of_stub {stub : Stub} (hreadable : ∀ u ∈ stub.tokens, u.IsReadable)
    (hpass : c.Passes stub.tokens c') (hahead : c'.ahead = t :: rest)
    (ht : t.kind ∉ stub.wanted.kinds) :
    Parser.statement c = (.error (.grammar (.unexpected stub.wanted t)), c') := by
  cases stub with
  | started create =>
    rw [Parser.statement_of_create hpass.1 create.property]
    obtain ⟨c₁, hpass, h₁⟩ := Parser.expect_bind_of_passes hpass
    obtain rfl := Cursor.passes_nil.mp hpass
    rw [Parser.declaration, h₁]
    exact Parser.expect_bind_of_ne hahead ht
  | nameless create variableWord =>
    rw [Parser.statement_of_create hpass.1 create.property]
    obtain ⟨c₁, hpass, h₁⟩ := Parser.expect_bind_of_passes hpass
    obtain ⟨c₂, hpass, h₂⟩ := Parser.expect_bind_of_passes hpass
    obtain rfl := Cursor.passes_nil.mp hpass
    rw [Parser.declaration, h₁, h₂]
    exact Parser.expect_bind_of_ne hahead ht
  | named create variableWord name =>
    rw [Parser.statement_of_create hpass.1 create.property]
    obtain ⟨c₁, hpass, h₁⟩ := Parser.expect_bind_of_passes hpass
    obtain ⟨c₂, hpass, h₂⟩ := Parser.expect_bind_of_passes hpass
    obtain ⟨c₃, hpass, h₃⟩ := Parser.expect_bind_of_passes hpass
    obtain rfl := Cursor.passes_nil.mp hpass
    rw [Parser.declaration, h₁, h₂, h₃]
    exact Parser.expect_bind_of_ne hahead ht
  | valueless create variableWord name withWord =>
    rw [Parser.statement_of_create hpass.1 create.property]
    obtain ⟨c₁, hpass, h₁⟩ := Parser.expect_bind_of_passes hpass
    obtain ⟨c₂, hpass, h₂⟩ := Parser.expect_bind_of_passes hpass
    obtain ⟨c₃, hpass, h₃⟩ := Parser.expect_bind_of_passes hpass
    obtain ⟨c₄, hpass, h₄⟩ := Parser.expect_bind_of_passes hpass
    obtain rfl := Cursor.passes_nil.mp hpass
    rw [Parser.declaration, h₁, h₂, h₃, h₄]
    exact Parser.expect_bind_of_ne hahead ht
  | declaring create variableWord name withWord valueWord opening =>
    have hopening : ∀ u ∈ opening.tokens, u.IsReadable := by
      intro u hu
      exact hreadable u (by simp [Stub.tokens, hu])
    rw [Parser.statement_of_create hpass.1 create.property]
    obtain ⟨c₁, hpass, h₁⟩ := Parser.expect_bind_of_passes hpass
    obtain ⟨c₂, hpass, h₂⟩ := Parser.expect_bind_of_passes hpass
    obtain ⟨c₃, hpass, h₃⟩ := Parser.expect_bind_of_passes hpass
    obtain ⟨c₄, hpass, h₄⟩ := Parser.expect_bind_of_passes hpass
    obtain ⟨c₅, hpass, h₅⟩ := Parser.expect_bind_of_passes hpass
    rw [Parser.declaration, h₁, h₂, h₃, h₄, h₅]
    exact Parser.bind_of_error (Parser.expression_of_opening hopening hpass hahead ht)
  | printing print opening =>
    have hopening : ∀ u ∈ opening.tokens, u.IsReadable := by
      intro u hu
      exact hreadable u (by simp [Stub.tokens, hu])
    rw [Parser.statement_of_print hpass.1 print.property]
    obtain ⟨c₁, hpass, h₁⟩ := Parser.expect_bind_of_passes hpass
    rw [Parser.printing, h₁]
    exact Parser.bind_of_error (Parser.expression_of_opening hopening hpass hahead ht)

end

/-- The first token that no program can have behind whole statements and the beginning of one
more is where parsing fails. -/
theorem Program.ofTokens_of_stub {d : Derivation} {stub : Stub} {t : Token} {rest : List Token}
    (hreadable : ∀ u ∈ d.tokens ++ stub.tokens, u.IsReadable) (ht : t.kind ∉ stub.wanted.kinds) :
    Program.ofTokens (d.tokens ++ (stub.tokens ++ t :: rest)) =
      .error (.grammar (.unexpected stub.wanted t)) := by
  rw [List.forall_mem_append] at hreadable
  obtain ⟨first, more, hstub, hkind⟩ := stub.tokens_eq_cons
  have hfinish : first.kind ≠ .finish := by
    rcases hkind with h | h <;> simp [h]
  have hnewline : first.kind ≠ .newline := by
    rcases hkind with h | h <;> simp [h]
  have hoperator : first.kind.isOperator = false := by
    rcases hkind with h | h <;> simp [h, Kind.isOperator]
  let start := Cursor.start (d.tokens ++ (stub.tokens ++ t :: rest))
  let middle : Cursor := ⟨d.tokens.reverse, stub.tokens ++ t :: rest⟩
  let stop : Cursor := ⟨stub.tokens.reverse ++ d.tokens.reverse, t :: rest⟩
  have hmiddle : middle.ahead = first :: (more ++ t :: rest) := by
    simp [middle, hstub]
  have hpassed : start.Passes d.tokens middle := ⟨rfl, by simp [start, middle, Cursor.start]⟩
  have hend : EndsChain middle.ahead := hmiddle ▸ endsChain_cons hoperator
  have hstatement : Parser.statement middle =
      (.error (.grammar (.unexpected stub.wanted t)), stop) :=
    Parser.statement_of_stub hreadable.2 ⟨rfl, rfl⟩ rfl ht
  have hrun : Parser.programAfter [] start =
      (.error (.grammar (.unexpected stub.wanted t)), stop) :=
    (Parser.programAfter_of_derivation hreadable.1 hpassed hend).trans
      (Parser.programAfter_of_error hmiddle hfinish hnewline hstatement)
  exact congrArg Prod.fst hrun

end PlainEnglish
