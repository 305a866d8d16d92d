import PlainEnglish.Proofs.Grammar.Parse

/-!
# Programs and the grammar

Parsing a row of tokens accepts exactly the words of the grammar, and finds the only derivation
that a word has. On tokens whose numbers can be read it fails for no other reason than the
grammar.

Main statement: `Program.ofTokens_iff_derivation`.
-/

namespace PlainEnglish

open Grammar

/-! ### Properties of parsers -/

/-- A property that a parser has if its parts have it, and that the smallest parts have. -/
structure Parser.Compositional (P : ∀ α : Type, Parser α → Prop) : Prop where
  pure {α : Type} (a : α) : P α (Pure.pure a)
  bind {α β : Type} {p : Parser α} {f : α → Parser β} : P α p → (∀ a, P β (f a)) → P β (p >>= f)
  expect (kind : Kind) : P Token (Parser.expect kind)
  operand : P Expression Parser.operand
  chain (left : Expression) : P Expression (Parser.chain left)

namespace Parser.Compositional

variable {P : ∀ α : Type, Parser α → Prop}

lemma expression (h : Compositional P) : P Expression Parser.expression :=
  h.bind h.operand h.chain

lemma declaration (h : Compositional P) : P Statement Parser.declaration :=
  h.bind (h.expect _) fun _ => h.bind (h.expect _) fun _ => h.bind (h.expect _) fun _ =>
    h.bind (h.expect _) fun _ => h.bind (h.expect _) fun _ => h.bind h.expression fun _ =>
      h.pure _

lemma printing (h : Compositional P) : P Statement Parser.printing :=
  h.bind (h.expect _) fun _ => h.bind h.expression fun _ => h.pure _

end Parser.Compositional

/-! ### Errors -/

/-- A parser that goes forward only, and on readable tokens fails for no other reason than the
grammar. -/
def Parser.Grammatical {α : Type} (p : Parser α) : Prop :=
  ∀ c : Cursor, (∀ t ∈ c.ahead, t.IsReadable) →
    (∀ e, (p c).1 = .error e → ∃ g, e = .grammar g) ∧ ∀ t ∈ (p c).2.ahead, t.IsReadable

lemma Cursor.isReadable_next {c : Cursor} (h : ∀ t ∈ c.ahead, t.IsReadable) :
    ∀ t ∈ c.next.ahead, t.IsReadable := by
  unfold Cursor.next
  split
  · next t rest hahead =>
    rw [hahead] at h
    exact fun u hu => h u (List.mem_cons_of_mem t hu)
  · exact h

lemma Parser.pure_grammatical {α : Type} (a : α) : (pure a : Parser α).Grammatical :=
  fun c hc => ⟨by simp [Parser.pure_apply], hc⟩

lemma Parser.Grammatical.bind {α β : Type} {p : Parser α} {f : α → Parser β} (hp : p.Grammatical)
    (hf : ∀ a, (f a).Grammatical) : (p >>= f).Grammatical := by
  intro c hc
  obtain ⟨herror, hahead⟩ := hp c hc
  rw [Parser.bind_apply]
  split
  · next a c' heq => exact hf a c' (by rwa [heq] at hahead)
  · next e c' heq =>
    rw [heq] at herror hahead
    exact ⟨fun e' he => herror e' (by simpa using he), hahead⟩

lemma Parser.expect_grammatical (kind : Kind) : (Parser.expect kind).Grammatical := by
  intro c hc
  unfold Parser.expect
  split
  · split
    · exact ⟨by simp, Cursor.isReadable_next hc⟩
    · exact ⟨by simp, hc⟩
  · exact ⟨by simp, hc⟩

lemma Parser.operand_grammatical : Parser.operand.Grammatical := by
  intro c hc
  have hnext := Cursor.isReadable_next hc
  unfold Parser.operand
  split
  · next t rest hahead =>
    split
    · next hkind =>
      obtain ⟨x, hx⟩ := Option.isSome_iff_exists.mp (hc t (by simp [hahead]) hkind)
      rw [hx]
      exact ⟨by simp, hnext⟩
    · exact ⟨by simp, hnext⟩
    · exact ⟨by simp, hnext⟩
    · exact ⟨by simp, hc⟩
  · exact ⟨by simp, hc⟩

lemma Parser.chain_grammatical (left : Expression) : Parser.Grammatical (Parser.chain left) := by
  intro c hc
  fun_induction Parser.chain left c with
  | case1 left c t rest hahead op hop right c₁ hc₁ ih =>
    have h := (Parser.operand_grammatical c.next (Cursor.isReadable_next hc)).2
    rw [hc₁] at h
    exact ih h
  | case2 left c t rest hahead op hop e c₁ hc₁ =>
    have h := Parser.operand_grammatical c.next (Cursor.isReadable_next hc)
    rwa [hc₁] at h
  | case3 => exact ⟨by simp, hc⟩
  | case4 => exact ⟨by simp, hc⟩

lemma Parser.compositional_grammatical : Parser.Compositional @Parser.Grammatical where
  pure := Parser.pure_grammatical
  bind := Parser.Grammatical.bind
  expect := Parser.expect_grammatical
  operand := Parser.operand_grammatical
  chain := Parser.chain_grammatical

lemma Parser.statement_grammatical : Parser.statement.Grammatical := by
  intro c hc
  unfold Parser.statement
  split
  · exact Parser.compositional_grammatical.declaration c hc
  · split
    · exact Parser.compositional_grammatical.printing c hc
    · split
      · exact ⟨by simp, Cursor.isReadable_next hc⟩
      · exact ⟨by simp, hc⟩

lemma Parser.programAfter_grammatical (done : Program) :
    Parser.Grammatical (Parser.programAfter done) := by
  intro c hc
  fun_induction Parser.programAfter done c with
  | case1 => exact ⟨by simp, hc⟩
  | case2 => exact ⟨by simp, hc⟩
  | case3 done c t rest hahead hfinish hnewline ih =>
    exact ih (Cursor.isReadable_next hc)
  | case4 done c t rest hahead hfinish hnewline s c₁ hc₁ ih =>
    have h := (Parser.statement_grammatical c hc).2
    rw [hc₁] at h
    exact ih h
  | case5 done c t rest hahead hfinish hnewline e c₁ hc₁ =>
    obtain ⟨herror, hahead⟩ := Parser.statement_grammatical c hc
    rw [hc₁] at herror hahead
    exact ⟨fun e' he => herror e' (by simpa using he), hahead⟩

/-! ### Rows of tokens -/

/-- A row of tokens makes the program that a derivation of the tokens up to an end token
means. -/
lemma Program.ofTokens_eq_ok_iff {tokens : List Token} {p : Program} :
    Program.ofTokens tokens = .ok p ↔ ∃ (d : Derivation) (finish : Token) (rest : List Token),
      tokens = d.tokens ++ finish :: rest ∧ finish.kind = .finish ∧
        (∀ t ∈ d.tokens, t.IsReadable) ∧ d.program = p := by
  constructor
  · intro h
    have hrun : Parser.programAfter [] (Cursor.start tokens) =
        (.ok p, (Parser.program (Cursor.start tokens)).2) := Prod.ext h rfl
    obtain ⟨d, hreadable, hpass, ⟨finish, rest, hahead, hkind⟩, hp⟩ :=
      Parser.programAfter_eq_ok_iff.mp hrun
    exact ⟨d, finish, rest, hahead ▸ hpass.1, hkind, hreadable, by simpa using hp⟩
  · rintro ⟨d, finish, rest, rfl, hkind, hreadable, rfl⟩
    have hrun : Parser.programAfter [] (Cursor.start (d.tokens ++ finish :: rest)) =
        (.ok d.program, ⟨d.tokens.reverse, finish :: rest⟩) :=
      Parser.programAfter_eq_ok_iff.mpr ⟨d, hreadable, ⟨rfl, by simp [Cursor.start]⟩,
        ⟨finish, rest, rfl, hkind⟩, by simp⟩
    exact congrArg Prod.fst hrun

lemma Program.ofTokens_error_grammar {tokens : List Token} (h : ∀ t ∈ tokens, t.IsReadable)
    {e : ParseError} (he : Program.ofTokens tokens = .error e) : ∃ g, e = .grammar g :=
  (Parser.programAfter_grammatical [] (Cursor.start tokens) h).1 e he

/-! ### Grouping from the left -/

/-- No right operand is an operation. -/
def Expression.IsLeftNested : Expression → Prop
  | .binary left _ right => left.IsLeftNested ∧ ∀ l op r, right ≠ .binary l op r
  | _ => True

lemma Grammar.Primary.expression_ne_binary (p : Primary) (l : Expression) (op : Operator)
    (r : Expression) : p.expression ≠ .binary l op r := by
  cases p <;> simp [Primary.expression]

lemma Grammar.Chain.expression_isLeftNested (c : Chain) : c.expression.IsLeftNested := by
  apply c.expression_induction
  · cases c.first <;> simp [Primary.expression, Expression.IsLeftNested]
  · exact fun left l _ hleft => ⟨hleft, l.primary.expression_ne_binary⟩

lemma Grammar.Derivation.mem_program_iff {d : Derivation} {s : Statement} :
    s ∈ d.program ↔ ∃ c ∈ d, c.statement? = some s := List.mem_filterMap

/-! ### The parser and the grammar -/

/-- Parsing succeeds exactly on the words of the grammar with an end token behind them, whatever
comes after it, and it finds the one derivation of the word; otherwise there is a syntax
error. -/
theorem Program.ofTokens_iff_derivation {tokens : List Token}
    (h : ∀ t ∈ tokens, t.kind = .number → (Number.ofText? t.text).isSome) :
    (∀ p, Program.ofTokens tokens = .ok p ↔
      ∃ (w : List Token) (finish : Token) (rest : List Token),
        tokens = w ++ finish :: rest ∧ finish.kind = .finish ∧ (∀ t ∈ w, t.kind ≠ .finish) ∧
        ∃ d : Derivation, d.tokens = w ∧ (∀ d' : Derivation, d'.tokens = w → d' = d) ∧
          d.program = p) ∧
    (∀ p, Program.ofTokens tokens = .ok p → ∀ s ∈ p, s.value.IsLeftNested) ∧
    ((∀ p, Program.ofTokens tokens ≠ .ok p) →
      ∃ e, Program.ofTokens tokens = .error (.grammar e)) := by
  refine ⟨fun p => ?_, fun p hp s hs => ?_, fun hnone => ?_⟩
  · rw [Program.ofTokens_eq_ok_iff]
    constructor
    · rintro ⟨d, finish, rest, htokens, hkind, -, hp⟩
      exact ⟨d.tokens, finish, rest, htokens, hkind, fun t => Derivation.kind_ne_finish, d, rfl,
        fun d' hd' => Derivation.tokens_injective hd', hp⟩
    · rintro ⟨w, finish, rest, rfl, hkind, -, d, rfl, -, hp⟩
      exact ⟨d, finish, rest, rfl, hkind, fun t ht => h t (List.mem_append_left _ ht), hp⟩
  · obtain ⟨d, finish, rest, -, -, -, rfl⟩ := Program.ofTokens_eq_ok_iff.mp hp
    obtain ⟨c, -, hc⟩ := Derivation.mem_program_iff.mp hs
    cases c with
    | newline t => simp [Clause.statement?] at hc
    | declaration create variableWord name withWord valueWord chain =>
      obtain rfl := Option.some.inj hc
      exact chain.expression_isLeftNested
    | printing print chain =>
      obtain rfl := Option.some.inj hc
      exact chain.expression_isLeftNested
  · cases hrun : Program.ofTokens tokens with
    | ok p => exact absurd hrun (hnone p)
    | error e =>
      obtain ⟨g, rfl⟩ := Program.ofTokens_error_grammar h hrun
      exact ⟨g, rfl⟩

/-- The tokens of `print a + 1 * b`, with one token too many. -/
def sampleTokens : List Token := [
  ⟨.keyword .printWord, "print", 1, 1⟩, ⟨.identifier, "a", 1, 7⟩, ⟨.operator .plus, "+", 1, 7⟩,
  ⟨.number, "1", 1, 7⟩, ⟨.operator .times, "*", 1, 7⟩, ⟨.identifier, "b", 1, 7⟩,
  ⟨.newline, "\n", 1, 16⟩, ⟨.finish, "", 2, 1⟩, ⟨.string, "ignored", 3, 1⟩]

theorem Program.ofTokens_sampleTokens :
    (∀ t ∈ sampleTokens, t.kind = .number → (Number.ofText? t.text).isSome) ∧
      Program.ofTokens sampleTokens =
        .ok [.printing
          (.binary (.binary (.name "a") .plus (.number .one)) .times (.name "b")) 1] := by
  have hread : Number.ofText? ['1'] = some .one := by decide +kernel
  have h : ∀ t ∈ sampleTokens, t.kind = .number → (Number.ofText? t.text).isSome := by
    simp [sampleTokens, hread]
  refine ⟨h, ((Program.ofTokens_iff_derivation h).1 _).mpr ?_⟩
  refine ⟨sampleTokens.take 7, _, [sampleTokens[8]], rfl, rfl, by decide, ?_⟩
  refine ⟨[.printing ⟨sampleTokens[0], rfl⟩ ⟨.name ⟨sampleTokens[1], rfl⟩,
    [⟨.plus, ⟨sampleTokens[2], rfl⟩, .number ⟨sampleTokens[3], rfl⟩⟩,
      ⟨.times, ⟨sampleTokens[4], rfl⟩, .name ⟨sampleTokens[5], rfl⟩⟩]⟩,
    .newline ⟨sampleTokens[6], rfl⟩], rfl, fun d' hd' => Derivation.tokens_injective hd', ?_⟩
  simp [Clause.statement?, Chain.expression, Link.extend, Primary.expression, sampleTokens,
    hread]

end PlainEnglish
