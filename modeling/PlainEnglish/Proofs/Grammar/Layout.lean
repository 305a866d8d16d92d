import PlainEnglish.Proofs.Grammar.Failure
import PlainEnglish.Proofs.Token.Layout

/-!
# Parsing without columns

No parser looks at the columns of tokens. They are handed on to the error if parsing fails, and
the program has none.

Main statements: `Program.ofTokens_map_atMargin`, `Program.parse_congr`.
-/

namespace PlainEnglish

open Grammar

/-! ### Errors and places -/

/-- The syntax error as if all tokens stood at the margin. -/
def SyntaxError.atMargin : SyntaxError → SyntaxError
  | .unexpected wanted token => .unexpected wanted token.atMargin
  | .endOfInput wanted lastLine => .endOfInput wanted lastLine

/-- The error as if all tokens stood at the margin. -/
def ParseError.atMargin : ParseError → ParseError
  | .grammar e => .grammar e.atMargin
  | .notNumber text => .notNumber text

@[simp] lemma ParseError.atMargin_unexpected (wanted : Expectation) (t : Token) :
    (ParseError.grammar (.unexpected wanted t)).atMargin =
      .grammar (.unexpected wanted t.atMargin) := rfl

@[simp] lemma ParseError.atMargin_endOfInput (wanted : Expectation) (lastLine : Option Int) :
    (ParseError.grammar (.endOfInput wanted lastLine)).atMargin =
      .grammar (.endOfInput wanted lastLine) := rfl

/-- The same place among the tokens when they stand at the margin. -/
def Cursor.atMargin (c : Cursor) : Cursor :=
  ⟨c.passed.map Token.atMargin, c.ahead.map Token.atMargin⟩

section

variable (c : Cursor)

@[simp] lemma Cursor.ahead_atMargin : c.atMargin.ahead = c.ahead.map Token.atMargin := rfl

@[simp] lemma Cursor.next_atMargin : c.atMargin.next = c.next.atMargin := by
  obtain ⟨passed, ahead⟩ := c
  cases ahead <;> rfl

@[simp] lemma Cursor.lastLine_atMargin :
    c.atMargin.last.map Token.line = c.last.map Token.line := by
  obtain ⟨passed, ahead⟩ := c
  simp only [Cursor.last, Cursor.atMargin, List.getLast?_map, List.head?_map]
  cases ahead.getLast? with
  | some t => rfl
  | none => cases passed.head? <;> rfl

@[simp] lemma Cursor.isAt_atMargin (kinds : List Kind) :
    c.atMargin.isAt kinds = c.isAt kinds := by
  obtain ⟨passed, ahead⟩ := c
  cases ahead <;> rfl

lemma Cursor.ahead_atMargin_of_cons {c : Cursor} {t : Token} {rest : List Token}
    (h : c.ahead = t :: rest) : c.atMargin.ahead = t.atMargin :: rest.map Token.atMargin := by
  simp [h]

end

/-! ### Parsers -/

/-- What a parser finds, and where it gets to, as if all tokens stood at the margin. -/
def Parser.resultAtMargin {α : Type} (result : Except ParseError α × Cursor) :
    Except ParseError α × Cursor :=
  (result.1.mapError ParseError.atMargin, result.2.atMargin)

@[simp] lemma Parser.resultAtMargin_ok {α : Type} (a : α) (c : Cursor) :
    Parser.resultAtMargin (.ok a, c) = (.ok a, c.atMargin) := rfl

@[simp] lemma Parser.resultAtMargin_error {α : Type} (e : ParseError) (c : Cursor) :
    Parser.resultAtMargin ((.error e, c) : Except ParseError α × Cursor) =
      (.error e.atMargin, c.atMargin) := rfl

/-- The parser does the same whatever columns the tokens have. -/
def Parser.IgnoresColumns {α : Type} (p : Parser α) : Prop :=
  ∀ c, p c.atMargin = Parser.resultAtMargin (p c)

section

variable {α β : Type}

lemma Parser.pure_ignoresColumns (a : α) : (pure a : Parser α).IgnoresColumns := fun _ => rfl

lemma Parser.IgnoresColumns.bind {p : Parser α} {f : α → Parser β} (hp : p.IgnoresColumns)
    (hf : ∀ a, (f a).IgnoresColumns) : (p >>= f).IgnoresColumns := by
  intro c
  rw [Parser.bind_apply, Parser.bind_apply, hp c]
  rcases p c with ⟨e | a, c'⟩
  · rfl
  · exact hf a c'

/-- A token may be handed on to a parser that does not look at its column. -/
lemma Parser.expect_bind_ignoresColumns {kind : Kind} {f : Token → Parser α}
    (hf : ∀ t, (f t).IgnoresColumns) (hmargin : ∀ t, f t.atMargin = f t) :
    (Parser.expect kind >>= f).IgnoresColumns := by
  intro c
  rcases hahead : c.ahead with _ | ⟨t, rest⟩
  · simp [Parser.bind_apply, Parser.expect, hahead]
  · by_cases hkind : t.kind = kind
    · simp [Parser.bind_apply, Parser.expect, hahead, hkind, hmargin, hf t c.next]
    · simp [Parser.bind_apply, Parser.expect, hahead, hkind]

lemma Parser.operand_ignoresColumns : Parser.operand.IgnoresColumns := by
  intro c
  rcases hahead : c.ahead with _ | ⟨t, rest⟩
  · simp [Parser.operand, hahead]
  · simp only [Parser.operand, hahead, Cursor.ahead_atMargin, Cursor.next_atMargin,
      List.map_cons, Token.kind_atMargin, Token.text_atMargin]
    cases t.kind with
    | number => cases Number.ofText? t.text <;> rfl
    | _ => rfl

lemma Parser.chain_ignoresColumns (left : Expression) :
    Parser.IgnoresColumns (Parser.chain left) := by
  intro c
  fun_induction Parser.chain left c with
  | case1 left c t rest hahead op hop right c' hc ih =>
    have hright := Parser.operand_ignoresColumns c.next
    rw [hc, ← Cursor.next_atMargin] at hright
    rw [Parser.chain_of_operator (Cursor.ahead_atMargin_of_cons hahead) hop hright, ih]
  | case2 left c t rest hahead op hop e c' hc =>
    have hright := Parser.operand_ignoresColumns c.next
    rw [hc, ← Cursor.next_atMargin] at hright
    exact Parser.chain_of_operand_error (Cursor.ahead_atMargin_of_cons hahead) hop hright
  | case3 left c t rest hahead hop =>
    apply Parser.chain_of_endsChain
    rw [Cursor.ahead_atMargin_of_cons hahead]
    exact endsChain_cons_of_ne hop
  | case4 left c hahead =>
    apply Parser.chain_of_endsChain
    simp [EndsChain, hahead]

lemma Parser.expression_ignoresColumns : Parser.expression.IgnoresColumns :=
  Parser.operand_ignoresColumns.bind Parser.chain_ignoresColumns

lemma Parser.declaration_ignoresColumns : Parser.declaration.IgnoresColumns := by
  refine Parser.expect_bind_ignoresColumns (fun start => ?_) fun _ => rfl
  refine Parser.expect_bind_ignoresColumns (fun _ => ?_) fun _ => rfl
  refine Parser.expect_bind_ignoresColumns (fun name => ?_) fun _ => rfl
  refine Parser.expect_bind_ignoresColumns (fun _ => ?_) fun _ => rfl
  refine Parser.expect_bind_ignoresColumns (fun _ => ?_) fun _ => rfl
  exact Parser.expression_ignoresColumns.bind fun value => Parser.pure_ignoresColumns _

lemma Parser.printing_ignoresColumns : Parser.printing.IgnoresColumns :=
  Parser.expect_bind_ignoresColumns
    (fun _ => Parser.expression_ignoresColumns.bind fun _ => Parser.pure_ignoresColumns _)
    fun _ => rfl

lemma Parser.statement_ignoresColumns : Parser.statement.IgnoresColumns := by
  intro c
  unfold Parser.statement
  rw [Cursor.isAt_atMargin, Cursor.isAt_atMargin]
  split
  · exact Parser.declaration_ignoresColumns c
  · split
    · exact Parser.printing_ignoresColumns c
    · rcases hahead : c.ahead with _ | ⟨t, rest⟩
      · simp [hahead]
      · simp [hahead]

lemma Parser.programAfter_ignoresColumns (done : Program) :
    Parser.IgnoresColumns (Parser.programAfter done) := by
  intro c
  fun_induction Parser.programAfter done c with
  | case1 done c hahead =>
    rw [Parser.programAfter.eq_def]
    split
    · simp
    · next h => simp [hahead] at h
  | case2 done c t rest hahead hfinish =>
    exact Parser.programAfter_of_atFinish ⟨_, _, Cursor.ahead_atMargin_of_cons hahead, hfinish⟩
  | case3 done c t rest hahead hfinish hnewline ih =>
    rw [Parser.programAfter_of_newline (Cursor.ahead_atMargin_of_cons hahead) hnewline,
      Cursor.next_atMargin, ih]
  | case4 done c t rest hahead hfinish hnewline s c' hc ih =>
    have hs := Parser.statement_ignoresColumns c
    rw [hc] at hs
    rw [Parser.programAfter_of_statement (Cursor.ahead_atMargin_of_cons hahead) hfinish
      hnewline hs, ih]
  | case5 done c t rest hahead hfinish hnewline e c' hc =>
    have hs := Parser.statement_ignoresColumns c
    rw [hc] at hs
    exact Parser.programAfter_of_error (Cursor.ahead_atMargin_of_cons hahead) hfinish hnewline hs

end

/-- Parsing finds the same program, or the same error but for its column, whatever columns the
tokens have. -/
theorem Program.ofTokens_map_atMargin (tokens : List Token) :
    Program.ofTokens (tokens.map Token.atMargin) =
      (Program.ofTokens tokens).mapError ParseError.atMargin :=
  congrArg Prod.fst (Parser.programAfter_ignoresColumns [] (Cursor.start tokens))

/-- The same words make the same program, or they leave the grammar in the same way. -/
theorem Program.parse_congr {s t : Text}
    (h : s.lines.map Text.wordTexts = t.lines.map Text.wordTexts) :
    (∃ p, Program.parse s = .ok p ∧ Program.parse t = .ok p) ∨
      ∃ e e', Program.parse s = .error (.grammar e) ∧ Program.parse t = .error (.grammar e') ∧
        e.atMargin = e'.atMargin := by
  have hparse : (Program.parse s).mapError ParseError.atMargin =
      (Program.parse t).mapError ParseError.atMargin := by
    rw [Program.parse, Program.parse, ← Program.ofTokens_map_atMargin,
      Token.map_atMargin_scan_congr h, Program.ofTokens_map_atMargin]
  cases hs : Program.parse s with
  | ok p =>
    cases ht : Program.parse t with
    | ok q =>
      obtain rfl : p = q := by simpa [hs, ht, Except.mapError] using hparse
      exact Or.inl ⟨p, rfl, rfl⟩
    | error e' => simp [hs, ht, Except.mapError] at hparse
  | error e =>
    cases ht : Program.parse t with
    | ok q => simp [hs, ht, Except.mapError] at hparse
    | error e' =>
      obtain ⟨g, rfl⟩ := Program.parse_error_grammar hs
      obtain ⟨g', rfl⟩ := Program.parse_error_grammar ht
      refine Or.inr ⟨g, g', rfl, rfl, ?_⟩
      simpa [hs, ht, Except.mapError, ParseError.atMargin] using hparse

end PlainEnglish
