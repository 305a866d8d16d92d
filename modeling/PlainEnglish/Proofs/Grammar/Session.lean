import PlainEnglish.Proofs.Grammar.Program

/-!
# Any order of calls

A parser can be asked for anything in any order, and further after it has failed. A call that
finds a part of a program has passed the tokens of that part. One that fails for a token stays in
front of it, but a token that begins no statement is passed before that is told.

Main statement: `Parser.run_after`.
-/

namespace PlainEnglish

open Grammar

/-! ### Calls -/

/-- What a parser can be asked for. -/
inductive Parser.Call where
  | current
  | isAt (kinds : List Kind)
  | advance
  | expect (kind : Kind)
  | operand
  | expression
  | declaration
  | printing
  | statement
  | program

/-- What a call finds. -/
inductive Parser.Finding where
  | next (t : Option Token)
  | holds (b : Bool)
  | token (t : Token)
  | operand (e : Expression)
  | expression (e : Expression)
  | statement (s : Statement)
  | program (p : Program)

/-- The parser that answers a call. -/
def Parser.Call.run : Parser.Call → Parser Parser.Finding
  | .current => fun c => (.ok (.next c.current), c)
  | .isAt kinds => fun c => (.ok (.holds (c.isAt kinds)), c)
  | .advance => do return .token (← Parser.advance)
  | .expect kind => do return .token (← Parser.expect kind)
  | .operand => do return .operand (← Parser.operand)
  | .expression => do return .expression (← Parser.expression)
  | .declaration => do return .statement (← Parser.declaration)
  | .printing => do return .statement (← Parser.printing)
  | .statement => do return .statement (← Parser.statement)
  | .program => do return .program (← Parser.program)

/-- The place after some calls, whether they fail or not. -/
def Cursor.after (c : Cursor) : List Parser.Call → Cursor
  | [] => c
  | call :: calls => Cursor.after (call.run c).2 calls

/-- A row of tokens spells what is found in it. -/
inductive Parser.Finding.IsSpelled : List Token → Parser.Finding → Prop where
  | next (t : Option Token) : IsSpelled [] (.next t)
  | holds (b : Bool) : IsSpelled [] (.holds b)
  | token (t : Token) : IsSpelled [t] (.token t)
  | operand (p : Primary) (h : p.token.IsReadable) : IsSpelled [p.token] (.operand p.expression)
  | expression (chain : Chain) (h : ∀ t ∈ chain.tokens, t.IsReadable) :
      IsSpelled chain.tokens (.expression chain.expression)
  | statement {clause : Clause} {s : Statement} (hs : clause.statement? = some s)
      (h : ∀ t ∈ clause.tokens, t.IsReadable) : IsSpelled clause.tokens (.statement s)
  | program (d : Derivation) (h : ∀ t ∈ d.tokens, t.IsReadable) :
      IsSpelled d.tokens (.program d.program)

/-- Where a syntax error leaves a parser: in front of the token that is not expected, or behind
it if a statement is, and behind all tokens if there are none left. -/
inductive Cursor.IsLeftBy (c : Cursor) : SyntaxError → Prop where
  | inFront {wanted : Expectation} {t : Token} (hwanted : wanted ≠ .statement)
      (hnext : c.current = some t) (ht : t.kind ∉ wanted.kinds) :
        IsLeftBy c (.unexpected wanted t)
  | behind {t : Token} (hpassed : c.passed.head? = some t)
      (ht : t.kind ∉ Expectation.statement.kinds) : IsLeftBy c (.unexpected .statement t)
  | atEnd {wanted : Expectation} (hahead : c.ahead = []) :
      IsLeftBy c (.endOfInput wanted (c.last.map Token.line))

/-! ### Reached places -/

/-- The second place is reached from the first one by passing tokens. -/
def Cursor.Reaches (c c' : Cursor) : Prop := ∃ w, c.Passes w c'

section

variable {c c' c'' : Cursor}

lemma Cursor.Reaches.refl (c : Cursor) : c.Reaches c := ⟨[], Cursor.passes_nil.mpr rfl⟩

lemma Cursor.Reaches.trans (h : c.Reaches c') (h' : c'.Reaches c'') : c.Reaches c'' := by
  obtain ⟨v, hv⟩ := h
  obtain ⟨w, hw⟩ := h'
  exact ⟨v ++ w, Cursor.passes_append.mpr ⟨c', hv, hw⟩⟩

lemma Cursor.reaches_next (c : Cursor) : c.Reaches c.next := by
  cases hahead : c.ahead with
  | nil =>
    have hnext : c.next = c := by simp [Cursor.next, hahead]
    rw [hnext]
    exact .refl c
  | cons t rest => exact ⟨[t], Cursor.passes_next hahead⟩

lemma Cursor.Reaches.tokens_eq (h : c.Reaches c') : c'.tokens = c.tokens := by
  obtain ⟨w, hahead, hpassed⟩ := h
  rw [Cursor.tokens, Cursor.tokens, hahead, hpassed]
  simp

lemma Cursor.Reaches.position_le (h : c.Reaches c') : c.position ≤ c'.position := by
  obtain ⟨w, -, hpassed⟩ := h
  rw [Cursor.position, Cursor.position, hpassed, List.length_append]
  exact Nat.le_add_left _ _

lemma Cursor.position_le_length (c : Cursor) : c.position ≤ c.tokens.length := by
  rw [Cursor.position, Cursor.tokens, List.length_append, List.length_reverse]
  exact Nat.le_add_right _ _

lemma Cursor.current_of_ahead {t : Token} {rest : List Token} (h : c.ahead = t :: rest) :
    c.current = some t := by
  rw [Cursor.current, h]
  rfl

end

/-! ### Orderly parsers -/

/-- How a parser may end that was started at some place: it passes tokens only, and a syntax
error leaves it where it is found. -/
inductive Cursor.MayEnd {α : Type} (c : Cursor) : Except ParseError α × Cursor → Prop where
  | found (a : α) {c' : Cursor} (h : c.Reaches c') : MayEnd c (.ok a, c')
  | unreadable (text : Text) {c' : Cursor} (h : c.Reaches c') :
      MayEnd c (.error (.notNumber text), c')
  | refused {g : SyntaxError} {c' : Cursor} (h : c.Reaches c') (hleft : c'.IsLeftBy g) :
      MayEnd c (.error (.grammar g), c')

/-- A parser that passes tokens only, and that a syntax error leaves where it is found. -/
def Parser.IsOrderly {α : Type} (p : Parser α) : Prop := ∀ c : Cursor, c.MayEnd (p c)

section

variable {α β : Type} {c c' : Cursor} {outcome : Except ParseError α × Cursor}

lemma Cursor.MayEnd.reaches (h : c.MayEnd outcome) : c.Reaches outcome.2 := by
  cases h with
  | found a h => exact h
  | unreadable text h => exact h
  | refused h hleft => exact h

lemma Cursor.MayEnd.isLeftBy {g : SyntaxError} (h : c.MayEnd outcome)
    (hg : outcome.1 = .error (.grammar g)) : outcome.2.IsLeftBy g := by
  cases h with
  | found a h => simp at hg
  | unreadable text h => simp at hg
  | refused h hleft =>
    obtain rfl : _ = g := by simpa using hg
    exact hleft

lemma Cursor.Reaches.mayEnd (hreaches : c.Reaches c') (h : c'.MayEnd outcome) :
    c.MayEnd outcome := by
  cases h with
  | found a h => exact .found a (hreaches.trans h)
  | unreadable text h => exact .unreadable text (hreaches.trans h)
  | refused h hleft => exact .refused (hreaches.trans h) hleft

/-- Failing is the same whatever would have been found. -/
lemma Cursor.MayEnd.of_error {e : ParseError}
    (h : c.MayEnd ((.error e, c') : Except ParseError α × Cursor)) :
    c.MayEnd ((.error e, c') : Except ParseError β × Cursor) := by
  cases h with
  | unreadable text h => exact .unreadable text h
  | refused h hleft => exact .refused h hleft

lemma Parser.pure_isOrderly (a : α) : Parser.IsOrderly (pure a : Parser α) :=
  fun c => .found a (.refl c)

lemma Parser.IsOrderly.bind {p : Parser α} {f : α → Parser β} (hp : Parser.IsOrderly p)
    (hf : ∀ a, Parser.IsOrderly (f a)) : Parser.IsOrderly (p >>= f) := by
  intro c
  have hend := hp c
  rw [Parser.bind_apply]
  split
  · next a c' heq =>
    rw [heq] at hend
    exact hend.reaches.mayEnd (hf a c')
  · next e c' heq =>
    rw [heq] at hend
    exact hend.of_error

lemma Parser.advance_isOrderly : Parser.IsOrderly Parser.advance := by
  intro c
  unfold Parser.advance
  split
  · exact .found _ c.reaches_next
  · next hahead => exact .refused (.refl c) (.atEnd hahead)

lemma Parser.expect_isOrderly (kind : Kind) : Parser.IsOrderly (Parser.expect kind) := by
  intro c
  unfold Parser.expect
  split
  · next t rest hahead =>
    split
    · exact .found _ c.reaches_next
    · next hkind =>
      exact .refused (.refl c) (.inFront Expectation.noConfusion (Cursor.current_of_ahead hahead)
        (mt List.mem_singleton.mp hkind))
  · next hahead => exact .refused (.refl c) (.atEnd hahead)

lemma Parser.operand_isOrderly : Parser.IsOrderly Parser.operand := by
  intro c
  unfold Parser.operand
  split
  · next t rest hahead =>
    split
    · split
      · exact .found _ c.reaches_next
      · exact .unreadable _ c.reaches_next
    · exact .found _ c.reaches_next
    · exact .found _ c.reaches_next
    · next hnumber hstring hname =>
      refine .refused (.refl c)
        (.inFront Expectation.noConfusion (Cursor.current_of_ahead hahead) ?_)
      simpa [Expectation.kinds] using ⟨hnumber, hstring, hname⟩
  · next hahead => exact .refused (.refl c) (.atEnd hahead)

lemma Parser.chain_isOrderly (left : Expression) : Parser.IsOrderly (Parser.chain left) := by
  intro c
  fun_induction Parser.chain left c with
  | case1 left c t rest hahead op hop right c₁ hc ih =>
    have hend := Parser.operand_isOrderly c.next
    rw [hc] at hend
    exact (c.reaches_next.trans hend.reaches).mayEnd ih
  | case2 left c t rest hahead op hop e c₁ hc =>
    have hend := Parser.operand_isOrderly c.next
    rw [hc] at hend
    exact c.reaches_next.mayEnd hend
  | case3 left c => exact .found left (.refl c)
  | case4 left c => exact .found left (.refl c)

lemma Parser.compositional_isOrderly : Parser.Compositional @Parser.IsOrderly where
  pure := Parser.pure_isOrderly
  bind := Parser.IsOrderly.bind
  expect := Parser.expect_isOrderly
  operand := Parser.operand_isOrderly
  chain := Parser.chain_isOrderly

lemma Parser.statement_isOrderly : Parser.IsOrderly Parser.statement := by
  intro c
  unfold Parser.statement
  split
  · exact Parser.compositional_isOrderly.declaration c
  · next hcreate =>
    split
    · exact Parser.compositional_isOrderly.printing c
    · next hprint =>
      split
      · next t rest hahead =>
        have hpassed : c.next.passed.head? = some t := by simp [Cursor.next, hahead]
        refine .refused c.reaches_next (.behind hpassed ?_)
        rw [Cursor.isAt_singleton_iff] at hcreate hprint
        simp only [Expectation.kinds, List.mem_cons, List.not_mem_nil, or_false, not_or]
        exact ⟨fun h => hcreate ⟨t, rest, hahead, h⟩, fun h => hprint ⟨t, rest, hahead, h⟩⟩
      · next hahead => exact .refused (.refl c) (.atEnd hahead)

lemma Parser.programAfter_isOrderly (done : Program) :
    Parser.IsOrderly (Parser.programAfter done) := by
  intro c
  fun_induction Parser.programAfter done c with
  | case1 done c hahead => exact .refused (.refl c) (.atEnd hahead)
  | case2 done c => exact .found _ (.refl c)
  | case3 done c t rest hahead hfinish hnewline ih => exact c.reaches_next.mayEnd ih
  | case4 done c t rest hahead hfinish hnewline s c₁ hc ih =>
    have hend := Parser.statement_isOrderly c
    rw [hc] at hend
    exact hend.reaches.mayEnd ih
  | case5 done c t rest hahead hfinish hnewline e c₁ hc =>
    have hend := Parser.statement_isOrderly c
    rw [hc] at hend
    exact hend.of_error

end

/-! ### Single calls -/

lemma Parser.advance_eq_ok_iff {t : Token} {c c' : Cursor} :
    Parser.advance c = (.ok t, c') ↔ c.Passes [t] c' := by
  rw [Cursor.passes_singleton]
  unfold Parser.advance
  split
  · next u rest hahead =>
    constructor
    · rintro ⟨⟩
      simp [Cursor.next, hahead]
    · rintro ⟨h, rfl⟩
      rw [(List.cons.inj (hahead.symm.trans h)).1]
  · next hahead => simp [hahead]

namespace Parser.Call

variable {c c' : Cursor} {found : Parser.Finding}

lemma run_isOrderly (call : Parser.Call) : Parser.IsOrderly call.run := by
  have hfound {α : Type} {p : Parser α} (hp : Parser.IsOrderly p) (find : α → Parser.Finding) :
      Parser.IsOrderly (p >>= fun a => pure (find a)) := hp.bind fun a => Parser.pure_isOrderly _
  cases call with
  | current => exact fun c => .found _ (.refl c)
  | isAt kinds => exact fun c => .found _ (.refl c)
  | advance => exact hfound Parser.advance_isOrderly _
  | expect kind => exact hfound (Parser.expect_isOrderly kind) _
  | operand => exact hfound Parser.operand_isOrderly _
  | expression => exact hfound Parser.compositional_isOrderly.expression _
  | declaration => exact hfound Parser.compositional_isOrderly.declaration _
  | printing => exact hfound Parser.compositional_isOrderly.printing _
  | statement => exact hfound Parser.statement_isOrderly _
  | program => exact hfound (Parser.programAfter_isOrderly []) _

/-- A call that does not fail has passed the tokens that spell what it has found. -/
lemma isSpelled_of_run {call : Parser.Call} (h : call.run c = (.ok found, c')) :
    ∃ w, c.Passes w c' ∧ found.IsSpelled w := by
  have hresult {α : Type} {p : Parser α} {find : α → Parser.Finding}
      (h : (p >>= fun a => pure (find a)) c = (.ok found, c')) :
      ∃ a, p c = (.ok a, c') ∧ find a = found := by
    obtain ⟨a, c₁, ha, hpure⟩ := Parser.bind_eq_ok_iff.mp h
    obtain ⟨hfound, rfl⟩ := Parser.pure_eq_ok_iff.mp hpure
    exact ⟨a, ha, hfound⟩
  cases call with
  | current =>
    obtain ⟨rfl, rfl⟩ : Parser.Finding.next c.current = found ∧ c = c' := by simpa [run] using h
    exact ⟨[], Cursor.passes_nil.mpr rfl, .next _⟩
  | isAt kinds =>
    obtain ⟨rfl, rfl⟩ : Parser.Finding.holds (c.isAt kinds) = found ∧ c = c' := by
      simpa [run] using h
    exact ⟨[], Cursor.passes_nil.mpr rfl, .holds _⟩
  | advance =>
    obtain ⟨t, ht, rfl⟩ := hresult h
    exact ⟨[t], Parser.advance_eq_ok_iff.mp ht, .token t⟩
  | expect kind =>
    obtain ⟨t, ht, rfl⟩ := hresult h
    exact ⟨[t], (Parser.expect_eq_ok_iff.mp ht).2, .token t⟩
  | operand =>
    obtain ⟨e, he, rfl⟩ := hresult h
    obtain ⟨p, hreadable, hpass, rfl⟩ := Parser.operand_eq_ok_iff.mp he
    exact ⟨_, hpass, .operand p hreadable⟩
  | expression =>
    obtain ⟨e, he, rfl⟩ := hresult h
    obtain ⟨chain, hreadable, hpass, -, rfl⟩ := Parser.expression_eq_ok_iff.mp he
    exact ⟨_, hpass, .expression chain hreadable⟩
  | declaration =>
    obtain ⟨s, hs, rfl⟩ := hresult h
    obtain ⟨_, _, _, _, _, _, hreadable, hpass, -, hs⟩ := Parser.declaration_eq_ok_iff.mp hs
    exact ⟨_, hpass, .statement hs (Clause.readable_declaration_iff.mpr hreadable)⟩
  | printing =>
    obtain ⟨s, hs, rfl⟩ := hresult h
    obtain ⟨_, _, hreadable, hpass, -, hs⟩ := Parser.printing_eq_ok_iff.mp hs
    exact ⟨_, hpass, .statement hs (Clause.readable_printing_iff.mpr hreadable)⟩
  | statement =>
    obtain ⟨s, hs, rfl⟩ := hresult h
    obtain ⟨clause, hreadable, hpass, -, hs⟩ := Parser.statement_eq_ok_iff.mp hs
    exact ⟨_, hpass, .statement hs hreadable⟩
  | program =>
    obtain ⟨p, hp, rfl⟩ := hresult h
    obtain ⟨d, hreadable, hpass, -, rfl⟩ := Parser.programAfter_eq_ok_iff.mp hp
    exact ⟨_, hpass, .program d hreadable⟩

lemma atFinish_of_run_program (h : program.run c = (.ok found, c')) :
    c'.AtFinish ∧ program.run c' = (.ok (.program []), c') := by
  obtain ⟨p, c₁, hp, hfound⟩ := Parser.bind_eq_ok_iff.mp h
  obtain ⟨-, rfl⟩ := Parser.pure_eq_ok_iff.mp hfound
  obtain ⟨d, -, -, hat, -⟩ := Parser.programAfter_eq_ok_iff.mp hp
  exact ⟨hat, Parser.bind_eq_ok_iff.mpr
    ⟨[], c₁, Parser.programAfter_of_atFinish hat, Parser.pure_eq_ok_iff.mpr ⟨rfl, rfl⟩⟩⟩

end Parser.Call

/-! ### Any number of calls -/

/-- Calls pass tokens only, whether they fail or not. -/
lemma Cursor.reaches_after (c : Cursor) (calls : List Parser.Call) :
    c.Reaches (c.after calls) := by
  induction calls generalizing c with
  | nil => exact .refl c
  | cons call calls ih => exact (call.run_isOrderly c).reaches.trans (ih (call.run c).2)

/-- After any calls a further one leaves the row of tokens as it is, it goes forward only and not
beyond the row, and not at all to look at the next token. It has passed the tokens that spell
what it finds, and a syntax error leaves it at the token that is not expected. Behind a whole
program there is an empty one. -/
theorem Parser.run_after (tokens : List Token) (calls : List Parser.Call) (call : Parser.Call) :
    ∃ c result c', (Cursor.start tokens).after calls = c ∧ call.run c = (result, c') ∧
      c'.tokens = tokens ∧ c.position ≤ c'.position ∧ c'.position ≤ tokens.length ∧
      ((call = .current ∨ ∃ kinds, call = .isAt kinds) → c' = c) ∧
      (∀ found, result = .ok found → ∃ w, c.Passes w c' ∧ found.IsSpelled w) ∧
      (∀ found, result = .ok found → call = .program →
        c'.AtFinish ∧ Parser.Call.program.run c' = (.ok (.program []), c')) ∧
      ∀ g, result = .error (.grammar g) → c'.IsLeftBy g := by
  have hbefore := (Cursor.start tokens).reaches_after calls
  generalize (Cursor.start tokens).after calls = c at hbefore
  have hend := call.run_isOrderly c
  generalize hrun : call.run c = outcome at hend
  obtain ⟨result, c'⟩ := outcome
  have htokens : c'.tokens = tokens := hend.reaches.tokens_eq.trans hbefore.tokens_eq
  refine ⟨c, result, c', rfl, hrun, htokens, hend.reaches.position_le,
    htokens ▸ c'.position_le_length, ?_, ?_, ?_, fun g => hend.isLeftBy⟩
  · rintro (rfl | ⟨kinds, rfl⟩)
    · exact (congrArg Prod.snd hrun).symm
    · exact (congrArg Prod.snd hrun).symm
  · rintro found rfl
    exact Parser.Call.isSpelled_of_run hrun
  · rintro found rfl rfl
    exact Parser.Call.atFinish_of_run_program hrun

/-- Neither an operand nor something to print is found at a newline, which is passed only for a
statement. -/
example : (Cursor.start [⟨.newline, "\n", 1, 1⟩]).after
    [.operand, .printing, .statement, .advance] = ⟨[⟨.newline, "\n", 1, 1⟩], []⟩ := by decide

end PlainEnglish
