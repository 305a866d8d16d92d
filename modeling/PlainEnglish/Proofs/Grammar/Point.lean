import PlainEnglish.Proofs.Grammar.Program

/-!
# Points of the grammar

What a program can go on with depends on the kinds of the tokens so far, and of these a point of
the grammar is all that matters. Points move with every token, no point is a dead end, and each
parser goes from point to point: it stops where the point does not move.

Main statement: `Parser.programAfter_stopsAt`.
-/

namespace PlainEnglish

namespace Grammar

/-! ### Moving from point to point -/

/-- A place in a program: between clauses, in front of a token of the given kind, in front of an
operand, behind an operand, or behind the end token. -/
inductive Point where
  | clause
  | await (kind : Kind) (after : Point)
  | operand
  | link
  | finished
deriving DecidableEq

/-- Where the first token of a clause, or the end token, leads to. -/
def Point.ofFirst? : Kind → Option Point
  | .newline => some .clause
  | .keyword .createWord =>
    some (.await (.keyword .variableWord) (.await .identifier (.await (.keyword .withWord)
      (.await (.keyword .valueWord) .operand))))
  | .keyword .printWord => some .operand
  | .finish => some .finished
  | _ => none

/-- Where a token of the given kind leads to. Whatever stands behind the end token is passed. -/
def Point.next? : Point → Kind → Option Point
  | .clause, kind => Point.ofFirst? kind
  | .await wanted after, kind => if kind = wanted then some after else none
  | .operand, kind => if kind ∈ Expectation.operand.kinds then some .link else none
  | .link, kind => if kind.isOperator then some .operand else Point.ofFirst? kind
  | .finished, _ => some .finished

/-- Where a row of tokens leads to. -/
def Point.run (q : Point) (tokens : List Token) : Option Point :=
  tokens.foldlM (fun q t => q.next? t.kind) q

/-- What is named as expected where a token does not fit. -/
def Point.wanted : Point → Expectation
  | .await kind _ => .kind kind
  | .operand => .operand
  | .clause | .link | .finished => .statement

/-- What is named as expected where there are no tokens left. -/
def Point.wantedAtEnd : Point → Expectation
  | .await kind _ => .kind kind
  | .operand => .operand
  | .clause | .link | .finished => .kind .finish

@[simp] lemma Point.next?_link_operator (op : Operator) :
    Point.link.next? (.operator op) = some .operand := rfl

@[simp] lemma Point.run_nil (q : Point) : q.run [] = some q := rfl

lemma Point.run_cons (q : Point) (t : Token) (tokens : List Token) :
    q.run (t :: tokens) = (q.next? t.kind).bind fun q' => q'.run tokens := List.foldlM_cons

lemma Point.run_append (q : Point) (v w : List Token) :
    q.run (v ++ w) = (q.run v).bind fun q' => q'.run w := List.foldlM_append

@[simp] lemma Point.run_finished (tokens : List Token) :
    Point.finished.run tokens = some .finished := by
  induction tokens with
  | nil => rfl
  | cons t tokens ih => rw [Point.run_cons, Point.next?, Option.bind_some, ih]

/-- Only the kinds of tokens matter. -/
lemma Point.run_congr {q : Point} {v w : List Token} (h : v.map Token.kind = w.map Token.kind) :
    q.run v = q.run w := by
  have hkinds (tokens : List Token) :
      q.run tokens = (tokens.map Token.kind).foldlM Point.next? q :=
    List.foldlM_map.symm
  rw [hkinds, hkinds, h]

/-! ### No point is a dead end -/

/-- Kinds of tokens that lead to the end of a program. -/
def Point.completion : Point → List Kind
  | .await kind after => kind :: after.completion
  | .operand => [.identifier, .finish]
  | .clause | .link => [.finish]
  | .finished => []

lemma Point.completion_ne_nil {q : Point} (h : q ≠ .finished) : q.completion ≠ [] := by
  cases q <;> simp_all [Point.completion]

end Grammar

open Grammar

/-- Some token of the given kind. -/
def Kind.token (kind : Kind) : Token := ⟨kind, "0", 1, 1⟩

/-- Whatever its kind is, the token can be read. -/
lemma Kind.isReadable_token (kind : Kind) : kind.token.IsReadable := by
  intro _
  have h : (Number.ofText? ['0']).isSome := by decide +kernel
  exact h

lemma Grammar.Point.run_completion (q : Point) :
    q.run (q.completion.map Kind.token) = some .finished := by
  induction q with
  | await kind after ih =>
    rw [Point.completion, List.map_cons, Point.run_cons]
    simpa [Point.next?, Kind.token] using ih
  | clause => rfl
  | operand => rfl
  | link => rfl
  | finished => rfl

/-- A token of a kind that is named as expected leads somewhere. -/
lemma Grammar.Point.next?_of_wanted {q : Point} {kind : Kind} (h : kind ∈ q.wanted.kinds) :
    (q.next? kind).isSome := by
  cases q with
  | await wanted after => simp_all [Point.wanted, Point.next?, Expectation.kinds]
  | operand => simp_all [Point.wanted, Point.next?]
  | finished => rfl
  | clause | link =>
    simp only [Point.wanted, Expectation.kinds, List.mem_cons, List.not_mem_nil, or_false] at h
    rcases h with rfl | rfl <;> rfl

/-- So does a token of a kind that is named as expected where there are no tokens left. -/
lemma Grammar.Point.next?_of_wantedAtEnd {q : Point} {kind : Kind}
    (h : kind ∈ q.wantedAtEnd.kinds) :
    (q.next? kind).isSome := by
  cases q with
  | await wanted after => exact Point.next?_of_wanted h
  | operand => exact Point.next?_of_wanted h
  | clause | link | finished =>
    obtain rfl := List.mem_singleton.mp h
    rfl

/-! ### Where parsers stop -/

/-- Going on from a point, parsing fails with the given error: in front of a token that leads
nowhere, or behind all tokens before the program is finished. -/
inductive Cursor.StopsAt (c : Cursor) (q : Point) : SyntaxError → Prop where
  | inFront {v rest : List Token} {t : Token} {q' : Point} (hahead : c.ahead = v ++ t :: rest)
      (hrun : q.run v = some q') (hnext : q'.next? t.kind = none) :
      StopsAt c q (.unexpected q'.wanted t)
  | behind {q' : Point} (hrun : q.run c.ahead = some q') (hfinished : q' ≠ .finished) :
      StopsAt c q (.endOfInput q'.wantedAtEnd (c.last.map Token.line))

/-- In front of the given tokens the parser goes from one point to the other, or stops on the
way. -/
structure Parser.Traces {α : Type} (p : Parser α) (c : Cursor) (q q' : Point) : Prop where
  passes : ∀ {a c'}, p c = (.ok a, c') → ∃ v, c.Passes v c' ∧ q.run v = some q'
  stops : ∀ {g c'}, p c = (.error (.grammar g), c') → c.StopsAt q g

lemma Cursor.last_eq (c : Cursor) : c.last = c.tokens.getLast? := by
  rw [Cursor.tokens, List.getLast?_append, List.getLast?_reverse, Cursor.last]
  cases c.ahead.getLast? <;> rfl

lemma Cursor.Passes.last_eq {c c' : Cursor} {v : List Token} (h : c.Passes v c') :
    c'.last = c.last := by
  rw [Cursor.last_eq, Cursor.last_eq, Cursor.tokens, Cursor.tokens, h.1, h.2]
  simp

/-- Where parsing fails behind passed tokens, it fails in front of them. -/
lemma Cursor.StopsAt.of_passes {c c' : Cursor} {q q' : Point} {v : List Token} {g : SyntaxError}
    (h : c'.StopsAt q' g) (hpass : c.Passes v c') (hrun : q.run v = some q') :
    c.StopsAt q g := by
  cases h with
  | @inFront w rest t q'' hahead hw hnext =>
    have hsplit : c.ahead = (v ++ w) ++ t :: rest := by
      rw [hpass.1, hahead, List.append_assoc]
    refine .inFront hsplit ?_ hnext
    rw [Point.run_append, hrun, Option.bind_some, hw]
  | behind hw hfinished =>
    rw [hpass.last_eq]
    refine .behind ?_ hfinished
    rw [hpass.1, Point.run_append, hrun, Option.bind_some, hw]

/-! ### Parsers go from point to point -/

section

variable {α β : Type} {c : Cursor} {q q₁ q₂ : Point}

lemma Parser.pure_traces (a : α) (c : Cursor) (q : Point) :
    (pure a : Parser α).Traces c q q where
  passes h := by
    obtain ⟨-, rfl⟩ := Parser.pure_eq_ok_iff.mp h
    exact ⟨[], Cursor.passes_nil.mpr rfl, rfl⟩
  stops h := by simp [Parser.pure_apply] at h

lemma Parser.Traces.bind {p : Parser α} {f : α → Parser β} (hp : p.Traces c q q₁)
    (hf : ∀ a c', (f a).Traces c' q₁ q₂) : (p >>= f).Traces c q q₂ where
  passes h := by
    obtain ⟨a, c₁, ha, hb⟩ := Parser.bind_eq_ok_iff.mp h
    obtain ⟨v, hv, hrun⟩ := hp.passes ha
    obtain ⟨w, hw, hrun'⟩ := (hf a c₁).passes hb
    refine ⟨v ++ w, Cursor.passes_append.mpr ⟨c₁, hv, hw⟩, ?_⟩
    rw [Point.run_append, hrun, Option.bind_some, hrun']
  stops h := by
    rw [Parser.bind_apply] at h
    split at h
    · next a c₁ ha =>
      obtain ⟨v, hv, hrun⟩ := hp.passes ha
      exact ((hf a c₁).stops h).of_passes hv hrun
    · next e c₁ he =>
      obtain ⟨rfl, -⟩ : e = .grammar _ ∧ c₁ = _ := by simpa using h
      exact hp.stops he

/-- A token of the kind that has to come next is passed, and any other one is where parsing
stops. -/
lemma Parser.expect_traces (kind : Kind) (c : Cursor) (after : Point) :
    (Parser.expect kind).Traces c (.await kind after) after where
  passes {t c'} h := by
    obtain ⟨hkind, hpass⟩ := Parser.expect_eq_ok_iff.mp h
    exact ⟨[t], hpass, by simp [Point.run_cons, Point.next?, hkind]⟩
  stops {g c'} h := by
    unfold Parser.expect at h
    split at h
    · next t rest hahead =>
      split at h
      · simp at h
      · next hkind =>
        obtain ⟨rfl, -⟩ := by simpa using h
        exact .inFront (v := []) hahead rfl (if_neg hkind)
    · next hahead =>
      obtain ⟨rfl, -⟩ := by simpa using h
      have hrun : (Point.await kind after).run c.ahead = some (.await kind after) := by
        rw [hahead, Point.run_nil]
      exact .behind hrun Point.noConfusion

lemma Parser.expect_traces_of_kind {kind : Kind} {t : Token} {rest : List Token}
    (hahead : c.ahead = t :: rest) (hkind : t.kind = kind) (hnext : q.next? kind = some q₁) :
    (Parser.expect kind).Traces c q q₁ where
  passes {u c'} h := by
    obtain ⟨hu, hpass⟩ := Parser.expect_eq_ok_iff.mp h
    refine ⟨[u], hpass, ?_⟩
    rw [Point.run_cons, hu, hnext, Option.bind_some, Point.run_nil]
  stops {g c'} h := by simp [Parser.expect, hahead, hkind] at h

lemma Parser.operand_traces (c : Cursor) : Parser.operand.Traces c .operand .link where
  passes {e c'} h := by
    obtain ⟨p, -, hpass, -⟩ := Parser.operand_eq_ok_iff.mp h
    refine ⟨[p.token], hpass, ?_⟩
    rcases p.token_kind with hp | hp | hp <;>
      simp [Point.run_cons, hp, Point.next?, Expectation.kinds]
  stops {g c'} h := by
    unfold Parser.operand at h
    split at h
    · next t rest hahead =>
      split at h
      · split at h <;> simp at h
      · simp at h
      · simp at h
      · next hnumber hstring hname =>
        obtain ⟨rfl, -⟩ := by simpa using h
        refine .inFront (v := []) hahead rfl (if_neg ?_)
        simpa [Expectation.kinds] using ⟨hnumber, hstring, hname⟩
    · next hahead =>
      obtain ⟨rfl, -⟩ := by simpa using h
      have hrun : Point.operand.run c.ahead = some .operand := by
        rw [hahead, Point.run_nil]
      exact .behind hrun Point.noConfusion

lemma Parser.chain_traces (left : Expression) (c : Cursor) :
    Parser.Traces (Parser.chain left) c .link .link where
  passes {e c'} h := by
    fun_induction Parser.chain left c with
    | case1 left c t rest hahead op hop right c₁ hc ih =>
      obtain ⟨v, hv, hrun⟩ := (Parser.operand_traces c.next).passes hc
      obtain ⟨w, hw, hrun'⟩ := ih h
      refine ⟨t :: (v ++ w), Cursor.passes_cons.mpr ⟨_, Cursor.passes_next hahead,
        Cursor.passes_append.mpr ⟨c₁, hv, hw⟩⟩, ?_⟩
      rw [Point.run_cons, hop, Point.next?_link_operator, Option.bind_some, Point.run_append,
        hrun, Option.bind_some, hrun']
    | case2 left c t rest hahead op hop e c₁ hc => simp at h
    | case3 left c t rest hahead hop =>
      obtain ⟨-, rfl⟩ := by simpa using h
      exact ⟨[], Cursor.passes_nil.mpr rfl, rfl⟩
    | case4 left c hahead =>
      obtain ⟨-, rfl⟩ := by simpa using h
      exact ⟨[], Cursor.passes_nil.mpr rfl, rfl⟩
  stops {g c'} h := by
    fun_induction Parser.chain left c with
    | case1 left c t rest hahead op hop right c₁ hc ih =>
      obtain ⟨v, hv, hrun⟩ := (Parser.operand_traces c.next).passes hc
      refine (ih h).of_passes (Cursor.passes_cons.mpr ⟨_, Cursor.passes_next hahead, hv⟩) ?_
      rw [Point.run_cons, hop, Point.next?_link_operator, Option.bind_some, hrun]
    | case2 left c t rest hahead op hop e c₁ hc =>
      obtain ⟨rfl, -⟩ : e = .grammar g ∧ _ := by simpa using h
      refine ((Parser.operand_traces c.next).stops hc).of_passes (Cursor.passes_next hahead) ?_
      rw [Point.run_cons, hop, Point.next?_link_operator, Option.bind_some, Point.run_nil]
    | case3 left c t rest hahead hop => simp at h
    | case4 left c hahead => simp at h

lemma Parser.expression_traces (c : Cursor) : Parser.expression.Traces c .operand .link :=
  (Parser.operand_traces c).bind Parser.chain_traces

/-! ### From clause to clause -/

/-- A point at which a clause can begin. Behind an operand it is one only if what comes next is
no operator, which the expression would go on with. -/
def Grammar.Point.Between (q : Point) (ahead : List Token) : Prop :=
  q = .clause ∨ q = .link ∧ EndsChain ahead

lemma Grammar.Point.Between.next?_eq {t : Token} {rest : List Token}
    (h : q.Between (t :: rest)) :
    q.next? t.kind = Point.ofFirst? t.kind := by
  rcases h with rfl | ⟨rfl, hend⟩
  · rfl
  · have hoperator : t.kind.isOperator = false := by simpa [EndsChain] using hend
    simp [Point.next?, hoperator]

lemma Grammar.Point.Between.ne_finished {ahead : List Token} (h : q.Between ahead) :
    q ≠ .finished := by
  rcases h with rfl | ⟨rfl, -⟩ <;> exact Point.noConfusion

lemma Grammar.Point.Between.wanted_eq {ahead : List Token} (h : q.Between ahead) :
    q.wanted = .statement ∧ q.wantedAtEnd = .kind .finish := by
  rcases h with rfl | ⟨rfl, -⟩ <;> exact ⟨rfl, rfl⟩

lemma Parser.declaration_traces {t : Token} {rest : List Token} (hahead : c.ahead = t :: rest)
    (hkind : t.kind = .keyword .createWord) (hq : q.Between c.ahead) :
    Parser.declaration.Traces c q .link := by
  rw [hahead] at hq
  have hnext := hq.next?_eq
  rw [hkind] at hnext
  apply (Parser.expect_traces_of_kind hahead hkind hnext).bind
  intro create c₁
  refine (Parser.expect_traces _ c₁ _).bind fun variableWord c₂ => ?_
  refine (Parser.expect_traces _ c₂ _).bind fun name c₃ => ?_
  refine (Parser.expect_traces _ c₃ _).bind fun withWord c₄ => ?_
  refine (Parser.expect_traces _ c₄ _).bind fun valueWord c₅ => ?_
  exact (Parser.expression_traces c₅).bind fun value c₆ => Parser.pure_traces _ c₆ _

lemma Parser.printing_traces {t : Token} {rest : List Token} (hahead : c.ahead = t :: rest)
    (hkind : t.kind = .keyword .printWord) (hq : q.Between c.ahead) :
    Parser.printing.Traces c q .link := by
  rw [hahead] at hq
  have hnext := hq.next?_eq
  rw [hkind] at hnext
  apply (Parser.expect_traces_of_kind hahead hkind hnext).bind
  intro print c₁
  exact (Parser.expression_traces c₁).bind fun value c₂ => Parser.pure_traces _ c₂ _

/-- In front of a token that begins no statement and is passed for no other reason, parsing of
statements stops. -/
lemma Parser.statement_traces {t : Token} {rest : List Token} (hahead : c.ahead = t :: rest)
    (hfinish : t.kind ≠ .finish) (hnewline : t.kind ≠ .newline) (hq : q.Between c.ahead) :
    Parser.statement.Traces c q .link := by
  by_cases hcreate : t.kind = .keyword .createWord
  · have h := Parser.declaration_traces hahead hcreate hq
    have heq := Parser.statement_of_create hahead hcreate
    exact ⟨fun hok => h.passes (heq ▸ hok), fun herror => h.stops (heq ▸ herror)⟩
  by_cases hprint : t.kind = .keyword .printWord
  · have h := Parser.printing_traces hahead hprint hq
    have heq := Parser.statement_of_print hahead hprint
    exact ⟨fun hok => h.passes (heq ▸ hok), fun herror => h.stops (heq ▸ herror)⟩
  have hnone : Point.ofFirst? t.kind = none := by
    unfold Point.ofFirst?
    split <;> simp_all
  have hrun : Parser.statement c = (.error (.grammar (.unexpected .statement t)), c.next) := by
    simp [Parser.statement, Cursor.isAt, Cursor.current, hahead, hcreate, hprint]
  constructor
  · intro s c' h
    simp [hrun] at h
  · intro g c' h
    obtain ⟨rfl, -⟩ : g = .unexpected .statement t ∧ c' = c.next := by
      simpa [hrun, eq_comm] using h
    rw [← hq.wanted_eq.1]
    exact .inFront (v := []) hahead rfl ((hahead ▸ hq).next?_eq.trans hnone)

lemma Parser.statement_between {s : Statement} {c' : Cursor}
    (h : Parser.statement c = (.ok s, c')) :
    Point.link.Between c'.ahead := by
  obtain ⟨clause, -, -, hend, -⟩ := Parser.statement_eq_ok_iff.mp h
  exact Or.inr ⟨rfl, hend⟩

/-- The loop over the statements stops where the points do. -/
theorem Parser.programAfter_stopsAt {done : Program} {g : SyntaxError} {c' : Cursor}
    (hq : q.Between c.ahead) (h : Parser.programAfter done c = (.error (.grammar g), c')) :
    c.StopsAt q g := by
  fun_induction Parser.programAfter done c generalizing q with
  | case1 done c hahead =>
    obtain ⟨rfl, -⟩ := by simpa using h
    rw [← hq.wanted_eq.2]
    exact .behind (by rw [hahead, Point.run_nil]) hq.ne_finished
  | case2 done c t rest hahead hfinish => simp at h
  | case3 done c t rest hahead hfinish hnewline ih =>
    rw [hahead] at hq
    have hnext : q.run [t] = some .clause := by
      rw [Point.run_cons, hq.next?_eq, hnewline]
      rfl
    exact (ih (Or.inl rfl) h).of_passes (Cursor.passes_next hahead) hnext
  | case4 done c t rest hahead hfinish hnewline s c₁ hc ih =>
    obtain ⟨v, hv, hrun⟩ := (Parser.statement_traces hahead hfinish hnewline hq).passes hc
    exact (ih (Parser.statement_between hc) h).of_passes hv hrun
  | case5 done c t rest hahead hfinish hnewline e c₁ hc =>
    obtain ⟨rfl, -⟩ : e = .grammar g ∧ c₁ = c' := by simpa using h
    exact (Parser.statement_traces hahead hfinish hnewline hq).stops hc

/-- What it accepts leads to the end of a program. -/
theorem Parser.run_of_programAfter {done p : Program} {c' : Cursor} (hq : q.Between c.ahead)
    (h : Parser.programAfter done c = (.ok p, c')) : q.run c.ahead = some .finished := by
  fun_induction Parser.programAfter done c generalizing q with
  | case1 done c hahead => simp at h
  | case2 done c t rest hahead hfinish =>
    rw [hahead] at hq ⊢
    rw [Point.run_cons, hq.next?_eq, hfinish, Point.ofFirst?, Option.bind_some,
      Point.run_finished]
  | case3 done c t rest hahead hfinish hnewline ih =>
    rw [hahead] at hq
    have hpass := Cursor.passes_next hahead
    have hnext : q.next? t.kind = some .clause := by
      rw [hq.next?_eq, hnewline, Point.ofFirst?]
    rw [hpass.1, List.singleton_append, Point.run_cons, hnext, Option.bind_some]
    exact ih (Or.inl rfl) h
  | case4 done c t rest hahead hfinish hnewline s c₁ hc ih =>
    obtain ⟨v, hv, hrun⟩ := (Parser.statement_traces hahead hfinish hnewline hq).passes hc
    rw [hv.1, Point.run_append, hrun, Option.bind_some]
    exact ih (Parser.statement_between hc) h
  | case5 done c t rest hahead hfinish hnewline e c₁ hc => simp at h

end

end PlainEnglish
