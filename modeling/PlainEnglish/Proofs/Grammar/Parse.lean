import PlainEnglish.Program.Parse
import PlainEnglish.Proofs.Grammar.Tree

/-!
# Parsing finds derivations

Each parser is told by an equivalence: it succeeds exactly if the tokens ahead begin with a tree
of the grammar, it passes the tokens of that tree, and it finds what the tree means.
-/

namespace PlainEnglish

open Grammar

/-! ### Moves -/

/-- The second place is reached from the first one by passing the given tokens. -/
def Cursor.Passes (c : Cursor) (tokens : List Token) (c' : Cursor) : Prop :=
  c.ahead = tokens ++ c'.ahead ∧ c'.passed = tokens.reverse ++ c.passed

@[simp] lemma Cursor.passes_nil {c c' : Cursor} : c.Passes [] c' ↔ c' = c := by
  obtain ⟨passed, ahead⟩ := c
  obtain ⟨passed', ahead'⟩ := c'
  simp only [Cursor.Passes, List.nil_append, List.reverse_nil, Cursor.mk.injEq]
  exact ⟨fun h => ⟨h.2, h.1.symm⟩, fun h => ⟨h.2.symm, h.1⟩⟩

/-- Tokens are passed one row after the other. -/
lemma Cursor.passes_append {c c'' : Cursor} {v w : List Token} :
    c.Passes (v ++ w) c'' ↔ ∃ c', c.Passes v c' ∧ c'.Passes w c'' := by
  constructor
  · rintro ⟨hahead, hpassed⟩
    refine ⟨⟨v.reverse ++ c.passed, w ++ c''.ahead⟩, ⟨?_, rfl⟩, rfl, ?_⟩
    · rw [hahead, List.append_assoc]
    · rw [hpassed, List.reverse_append, List.append_assoc]
  · rintro ⟨c', ⟨hv, hv'⟩, hw, hw'⟩
    exact ⟨by rw [hv, hw, List.append_assoc],
      by rw [hw', hv', List.reverse_append, List.append_assoc]⟩

lemma Cursor.passes_singleton {c c' : Cursor} {t : Token} :
    c.Passes [t] c' ↔ c.ahead = t :: c'.ahead ∧ c' = c.next := by
  obtain ⟨passed, ahead⟩ := c
  obtain ⟨passed', ahead'⟩ := c'
  constructor
  · rintro ⟨hahead, hpassed⟩
    simp only [List.cons_append, List.nil_append, List.reverse_singleton] at hahead hpassed
    subst hahead hpassed
    exact ⟨rfl, rfl⟩
  · rintro ⟨hahead, hnext⟩
    simp only at hahead
    subst hahead
    simp only [Cursor.next, Cursor.mk.injEq] at hnext
    exact ⟨rfl, by simp [hnext.1]⟩

lemma Cursor.passes_cons {c c'' : Cursor} {t : Token} {w : List Token} :
    c.Passes (t :: w) c'' ↔ ∃ c', c.Passes [t] c' ∧ c'.Passes w c'' :=
  Cursor.passes_append (v := [t])

lemma Cursor.passes_next {c : Cursor} {t : Token} {rest : List Token} (h : c.ahead = t :: rest) :
    c.Passes [t] c.next := by
  rw [Cursor.passes_singleton]
  simp [Cursor.next, h]

lemma Parser.bind_eq_ok_iff {α β : Type} {p : Parser α} {f : α → Parser β} {c c'' : Cursor}
    {b : β} :
    (p >>= f) c = (.ok b, c'') ↔ ∃ a c', p c = (.ok a, c') ∧ f a c' = (.ok b, c'') := by
  rw [Parser.bind_apply]
  split
  · next a c' heq => simp [heq]
  · next e c' heq => simp [heq]

lemma Parser.pure_eq_ok_iff {α : Type} {a b : α} {c c' : Cursor} :
    (pure a : Parser α) c = (.ok b, c') ↔ a = b ∧ c = c' := by
  simp [Parser.pure_apply]

/-! ### Readable tokens -/

/-- Whether a token that should be a number names one. -/
def Token.IsReadable (t : Token) : Prop := t.kind = .number → (Number.ofText? t.text).isSome

lemma Token.OfKind.isReadable {kind : Kind} (t : Token.OfKind kind) (h : kind ≠ .number) :
    t.val.IsReadable := fun hnum => absurd (t.property.symm.trans hnum) h

/-! ### Single tokens and expressions -/

lemma Parser.expect_eq_ok_iff {kind : Kind} {t : Token} {c c' : Cursor} :
    Parser.expect kind c = (.ok t, c') ↔ t.kind = kind ∧ c.Passes [t] c' := by
  rw [Cursor.passes_singleton]
  unfold Parser.expect
  split
  · next u rest hahead =>
    rw [hahead]
    split
    · next hkind =>
      constructor
      · rintro ⟨⟩
        simp [hkind, Cursor.next, hahead]
      · rintro ⟨-, h, rfl⟩
        rw [(List.cons.inj h).1]
    · next hkind =>
      constructor
      · rintro ⟨⟩
      · rintro ⟨h, heq, -⟩
        exact absurd ((List.cons.inj heq).1 ▸ h) hkind
  · next hahead => simp [hahead]

lemma Parser.operand_eq_ok_iff {e : Expression} {c c' : Cursor} :
    Parser.operand c = (.ok e, c') ↔
      ∃ p : Primary, p.token.IsReadable ∧ c.Passes [p.token] c' ∧ p.expression = e := by
  constructor
  · intro h
    unfold Parser.operand at h
    split at h
    · next t rest hahead =>
      have hnext := Cursor.passes_next hahead
      split at h
      · next hkind =>
        split at h
        · next x hx =>
          obtain ⟨rfl, rfl⟩ := by simpa using h
          exact ⟨.number ⟨t, hkind⟩, fun _ => by simp [Primary.token, hx], hnext,
            by simp [Primary.expression, hx]⟩
        · simp at h
      · next hkind =>
        obtain ⟨rfl, rfl⟩ := by simpa using h
        exact ⟨.string ⟨t, hkind⟩, fun hnum => by simp [Primary.token, hkind] at hnum, hnext,
          rfl⟩
      · next hkind =>
        obtain ⟨rfl, rfl⟩ := by simpa using h
        exact ⟨.name ⟨t, hkind⟩, fun hnum => by simp [Primary.token, hkind] at hnum, hnext, rfl⟩
      · simp at h
    · simp at h
  · rintro ⟨p, hreadable, hpass, rfl⟩
    obtain ⟨hahead, rfl⟩ := Cursor.passes_singleton.mp hpass
    cases p with
    | number t =>
      obtain ⟨x, hx⟩ := Option.isSome_iff_exists.mp (hreadable t.property)
      simp only [Primary.token] at hahead hx
      simp [Parser.operand, hahead, t.property, hx, Primary.expression]
    | string t =>
      simp only [Primary.token] at hahead
      simp [Parser.operand, hahead, t.property, Primary.expression]
    | name t =>
      simp only [Primary.token] at hahead
      simp [Parser.operand, hahead, t.property, Primary.expression]

lemma Parser.chain_of_endsChain {left : Expression} {c : Cursor} (h : EndsChain c.ahead) :
    Parser.chain left c = (.ok left, c) := by
  rw [Parser.chain.eq_def]
  split
  · next t rest hahead =>
    rw [hahead] at h
    split
    · next op hop => simp [EndsChain, hop, Kind.isOperator] at h
    · rfl
  · rfl

lemma Parser.chain_of_operator {left right : Expression} {c c' : Cursor} {t : Token}
    {rest : List Token} {op : Operator} (h : c.ahead = t :: rest) (ht : t.kind = .operator op)
    (hright : Parser.operand c.next = (.ok right, c')) :
    Parser.chain left c = Parser.chain (.binary left op right) c' := by
  rw [Parser.chain.eq_def]
  split
  · next t' rest' h' =>
    obtain ⟨rfl, -⟩ := List.cons.inj (h.symm.trans h')
    split
    · next op' hop =>
      obtain rfl : op = op' := by simpa using ht.symm.trans hop
      split
      · next right' c₁ hc =>
        obtain ⟨rfl, rfl⟩ := by simpa using hright.symm.trans hc
        rfl
      · next e c₁ hc => simp [hright] at hc
    · next hop => exact absurd ht (hop op)
  · next h' => simp [h'] at h

/-- Links are passed, and the chain goes on with what they make of its left side. -/
lemma Parser.chain_of_links {left : Expression} {links : List Link} {c c' : Cursor}
    (hreadable : ∀ l ∈ links, l.primary.token.IsReadable)
    (hpass : c.Passes (links.flatMap Link.tokens) c') :
    Parser.chain left c = Parser.chain (links.foldl Link.extend left) c' := by
  induction links generalizing left c with
  | nil =>
    obtain rfl := Cursor.passes_nil.mp hpass
    rfl
  | cons l links ih =>
    rw [List.flatMap_cons, Cursor.passes_append] at hpass
    obtain ⟨c₁, hl, hrest⟩ := hpass
    obtain ⟨c₂, hsign, hp⟩ := Cursor.passes_cons.mp hl
    obtain ⟨hahead, rfl⟩ := Cursor.passes_singleton.mp hsign
    have hoperand : Parser.operand c.next = (.ok l.primary.expression, c₁) :=
      Parser.operand_eq_ok_iff.mpr ⟨l.primary, hreadable l (by simp), hp, rfl⟩
    rw [Parser.chain_of_operator hahead l.sign.property hoperand]
    exact ih (fun m hm => hreadable m (by simp [hm])) hrest

/-- The links that a chain goes on with are all that come next. -/
lemma Parser.chain_eq_ok_iff {left e : Expression} {c c' : Cursor} :
    Parser.chain left c = (.ok e, c') ↔
      ∃ links : List Link, (∀ l ∈ links, l.primary.token.IsReadable) ∧
        c.Passes (links.flatMap Link.tokens) c' ∧ EndsChain c'.ahead ∧
        links.foldl Link.extend left = e := by
  constructor
  · intro h
    fun_induction Parser.chain left c with
    | case1 left c t rest hahead op hop right c₁ hc ih =>
      obtain ⟨p, hp, hpass, rfl⟩ := Parser.operand_eq_ok_iff.mp hc
      obtain ⟨links, hlinks, hrest, hend, rfl⟩ := ih h
      refine ⟨⟨op, ⟨t, hop⟩, p⟩ :: links, ?_, ?_, hend, rfl⟩
      · rintro l (_ | ⟨_, hl⟩)
        · exact hp
        · exact hlinks l hl
      · rw [List.flatMap_cons, Cursor.passes_append]
        exact ⟨c₁, Cursor.passes_cons.mpr ⟨_, Cursor.passes_next hahead, hpass⟩, hrest⟩
    | case2 left c t rest hahead op hop e' c₁ hc => simp at h
    | case3 left c t rest hahead hop =>
      obtain ⟨rfl, rfl⟩ := by simpa using h
      refine ⟨[], by simp, by simp, ?_, rfl⟩
      rw [hahead]
      exact endsChain_cons_of_ne hop
    | case4 left c hahead =>
      obtain ⟨rfl, rfl⟩ := by simpa using h
      exact ⟨[], by simp, by simp, by simp [EndsChain, hahead], rfl⟩
  · rintro ⟨links, hlinks, hpass, hend, rfl⟩
    rw [Parser.chain_of_links hlinks hpass]
    exact Parser.chain_of_endsChain hend

lemma Grammar.Chain.readable_iff (chain : Chain) : (∀ t ∈ chain.tokens, t.IsReadable) ↔
    chain.first.token.IsReadable ∧ ∀ l ∈ chain.links, l.primary.token.IsReadable := by
  constructor
  · intro h
    refine ⟨h _ (by simp [Chain.tokens]), fun l hl => h _ ?_⟩
    exact List.mem_cons_of_mem _ (List.mem_flatMap.mpr ⟨l, hl, by simp [Link.tokens]⟩)
  · rintro ⟨hfirst, hlinks⟩ t ht
    rcases List.mem_cons.mp ht with rfl | ht
    · exact hfirst
    · obtain ⟨l, hl, ht⟩ := List.mem_flatMap.mp ht
      simp only [Link.tokens, List.mem_cons, List.not_mem_nil, or_false] at ht
      rcases ht with rfl | rfl
      · exact l.sign.isReadable (by simp)
      · exact hlinks l hl

lemma Parser.expression_eq_ok_iff {e : Expression} {c c' : Cursor} :
    Parser.expression c = (.ok e, c') ↔
      ∃ chain : Chain, (∀ t ∈ chain.tokens, t.IsReadable) ∧ c.Passes chain.tokens c' ∧
        EndsChain c'.ahead ∧ chain.expression = e := by
  constructor
  · intro h
    obtain ⟨left, c₁, hleft, hchain⟩ := Parser.bind_eq_ok_iff.mp h
    obtain ⟨p, hp, hfirst, rfl⟩ := Parser.operand_eq_ok_iff.mp hleft
    obtain ⟨links, hlinks, hrest, hend, rfl⟩ := Parser.chain_eq_ok_iff.mp hchain
    exact ⟨⟨p, links⟩, (Chain.readable_iff _).mpr ⟨hp, hlinks⟩,
      Cursor.passes_cons.mpr ⟨c₁, hfirst, hrest⟩, hend, rfl⟩
  · rintro ⟨chain, hreadable, hpass, hend, rfl⟩
    obtain ⟨hp, hlinks⟩ := (Chain.readable_iff _).mp hreadable
    obtain ⟨c₁, hfirst, hrest⟩ := Cursor.passes_cons.mp hpass
    exact Parser.bind_eq_ok_iff.mpr ⟨_, c₁, Parser.operand_eq_ok_iff.mpr ⟨_, hp, hfirst, rfl⟩,
      Parser.chain_eq_ok_iff.mpr ⟨_, hlinks, hrest, hend, rfl⟩⟩

/-! ### Statements -/

lemma Parser.declaration_eq_ok_iff {s : Statement} {c c' : Cursor} :
    Parser.declaration c = (.ok s, c') ↔
      ∃ create variableWord name withWord valueWord chain,
        (∀ t ∈ chain.tokens, t.IsReadable) ∧
        c.Passes (Clause.declaration create variableWord name withWord valueWord chain).tokens
          c' ∧
        EndsChain c'.ahead ∧
        (Clause.declaration create variableWord name withWord valueWord chain).statement? =
          some s := by
  constructor
  · intro h
    obtain ⟨create, c₁, h₁, h⟩ := Parser.bind_eq_ok_iff.mp h
    obtain ⟨variableWord, c₂, h₂, h⟩ := Parser.bind_eq_ok_iff.mp h
    obtain ⟨name, c₃, h₃, h⟩ := Parser.bind_eq_ok_iff.mp h
    obtain ⟨withWord, c₄, h₄, h⟩ := Parser.bind_eq_ok_iff.mp h
    obtain ⟨valueWord, c₅, h₅, h⟩ := Parser.bind_eq_ok_iff.mp h
    obtain ⟨value, c₆, h₆, h⟩ := Parser.bind_eq_ok_iff.mp h
    obtain ⟨rfl, rfl⟩ := Parser.pure_eq_ok_iff.mp h
    obtain ⟨hk₁, h₁⟩ := Parser.expect_eq_ok_iff.mp h₁
    obtain ⟨hk₂, h₂⟩ := Parser.expect_eq_ok_iff.mp h₂
    obtain ⟨hk₃, h₃⟩ := Parser.expect_eq_ok_iff.mp h₃
    obtain ⟨hk₄, h₄⟩ := Parser.expect_eq_ok_iff.mp h₄
    obtain ⟨hk₅, h₅⟩ := Parser.expect_eq_ok_iff.mp h₅
    obtain ⟨chain, hreadable, hpass, hend, rfl⟩ := Parser.expression_eq_ok_iff.mp h₆
    refine ⟨⟨create, hk₁⟩, ⟨variableWord, hk₂⟩, ⟨name, hk₃⟩, ⟨withWord, hk₄⟩, ⟨valueWord, hk₅⟩,
      chain, hreadable, ?_, hend, rfl⟩
    exact Cursor.passes_cons.mpr ⟨c₁, h₁, Cursor.passes_cons.mpr ⟨c₂, h₂, Cursor.passes_cons.mpr
      ⟨c₃, h₃, Cursor.passes_cons.mpr ⟨c₄, h₄, Cursor.passes_cons.mpr ⟨c₅, h₅, hpass⟩⟩⟩⟩⟩
  · rintro ⟨create, variableWord, name, withWord, valueWord, chain, hreadable, hpass, hend, hs⟩
    obtain ⟨c₁, h₁, hpass⟩ := Cursor.passes_cons.mp hpass
    obtain ⟨c₂, h₂, hpass⟩ := Cursor.passes_cons.mp hpass
    obtain ⟨c₃, h₃, hpass⟩ := Cursor.passes_cons.mp hpass
    obtain ⟨c₄, h₄, hpass⟩ := Cursor.passes_cons.mp hpass
    obtain ⟨c₅, h₅, hpass⟩ := Cursor.passes_cons.mp hpass
    obtain rfl := Option.some.inj hs
    exact Parser.bind_eq_ok_iff.mpr ⟨_, c₁, Parser.expect_eq_ok_iff.mpr ⟨create.property, h₁⟩,
      Parser.bind_eq_ok_iff.mpr ⟨_, c₂, Parser.expect_eq_ok_iff.mpr ⟨variableWord.property, h₂⟩,
      Parser.bind_eq_ok_iff.mpr ⟨_, c₃, Parser.expect_eq_ok_iff.mpr ⟨name.property, h₃⟩,
      Parser.bind_eq_ok_iff.mpr ⟨_, c₄, Parser.expect_eq_ok_iff.mpr ⟨withWord.property, h₄⟩,
      Parser.bind_eq_ok_iff.mpr ⟨_, c₅, Parser.expect_eq_ok_iff.mpr ⟨valueWord.property, h₅⟩,
      Parser.bind_eq_ok_iff.mpr ⟨_, c', Parser.expression_eq_ok_iff.mpr
        ⟨chain, hreadable, hpass, hend, rfl⟩, Parser.pure_eq_ok_iff.mpr ⟨rfl, rfl⟩⟩⟩⟩⟩⟩⟩

lemma Parser.printing_eq_ok_iff {s : Statement} {c c' : Cursor} :
    Parser.printing c = (.ok s, c') ↔
      ∃ print chain, (∀ t ∈ chain.tokens, t.IsReadable) ∧
        c.Passes (Clause.printing print chain).tokens c' ∧ EndsChain c'.ahead ∧
        (Clause.printing print chain).statement? = some s := by
  constructor
  · intro h
    obtain ⟨print, c₁, h₁, h⟩ := Parser.bind_eq_ok_iff.mp h
    obtain ⟨value, c₂, h₂, h⟩ := Parser.bind_eq_ok_iff.mp h
    obtain ⟨rfl, rfl⟩ := Parser.pure_eq_ok_iff.mp h
    obtain ⟨hk₁, h₁⟩ := Parser.expect_eq_ok_iff.mp h₁
    obtain ⟨chain, hreadable, hpass, hend, rfl⟩ := Parser.expression_eq_ok_iff.mp h₂
    exact ⟨⟨print, hk₁⟩, chain, hreadable, Cursor.passes_cons.mpr ⟨c₁, h₁, hpass⟩, hend, rfl⟩
  · rintro ⟨print, chain, hreadable, hpass, hend, hs⟩
    obtain ⟨c₁, h₁, hpass⟩ := Cursor.passes_cons.mp hpass
    obtain rfl := Option.some.inj hs
    exact Parser.bind_eq_ok_iff.mpr ⟨_, c₁, Parser.expect_eq_ok_iff.mpr ⟨print.property, h₁⟩,
      Parser.bind_eq_ok_iff.mpr ⟨_, c', Parser.expression_eq_ok_iff.mpr
        ⟨chain, hreadable, hpass, hend, rfl⟩, Parser.pure_eq_ok_iff.mpr ⟨rfl, rfl⟩⟩⟩

lemma Grammar.Clause.readable_declaration_iff {create : Token.OfKind (.keyword .createWord)}
    {variableWord : Token.OfKind (.keyword .variableWord)} {name : Token.OfKind .identifier}
    {withWord : Token.OfKind (.keyword .withWord)}
    {valueWord : Token.OfKind (.keyword .valueWord)} {chain : Chain} :
    (∀ t ∈ (Clause.declaration create variableWord name withWord valueWord chain).tokens,
      t.IsReadable) ↔ ∀ t ∈ chain.tokens, t.IsReadable := by
  have h₁ := create.isReadable (by simp)
  have h₂ := variableWord.isReadable (by simp)
  have h₃ := name.isReadable (by simp)
  have h₄ := withWord.isReadable (by simp)
  have h₅ := valueWord.isReadable (by simp)
  simp only [Clause.tokens, List.forall_mem_cons, h₁, h₂, h₃, h₄, h₅, true_and]

lemma Grammar.Clause.readable_printing_iff {print : Token.OfKind (.keyword .printWord)}
    {chain : Chain} : (∀ t ∈ (Clause.printing print chain).tokens, t.IsReadable) ↔
      ∀ t ∈ chain.tokens, t.IsReadable := by
  have h := print.isReadable (by simp)
  simp only [Clause.tokens, List.forall_mem_cons, h, true_and]

lemma Cursor.isAt_singleton_iff {c : Cursor} {kind : Kind} :
    c.isAt [kind] = true ↔ ∃ t rest, c.ahead = t :: rest ∧ t.kind = kind := by
  obtain ⟨passed, ahead⟩ := c
  cases ahead <;> simp [Cursor.isAt, Cursor.current]

lemma Parser.statement_of_create {c : Cursor} {t : Token} {rest : List Token}
    (h : c.ahead = t :: rest) (ht : t.kind = .keyword .createWord) :
    Parser.statement c = Parser.declaration c := by
  rw [Parser.statement, if_pos (Cursor.isAt_singleton_iff.mpr ⟨t, rest, h, ht⟩)]

lemma Parser.statement_of_print {c : Cursor} {t : Token} {rest : List Token}
    (h : c.ahead = t :: rest) (ht : t.kind = .keyword .printWord) :
    Parser.statement c = Parser.printing c := by
  have hnot : ¬c.isAt [.keyword .createWord] = true := by
    rw [Cursor.isAt_singleton_iff, h]
    rintro ⟨t', rest', heq, hkind⟩
    obtain rfl := (List.cons.inj heq).1
    simp [ht] at hkind
  rw [Parser.statement, if_neg hnot, if_pos (Cursor.isAt_singleton_iff.mpr ⟨t, rest, h, ht⟩)]

lemma Parser.statement_eq_ok_iff {s : Statement} {c c' : Cursor} :
    Parser.statement c = (.ok s, c') ↔
      ∃ clause : Clause, (∀ t ∈ clause.tokens, t.IsReadable) ∧ c.Passes clause.tokens c' ∧
        EndsChain c'.ahead ∧ clause.statement? = some s := by
  constructor
  · intro h
    unfold Parser.statement at h
    split at h
    · obtain ⟨_, _, _, _, _, _, hreadable, hpass, hend, hs⟩ := Parser.declaration_eq_ok_iff.mp h
      exact ⟨_, Clause.readable_declaration_iff.mpr hreadable, hpass, hend, hs⟩
    · split at h
      · obtain ⟨_, _, hreadable, hpass, hend, hs⟩ := Parser.printing_eq_ok_iff.mp h
        exact ⟨_, Clause.readable_printing_iff.mpr hreadable, hpass, hend, hs⟩
      · split at h <;> simp at h
  · rintro ⟨clause, hreadable, hpass, hend, hs⟩
    cases clause with
    | newline t => simp [Clause.statement?] at hs
    | declaration create variableWord name withWord valueWord chain =>
      rw [Parser.statement_of_create hpass.1 create.property]
      exact Parser.declaration_eq_ok_iff.mpr
        ⟨_, _, _, _, _, _, Clause.readable_declaration_iff.mp hreadable, hpass, hend, hs⟩
    | printing print chain =>
      rw [Parser.statement_of_print hpass.1 print.property]
      exact Parser.printing_eq_ok_iff.mpr
        ⟨_, _, Clause.readable_printing_iff.mp hreadable, hpass, hend, hs⟩

/-! ### Programs -/

/-- A place in front of an end token. -/
def Cursor.AtFinish (c : Cursor) : Prop := ∃ finish rest, c.ahead = finish :: rest ∧
  finish.kind = .finish

lemma Cursor.AtFinish.endsChain {c : Cursor} (h : c.AtFinish) : EndsChain c.ahead := by
  obtain ⟨finish, rest, hahead, hkind⟩ := h
  rw [hahead]
  exact endsChain_cons (by simp [hkind, Kind.isOperator])

lemma Parser.programAfter_of_atFinish {done : Program} {c : Cursor} (h : c.AtFinish) :
    Parser.programAfter done c = (.ok done.reverse, c) := by
  obtain ⟨finish, rest, hahead, hkind⟩ := h
  rw [Parser.programAfter.eq_def]
  split
  · next h' => simp [h'] at hahead
  · next t rest' h' =>
    obtain ⟨rfl, -⟩ := List.cons.inj (hahead.symm.trans h')
    rw [if_pos hkind]

lemma Parser.programAfter_of_newline {done : Program} {c : Cursor} {t : Token}
    {rest : List Token} (h : c.ahead = t :: rest) (ht : t.kind = .newline) :
    Parser.programAfter done c = Parser.programAfter done c.next := by
  rw [Parser.programAfter.eq_def]
  split
  · next h' => simp [h'] at h
  · next t' rest' h' =>
    obtain ⟨rfl, -⟩ := List.cons.inj (h.symm.trans h')
    rw [if_neg (by simp [ht]), if_pos ht]

lemma Parser.programAfter_of_statement {done : Program} {c c' : Cursor} {t : Token}
    {rest : List Token} {s : Statement} (h : c.ahead = t :: rest) (hfinish : t.kind ≠ .finish)
    (hnewline : t.kind ≠ .newline) (hs : Parser.statement c = (.ok s, c')) :
    Parser.programAfter done c = Parser.programAfter (s :: done) c' := by
  rw [Parser.programAfter.eq_def]
  split
  · next h' => simp [h'] at h
  · next t' rest' h' =>
    obtain ⟨rfl, -⟩ := List.cons.inj (h.symm.trans h')
    rw [if_neg hfinish, if_neg hnewline]
    split
    · next s' c₁ hc =>
      obtain ⟨rfl, rfl⟩ := by simpa using hs.symm.trans hc
      rfl
    · next e c₁ hc => simp [hs] at hc

/-- The clauses of a derivation are passed, and their statements are found. -/
lemma Parser.programAfter_of_derivation {done : Program} {d : Derivation} {c c' : Cursor}
    (hreadable : ∀ t ∈ d.tokens, t.IsReadable) (hpass : c.Passes d.tokens c')
    (hend : EndsChain c'.ahead) :
    Parser.programAfter done c = Parser.programAfter (d.program.reverse ++ done) c' := by
  induction d generalizing done c with
  | nil =>
    obtain rfl := Cursor.passes_nil.mp hpass
    rfl
  | cons clause d ih =>
    rw [Derivation.tokens_cons] at hreadable hpass
    rw [List.forall_mem_append] at hreadable
    obtain ⟨c₁, hclause, hrest⟩ := Cursor.passes_append.mp hpass
    rcases clause.newline_or_statement with ⟨t, rfl⟩ | ⟨s, t, tail, hs, htokens, hnewline⟩
    · obtain ⟨hahead, rfl⟩ := Cursor.passes_singleton.mp hclause
      rw [Parser.programAfter_of_newline hahead t.property, ih hreadable.2 hrest]
      simp [Clause.statement?]
    · have hahead := hclause.1
      rw [htokens, List.cons_append] at hahead
      have hfinish : t.kind ≠ .finish := Clause.kind_ne_finish (c := clause) (by simp [htokens])
      -- what follows the statement is no operator, so the statement ends where the clause does
      have hend : EndsChain c₁.ahead := hrest.1 ▸ Derivation.endsChain_append d hend
      have hstatement : Parser.statement c = (.ok s, c₁) :=
        Parser.statement_eq_ok_iff.mpr ⟨clause, hreadable.1, hclause, hend, hs⟩
      rw [Parser.programAfter_of_statement hahead hfinish hnewline hstatement,
        ih hreadable.2 hrest]
      simp [hs]

/-- The loop over the statements passes a derivation, and stops in front of the end token. -/
lemma Parser.programAfter_eq_ok_iff {done p : Program} {c c' : Cursor} :
    Parser.programAfter done c = (.ok p, c') ↔
      ∃ d : Derivation, (∀ t ∈ d.tokens, t.IsReadable) ∧ c.Passes d.tokens c' ∧ c'.AtFinish ∧
        done.reverse ++ d.program = p := by
  constructor
  · intro h
    fun_induction Parser.programAfter done c with
    | case1 done c hahead => simp at h
    | case2 done c t rest hahead hfinish =>
      obtain ⟨rfl, rfl⟩ := by simpa using h
      exact ⟨[], by simp, by simp, ⟨t, rest, hahead, hfinish⟩, by simp⟩
    | case3 done c t rest hahead hfinish hnewline ih =>
      obtain ⟨d, hreadable, hpass, hat, rfl⟩ := ih h
      refine ⟨.newline ⟨t, hnewline⟩ :: d, ?_, ?_, hat, by simp [Clause.statement?]⟩
      · simp only [Derivation.tokens_cons, Clause.tokens, List.singleton_append,
          List.forall_mem_cons]
        exact ⟨fun hnum => by simp [hnewline] at hnum, hreadable⟩
      · exact Cursor.passes_cons.mpr ⟨_, Cursor.passes_next hahead, hpass⟩
    | case4 done c t rest hahead hfinish hnewline s c₁ hc ih =>
      obtain ⟨clause, hclause, hpass₁, -, hs⟩ := Parser.statement_eq_ok_iff.mp hc
      obtain ⟨d, hreadable, hpass, hat, rfl⟩ := ih h
      refine ⟨clause :: d, ?_, ?_, hat, by simp [hs]⟩
      · simp only [Derivation.tokens_cons, List.forall_mem_append]
        exact ⟨hclause, hreadable⟩
      · exact Cursor.passes_append.mpr ⟨c₁, hpass₁, hpass⟩
    | case5 done c t rest hahead hfinish hnewline e c₁ hc => simp at h
  · rintro ⟨d, hreadable, hpass, hat, rfl⟩
    rw [Parser.programAfter_of_derivation hreadable hpass hat.endsChain,
      Parser.programAfter_of_atFinish hat]
    simp

end PlainEnglish
