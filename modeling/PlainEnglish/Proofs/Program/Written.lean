import PlainEnglish.Proofs.Grammar.Reading
import PlainEnglish.Proofs.Preview.Alike

/-!
# Written expressions

An expression is written as its operands with operators between them. What is written for a
scanned expression is scanned to the same operands and operators, only with numbers in plain
notation.

Main statements: `Grammar.Chain.exists_ofContent_written`,
`Grammar.Chain.exists_ofValue_written`.
-/

namespace PlainEnglish

open Grammar

/-! ### Writing -/

/-- An expression as it is written in a source text, where all operators group from the left. -/
def Expression.written : Expression → Text
  | .number x => x.plain
  | .string t => t.inScript
  | .name t => t
  | .binary left op right => left.written ++ [' ', op.symbol, ' '] ++ right.written

/-- The operands of an expression, from left to right. -/
def Expression.operands : Expression → List Expression
  | .binary left _ right => left.operands ++ right.operands
  | .number x => [.number x]
  | .string t => [.string t]
  | .name t => [.name t]

/-- Two expressions are the same, but for the signs of zeros. -/
inductive Expression.Alike : Expression → Expression → Prop where
  | number {x y : Number} (h : Number.Alike x y) : Alike (.number x) (.number y)
  | string (t : Text) : Alike (.string t) (.string t)
  | name (t : Text) : Alike (.name t) (.name t)
  | binary {left left' right right' : Expression} (hleft : Alike left left') (op : Operator)
      (hright : Alike right right') : Alike (.binary left op right) (.binary left' op right')

lemma Expression.written_binary (left : Expression) (op : Operator) (right : Expression) :
    (Expression.binary left op right).written =
      left.written ++ ' ' :: ([op.symbol] ++ ' ' :: right.written) := by
  simp [Expression.written]

/-! ### Numerals -/

section

variable {t : Text}

lemma Text.not_mem_of_isNumeral (h : t.isNumeral = true) {c : Char}
    (hc : isNumeralChar c = false) : c ∉ t := by
  intro hmem
  obtain ⟨n, hn⟩ := Option.isSome_iff_exists.mp h
  simp [Numeral.isNumeralChar_of_read? hn hmem] at hc

lemma Text.isWord_of_isNumeral (h : t.isNumeral = true) : t.IsWord := by
  obtain ⟨n, hn⟩ := Option.isSome_iff_exists.mp h
  constructor
  · rintro rfl
    obtain ⟨c, rest, heq, -⟩ := Numeral.head_of_read? hn
    cases heq
  · intro c hc
    exact isBlank_eq_false_of_isNumeralChar (Numeral.isNumeralChar_of_read? hn hc)

lemma Text.isValuePhrase_of_isNumeral (h : t.isNumeral = true) : t.IsValuePhrase := by
  refine (Text.isWord_of_isNumeral h).isValuePhrase ?_
  rintro ⟨rest, rfl⟩
  exact Text.not_mem_of_isNumeral h (show isNumeralChar 'p' = false by decide)
    (List.mem_append_left _ (by decide))

lemma Text.isQuoted_iff : t.isQuoted = true ↔
    2 ≤ t.length ∧ t.head? = some '"' ∧ t.getLast? = some '"' := by
  have hhead : Text.startsWith t ['"'] = true ↔ t.head? = some '"' := by
    rw [Text.startsWith, List.isPrefixOf_iff_prefix, List.head?_eq_some_iff]
    simp only [List.IsPrefix, List.singleton_append, eq_comm]
  have hlast : Text.endsWith t ['"'] = true ↔ t.getLast? = some '"' := by
    rw [Text.endsWith, List.isSuffixOf_iff_suffix, List.getLast?_eq_some_iff]
    simp only [List.IsSuffix, eq_comm]
  simp only [Text.isQuoted, Bool.and_eq_true, decide_eq_true_eq, hhead, hlast, and_assoc]

lemma Text.isQuoted_of_isNumeral (h : t.isNumeral = true) : t.isQuoted = false := by
  rw [← Bool.not_eq_true, Text.isQuoted_iff]
  rintro ⟨-, hhead, -⟩
  exact Text.not_mem_of_isNumeral h (show isNumeralChar '"' = false by decide)
    (List.mem_of_mem_head? hhead)

end

lemma Number.exists_eq_finite {x : Number} (h : x.isFinite = true) :
    ∃ negative m, x = .finite negative m := by
  cases x with
  | nan => cases h
  | infinite negative => cases h
  | finite negative m => exact ⟨negative, m, rfl⟩

lemma Number.isFree_plain (m : Magnitude) : (Number.plain (.finite false m)).IsFree := by
  intro c hc
  by_contra hop
  rw [Bool.not_eq_false, isOperator_iff] at hop
  obtain ⟨op, rfl⟩ := hop
  rcases m.names_plain.1.isDigit_or_point hc with h | h
  · cases op <;> exact absurd h (by decide)
  · cases op <;> exact absurd h (by decide)

/-! ### Operands among operators -/

/-- What an operand of an expression without quotes means: a number without a sign, or a fragment
that is no numeral. -/
inductive Expression.IsFragmentOf (t : Text) : Expression → Prop where
  | number (m : Magnitude) : IsFragmentOf t (.number (.finite false m))
  | name {f : Text} (mem : f ∈ t.fragments) (isFree : f.IsFree) (numeral : f.isNumeral = false) :
    IsFragmentOf t (.name f)

/-- What an expression without quotes means. -/
inductive Expression.IsRowOf (t : Text) : Expression → Prop where
  | operand {e : Expression} (h : e.IsFragmentOf t) : IsRowOf t e
  | binary {left right : Expression} (hleft : IsRowOf t left) (op : Operator)
      (hright : right.IsFragmentOf t) : IsRowOf t (.binary left op right)

section

variable {t : Text} {e : Expression}

lemma Expression.IsFragmentOf.isFree (h : e.IsFragmentOf t) : e.written.IsFree := by
  cases h with
  | number m => exact Number.isFree_plain m
  | name mem isFree numeral => exact isFree

lemma Expression.IsFragmentOf.isPhrase (h : e.IsFragmentOf t) (ht : t.IsPhrase) :
    e.written.IsPhrase := by
  cases h with
  | number m => exact (Text.isValuePhrase_of_isNumeral (Number.isNumeral_plain false m)).1
  | name mem isFree numeral =>
    obtain ⟨hne, s, hs, rfl⟩ := Text.exists_infix_of_mem_fragments mem
    exact ht.trim_part hs hne

lemma Expression.IsFragmentOf.isValuePhrase (h : e.IsFragmentOf t) (ht : t.IsValuePhrase)
    (hname : ∀ f, e = .name f → ¬Keyword.printWord.text <+: f) : e.written.IsValuePhrase := by
  cases h with
  | number m => exact Text.isValuePhrase_of_isNumeral (Number.isNumeral_plain false m)
  | name mem isFree numeral =>
    obtain ⟨hne, s, hs, rfl⟩ := Text.exists_infix_of_mem_fragments mem
    exact ht.trim_part hs hne (hname _ rfl)

/-- A written operand is scanned to an operand of its kind. -/
lemma Expression.IsFragmentOf.exists_primary (h : e.IsFragmentOf t) (line column : Int) :
    ∃ p : Primary, p.token = ⟨Kind.ofFragment e.written, e.written, line, column⟩ ∧
      Expression.Alike p.expression e := by
  have hkind := Text.kind_ofFragment h.isFree
  cases h with
  | number m =>
    rw [Expression.written, Number.isNumeral_plain, if_pos rfl] at hkind
    obtain ⟨y, hy, halike⟩ := Number.exists_ofText?_plain false m
    refine ⟨.number ⟨⟨_, _, line, column⟩, hkind⟩, rfl, ?_⟩
    rw [Primary.expression, Expression.written, hy]
    exact .number halike
  | name mem isFree numeral =>
    rw [Expression.written, numeral] at hkind
    exact ⟨.name ⟨⟨_, _, line, column⟩, hkind⟩, rfl, .name _⟩

lemma Operator.isWord_symbol (op : Operator) : Text.IsWord [op.symbol] :=
  ⟨List.cons_ne_nil _ _, by simp [isBlank_symbol]⟩

lemma Operator.isValuePhrase_symbol (op : Operator) : Text.IsValuePhrase [op.symbol] := by
  apply op.isWord_symbol.isValuePhrase
  cases op <;> decide

lemma Expression.IsRowOf.isPhrase (h : e.IsRowOf t) (ht : t.IsPhrase) : e.written.IsPhrase := by
  induction h with
  | operand h => exact h.isPhrase ht
  | binary hleft op hright ih =>
    rw [Expression.written_binary]
    exact ih.append_space (op.isWord_symbol.isPhrase.append_space (hright.isPhrase ht))

lemma Expression.IsRowOf.isValuePhrase (h : e.IsRowOf t) (ht : t.IsValuePhrase)
    (hname : ∀ f, .name f ∈ e.operands → ¬Keyword.printWord.text <+: f) :
    e.written.IsValuePhrase := by
  induction h with
  | operand h => exact h.isValuePhrase ht fun f hf => hname f (by simp [hf, Expression.operands])
  | binary hleft op hright ih =>
    rw [Expression.written_binary]
    refine (ih fun f hf => hname f (List.mem_append_left _ hf)).append_space
      (op.isValuePhrase_symbol.append_space (hright.isValuePhrase ht fun f hf => hname f ?_))
    exact List.mem_append_right _ (by simp [hf, Expression.operands])

/-- A written expression is scanned to its operands and operators. -/
lemma Expression.IsRowOf.exists_chain (h : e.IsRowOf t) (ht : t.IsPhrase) (line column : Int) :
    ∃ c : Chain, c.tokens = Token.ofExpression line column e.written ∧
      Expression.Alike c.expression e := by
  -- an operand is one fragment, with or without the space behind an operator
  have hoperand {e : Expression} (h : e.IsFragmentOf t) :
      Text.fragments e.written = [e.written] ∧
        Text.fragments (' ' :: e.written) = [e.written] := by
    have hphrase := h.isPhrase ht
    have hone := Text.fragments_of_isFree h.isFree
    rw [hphrase.isTrimmed.trim_eq, if_neg hphrase.ne_nil] at hone
    exact ⟨hone, Text.fragments_blank_cons (by decide) h.isFree hphrase.isTrimmed hphrase.ne_nil⟩
  induction h with
  | operand h =>
    obtain ⟨p, hp, halike⟩ := h.exists_primary line column
    refine ⟨⟨p, []⟩, ?_, halike⟩
    rw [Token.ofExpression, (hoperand h).1, Chain.tokens, hp]
    rfl
  | @binary left right hleft op hright ih =>
    obtain ⟨c, hc, hleftAlike⟩ := ih
    obtain ⟨p, hp, hrightAlike⟩ := hright.exists_primary line column
    let sign : Token.OfKind (.operator op) := ⟨⟨.operator op, [op.symbol], line, column⟩, rfl⟩
    refine ⟨⟨c.first, c.links ++ [⟨op, sign, p⟩]⟩, ?_, ?_⟩
    · have hsplit : (Expression.binary left op right).written =
          left.written ++ [' '] ++ op.symbol :: (' ' :: right.written) := by
        simp [Expression.written]
      have hspace : isBlank ' ' = true := by decide
      rw [hsplit, Token.ofExpression_append_symbol, Token.ofExpression,
        Text.fragments_append_blank _ hspace, ← Token.ofExpression, ← hc, Token.ofExpression,
        (hoperand hright).2]
      simp [Chain.tokens, Link.tokens, hp, sign]
    · rw [Chain.expression, List.foldl_append]
      exact .binary hleftAlike op hrightAlike

end

namespace Grammar

/-! ### Scanned expressions -/

/-- The operands of an expression, from left to right. -/
def Chain.primaries (c : Chain) : List Primary := c.first :: c.links.map Link.primary

/-- The operand that an expression ends with. -/
def Chain.last (c : Chain) : Primary := (c.links.getLast?.map Link.primary).getD c.first

lemma Chain.last_mem_primaries (c : Chain) : c.last ∈ c.primaries := by
  obtain ⟨first, links⟩ := c
  rcases List.eq_nil_or_concat' links with rfl | ⟨init, l, rfl⟩ <;>
    simp [Chain.last, Chain.primaries]

lemma Chain.token_mem_tokens {c : Chain} {p : Primary} (h : p ∈ c.primaries) :
    p.token ∈ c.tokens := by
  rcases List.mem_cons.mp h with rfl | h
  · exact List.mem_cons_self
  · obtain ⟨l, hl, rfl⟩ := List.mem_map.mp h
    exact List.mem_cons_of_mem _ (List.mem_flatMap.mpr ⟨l, hl, by simp [Link.tokens]⟩)

lemma Chain.getLast?_tokens (c : Chain) : c.tokens.getLast? = some c.last.token := by
  obtain ⟨first, links⟩ := c
  rcases List.eq_nil_or_concat' links with rfl | ⟨init, l, rfl⟩
  · rfl
  · simp [Chain.tokens, Chain.last, Link.tokens, List.getLast?_cons]

lemma Primary.operands_expression (p : Primary) : p.expression.operands = [p.expression] := by
  cases p <;> rfl

lemma Chain.operands_expression (c : Chain) :
    c.expression.operands = c.primaries.map Primary.expression := by
  have hlinks (links : List Link) (left : Expression) :
      (links.foldl Link.extend left).operands =
        left.operands ++ links.map fun l => l.primary.expression := by
    induction links generalizing left with
    | nil => simp
    | cons l links ih =>
      simp [ih, Link.extend, Expression.operands, l.primary.operands_expression]
  rw [Chain.expression, hlinks, c.first.operands_expression, Chain.primaries, List.map_cons,
    List.map_map]
  rfl

lemma Chain.tokens_injective : Function.Injective Chain.tokens := by
  intro c d h
  have hnil : EndsChain [] := by simp [EndsChain]
  exact (Chain.tokens_append_inj hnil hnil (by rw [h])).1

section

variable {line column : Int} {t : Text}

lemma Primary.isFragmentOf {p : Primary} (hp : p.token ∈ Token.ofExpression line column t)
    (hfinite : ∀ x, p.expression = .number x → x.isFinite = true) :
    p.expression.IsFragmentOf t := by
  obtain ⟨hbare, hnumeral, -, -⟩ := Token.of_mem_ofExpression hp
  obtain ⟨f, hf, htoken⟩ := List.mem_map.mp hp
  replace hbare : p.token.IsBare := by
    refine hbare.resolve_left fun hop => ?_
    rcases p.token_kind with h | h | h <;> simp [h, Kind.isOperator] at hop
  cases p with
  | number u =>
    obtain ⟨x, hx, hform⟩ :=
      Number.exists_ofText?_of_not_mem (hnumeral u.property) hbare.minus_not_mem
    have hexpression : (Primary.number u).expression = .number x := by
      simp only [Primary.token] at hx
      rw [Primary.expression, hx, Option.getD_some]
    have hx := hfinite x hexpression
    rw [hexpression]
    rcases hform with ⟨m, rfl⟩ | rfl
    · exact .number m
    · simp [Number.isFinite] at hx
  | string u =>
    have hkind := hbare.kind
    simp [Primary.token, u.property] at hkind
  | name u =>
    have htext : f = u.val.text := congrArg Token.text htoken
    have hkind : Kind.ofFragment f = .identifier := (congrArg Token.kind htoken).trans u.property
    subst htext
    have hfree : u.val.text.IsFree := hbare.text
    refine .name hf hfree ?_
    rw [Text.kind_ofFragment hfree] at hkind
    by_contra hnumeral
    simp [hnumeral] at hkind

lemma Chain.isRowOf {c : Chain} (h : c.tokens = Token.ofExpression line column t)
    (hfinite : ∀ x, .number x ∈ c.expression.operands → x.isFinite = true) :
    c.expression.IsRowOf t ∧ ∀ p ∈ c.primaries, p.expression.IsFragmentOf t := by
  have hprimary (p : Primary) (hp : p ∈ c.primaries) : p.expression.IsFragmentOf t := by
    refine Primary.isFragmentOf (h ▸ Chain.token_mem_tokens hp) fun x hx => hfinite x ?_
    rw [c.operands_expression, ← hx]
    exact List.mem_map_of_mem hp
  refine ⟨c.expression_induction ?_ fun left l hl hleft => ?_, hprimary⟩
  · exact .operand (hprimary _ (by simp [Chain.primaries]))
  · exact .binary hleft l.op (hprimary _ (List.mem_cons_of_mem _ (List.mem_map_of_mem hl)))

/-! ### Quotes around an expression -/

/-- What is written for an operand is its own text, or a number without quotes. -/
lemma Primary.written_eq_or {p : Primary} (h : p.expression.IsFragmentOf t) :
    p.expression.written = p.token.text ∨ '"' ∉ p.expression.written := by
  cases p with
  | number u =>
    generalize he : (Primary.number u).expression = e at h
    cases h with
    | number m =>
      exact Or.inr (Text.not_mem_of_isNumeral (Number.isNumeral_plain false m) (by decide))
    | name mem isFree numeral => cases he
  | string u => exact nomatch h
  | name u => exact Or.inl rfl

lemma Chain.head?_written (c : Chain) (hne : c.first.expression.written ≠ []) :
    c.expression.written.head? = c.first.expression.written.head? := by
  refine (c.expression_induction (motive := fun e =>
    e.written ≠ [] ∧ e.written.head? = c.first.expression.written.head?) ⟨hne, rfl⟩ ?_).2
  rintro left l - ⟨hleft, hhead⟩
  have hextend : (Link.extend left l).written =
      left.written ++ ([' ', l.op.symbol, ' '] ++ l.primary.expression.written) :=
    List.append_assoc _ _ _
  rw [hextend, List.head?_append_of_ne_nil _ hleft]
  exact ⟨List.append_ne_nil_of_left_ne_nil hleft _, hhead⟩

lemma Chain.getLast?_written (c : Chain) (hne : c.last.expression.written ≠ []) :
    c.expression.written.getLast? = c.last.expression.written.getLast? := by
  obtain ⟨first, links⟩ := c
  rcases List.eq_nil_or_concat' links with rfl | ⟨init, l, rfl⟩
  · rfl
  · have hlast : (Chain.mk first (init ++ [l])).last = l.primary := by simp [Chain.last]
    rw [hlast] at hne ⊢
    rw [Chain.expression, List.foldl_append, List.foldl_cons, List.foldl_nil, Link.extend,
      Expression.written, List.getLast?_append_of_ne_nil _ hne]

/-- What is written for an expression without quotes around it has none around it. -/
lemma Chain.isQuoted_written {c : Chain} (h : c.tokens = Token.ofExpression line column t)
    (ht : t.IsPhrase) (hquoted : t.isQuoted = false)
    (hprimary : ∀ p ∈ c.primaries, p.expression.IsFragmentOf t) :
    c.expression.written.isQuoted = false := by
  have hfragments : t.fragments = c.tokens.map Token.text := by
    rw [h, Token.ofExpression, List.map_map]
    exact (List.map_id _).symm
  have hne (p : Primary) (hp : p ∈ c.primaries) : p.expression.written ≠ [] :=
    ((hprimary p hp).isPhrase ht).ne_nil
  have hfirst : c.first ∈ c.primaries := by simp [Chain.primaries]
  have hquote {p : Primary} (hp : p ∈ c.primaries) (hmem : '"' ∈ p.expression.written) :
      p.expression.written = p.token.text :=
    (Primary.written_eq_or (hprimary p hp)).resolve_right (not_not_intro hmem)
  by_contra hwritten
  rw [Bool.not_eq_false, Text.isQuoted_iff, c.head?_written (hne _ hfirst),
    c.getLast?_written (hne _ c.last_mem_primaries)] at hwritten
  obtain ⟨hlength, hhead, hlast⟩ := hwritten
  -- quotes at the ends of what is written stand at the ends of the expression, too
  have hhead' : t.head? = some '"' := by
    rw [Text.head?_eq_of_fragments ht.isTrimmed (f := c.first.token.text) (by
      rw [hfragments]; rfl), ← hquote hfirst (List.mem_of_mem_head? hhead), hhead]
  have hlast' : t.getLast? = some '"' := by
    rw [Text.getLast?_eq_of_fragments ht.isTrimmed (f := c.last.token.text) (by
      rw [hfragments, List.getLast?_map, c.getLast?_tokens]; rfl),
      ← hquote c.last_mem_primaries (List.mem_of_getLast? hlast), hlast]
  by_cases htwo : 2 ≤ t.length
  · rw [Text.isQuoted_iff.mpr ⟨htwo, hhead', hlast'⟩] at hquoted
    cases hquoted
  · -- a quote by itself is written as it is
    have hquote : t = ['"'] := by
      obtain ⟨rest, rfl⟩ := List.head?_eq_some_iff.mp hhead'
      cases rest with
      | nil => rfl
      | cons d rest => simp at htwo
    subst hquote
    have hsingle : c = ⟨.name ⟨⟨.identifier, ['"'], line, column⟩, rfl⟩, []⟩ :=
      Chain.tokens_injective h
    subst hsingle
    simp [Chain.expression, Primary.expression, Expression.written] at hlength

lemma Chain.links_eq_nil_of_number {c : Chain} {x : Number} (h : c.expression = .number x) :
    c.links = [] ∧ c.first.token.kind = .number := by
  obtain ⟨first, links⟩ := c
  rcases List.eq_nil_or_concat' links with rfl | ⟨init, l, rfl⟩
  · cases first with
    | number u => exact ⟨rfl, u.property⟩
    | string u => cases h
    | name u => cases h
  · rw [Chain.expression, List.foldl_append] at h
    cases h

/-- What is written for an expression is a numeral only if the expression is one. -/
lemma Chain.isNumeral_written {c : Chain} (h : c.tokens = Token.ofExpression line column t)
    (ht : t.IsPhrase) (hnumeral : t.isNumeral = false) (hrow : c.expression.IsRowOf t) :
    c.expression.written.isNumeral = false := by
  generalize he : c.expression = e at hrow
  cases hrow with
  | operand hfragment =>
    cases hfragment with
    | number m =>
      obtain ⟨hlinks, hkind⟩ := Chain.links_eq_nil_of_number he
      have hmem : c.first.token ∈ Token.ofExpression line column t := h ▸ List.mem_cons_self
      obtain ⟨hop | hbare, hnumeral', -, -⟩ := Token.of_mem_ofExpression hmem
      · simp [hkind, Kind.isOperator] at hop
      · -- the only fragment is the whole expression
        have hfragments : t.fragments = [c.first.token.text] := by
          have htexts := congrArg (List.map Token.text) h
          rw [Chain.tokens, hlinks, Token.ofExpression, List.map_map] at htexts
          exact (List.map_id _).symm.trans htexts.symm
        have hwhole := Text.fragments_eq_singleton ht.isTrimmed hfragments hbare.text
        rw [hwhole, hnumeral' hkind] at hnumeral
        cases hnumeral
    | name mem isFree numeral => exact numeral
  | binary hleft op hright =>
    by_contra hwritten
    rw [Bool.not_eq_false] at hwritten
    exact Text.not_mem_of_isNumeral hwritten (show isNumeralChar ' ' = false by decide)
      (by simp [Expression.written])

/-! ### Scanning what is written -/

/-- A string is written with its quotes, so it is written as it was. -/
lemma Chain.exists_of_quoted {c : Chain} (h : c.tokens = [⟨.string, t.inner, line, column⟩])
    (hquoted : t.isQuoted = true) : c.expression.written = t ∧ ∀ line column, ∃ c' : Chain,
      c'.tokens = [⟨.string, t.inner, line, column⟩] ∧
        Expression.Alike c'.expression c.expression := by
  have hsingle : c = ⟨.string ⟨⟨.string, t.inner, line, column⟩, rfl⟩, []⟩ :=
    Chain.tokens_injective h
  subst hsingle
  refine ⟨Text.inScript_inner hquoted, fun line column => ?_⟩
  exact ⟨⟨.string ⟨⟨.string, t.inner, line, column⟩, rfl⟩, []⟩, rfl, .string _⟩

/-- A numeral is written as a numeral in plain notation. -/
lemma Chain.exists_of_numeral {c : Chain} (h : c.tokens = [⟨.number, t, line, column⟩])
    (hfinite : ∀ x, .number x ∈ c.expression.operands → x.isFinite = true) :
    c.expression.written.isNumeral = true ∧ ∀ line column, ∃ c' : Chain,
      c'.tokens = [⟨.number, c.expression.written, line, column⟩] ∧
        Expression.Alike c'.expression c.expression := by
  have hsingle : c = ⟨.number ⟨⟨.number, t, line, column⟩, rfl⟩, []⟩ := Chain.tokens_injective h
  subst hsingle
  generalize he : Chain.expression _ = e at hfinite ⊢
  obtain ⟨x, rfl⟩ : ∃ x, e = .number x := ⟨_, he.symm⟩
  obtain ⟨negative, m, rfl⟩ :=
    Number.exists_eq_finite (hfinite x (by simp [Expression.operands]))
  obtain ⟨y, hy, halike⟩ := Number.exists_ofText?_plain negative m
  refine ⟨Number.isNumeral_plain negative m, fun line column => ?_⟩
  refine ⟨⟨.number ⟨⟨.number, Number.plain (.finite negative m), line, column⟩, rfl⟩, []⟩,
    rfl, ?_⟩
  rw [Chain.expression, List.foldl_nil, Primary.expression, hy]
  exact .number halike

/-- What is written for printed content is scanned to what it means. -/
theorem Chain.exists_ofContent_written {c : Chain} (h : c.tokens = Token.ofContent line column t)
    (ht : t.IsPhrase) (hfinite : ∀ x, .number x ∈ c.expression.operands → x.isFinite = true) :
    c.expression.written.IsPhrase ∧ ∀ line column, ∃ c' : Chain,
      c'.tokens = Token.ofContent line column c.expression.written ∧
        Expression.Alike c'.expression c.expression := by
  rw [Token.ofContent] at h
  cases hquoted : t.isQuoted with
  | true =>
    rw [if_pos hquoted] at h
    obtain ⟨hwritten, hexists⟩ := Chain.exists_of_quoted h hquoted
    refine ⟨hwritten.symm ▸ ht, fun line column => ?_⟩
    rw [Token.ofContent, hwritten, if_pos hquoted]
    exact hexists line column
  | false =>
    rw [if_neg (by simp [hquoted])] at h
    obtain ⟨hrow, hprimary⟩ := Chain.isRowOf h hfinite
    refine ⟨hrow.isPhrase ht, fun line column => ?_⟩
    rw [Token.ofContent, Chain.isQuoted_written h ht hquoted hprimary]
    exact hrow.exists_chain ht line column

/-- What is written for a declared value is scanned to what it means, if no name in it begins
like a statement that prints. -/
theorem Chain.exists_ofValue_written {c : Chain} (h : c.tokens = Token.ofValue line column t)
    (ht : t.IsValuePhrase) (hfinite : ∀ x, .number x ∈ c.expression.operands → x.isFinite = true)
    (hname : ∀ f, .name f ∈ c.expression.operands → ¬Keyword.printWord.text <+: f) :
    c.expression.written.IsValuePhrase ∧ ∀ line column, ∃ c' : Chain,
      c'.tokens = Token.ofValue line column c.expression.written ∧
        Expression.Alike c'.expression c.expression := by
  rw [Token.ofValue] at h
  cases hquoted : t.isQuoted with
  | true =>
    rw [if_pos hquoted] at h
    obtain ⟨hwritten, hexists⟩ := Chain.exists_of_quoted h hquoted
    refine ⟨hwritten.symm ▸ ht, fun line column => ?_⟩
    rw [Token.ofValue, hwritten, if_pos hquoted]
    exact hexists line column
  | false =>
    rw [if_neg (by simp [hquoted])] at h
    cases hnumeral : t.isNumeral with
    | true =>
      rw [if_pos hnumeral] at h
      obtain ⟨hwritten, hexists⟩ := Chain.exists_of_numeral h hfinite
      refine ⟨Text.isValuePhrase_of_isNumeral hwritten, fun line column => ?_⟩
      rw [Token.ofValue, Text.isQuoted_of_isNumeral hwritten, hwritten]
      exact hexists line column
    | false =>
      rw [if_neg (by simp [hnumeral])] at h
      obtain ⟨hrow, hprimary⟩ := Chain.isRowOf h hfinite
      refine ⟨hrow.isValuePhrase ht hname, fun line column => ?_⟩
      rw [Token.ofValue, Chain.isQuoted_written h ht.1 hquoted hprimary,
        Chain.isNumeral_written h ht.1 hnumeral hrow]
      exact hrow.exists_chain ht.1 line column

end

end Grammar

end PlainEnglish
