import PlainEnglish.Proofs.Preview.Refine
import PlainEnglish.Proofs.Preview.Strings

/-!
# Chains of operators

What the preview makes of several operators in a row. Without the parentheses that say how a
chain is grouped, its text is split at the operator that is looked for first. The pieces beside
the first occurrence of that operator count only if they are single operands: a longer piece is
no numeral and names no variable.

Main statement: `Environment.evaluate_chain`.
-/

namespace PlainEnglish

/-! ### The text of a chain -/

/-- Operands with operators between them, grouped from the left. -/
def Expression.chain (first : Expression) (links : List (Operator × Expression)) : Expression :=
  links.foldl (fun left link => .binary left link.1 link.2) first

/-- An operator with the operand behind it, as they stand in a chain. -/
def Expression.linkText (link : Operator × Expression) : Text :=
  ' ' :: link.1.symbol :: ' ' :: link.2.render

/-- A chain without the parentheses of its groups. -/
def Expression.chainText (first : Expression) (links : List (Operator × Expression)) : Text :=
  first.render ++ links.flatMap Expression.linkText

variable {first p : Expression} {op : Operator}
  {before after links : List (Operator × Expression)}

@[simp] lemma Expression.chainText_nil (first : Expression) :
    first.chainText [] = first.render := List.append_nil _

lemma Expression.chainText_append (first : Expression)
    (before after : List (Operator × Expression)) :
    first.chainText (before ++ after) =
      first.chainText before ++ after.flatMap Expression.linkText := by
  rw [Expression.chainText, List.flatMap_append, ← List.append_assoc, Expression.chainText]

/-- A chain in two parts, with the operator between them that the second one begins with. -/
lemma Expression.chainText_append_cons (first p : Expression) (op : Operator)
    (before after : List (Operator × Expression)) :
    first.chainText (before ++ (op, p) :: after) =
      first.chainText before ++ [' '] ++ op.symbol :: (' ' :: p.chainText after) := by
  rw [Expression.chainText_append, List.flatMap_cons, Expression.linkText, Expression.chainText]
  simp [Expression.chainText]

/-- The parentheses of a chain are those of its groups. -/
lemma Expression.dropParentheses_render_chain (hfirst : first.IsTerm)
    (hlinks : ∀ link ∈ links, link.2.IsTerm) :
    Text.dropParentheses (first.chain links).render = first.chainText links := by
  suffices h : ∀ left : Expression, Text.dropParentheses (left.chain links).render =
      left.render.dropParentheses ++ links.flatMap Expression.linkText by
    rw [h, hfirst.isTerm_render.isInert.dropParentheses_eq, Expression.chainText]
  intro left
  induction links generalizing left with
  | nil => exact (List.append_nil _).symm
  | cons link links ih =>
    rw [List.forall_mem_cons] at hlinks
    have hterm := hlinks.1.isTerm_render.isInert.dropParentheses_eq
    calc Text.dropParentheses (left.chain (link :: links)).render
        = Text.dropParentheses (Expression.binary left link.1 link.2).render ++
            links.flatMap Expression.linkText := ih hlinks.2 _
      _ = left.render.dropParentheses ++ [' '] ++ link.1.symbol :: ' ' :: link.2.render ++
            links.flatMap Expression.linkText := by
          rw [Expression.render, Text.dropParentheses_operation, hterm]
      _ = left.render.dropParentheses ++ (link :: links).flatMap Expression.linkText := by
          rw [List.flatMap_cons, Expression.linkText]
          simp

/-- The operators in the text of a chain are those of its links. -/
lemma Expression.symbol_mem_chainText_iff (hfirst : first.IsTerm)
    (hlinks : ∀ link ∈ links, link.2.IsTerm) :
    op.symbol ∈ first.chainText links ↔ op ∈ links.map Prod.fst := by
  have hterm : ∀ e : Expression, e.IsTerm → op.symbol ∉ e.render := by
    intro e he hmem
    simpa using (he.isTerm_render.isInert _ hmem).1
  have hspace : op.symbol ≠ ' ' := by
    cases op <;> decide
  have hlink : ∀ link ∈ links, op.symbol ∈ Expression.linkText link ↔ link.1 = op := by
    intro link hlink
    have hsymbol : op.symbol = link.1.symbol ↔ link.1 = op := by
      refine ⟨fun h => ?_, fun h => by rw [h]⟩
      have hof := congrArg Operator.ofSymbol? h
      rw [Operator.ofSymbol?_symbol, Operator.ofSymbol?_symbol] at hof
      exact (Option.some.inj hof).symm
    simp [Expression.linkText, hspace, hterm _ (hlinks link hlink), hsymbol]
  rw [Expression.chainText, List.mem_append, List.mem_flatMap, List.mem_map]
  constructor
  · rintro (h | ⟨link, hmem, h⟩)
    · exact absurd h (hterm first hfirst)
    · exact ⟨link, hmem, (hlink link hmem).mp h⟩
  · rintro ⟨link, hmem, h⟩
    exact Or.inr ⟨link, hmem, (hlink link hmem).mpr h⟩

lemma Expression.findIn?_chainText (hfirst : first.IsTerm)
    (hlinks : ∀ link ∈ links, link.2.IsTerm) : Operator.findIn? (first.chainText links) =
      Operator.all.find? fun op => op ∈ links.map Prod.fst := by
  simp only [Operator.findIn?, Expression.symbol_mem_chainText_iff hfirst hlinks]

/-- No blank stands at either end of a chain. -/
lemma Expression.isTrimmed_chainText (hfirst : first.IsTerm)
    (hlinks : ∀ link ∈ links, link.2.IsTerm) : (first.chainText links).IsTrimmed := by
  have hterm := hfirst.isTerm_render
  rcases List.eq_nil_or_concat links with rfl | ⟨init, last, rfl⟩
  · rw [Expression.chainText_nil]
    exact hterm.isTrimmed
  · have hlast := (hlinks last (by simp)).isTerm_render
    have heq : first.chainText (init ++ [last]) = first.render ++
        (init.flatMap Expression.linkText ++ [' ', last.1.symbol, ' ']) ++ last.2.render := by
      simp [Expression.chainText, Expression.linkText]
    rw [List.concat_eq_append, heq]
    exact Text.isTrimmed_append hterm.isTrimmed hterm.ne_nil hlast.isTrimmed hlast.ne_nil _

/-! ### The pieces beside an operator -/

/-- The value of a single operand: a number, the value of a variable, or the default. -/
def Expression.resolved (env : Environment) (default : Number) (e : Expression) : Value :=
  e.value env fun t => (env.value? t).getD (.number default)

section

variable {env : Environment}

/-- A single operand is resolved, and a longer chain counts as the default: the blanks in it
stand in no numeral and in no name. -/
lemma Environment.operand_chainText (hkeys : ∀ entry ∈ env, Text.IsName entry.1)
    (hfirst : first.IsTerm) (links : List (Operator × Expression)) (default : Number) :
    env.operand (first.chainText links) default =
      if links = [] then first.resolved env default else .number default := by
  cases links with
  | nil =>
    rw [Expression.chainText_nil, if_pos rfl]
    cases hfirst with
    | number m => exact Environment.operand_plain m default
    | name hname => exact Environment.operand_name hname default
  | cons link links =>
    have hspace : ' ' ∈ first.chainText (link :: links) := by
      simp [Expression.chainText, Expression.linkText]
    have hread : Numeral.read? (first.chainText (link :: links)) = none :=
      Numeral.read?_eq_none_of_mem hspace (by decide)
    have hvalue : env.value? (first.chainText (link :: links)) = none := by
      rw [Environment.value?, List.lookup_eq_none_iff]
      intro entry hentry
      rw [bne_iff_ne]
      intro heq
      exact (hkeys entry hentry).isTerm.not_mem (by decide) (heq ▸ hspace)
    simp only [Environment.operand, hread, hvalue, Option.getD_none,
      if_neg (List.cons_ne_nil _ _)]

/-- The links up to the next one with the given operator. -/
def Expression.linksUpTo (op : Operator) (links : List (Operator × Expression)) :
    List (Operator × Expression) :=
  links.takeWhile fun link => link.1 ≠ op

lemma Expression.linksUpTo_eq_nil_iff :
    Expression.linksUpTo op links = [] ↔ ∀ link ∈ links.head?, link.1 = op := by
  cases links <;> simp [Expression.linksUpTo, List.takeWhile_cons]

lemma Expression.not_mem_linksUpTo (op : Operator) (links : List (Operator × Expression)) :
    op ∉ (Expression.linksUpTo op links).map Prod.fst := by
  rw [List.mem_map]
  rintro ⟨link, hlink, rfl⟩
  simpa using List.mem_takeWhile_imp hlink

/-- There are no more links, or one with the given operator comes next. -/
lemma Expression.linksUpTo_cases (op : Operator) (links : List (Operator × Expression)) :
    links = Expression.linksUpTo op links ∨
      ∃ q rest, links = Expression.linksUpTo op links ++ (op, q) :: rest := by
  induction links with
  | nil => exact Or.inl rfl
  | cons link links ih =>
    by_cases h : link.1 = op
    · obtain ⟨op', q⟩ := link
      obtain rfl : op' = op := h
      exact Or.inr ⟨q, links, by simp [Expression.linksUpTo]⟩
    · have hcons : Expression.linksUpTo op (link :: links) =
          link :: Expression.linksUpTo op links := by
        simp [Expression.linksUpTo, h]
      rw [hcons]
      refine ih.imp (fun heq => ?_) fun ⟨q, rest, heq⟩ => ⟨q, rest, ?_⟩
      · rw [← heq]
      · rw [List.cons_append, ← heq]

/-- The piece behind the first occurrence of an operator reaches to its next occurrence. -/
lemma Expression.splitAt_chainText (hfirst : first.IsTerm) (hp : p.IsTerm)
    (hbefore : ∀ link ∈ before, link.2.IsTerm) (hafter : ∀ link ∈ after, link.2.IsTerm)
    (hop : op ∉ before.map Prod.fst) :
    ∃ right more, Text.splitAt op.symbol (first.chainText (before ++ (op, p) :: after)) =
        (first.chainText before ++ [' ']) :: right :: more ∧
      right.trim = p.chainText (Expression.linksUpTo op after) := by
  have hspace : op.symbol ≠ ' ' := by
    cases op <;> decide
  have hleft : op.symbol ∉ first.chainText before ++ [' '] := by
    rw [List.mem_append, Expression.symbol_mem_chainText_iff hfirst hbefore, List.mem_singleton]
    exact not_or.mpr ⟨hop, hspace⟩
  have hterms : ∀ link ∈ Expression.linksUpTo op after, link.2.IsTerm := fun link hlink =>
    hafter link ((List.takeWhile_prefix _).subset hlink)
  have hright : op.symbol ∉ ' ' :: p.chainText (Expression.linksUpTo op after) := by
    rw [List.mem_cons, Expression.symbol_mem_chainText_iff hp hterms, not_or]
    exact ⟨hspace, Expression.not_mem_linksUpTo op after⟩
  have htrim : Text.trim (' ' :: p.chainText (Expression.linksUpTo op after)) =
      p.chainText (Expression.linksUpTo op after) :=
    (Expression.isTrimmed_chainText hp hterms).trim_append_left (b := [' ']) isBlank_of_mem_space
  rw [Expression.chainText_append_cons, Text.splitAt_append hleft]
  rcases Expression.linksUpTo_cases op after with heq | ⟨q, rest, heq⟩
  · rw [← heq] at hright htrim ⊢
    exact ⟨_, [], by rw [Text.splitAt_of_not_mem hright], htrim⟩
  · have htext : ' ' :: p.chainText after =
        ' ' :: p.chainText (Expression.linksUpTo op after) ++ [' '] ++
          op.symbol :: (' ' :: q.chainText rest) := by
      conv_lhs => rw [heq, Expression.chainText_append_cons]
      simp only [List.cons_append]
    have hpiece : op.symbol ∉ ' ' :: p.chainText (Expression.linksUpTo op after) ++ [' '] := by
      rw [List.mem_append, List.mem_singleton]
      exact not_or.mpr ⟨hright, hspace⟩
    refine ⟨_, _, by rw [htext, Text.splitAt_append hpiece], ?_⟩
    rw [Text.trim_append_of_blank isBlank_of_mem_space, htrim]

/-! ### Evaluating a chain -/

/-- The operator that is looked for first is applied to the operands beside its first
occurrence. -/
lemma Environment.evaluate_chain_of_find? (hkeys : ∀ entry ∈ env, Text.IsName entry.1)
    (hfirst : first.IsTerm) (hlinks : ∀ link ∈ before ++ (op, p) :: after, link.2.IsTerm)
    (hfind : (Operator.all.find? fun op' =>
      op' ∈ (before ++ (op, p) :: after).map Prod.fst) = some op)
    (hop : op ∉ before.map Prod.fst) :
    env.evaluate (first.chain (before ++ (op, p) :: after)).render =
      op.apply (if before = [] then first.resolved env op.defaults.1 else .number op.defaults.1)
        (if ∀ link ∈ after.head?, link.1 = op then p.resolved env op.defaults.2
          else .number op.defaults.2) := by
  have hdrop := Expression.dropParentheses_render_chain hfirst hlinks
  have hfound := (Expression.findIn?_chainText hfirst hlinks).trans hfind
  rw [List.forall_mem_append, List.forall_mem_cons] at hlinks
  obtain ⟨hbefore, hp, hafter⟩ := hlinks
  obtain ⟨right, more, hsplit, hright⟩ :=
    Expression.splitAt_chainText hfirst hp hbefore hafter hop
  have hleft : Text.trim (first.chainText before ++ [' ']) = first.chainText before :=
    (Expression.isTrimmed_chainText hfirst hbefore).trim_append isBlank_of_mem_space
  simp only [Environment.evaluate, hdrop, hfound, hsplit, hleft, hright,
    Environment.operand_chainText hkeys hfirst, Environment.operand_chainText hkeys hp,
    Expression.linksUpTo_eq_nil_iff]

/-- Of a chain only one operation is done, at the first occurrence of the operator that is looked
for first. Its left operand counts if it begins the chain, and its right one if the chain ends
there or goes on with the same operator; in all other cases the defaults stand for them. No other
operand matters, and no operator behind the next one. -/
theorem Environment.evaluate_chain (hkeys : ∀ entry ∈ env, Text.IsName entry.1)
    (hfirst : first.IsTerm) (hlinks : ∀ link ∈ links, link.2.IsTerm) (hne : links ≠ []) :
    ∃ op before p after, links = before ++ (op, p) :: after ∧
      (Operator.all.find? fun op' => op' ∈ links.map Prod.fst) = some op ∧
      op ∉ before.map Prod.fst ∧
      env.evaluate (first.chain links).render =
        op.apply (if before = [] then first.resolved env op.defaults.1
          else .number op.defaults.1)
          (if ∀ link ∈ after.head?, link.1 = op then p.resolved env op.defaults.2
            else .number op.defaults.2) ∧
      ∀ (first' : Expression) (before' after' : List (Operator × Expression)), first'.IsTerm →
        (∀ link ∈ before' ++ (op, p) :: after', link.2.IsTerm) →
        (Operator.all.find? fun op' => op' ∈ (before' ++ (op, p) :: after').map Prod.fst) =
          some op →
        op ∉ before'.map Prod.fst → before'.length = before.length →
        (before = [] → first' = first) → after'.head?.map Prod.fst = after.head?.map Prod.fst →
        env.evaluate (first'.chain (before' ++ (op, p) :: after')).render =
          env.evaluate (first.chain links).render := by
  obtain ⟨op, hfind⟩ :
      ∃ op, (Operator.all.find? fun op' => op' ∈ links.map Prod.fst) = some op := by
    obtain ⟨link, rest, rfl⟩ := List.exists_cons_of_ne_nil hne
    rw [← Option.isSome_iff_exists, List.find?_isSome]
    exact ⟨link.1, link.1.mem_all, by simp⟩
  have hmem : op ∈ links.map Prod.fst := by simpa using List.find?_some hfind
  obtain ⟨ops, ops', hops, hnot⟩ := List.eq_append_cons_of_mem hmem
  obtain ⟨before, tail, rfl, rfl, htail⟩ := List.map_eq_append_iff.mp hops
  obtain ⟨⟨op', p⟩, after, rfl, rfl, -⟩ := List.map_eq_cons_iff.mp htail
  have heval := Environment.evaluate_chain_of_find? hkeys hfirst hlinks hfind hnot
  refine ⟨op', before, p, after, rfl, hfind, hnot, heval, ?_⟩
  intro first' before' after' hfirst' hlinks' hfind' hnot' hlength hsame hnext
  have hempty : before' = [] ↔ before = [] := by
    rw [← List.length_eq_zero_iff, hlength, List.length_eq_zero_iff]
  have hends : (∀ link ∈ after'.head?, link.1 = op') ↔ ∀ link ∈ after.head?, link.1 = op' := by
    have hmap (ms : List (Operator × Expression)) : (∀ link ∈ ms.head?, link.1 = op') ↔
        ∀ o ∈ ms.head?.map Prod.fst, o = op' := by simp
    rw [hmap, hmap, hnext]
  rw [Environment.evaluate_chain_of_find? hkeys hfirst' hlinks' hfind' hnot', heval]
  simp only [hempty, hends]
  by_cases hbefore : before = []
  · rw [hsame hbefore]
  · simp only [if_neg hbefore]

end

/-- The links of `a * b - c - d`. -/
def sampleLinks : List (Operator × Expression) :=
  [(.times, .name "b"), (.minus, .name "c"), (.minus, .name "d")]

theorem Environment.evaluate_sampleLinks :
    ((∀ entry ∈ [((['c'] : Text), Value.number .one)], Text.IsName entry.1) ∧
      (Expression.name "a").IsTerm ∧ (∀ link ∈ sampleLinks, link.2.IsTerm) ∧ sampleLinks ≠ []) ∧
    Environment.evaluate [(['c'], .number .one)]
      ((Expression.name "a").chain sampleLinks).render =
      Operator.minus.apply (.number .zero) (.number .one) := by
  have hname (c : Char) (h : isNameStart c = true) : Text.IsName [c] := ⟨h, by simp⟩
  have hkeys : ∀ entry ∈ [((['c'] : Text), Value.number .one)], Text.IsName entry.1 := by
    rw [List.forall_mem_singleton]
    exact hname 'c' (by decide)
  have hfirst : (Expression.name "a").IsTerm := .name (hname 'a' (by decide))
  have hlinks : ∀ link ∈ sampleLinks, link.2.IsTerm := by
    simp only [sampleLinks, List.forall_mem_cons]
    exact ⟨.name (hname 'b' (by decide)), .name (hname 'c' (by decide)),
      .name (hname 'd' (by decide)), by simp⟩
  have hne : sampleLinks ≠ [] := List.cons_ne_nil _ _
  refine ⟨⟨hkeys, hfirst, hlinks, hne⟩, ?_⟩
  obtain ⟨op, before, p, after, heq, hfind, hnot, heval, -⟩ :=
    Environment.evaluate_chain hkeys hfirst hlinks hne
  obtain rfl : .minus = op := Option.some.inj hfind
  -- the first minus stands behind one other link
  rcases before with _ | ⟨link, _ | ⟨link', before⟩⟩
  · simp [sampleLinks] at heq
  · simp only [sampleLinks, List.cons_append, List.nil_append, List.cons.injEq, Prod.mk.injEq,
      true_and] at heq
    obtain ⟨-, rfl, rfl⟩ := heq
    exact heval
  · obtain rfl : (.minus, .name "c") = link' := by
      simp only [sampleLinks, List.cons_append, List.cons.injEq] at heq
      exact heq.2.1
    simp at hnot

end PlainEnglish
