import PlainEnglish.Proofs.Token.Expression

/-!
# Fragments of expressions

An expression falls apart at its operators. What stands between two of them is one fragment,
without the blanks at its ends, or none if it is blank, so no two operands stand side by side.

Main statements: `Text.fragments_append_symbol`, `Token.isChain_ofExpression`.
-/

namespace PlainEnglish

/-- A text without operators. -/
def Text.IsFree (t : Text) : Prop := ∀ c ∈ t, isOperator c = false

section

variable {t u : Text}

lemma Text.exists_symbol_of_not_isFree (h : ¬t.IsFree) : ∃ (before : Text) (op : Operator)
    (after : Text), t = before ++ op.symbol :: after ∧ before.IsFree := by
  induction t with
  | nil => simp [Text.IsFree] at h
  | cons c t ih =>
    by_cases hc : isOperator c = true
    · obtain ⟨op, rfl⟩ := isOperator_iff.mp hc
      exact ⟨[], op, t, rfl, by simp [Text.IsFree]⟩
    · rw [Bool.not_eq_true] at hc
      rw [Text.IsFree, List.forall_mem_cons, not_and] at h
      obtain ⟨before, op, after, rfl, hbefore⟩ := ih (h hc)
      exact ⟨c :: before, op, after, rfl, List.forall_mem_cons.mpr ⟨hc, hbefore⟩⟩

/-- A text has no operators, or it is told by what stands in front of its first operator and what
stands behind it. -/
@[elab_as_elim]
theorem Text.operatorInduction {motive : Text → Prop} (free : ∀ t, t.IsFree → motive t)
    (symbol : ∀ t op u, t.IsFree → motive u → motive (t ++ Operator.symbol op :: u)) (t : Text) :
    motive t := by
  induction hn : t.length using Nat.strong_induction_on generalizing t with
  | _ n ih =>
    by_cases h : t.IsFree
    · exact free t h
    · obtain ⟨before, op, after, rfl, hbefore⟩ := Text.exists_symbol_of_not_isFree h
      refine symbol before op after hbefore (ih after.length ?_ after rfl)
      rw [← hn, List.length_append, List.length_cons]
      omega

/-! ### Fragments -/

lemma Text.foldr_consFragment_of_isFree (h : t.IsFree) :
    t.foldr Text.consFragment [[]] = [t] := by
  induction t with
  | nil => rfl
  | cons c t ih =>
    rw [Text.IsFree, List.forall_mem_cons] at h
    rw [List.foldr_cons, ih h.2, Text.consFragment, h.1]
    rfl

lemma Text.fragments_of_isFree (h : t.IsFree) :
    t.fragments = if t.trim = [] then [] else [t.trim] := by
  rw [Text.fragments, Text.foldr_consFragment_of_isFree h, List.map_singleton, List.filter_cons]
  by_cases htrim : t.trim = [] <;> simp [htrim]

lemma Text.isTrimmed_symbol (op : Operator) : Text.IsTrimmed [op.symbol] :=
  Text.isTrimmed_of_not_blank (by simp [isBlank_symbol])

/-- An operator separates the fragments in front of it from those behind it. -/
theorem Text.fragments_append_symbol (t : Text) (op : Operator) (u : Text) :
    Text.fragments (t ++ op.symbol :: u) = t.fragments ++ [op.symbol] :: u.fragments := by
  have hstep := Text.isPieceStep_ite (fun c => isOperator c = true) fun c => [[c]]
  have happend := hstep.foldr_append t (List.cons_ne_nil [] [])
    ([op.symbol] :: u.foldr Text.consFragment [[]])
  have hsymbol : Text.consFragment op.symbol (u.foldr Text.consFragment [[]]) =
      [[]] ++ [op.symbol] :: u.foldr Text.consFragment [[]] := by
    rw [Text.consFragment, if_pos (isOperator_symbol op)]
    rfl
  have hpieces : (t ++ op.symbol :: u).foldr Text.consFragment [[]] =
      t.foldr Text.consFragment [[]] ++ [op.symbol] :: u.foldr Text.consFragment [[]] := by
    rw [List.foldr_append, List.foldr_cons, hsymbol]
    exact happend
  simp [Text.fragments, hpieces, (Text.isTrimmed_symbol op).trim_eq]

/-- A fragment is a part of the expression without the blanks at its ends, and not empty. -/
lemma Text.exists_infix_of_mem_fragments {f : Text} (h : f ∈ t.fragments) :
    f ≠ [] ∧ ∃ s : Text, s <:+: t ∧ s.trim = f := by
  induction t using Text.operatorInduction with
  | free t ht =>
    rw [Text.fragments_of_isFree ht] at h
    split at h
    · simp at h
    · next hne =>
      obtain rfl := List.mem_singleton.mp h
      exact ⟨hne, t, List.infix_rfl, rfl⟩
  | symbol t op u ht ih =>
    have hsymbol : [op.symbol] <:+: t ++ op.symbol :: u := ⟨t, u, by simp⟩
    have hafter : u <:+: t ++ op.symbol :: u := ⟨t ++ [op.symbol], [], by simp⟩
    rw [Text.fragments_append_symbol, Text.fragments_of_isFree ht, List.mem_append,
      List.mem_cons] at h
    rcases h with h | rfl | h
    · split at h
      · simp at h
      · next hne =>
        obtain rfl := List.mem_singleton.mp h
        exact ⟨hne, t, ⟨[], op.symbol :: u, by simp⟩, rfl⟩
    · exact ⟨List.cons_ne_nil _ _, _, hsymbol, (Text.isTrimmed_symbol op).trim_eq⟩
    · obtain ⟨hne, s, hs, hf⟩ := ih h
      exact ⟨hne, s, hs.trans hafter, hf⟩

/-- Fragments have the characters of the expression that are not blank, in order. -/
lemma Text.filter_flatten_fragments (t : Text) :
    t.fragments.flatten.filter (fun c => !isBlank c) = t.filter fun c => !isBlank c := by
  have hfree {t : Text} (ht : t.IsFree) :
      t.fragments.flatten.filter (fun c => !isBlank c) = t.filter fun c => !isBlank c := by
    rw [Text.fragments_of_isFree ht, ← Text.filter_trim t]
    split
    · next h => rw [h]; rfl
    · simp
  induction t using Text.operatorInduction with
  | free t ht => exact hfree ht
  | symbol t op u ht ih =>
    rw [Text.fragments_append_symbol, List.flatten_append, List.flatten_cons, List.filter_append,
      List.filter_append, hfree ht, ih, List.filter_append, List.filter_cons]
    simp [isBlank_symbol]

lemma Text.isTrimmed_of_mem_fragments {f : Text} (h : f ∈ t.fragments) :
    f ≠ [] ∧ f.IsTrimmed := by
  obtain ⟨hne, s, -, rfl⟩ := Text.exists_infix_of_mem_fragments h
  exact ⟨hne, s.isTrimmed_trim⟩

lemma Text.IsTrimmed.head?_filter (h : t.IsTrimmed) :
    (t.filter fun c => !isBlank c).head? = t.head? := by
  cases t with
  | nil => rfl
  | cons c t =>
    have hc : isBlank c = false := h.1 c rfl
    simp [hc]

lemma Text.IsTrimmed.getLast?_filter (h : t.IsTrimmed) :
    (t.filter fun c => !isBlank c).getLast? = t.getLast? := by
  rcases List.eq_nil_or_concat' t with rfl | ⟨t, c, rfl⟩
  · rfl
  · have hc : isBlank c = false := h.2 c (by simp)
    simp [hc]

/-- A trimmed expression begins with the first character of its first fragment. -/
lemma Text.head?_eq_of_fragments (h : t.IsTrimmed) {f : Text} (hf : t.fragments.head? = some f) :
    t.head? = f.head? := by
  obtain ⟨hne, hf'⟩ := Text.isTrimmed_of_mem_fragments (List.mem_of_mem_head? hf)
  have hfilter := congrArg List.head? (Text.filter_flatten_fragments t)
  obtain ⟨rest, heq⟩ := List.head?_eq_some_iff.mp hf
  have hne' : f.filter (fun c => !isBlank c) ≠ [] := by
    intro hnil
    have hhead := hf'.head?_filter
    rw [hnil] at hhead
    exact hne (List.head?_eq_none_iff.mp hhead.symm)
  rw [h.head?_filter, heq, List.flatten_cons, List.filter_append,
    List.head?_append_of_ne_nil _ hne', hf'.head?_filter] at hfilter
  exact hfilter.symm

/-- A trimmed expression ends with the last character of its last fragment. -/
lemma Text.getLast?_eq_of_fragments (h : t.IsTrimmed) {f : Text}
    (hf : t.fragments.getLast? = some f) : t.getLast? = f.getLast? := by
  obtain ⟨hne, hf'⟩ := Text.isTrimmed_of_mem_fragments (List.mem_of_getLast? hf)
  have hfilter := congrArg List.getLast? (Text.filter_flatten_fragments t)
  obtain ⟨rest, heq⟩ := List.getLast?_eq_some_iff.mp hf
  have hne' : f.filter (fun c => !isBlank c) ≠ [] := by
    intro hnil
    have hlast := hf'.getLast?_filter
    rw [hnil] at hlast
    exact hne (List.getLast?_eq_none_iff.mp hlast.symm)
  rw [h.getLast?_filter, heq, List.flatten_append, List.flatten_singleton, List.filter_append,
    List.getLast?_append_of_ne_nil _ hne', hf'.getLast?_filter] at hfilter
  exact hfilter.symm

/-- An expression without operators is its only fragment. -/
lemma Text.fragments_eq_singleton {f : Text} (h : t.IsTrimmed) (hf : t.fragments = [f])
    (hfree : f.IsFree) : t = f := by
  by_cases ht : t.IsFree
  · rw [Text.fragments_of_isFree ht, h.trim_eq] at hf
    split at hf
    · simp at hf
    · exact List.singleton_inj.mp hf
  · obtain ⟨before, op, after, rfl, -⟩ := Text.exists_symbol_of_not_isFree ht
    rw [Text.fragments_append_symbol] at hf
    have hmem : [op.symbol] ∈ [f] := by simp [← hf]
    obtain rfl := List.mem_singleton.mp hmem
    have hop : isOperator op.symbol = false := hfree _ (by simp)
    simp at hop

lemma isOperator_eq_false_of_isBlank {c : Char} (h : isBlank c = true) :
    isOperator c = false := by
  by_contra hop
  rw [Bool.not_eq_false] at hop
  obtain ⟨op, rfl⟩ := isOperator_iff.mp hop
  simp [isBlank_symbol] at h

/-- A blank at the end of an expression does not matter. -/
lemma Text.fragments_append_blank (t : Text) {c : Char} (hc : isBlank c = true) :
    Text.fragments (t ++ [c]) = t.fragments := by
  have hfree {t : Text} (ht : t.IsFree) : Text.fragments (t ++ [c]) = t.fragments := by
    have hfree' : Text.IsFree (t ++ [c]) := by
      rw [Text.IsFree, List.forall_mem_append, List.forall_mem_singleton]
      exact ⟨ht, isOperator_eq_false_of_isBlank hc⟩
    rw [Text.fragments_of_isFree hfree', Text.fragments_of_isFree ht,
      Text.trim_append_of_blank (by simpa using hc)]
  induction t using Text.operatorInduction with
  | free t ht => exact hfree ht
  | symbol t op u ht ih =>
    rw [List.append_assoc, List.cons_append, Text.fragments_append_symbol,
      Text.fragments_append_symbol, ih]

/-- A trimmed operand is one fragment, also with a blank in front of it. -/
lemma Text.fragments_blank_cons {c : Char} (hc : isBlank c = true) (hfree : t.IsFree)
    (h : t.IsTrimmed) (hne : t ≠ []) : Text.fragments (c :: t) = [t] := by
  have hfree' : Text.IsFree (c :: t) := List.forall_mem_cons.mpr
    ⟨isOperator_eq_false_of_isBlank hc, hfree⟩
  have htrim : Text.trim (c :: t) = t := h.trim_append_left (b := [c]) (by simpa using hc)
  rw [Text.fragments_of_isFree hfree', htrim, if_neg hne]

end

/-! ### Tokens -/

/-- Of two tokens that stand side by side in a row, one is an operator. -/
def Token.Alternate (a b : Token) : Prop :=
  a.kind.isOperator = true ∨ b.kind.isOperator = true

lemma Token.ofExpression_append_symbol (line column : Int) (t : Text) (op : Operator)
    (u : Text) :
    Token.ofExpression line column (t ++ op.symbol :: u) = Token.ofExpression line column t ++
      ⟨.operator op, [op.symbol], line, column⟩ :: Token.ofExpression line column u := by
  simp [Token.ofExpression, Text.fragments_append_symbol, Kind.ofFragment_symbol]

/-- Operands are separated by operators. -/
theorem Token.isChain_ofExpression (line column : Int) (t : Text) :
    (Token.ofExpression line column t).IsChain Token.Alternate := by
  have hfree {t : Text} (ht : t.IsFree) :
      (Token.ofExpression line column t).IsChain Token.Alternate := by
    rw [Token.ofExpression, Text.fragments_of_isFree ht]
    split
    · exact List.isChain_nil
    · exact List.isChain_singleton _
  induction t using Text.operatorInduction with
  | free t ht => exact hfree ht
  | symbol t op u ht ih =>
    rw [Token.ofExpression_append_symbol]
    refine (hfree ht).append (ih.cons fun _ _ => Or.inl rfl) ?_
    rintro a - b hb
    obtain rfl := Option.some.inj hb
    exact Or.inr rfl

lemma Token.IsValueRow.isChain_alternate {line : Int} {text : Text} {row : List Token}
    (h : Token.IsValueRow line text row) : row.IsChain Token.Alternate := by
  cases h with
  | string => exact List.isChain_singleton _
  | number => exact List.isChain_singleton _
  | expression column => exact Token.isChain_ofExpression line column text

end PlainEnglish
