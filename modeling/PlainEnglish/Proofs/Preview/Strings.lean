import PlainEnglish.Proofs.Preview.Refine

/-!
# Strings in scripts

A string is written between quotes, and the preview looks for operators and parentheses also
between quotes. A declared string keeps its text exactly if it has neither: parentheses are lost,
and an operator makes a number of it.

Main statement: `Environment.render_evaluate_inScript_iff`.
-/

namespace PlainEnglish

open Grammar

/-! ### Strings as values -/

lemma Text.splitAt_ne_nil (separator : Char) (t : Text) : t.splitAt separator ≠ [] := by
  cases t with
  | nil => exact List.cons_ne_nil _ _
  | cons c t =>
    rw [Text.splitAt_cons]
    split
    · exact List.cons_ne_nil _ _
    · cases Text.splitAt separator t <;> exact List.cons_ne_nil _ _

/-- A number is printed as a minus sign or none, and then without operators. -/
lemma Number.exists_plain_eq (x : Number) : ∃ negative body,
    x.plain = Text.sign negative ++ body ∧ ∀ c ∈ body, isOperator c = false := by
  cases x with
  | nan => exact ⟨false, "NaN", rfl, Text.forall_eq_false_of_any (by decide)⟩
  | infinite negative =>
    exact ⟨negative, "Infinity", rfl, Text.forall_eq_false_of_any (by decide)⟩
  | finite negative m =>
    exact ⟨_, _, Number.plain_finite negative m,
      fun c hc => (m.names_plain.1.isTerm.isInert c hc).1⟩

lemma Numeral.read?_eq_none_of_mem {t : Text} {c : Char} (hc : c ∈ t)
    (h : isNumeralChar c = false) : Numeral.read? t = none := by
  by_contra hne
  obtain ⟨n, hn⟩ := Option.ne_none_iff_exists'.mp hne
  simp [Numeral.isNumeralChar_of_read? hn hc] at h

/-- Without variables every operand is a number. -/
lemma Environment.exists_operand_nil (t : Text) (default : Number) :
    ∃ x, Environment.operand [] t default = .number x := by
  cases h : Numeral.read? t with
  | none => exact ⟨default, by simp only [Environment.operand, h]; rfl⟩
  | some numeral => exact ⟨numeral.toNumber, by simp only [Environment.operand, h]⟩

/-- Without variables a quote makes an operand count as the default. -/
lemma Environment.operand_nil_of_quote {t : Text} (h : '"' ∈ t) (default : Number) :
    Environment.operand [] t.trim default = .number default := by
  have hread : Numeral.read? t.trim = none :=
    Numeral.read?_eq_none_of_mem (Text.mem_trim h (by decide)) (by decide)
  simp only [Environment.operand, hread]
  rfl

/-- Without variables an operator makes a number. -/
lemma Environment.exists_evaluate_nil {t : Text} {op : Operator}
    (h : Operator.findIn? t.dropParentheses = some op) :
    ∃ x, Environment.evaluate [] t = .number x := by
  obtain ⟨left, rest, hsplit, hleft⟩ :=
    List.eq_append_cons_of_mem (Operator.symbol_mem_of_findIn? h)
  obtain ⟨right, more, hright⟩ :=
    List.exists_cons_of_ne_nil (Text.splitAt_ne_nil op.symbol rest)
  obtain ⟨x, hx⟩ := Environment.exists_operand_nil (Text.trim left) op.defaults.1
  obtain ⟨y, hy⟩ := Environment.exists_operand_nil (Text.trim right) op.defaults.2
  have hpieces : Text.splitAt op.symbol t.dropParentheses = left :: right :: more := by
    rw [hsplit, Text.splitAt_append hleft, hright]
  refine ⟨op.onNumbers x y, ?_⟩
  simp only [Environment.evaluate, h, hpieces, hx, hy]
  cases op <;> rfl

/-! ### Parentheses and operators in strings -/

lemma Environment.evaluate_dropParentheses (env : Environment) (t : Text) :
    env.evaluate t.dropParentheses = env.evaluate t := by
  have hdrop : Text.dropParentheses t.dropParentheses = t.dropParentheses :=
    Text.dropParentheses_eq_self fun c hc => by
      simpa using List.of_mem_filter hc
  simp only [Environment.evaluate, hdrop]

lemma Text.dropParentheses_inScript (s : Text) :
    Text.dropParentheses s.inScript = Text.inScript s.dropParentheses := by
  have hquote : Text.dropParentheses ['"'] = ['"'] := rfl
  rw [Text.inScript, ← List.singleton_append, Text.dropParentheses_append,
    Text.dropParentheses_append, hquote]
  rfl

/-- A string without operators loses its parentheses. -/
lemma Environment.evaluate_inScript_of_no_operator (env : Environment) {s : Text}
    (h : ∀ c ∈ s, isOperator c = false) :
    env.evaluate s.inScript = .text s.dropParentheses := by
  have hinert : Text.IsInert s.dropParentheses := by
    intro c hc
    obtain ⟨hmem, hparen⟩ := List.mem_filter.mp hc
    exact ⟨h c hmem, by simpa using hparen⟩
  rw [← Environment.evaluate_dropParentheses, Text.dropParentheses_inScript,
    Environment.evaluate_inScript hinert]

/-- A minus sign at the beginning of a string stands between two texts that are no numerals, so
it makes zero. -/
lemma Environment.evaluate_minus_inScript {body : Text} (h : ∀ c ∈ body, isOperator c = false) :
    Environment.evaluate [] (Text.inScript ('-' :: body)) =
      .number (Number.zero.subtract .zero) := by
  have hdrop : Text.dropParentheses (Text.inScript ('-' :: body)) =
      ['"'] ++ Operator.minus.symbol :: (Text.dropParentheses body ++ ['"']) := by
    rw [Text.dropParentheses_inScript]
    rfl
  have hright : ∀ c ∈ Text.dropParentheses body ++ ['"'], isOperator c = false := by
    intro c hc
    rcases List.mem_append.mp hc with hc | hc
    · exact h c (List.mem_of_mem_filter hc)
    · obtain rfl := List.mem_singleton.mp hc
      rfl
  rw [Environment.evaluate_of_dropParentheses hdrop
    (Text.forall_eq_false_of_any (by decide)) hright,
    Environment.operand_nil_of_quote (by simp), Environment.operand_nil_of_quote (by simp)]
  rfl

/-- What an operator in a string makes of it is never printed as the string. -/
lemma Environment.render_evaluate_inScript_ne {s : Text} {c : Char} (hc : c ∈ s)
    (hop : isOperator c = true) : (Environment.evaluate [] s.inScript).render ≠ s := by
  have hmem : c ∈ Text.dropParentheses s.inScript := by
    rw [Text.dropParentheses, List.mem_filter]
    refine ⟨by simp [Text.inScript, hc], ?_⟩
    obtain ⟨op, rfl⟩ := isOperator_iff.mp hop
    cases op <;> decide
  obtain ⟨op, hfind⟩ := Operator.exists_findIn? hmem hop
  obtain ⟨x, hx⟩ := Environment.exists_evaluate_nil hfind
  obtain ⟨negative, body, hplain, hbody⟩ := x.exists_plain_eq
  intro heq
  rw [hx, Value.render] at heq
  obtain rfl : s = Text.sign negative ++ body := heq.symm.trans hplain
  cases negative with
  | false => simp [hbody c hc] at hop
  | true =>
    -- the string is a minus sign and then no operator, so it is printed as zero
    have hzero : Number.plain (Number.zero.subtract .zero) = ['0'] := by decide +kernel
    have hminus := (Environment.evaluate_minus_inScript hbody).symm.trans hx
    rw [← Value.number.inj hminus, hzero] at hplain
    exact absurd (List.cons.inj hplain).1 (by decide)

/-- The value of a declared string is printed as the string exactly if it is inert. -/
lemma Environment.render_evaluate_inScript_iff (s : Text) :
    (Environment.evaluate [] s.inScript).render = s ↔ s.IsInert := by
  constructor
  · intro h
    have hop : ∀ c ∈ s, isOperator c = false := by
      intro c hc
      by_contra hop
      exact Environment.render_evaluate_inScript_ne hc (by simpa using hop) h
    rw [Environment.evaluate_inScript_of_no_operator [] hop, Value.render, Text.dropParentheses,
      List.filter_eq_self] at h
    exact fun c hc => ⟨hop c hc, by simpa using h c hc⟩
  · intro h
    rw [Environment.evaluate_inScript h, Value.render]

end PlainEnglish
