import PlainEnglish.Preview.Evaluate
import PlainEnglish.Proofs.Preview.Alike
import PlainEnglish.Proofs.Text.Split
import PlainEnglish.Proofs.Token.Expression

/-!
# Evaluating operands and operations

A text that holds no operator and no parenthesis is evaluated as it stands. Names and numbers in
plain notation are such texts, and a single operation on two of them is read as what it was
written for.
-/

namespace PlainEnglish

/-! ### Texts without syntax -/

/-- A text in which the preview sees neither an operator nor a parenthesis. -/
def Text.IsInert (t : Text) : Prop := ∀ c ∈ t, isOperator c = false ∧ c ≠ '(' ∧ c ≠ ')'

/-- Whether a text is inert can be evaluated. -/
lemma Text.isInert_of_all {t : Text}
    (h : t.all (fun c => !isOperator c && c != '(' && c != ')') = true) : t.IsInert := by
  intro c hc
  simpa [and_assoc] using List.all_eq_true.mp h c hc

lemma Text.dropParentheses_append (s t : Text) :
    Text.dropParentheses (s ++ t) = s.dropParentheses ++ t.dropParentheses :=
  List.filter_append ..

lemma Text.dropParentheses_eq_self {t : Text} (h : ∀ c ∈ t, c ≠ '(' ∧ c ≠ ')') :
    t.dropParentheses = t := by
  rw [Text.dropParentheses, List.filter_eq_self]
  simpa using h

lemma Text.IsInert.dropParentheses_eq {t : Text} (h : t.IsInert) : t.dropParentheses = t :=
  Text.dropParentheses_eq_self fun c hc => (h c hc).2

lemma Operator.mem_all (op : Operator) : op ∈ Operator.all := by
  cases op <;> decide

lemma Operator.findIn?_eq_none {t : Text} (h : ∀ c ∈ t, isOperator c = false) :
    Operator.findIn? t = none := by
  rw [Operator.findIn?, List.find?_eq_none]
  intro op _ hop
  have := h op.symbol (by simpa using hop)
  simp at this

lemma Operator.symbol_mem_of_findIn? {t : Text} {op : Operator}
    (h : Operator.findIn? t = some op) : op.symbol ∈ t := by
  simpa using List.find?_some h

/-- An operator is found if there is one. -/
lemma Operator.exists_findIn? {t : Text} {c : Char} (hc : c ∈ t) (h : isOperator c = true) :
    ∃ op, Operator.findIn? t = some op := by
  obtain ⟨op, rfl⟩ := isOperator_iff.mp h
  cases hfind : Operator.findIn? t with
  | some op' => exact ⟨op', rfl⟩
  | none =>
    rw [Operator.findIn?, List.find?_eq_none] at hfind
    exact absurd hc (by simpa using hfind op op.mem_all)

/-- The only operator of a text is the one that is found. -/
lemma Operator.findIn?_append {left right : Text} (hleft : ∀ c ∈ left, isOperator c = false)
    (hright : ∀ c ∈ right, isOperator c = false) (op : Operator) :
    Operator.findIn? (left ++ op.symbol :: right) = some op := by
  obtain ⟨found, hfound⟩ := Operator.exists_findIn?
    (show op.symbol ∈ left ++ op.symbol :: right by simp) (isOperator_symbol op)
  have hmem := Operator.symbol_mem_of_findIn? hfound
  have heq : found.symbol = op.symbol := by
    rcases List.mem_append.mp hmem with h | h
    · exact absurd (hleft _ h) (by simp)
    · rcases List.mem_cons.mp h with h | h
      · exact h
      · exact absurd (hright _ h) (by simp)
  have hop := congrArg Operator.ofSymbol? heq
  rw [Operator.ofSymbol?_symbol, Operator.ofSymbol?_symbol] at hop
  rw [hfound, hop]

section

variable {env : Environment}

lemma Environment.evaluate_of_isInert {t : Text} (h : t.IsInert) :
    env.evaluate t = Value.ofText t.trim := by
  simp only [Environment.evaluate, h.dropParentheses_eq,
    Operator.findIn?_eq_none fun c hc => (h c hc).1]

/-- The only operator of a text is applied to what stands on its two sides. -/
lemma Environment.evaluate_of_dropParentheses {t left right : Text} {op : Operator}
    (ht : t.dropParentheses = left ++ op.symbol :: right)
    (hleft : ∀ c ∈ left, isOperator c = false) (hright : ∀ c ∈ right, isOperator c = false) :
    env.evaluate t = op.apply (env.operand left.trim op.defaults.1)
      (env.operand right.trim op.defaults.2) := by
  have hl : op.symbol ∉ left := fun h => by simpa using hleft _ h
  have hr : op.symbol ∉ right := fun h => by simpa using hright _ h
  simp only [Environment.evaluate, ht, Operator.findIn?_append hleft hright,
    Text.splitAt_append hl, Text.splitAt_of_not_mem hr]

end

/-! ### Terms -/

/-- A character of a name or of a number in plain notation. -/
def isTermChar (c : Char) : Bool := c.isAlphanum || c == '_' || c == '.'

/-- A text of characters of names and of numbers. -/
structure Text.IsTerm (t : Text) : Prop where
  ne_nil : t ≠ []
  chars : ∀ c ∈ t, isTermChar c = true

lemma toNat_of_isAlpha {c : Char} (h : c.isAlpha = true) :
    (65 ≤ c.toNat ∧ c.toNat ≤ 90) ∨ (97 ≤ c.toNat ∧ c.toNat ≤ 122) := by
  rcases Bool.or_eq_true_iff.mp h with hupper | hlower
  · exact .inl (of_decide_eq_true hupper)
  · have hbounds := Bool.and_eq_true_iff.mp hlower
    exact .inr ⟨of_decide_eq_true hbounds.1, of_decide_eq_true hbounds.2⟩

lemma toNat_of_isTermChar {c : Char} (h : isTermChar c = true) :
    (46 ≤ c.toNat ∧ c.toNat ≤ 57) ∨ (65 ≤ c.toNat ∧ c.toNat ≤ 122) := by
  simp only [isTermChar, Char.isAlphanum, Bool.or_eq_true, beq_iff_eq] at h
  rcases h with ((halpha | hdigit) | rfl) | rfl
  · have hrange := toNat_of_isAlpha halpha
    omega
  · have hrange := toNat_of_isDigit hdigit
    omega
  · decide
  · decide

lemma isBlank_eq_false_of_isTermChar {c : Char} (h : isTermChar c = true) :
    isBlank c = false := by
  have hrange := toNat_of_isTermChar h
  by_contra hblank
  rw [Bool.not_eq_false, isBlank_iff] at hblank
  omega

lemma isOperator_eq_false_of_isTermChar {c : Char} (h : isTermChar c = true) :
    isOperator c = false := by
  by_contra hop
  obtain ⟨op, rfl⟩ := isOperator_iff.mp (by simpa using hop)
  cases op <;> exact absurd h (by decide)

/-- A character that is none of a term stands in no term. -/
lemma Text.IsTerm.not_mem {t : Text} (h : t.IsTerm) {c : Char} (hc : isTermChar c = false) :
    c ∉ t := fun hmem => by simp [h.chars c hmem] at hc

lemma Text.IsTerm.isInert {t : Text} (h : t.IsTerm) : t.IsInert := by
  intro c hc
  refine ⟨isOperator_eq_false_of_isTermChar (h.chars c hc), ?_, ?_⟩
  · rintro rfl
    exact h.not_mem (by decide) hc
  · rintro rfl
    exact h.not_mem (by decide) hc

lemma Text.IsTerm.isTrimmed {t : Text} (h : t.IsTerm) : t.IsTrimmed :=
  Text.isTrimmed_of_not_blank fun c hc => isBlank_eq_false_of_isTermChar (h.chars c hc)

lemma Text.IsPlain.isTerm {t : Text} (h : t.IsPlain) : t.IsTerm := by
  refine ⟨?_, fun c hc => ?_⟩
  · obtain ⟨c, rest, rfl, -⟩ := h.exists_cons
    exact List.cons_ne_nil c rest
  · rcases h.isDigit_or_point hc with hdigit | rfl
    · simp [isTermChar, Char.isAlphanum, hdigit]
    · decide

/-! ### Names -/

/-- A character that a name may begin with: an ASCII letter or an underscore. -/
def isNameStart (c : Char) : Bool := c.isAlpha || c == '_'

/-- A character that a name may go on with: an ASCII letter, a digit or an underscore. -/
def isNameChar (c : Char) : Bool := c.isAlphanum || c == '_'

/-- A name: letters, digits and underscores, of which the first is no digit. -/
def Text.IsName : Text → Prop
  | [] => False
  | c :: rest => isNameStart c = true ∧ ∀ d ∈ rest, isNameChar d = true

lemma isDigit_eq_false_of_isNameStart {c : Char} (h : isNameStart c = true) :
    isDigit c = false := by
  by_contra hdigit
  have hrange := isDigit_ascii (by simpa using hdigit)
  simp only [isNameStart, Bool.or_eq_true, beq_iff_eq] at h
  rcases h with halpha | rfl
  · have hletter := toNat_of_isAlpha halpha
    omega
  · exact hdigit (by decide)

lemma Text.IsName.isTerm {t : Text} (h : t.IsName) : t.IsTerm := by
  cases t with
  | nil => exact h.elim
  | cons c rest =>
    refine ⟨List.cons_ne_nil c rest, ?_⟩
    rw [List.forall_mem_cons]
    refine ⟨?_, fun d hd => ?_⟩
    · have hc := h.1
      simp only [isNameStart, Bool.or_eq_true] at hc
      rcases hc with hc | hc <;> simp [isTermChar, Char.isAlphanum, hc]
    · have hd := h.2 d hd
      rw [isNameChar] at hd
      simp [isTermChar, hd]

/-- A name begins neither like a numeral nor with a quote. -/
lemma Text.IsName.exists_cons {t : Text} (h : t.IsName) : ∃ c rest, t = c :: rest ∧
    isDigit c = false ∧ c ≠ '.' ∧ c ≠ '+' ∧ c ≠ '-' ∧ c ≠ '"' := by
  cases t with
  | nil => exact h.elim
  | cons c rest =>
    refine ⟨c, rest, rfl, isDigit_eq_false_of_isNameStart h.1, ?_, ?_, ?_, ?_⟩
    all_goals
      rintro rfl
      exact absurd h.1 (by decide)

lemma Text.IsName.read?_eq_none {t : Text} (h : t.IsName) : Numeral.read? t = none := by
  obtain ⟨c, rest, rfl, hdigit, hdot, hplus, hminus, -⟩ := h.exists_cons
  exact Numeral.read?_cons_eq_none hdigit hplus hminus hdot

lemma Text.isQuoted_cons_of_ne {c : Char} (h : c ≠ '"') (rest : Text) :
    Text.isQuoted (c :: rest) = false := by
  simp [Text.isQuoted, Text.startsWith, Ne.symm h]

lemma Text.IsName.isQuoted_eq_false {t : Text} (h : t.IsName) : t.isQuoted = false := by
  obtain ⟨c, rest, rfl, -, -, -, -, hquote⟩ := h.exists_cons
  exact Text.isQuoted_cons_of_ne hquote rest

/-! ### Quotes -/

lemma Text.IsInert.inScript {t : Text} (h : t.IsInert) : t.inScript.IsInert := by
  intro c hc
  rcases Text.mem_inScript hc with rfl | hc
  · decide
  · exact h c hc

lemma Text.isTrimmed_inScript (t : Text) : t.inScript.IsTrimmed :=
  Text.isTrimmed_cons_append (by decide) (by decide) t

lemma Text.read?_inScript (t : Text) : Numeral.read? t.inScript = none :=
  Numeral.read?_cons_eq_none (by decide) (by decide) (by decide) (by decide)

/-! ### Values -/

section

variable {env : Environment}

lemma Environment.operand_name {t : Text} (h : t.IsName) (default : Number) :
    env.operand t default = (env.value? t).getD (.number default) := by
  simp only [Environment.operand, h.read?_eq_none]

lemma Environment.operand_plain (m : Magnitude) (default : Number) :
    env.operand (Number.plain (.finite false m)) default = .number (.finite false m) := by
  obtain ⟨-, numeral, hread, hnumber⟩ := m.names_plain
  simp only [Environment.operand, hread, hnumber]

/-- A finite number is read back from its plain notation, but for the sign of zero. -/
lemma Environment.evaluate_plain (h : env.value? [] = none) (negative : Bool) (m : Magnitude) :
    Value.Alike (env.evaluate (Number.plain (.finite negative m)))
      (.number (.finite negative m)) := by
  obtain ⟨hplain, numeral, hread, hnumber⟩ := m.names_plain
  have hterm := hplain.isTerm
  rw [Number.plain_finite]
  cases hneg : negative && m.val != 0 with
  | false =>
    -- no minus sign: the number is read as it stands
    rw [Text.sign_false, List.nil_append, Environment.evaluate_of_isInert hterm.isInert,
      hterm.isTrimmed.trim_eq, Value.ofText, hread]
    simp only [hnumber]
    cases negative with
    | false => exact .refl _
    | true =>
      obtain rfl : m = ⟨0, by decide⟩ := Fin.ext (by simpa using hneg)
      exact .number (.zero _ _)
  | true =>
    -- a minus sign: the rest is taken from nothing, which counts as zero
    obtain rfl : negative = true := by simp_all
    have hdrop : Text.dropParentheses ('-' :: Number.plain (.finite false m)) =
        [] ++ Operator.minus.symbol :: Number.plain (.finite false m) :=
      Text.dropParentheses_eq_self <| by
        rw [List.forall_mem_cons]
        exact ⟨by decide, fun c hc => (hterm.isInert c hc).2⟩
    have hnothing : env.operand (Text.trim []) .zero = .number .zero := by
      have hread : Numeral.read? (Text.trim []) = none := rfl
      have hvalue : env.value? (Text.trim []) = none := h
      simp only [Environment.operand, hread, hvalue, Option.getD_none]
    rw [Text.sign_true, List.singleton_append, Environment.evaluate_of_dropParentheses hdrop
      (by simp) fun c hc => (hterm.isInert c hc).1, hterm.isTrimmed.trim_eq]
    simp only [Operator.defaults, hnothing, Environment.operand_plain]
    exact .number (Number.zero_subtract_alike m)

/-- A name is evaluated to its own text. -/
lemma Environment.evaluate_name {t : Text} (h : t.IsName) : env.evaluate t = .text t := by
  rw [Environment.evaluate_of_isInert h.isTerm.isInert, h.isTerm.isTrimmed.trim_eq, Value.ofText,
    h.read?_eq_none]
  simp [h.isQuoted_eq_false]

lemma Environment.evaluate_inScript {t : Text} (h : t.IsInert) :
    env.evaluate t.inScript = .text t := by
  rw [Environment.evaluate_of_isInert h.inScript, (Text.isTrimmed_inScript t).trim_eq,
    Value.ofText, Text.read?_inScript]
  simp [Text.isQuoted_inScript, Text.inner_inScript]

/-- The parentheses around an operation are dropped, and those in its operands. -/
lemma Text.dropParentheses_operation (left right : Text) (op : Operator) :
    Text.dropParentheses ('(' :: left ++ [' ', op.symbol, ' '] ++ right ++ [')']) =
      (left.dropParentheses ++ [' ']) ++ op.symbol :: ' ' :: right.dropParentheses := by
  have hop : op.symbol ≠ '(' ∧ op.symbol ≠ ')' := by
    cases op <;> decide
  have hmiddle : Text.dropParentheses [' ', op.symbol, ' '] = [' ', op.symbol, ' '] :=
    Text.dropParentheses_eq_self (by simp [hop])
  have hopen : Text.dropParentheses ['('] = [] := rfl
  have hclose : Text.dropParentheses [')'] = [] := rfl
  rw [← List.singleton_append]
  simp only [Text.dropParentheses_append, hopen, hclose, hmiddle]
  simp

lemma Text.IsTerm.dropParentheses_operation {left right : Text} (hleft : left.IsTerm)
    (hright : right.IsTerm) (op : Operator) :
    Text.dropParentheses ('(' :: left ++ [' ', op.symbol, ' '] ++ right ++ [')']) =
      (left ++ [' ']) ++ op.symbol :: ' ' :: right := by
  rw [Text.dropParentheses_operation, hleft.isInert.dropParentheses_eq,
    hright.isInert.dropParentheses_eq]

/-- An operation on two terms is read as it was written. -/
lemma Environment.evaluate_operation {left right : Text} (hleft : left.IsTerm)
    (hright : right.IsTerm) (op : Operator) :
    env.evaluate ('(' :: left ++ [' ', op.symbol, ' '] ++ right ++ [')']) =
      op.apply (env.operand left op.defaults.1) (env.operand right op.defaults.2) := by
  have hl : ∀ c ∈ left ++ [' '], isOperator c = false := by
    intro c hc
    rcases List.mem_append.mp hc with hc | hc
    · exact (hleft.isInert c hc).1
    · obtain rfl := List.mem_singleton.mp hc
      rfl
  have hr : ∀ c ∈ ' ' :: right, isOperator c = false := by
    rw [List.forall_mem_cons]
    exact ⟨rfl, fun c hc => (hright.isInert c hc).1⟩
  rw [Environment.evaluate_of_dropParentheses (hleft.dropParentheses_operation hright op) hl
    hr, hleft.isTrimmed.trim_append isBlank_of_mem_space, ← List.singleton_append,
    hright.isTrimmed.trim_append_left isBlank_of_mem_space]

/-! ### Printed contents -/

lemma Environment.printed_of_value {content : Text} {value : Value}
    (h : env.value? content = some value) : env.printed content = value.render := by
  simp only [Environment.printed, h]

lemma Environment.printed_inScript {t : Text} (h : env.value? t.inScript = none) :
    env.printed t.inScript = t := by
  simp only [Environment.printed, h, Text.isQuoted_inScript, Text.inner_inScript, if_true]

/-- What names nothing and is no text between quotes is evaluated if there is an operator in
it. -/
lemma Environment.printed_of_not_isQuoted {content : Text} (h : env.value? content = none)
    (hquoted : content.isQuoted = false) : env.printed content =
      if (Operator.findIn? content.dropParentheses).isSome then (env.evaluate content).render
      else content := by
  simp only [Environment.printed, h, hquoted]
  cases Operator.findIn? content.dropParentheses <;> rfl

/-- A name is printed as its value, or as its own text. -/
lemma Environment.printed_name {t : Text} (h : t.IsName) :
    env.printed t = ((env.value? t).getD (.text t)).render := by
  cases hvalue : env.value? t with
  | some value => exact Environment.printed_of_value hvalue
  | none =>
    rw [Environment.printed_of_not_isQuoted hvalue h.isQuoted_eq_false,
      h.isTerm.isInert.dropParentheses_eq,
      Operator.findIn?_eq_none fun c hc => (h.isTerm.isInert c hc).1]
    rfl

end

end PlainEnglish
