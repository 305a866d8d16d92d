import Mathlib.Tactic
import Mathlib.Data.List.TakeWhile
import PlainEnglish.Script
import PlainEnglish.Token.Scan
import PlainEnglish.Proofs.Text.Split

/-!
# Scanned values

What the tokens of a value or of printed content look like: one string, one number, or the
fragments of an expression, of which those that are no operators hold no operator.
-/

namespace PlainEnglish

/-! ### Kinds -/

/-- Whether a kind is that of an operator. -/
def Kind.isOperator : Kind → Bool
  | .operator _ => true
  | _ => false

/-- Whether a kind is that of an operand. -/
def Kind.isOperand : Kind → Bool
  | .identifier | .number | .string => true
  | _ => false

lemma Kind.isOperand_eq_false_of_isOperator {kind : Kind} (h : kind.isOperator = true) :
    kind.isOperand = false := by
  cases kind <;> simp_all [Kind.isOperator, Kind.isOperand]

lemma Kind.name_injective : Function.Injective Kind.name := by
  have hname (kind : Kind) : Kind.ofName? kind.name = some kind := by
    cases kind with
    | keyword word => cases word <;> rfl
    | operator op => cases op <;> rfl
    | _ => rfl
  intro kind kind' h
  exact Option.some.inj ((hname kind).symm.trans (h ▸ hname kind'))

lemma Kind.isUpper_of_mem_name {kind : Kind} {c : Char} (h : c ∈ kind.name) :
    c.isUpper = true := by
  have hall : kind.name.all Char.isUpper = true := by
    cases kind with
    | keyword word => cases word <;> rfl
    | operator op => cases op <;> rfl
    | _ => rfl
  exact List.all_eq_true.mp hall c h

/-- An operand as it may stand beside an operator: a name or a number without a sign. -/
structure Token.IsBare (t : Token) : Prop where
  kind : t.kind = .identifier ∨ t.kind = .number
  text : ∀ c ∈ t.text, isOperator c = false

lemma Token.IsBare.isOperand {t : Token} (h : t.IsBare) : t.kind.isOperand = true := by
  rcases h.kind with h | h <;> simp [h, Kind.isOperand]

lemma Token.IsBare.minus_not_mem {t : Token} (h : t.IsBare) : '-' ∉ t.text := by
  intro hmem
  have hop : isOperator '-' = false := h.text _ hmem
  exact absurd hop (by decide)

/-! ### Operators -/

@[simp] lemma Operator.ofSymbol?_symbol (op : Operator) :
    Operator.ofSymbol? op.symbol = some op := by
  cases op <;> rfl

@[simp] lemma isOperator_symbol (op : Operator) : isOperator op.symbol = true := by
  simp [isOperator]

lemma isOperator_iff {c : Char} : isOperator c = true ↔ ∃ op : Operator, c = op.symbol := by
  constructor
  · intro h
    simp only [isOperator, Operator.ofSymbol?] at h
    split at h
    · exact ⟨.plus, rfl⟩
    · exact ⟨.minus, rfl⟩
    · exact ⟨.times, rfl⟩
    · exact ⟨.over, rfl⟩
    · simp at h
  · rintro ⟨op, rfl⟩
    exact isOperator_symbol op

lemma isBlank_symbol (op : Operator) : isBlank op.symbol = false := by
  cases op <;> decide

/-! ### Fragments -/

/-- A piece of an expression is an operator, or holds none. -/
def Text.IsPiece (piece : Text) : Prop :=
  (∃ op : Operator, piece = [op.symbol]) ∨ ∀ c ∈ piece, isOperator c = false

/-- The first piece holds no operator, so a character can be put in front of it. -/
lemma Text.pieces_eq_cons (t : Text) :
    ∃ first rest, t.foldr Text.consFragment [[]] = first :: rest ∧
      (∀ c ∈ first, isOperator c = false) ∧ ∀ piece ∈ rest, Text.IsPiece piece := by
  induction t with
  | nil => exact ⟨[], [], rfl, by simp, by simp⟩
  | cons c t ih =>
    obtain ⟨first, rest, heq, hfirst, hrest⟩ := ih
    rw [List.foldr_cons, heq, Text.consFragment]
    split
    · next hc =>
      obtain ⟨op, rfl⟩ := isOperator_iff.mp hc
      refine ⟨[], _, rfl, by simp, ?_⟩
      rw [List.forall_mem_cons, List.forall_mem_cons]
      exact ⟨Or.inl ⟨op, rfl⟩, Or.inr hfirst, hrest⟩
    · next hc =>
      rw [Bool.not_eq_true] at hc
      refine ⟨c :: first, rest, rfl, ?_, hrest⟩
      rw [List.forall_mem_cons]
      exact ⟨hc, hfirst⟩

lemma Text.mem_consFragment {c d : Char} {pieces : List Text} {piece : Text}
    (h : piece ∈ Text.consFragment c pieces) (hd : d ∈ piece) :
    d = c ∨ ∃ p ∈ pieces, d ∈ p := by
  rw [Text.consFragment] at h
  split at h
  · simp only [List.mem_cons] at h
    rcases h with rfl | rfl | h
    · simp at hd
    · exact Or.inl (List.mem_singleton.mp hd)
    · exact Or.inr ⟨piece, h, hd⟩
  · cases pieces with
    | nil =>
      obtain rfl := List.mem_singleton.mp h
      exact Or.inl (List.mem_singleton.mp hd)
    | cons first rest =>
      rcases List.mem_cons.mp h with rfl | h
      · exact (List.mem_cons.mp hd).imp_right fun hd => ⟨first, List.mem_cons_self, hd⟩
      · exact Or.inr ⟨piece, List.mem_cons_of_mem _ h, hd⟩

lemma Text.mem_of_mem_piece {t piece : Text} (h : piece ∈ t.foldr Text.consFragment [[]])
    {d : Char} (hd : d ∈ piece) : d ∈ t := by
  induction t generalizing piece with
  | nil =>
    obtain rfl := List.mem_singleton.mp h
    exact hd
  | cons c t ih =>
    rcases Text.mem_consFragment h hd with rfl | ⟨p, hp, hd⟩
    · exact List.mem_cons_self
    · exact List.mem_cons_of_mem _ (ih hp hd)

lemma Text.IsPiece.trim {piece : Text} (h : piece.IsPiece) : Text.IsPiece piece.trim := by
  rcases h with ⟨op, rfl⟩ | h
  · have htrimmed : Text.IsTrimmed [op.symbol] :=
      Text.isTrimmed_of_not_blank (by simp [isBlank_symbol])
    exact Or.inl ⟨op, htrimmed.trim_eq⟩
  · exact Or.inr fun c hc => h c (Text.mem_of_mem_trim hc)

lemma Text.isPiece_of_mem_fragments {t fragment : Text} (h : fragment ∈ t.fragments) :
    fragment.IsPiece ∧ ∀ c ∈ fragment, c ∈ t := by
  obtain ⟨piece, hpiece, rfl⟩ := List.mem_map.mp (List.mem_of_mem_filter h)
  obtain ⟨first, rest, heq, hfirst, hrest⟩ := Text.pieces_eq_cons t
  refine ⟨Text.IsPiece.trim ?_, fun c hc =>
    Text.mem_of_mem_piece hpiece (Text.mem_of_mem_trim hc)⟩
  rw [heq] at hpiece
  rcases List.mem_cons.mp hpiece with rfl | hpiece
  · exact Or.inr hfirst
  · exact hrest piece hpiece

lemma Kind.ofFragment_symbol (op : Operator) : Kind.ofFragment [op.symbol] = .operator op := by
  cases op <;> rfl

lemma Text.kind_ofFragment {fragment : Text} (h : ∀ c ∈ fragment, isOperator c = false) :
    Kind.ofFragment fragment = if fragment.isNumeral then .number else .identifier := by
  unfold Kind.ofFragment
  split
  · next c =>
    split
    · next op hop =>
      have := h c (by simp)
      simp [isOperator, hop] at this
    · rfl
  · rfl

/-! ### Quotes -/

lemma Text.isQuoted_inScript (t : Text) : t.inScript.isQuoted = true := by
  simp [Text.inScript, Text.isQuoted, Text.startsWith, Text.endsWith]

lemma Text.inScript_ne_nil (t : Text) : t.inScript ≠ [] := List.cons_ne_nil _ _

lemma Text.inner_inScript (t : Text) : t.inScript.inner = t := by
  simp [Text.inScript, Text.inner]

lemma Text.mem_inScript {t : Text} {c : Char} (h : c ∈ t.inScript) : c = '"' ∨ c ∈ t := by
  simp only [Text.inScript, List.cons_append, List.mem_cons, List.mem_append, List.not_mem_nil,
    or_false] at h
  tauto

/-- A text between quotes is what it has between them, between quotes. -/
lemma Text.inScript_inner {t : Text} (h : t.isQuoted = true) : t.inner.inScript = t := by
  simp only [Text.isQuoted, Bool.and_eq_true, decide_eq_true_eq, Text.startsWith, Text.endsWith,
    List.isPrefixOf_iff_prefix, List.isSuffixOf_iff_suffix] at h
  obtain ⟨⟨hlength, rest, rfl⟩, before, hbefore⟩ := h
  rcases List.eq_nil_or_concat' rest with rfl | ⟨init, last, rfl⟩
  · simp at hlength
  · rw [← List.append_assoc] at hbefore
    obtain rfl : '"' = last := (List.cons.inj (List.append_inj_right' hbefore rfl)).1
    simp [Text.inner, Text.inScript]

/-! ### Tokens of values -/

/-- A token of an expression is an operator or a bare operand. -/
lemma Token.of_mem_ofExpression {line column : Int} {text : Text} {t : Token}
    (h : t ∈ Token.ofExpression line column text) :
    (t.kind.isOperator = true ∨ t.IsBare) ∧ (t.kind = .number → t.text.isNumeral = true) ∧
      (∀ c ∈ t.text, c ∈ text) ∧ t.line = line := by
  obtain ⟨fragment, hfragment, rfl⟩ := List.mem_map.mp h
  obtain ⟨hpiece, hmem⟩ := Text.isPiece_of_mem_fragments hfragment
  refine ⟨?_, ?_, hmem, rfl⟩
  · rcases hpiece with ⟨op, rfl⟩ | hpiece
    · simp [Kind.ofFragment_symbol, Kind.isOperator]
    · refine Or.inr ⟨?_, hpiece⟩
      simp only [Text.kind_ofFragment hpiece]
      split
      · exact Or.inr rfl
      · exact Or.inl rfl
  · rcases hpiece with ⟨op, rfl⟩ | hpiece
    · simp [Kind.ofFragment_symbol]
    · simp only [Text.kind_ofFragment hpiece]
      split
      · next hnumeral => exact fun _ => hnumeral
      · simp

/-- The tokens of a value or of printed content are a single operand, or those of an
expression. -/
inductive Token.IsValueRow (line : Int) (text : Text) : List Token → Prop where
  | string (column : Int) (quoted : text.isQuoted = true) :
      Token.IsValueRow line text [⟨.string, text.inner, line, column⟩]
  | number (column : Int) (numeral : text.isNumeral = true) :
      Token.IsValueRow line text [⟨.number, text, line, column⟩]
  | expression (column : Int) : Token.IsValueRow line text (Token.ofExpression line column text)

lemma Token.isValueRow_ofValue (line column : Int) (text : Text) :
    Token.IsValueRow line text (Token.ofValue line column text) := by
  rw [Token.ofValue]
  split
  · next h => exact .string column h
  · split
    · next h => exact .number column h
    · exact .expression column

lemma Token.isValueRow_ofContent (line column : Int) (text : Text) :
    Token.IsValueRow line text (Token.ofContent line column text) := by
  rw [Token.ofContent]
  split
  · next h => exact .string column h
  · exact .expression column

section

variable {line : Int} {text : Text} {row : List Token}

lemma Token.IsValueRow.kind_of_mem (h : Token.IsValueRow line text row) {t : Token}
    (ht : t ∈ row) :
    t.kind.isOperator = true ∨ t.kind.isOperand = true := by
  cases h with
  | string => simp [List.mem_singleton.mp ht, Kind.isOperand]
  | number => simp [List.mem_singleton.mp ht, Kind.isOperand]
  | expression =>
    rcases (Token.of_mem_ofExpression ht).1 with h | h
    · exact Or.inl h
    · exact Or.inr h.isOperand

lemma Token.IsValueRow.isNumeral (h : Token.IsValueRow line text row) {t : Token} (ht : t ∈ row)
    (hnumber : t.kind = .number) : t.text.isNumeral = true := by
  cases h with
  | string => simp [List.mem_singleton.mp ht] at hnumber
  | number column numeral => simpa [List.mem_singleton.mp ht] using numeral
  | expression => exact (Token.of_mem_ofExpression ht).2.1 hnumber

lemma Token.IsValueRow.mem_text (h : Token.IsValueRow line text row) {t : Token} (ht : t ∈ row)
    {c : Char} (hc : c ∈ t.text) : c ∈ text := by
  cases h with
  | string =>
    obtain rfl := List.mem_singleton.mp ht
    exact List.mem_of_mem_tail (List.mem_of_mem_dropLast hc)
  | number =>
    obtain rfl := List.mem_singleton.mp ht
    exact hc
  | expression => exact (Token.of_mem_ofExpression ht).2.2.1 c hc

end

end PlainEnglish
