import PlainEnglish.Proofs.Text.Phrase
import PlainEnglish.Proofs.Token.Fragment
import PlainEnglish.Proofs.Token.Line

/-!
# Splitting rows of words

The tokens of a value or of printed content are its words, cut up at the operators and put
together between them. Nothing is lost on the way, nothing is added, and all stays in order.

Main statement: `Token.splits_ofWords`.
-/

namespace PlainEnglish

/-- The characters of a row of tokens that are not blank, in order. -/
def Token.letters (tokens : List Token) : Text :=
  (tokens.flatMap Token.text).filter fun c => !isBlank c

/-- The operator that a token stands for, if it stands for one. -/
def Token.operator? (t : Token) : Option Operator :=
  match t.kind with
  | .operator op => some op
  | _ => none

/-- Tokens are what a row of words falls apart into. They have the characters of the words, one
operator for each character of the words that stands for it, and between the operators names and
numbers that have neither an operator in them nor a blank at an end. -/
structure Token.Splits (words : List Word) (tokens : List Token) : Prop where
  letters : Token.letters tokens = words.flatMap Word.text
  operators : tokens.filterMap Token.operator? =
    (Word.joined words).filterMap Operator.ofSymbol?
  operator_text : ∀ t ∈ tokens, ∀ op, t.kind = .operator op → t.text = [op.symbol]
  operand_kind : ∀ t ∈ tokens, t.kind.isOperator = false →
    t.kind = if t.text.isNumeral then .number else .identifier
  operand_text : ∀ t ∈ tokens, t.kind.isOperator = false →
    t.text ≠ [] ∧ t.text.IsTrimmed ∧ t.text.IsFree
  alternate : tokens.IsChain Token.Alternate
  ne_nil : words ≠ [] → tokens ≠ []

/-! ### Letters -/

lemma Token.letters_append (tokens tokens' : List Token) :
    Token.letters (tokens ++ tokens') = Token.letters tokens ++ Token.letters tokens' := by
  rw [Token.letters, List.flatMap_append, List.filter_append]
  rfl

lemma Token.letters_ofExpression (line column : Int) (t : Text) :
    Token.letters (Token.ofExpression line column t) = t.filter fun c => !isBlank c := by
  have htexts : (Token.ofExpression line column t).flatMap Token.text = t.fragments.flatten := by
    rw [Token.ofExpression, List.flatMap_map, List.flatMap_id']
  rw [Token.letters, htexts, Text.filter_flatten_fragments]

/-! ### Operators and operands -/

lemma Operator.ofSymbol?_eq_none {c : Char} (h : isOperator c = false) :
    Operator.ofSymbol? c = none := by
  simpa [isOperator] using h

lemma Token.operator?_ofFragment {fragment : Text} (h : fragment.IsFree) (line column : Int) :
    Token.operator? ⟨Kind.ofFragment fragment, fragment, line, column⟩ = none := by
  rw [Token.operator?, Text.kind_ofFragment h]
  by_cases hnumeral : fragment.isNumeral = true
  · rw [if_pos hnumeral]
  · rw [if_neg hnumeral]

/-- An expression has the operators that stand in its text, in the same order. -/
lemma Token.filterMap_operator?_ofExpression (line column : Int) (t : Text) :
    (Token.ofExpression line column t).filterMap Token.operator? =
      t.filterMap Operator.ofSymbol? := by
  have hfree {t : Text} (ht : t.IsFree) :
      (Token.ofExpression line column t).filterMap Token.operator? = [] ∧
        t.filterMap Operator.ofSymbol? = [] := by
    constructor
    · rw [List.filterMap_eq_nil_iff]
      intro token htoken
      obtain ⟨fragment, hfragment, rfl⟩ := List.mem_map.mp htoken
      apply Token.operator?_ofFragment
      intro c hc
      exact ht c ((Text.isPiece_of_mem_fragments hfragment).2 c hc)
    · rw [List.filterMap_eq_nil_iff]
      intro c hc
      exact Operator.ofSymbol?_eq_none (ht c hc)
  induction t using Text.operatorInduction with
  | free t ht => rw [(hfree ht).1, (hfree ht).2]
  | symbol t op u ht ih =>
    have hsymbol : Token.operator? ⟨.operator op, [op.symbol], line, column⟩ = some op := rfl
    rw [Token.ofExpression_append_symbol, List.filterMap_append, (hfree ht).1, List.nil_append,
      List.filterMap_cons_some hsymbol, ih, List.filterMap_append, (hfree ht).2, List.nil_append,
      List.filterMap_cons_some (Operator.ofSymbol?_symbol op)]

/-- A token of an expression is an operator with its symbol, or an operand as it stands between
two operators. -/
lemma Token.cases_of_mem_ofExpression {line column : Int} {text : Text} {t : Token}
    (h : t ∈ Token.ofExpression line column text) :
    (∃ op, t.kind = .operator op ∧ t.text = [op.symbol]) ∨
      (t.kind = (if t.text.isNumeral then .number else .identifier) ∧
        t.text ≠ [] ∧ t.text.IsTrimmed ∧ t.text.IsFree) := by
  obtain ⟨fragment, hfragment, rfl⟩ := List.mem_map.mp h
  obtain ⟨hne, htrimmed⟩ := Text.isTrimmed_of_mem_fragments hfragment
  rcases (Text.isPiece_of_mem_fragments hfragment).1 with ⟨op, rfl⟩ | hfree
  · exact Or.inl ⟨op, Kind.ofFragment_symbol op, rfl⟩
  · exact Or.inr ⟨Text.kind_ofFragment hfree, hne, htrimmed, hfree⟩

/-! ### Rows of words -/

section

variable {words : List Word}

lemma Word.flatMap_text_ne_nil (hne : words ≠ []) (hwords : ∀ word ∈ words, word.text.IsWord) :
    words.flatMap Word.text ≠ [] := by
  obtain ⟨word, rest, rfl⟩ := List.exists_cons_of_ne_nil hne
  rw [List.flatMap_cons]
  exact List.append_ne_nil_of_left_ne_nil (hwords word List.mem_cons_self).ne_nil _

lemma Token.splits_ofExpression (hwords : ∀ word ∈ words, word.text.IsWord) (line column : Int) :
    Token.Splits words (Token.ofExpression line column (Word.joined words)) := by
  have hletters : Token.letters (Token.ofExpression line column (Word.joined words)) =
      words.flatMap Word.text := by
    rw [Token.letters_ofExpression, Word.filter_joined fun word hword =>
      (hwords word hword).not_blank]
  have hoperand {t : Token} (ht : t ∈ Token.ofExpression line column (Word.joined words))
      (hkind : t.kind.isOperator = false) :
      t.kind = (if t.text.isNumeral then .number else .identifier) ∧
        t.text ≠ [] ∧ t.text.IsTrimmed ∧ t.text.IsFree := by
    rcases Token.cases_of_mem_ofExpression ht with ⟨op, hop, -⟩ | h
    · simp [hop, Kind.isOperator] at hkind
    · exact h
  constructor
  · exact hletters
  · exact Token.filterMap_operator?_ofExpression line column (Word.joined words)
  · intro t ht op hop
    rcases Token.cases_of_mem_ofExpression ht with ⟨op', hop', htext⟩ | ⟨hkind, -⟩
    · obtain rfl := Kind.operator.inj (hop.symm.trans hop')
      exact htext
    · rw [hop] at hkind
      split at hkind <;> cases hkind
  · intro t ht hkind
    exact (hoperand ht hkind).1
  · intro t ht hkind
    exact (hoperand ht hkind).2
  · exact Token.isChain_ofExpression line column (Word.joined words)
  · intro hne hnil
    rw [hnil] at hletters
    exact Word.flatMap_text_ne_nil hne hwords hletters.symm

/-- What the scan of words makes of them if it takes them as an expression. -/
lemma Token.splits_of_scan {scan : Int → Text → List Token} (line : Int)
    (hwords : ∀ word ∈ words, word.text.IsWord)
    (hscan : ∀ column, scan column (Word.joined words) =
      Token.ofExpression line column (Word.joined words)) :
    Token.Splits words (Token.ofWords scan words) := by
  cases words with
  | nil => exact Token.splits_ofExpression hwords line 0
  | cons word words =>
    rw [Token.ofWords_cons, hscan]
    exact Token.splits_ofExpression hwords line word.column

/-- Words that do not stand between quotes are split as printed content, and as a declared value
too if they are not a numeral as a whole. -/
theorem Token.splits_ofWords (hwords : ∀ word ∈ words, word.text.IsWord)
    (hquoted : (Word.joined words).isQuoted = false) (line : Int) :
    Token.Splits words (Token.ofWords (Token.ofContent line) words) ∧
      ((Word.joined words).isNumeral = false →
        Token.Splits words (Token.ofWords (Token.ofValue line) words)) := by
  constructor
  · apply Token.splits_of_scan line hwords
    intro column
    simp [Token.ofContent, hquoted]
  · intro hnumeral
    apply Token.splits_of_scan line hwords
    intro column
    simp [Token.ofValue, hquoted, hnumeral]

end

/-- Words with an operator at an end, in their midst, and two side by side. -/
def gluedWords : List Word :=
  [⟨"-2.5", 7⟩, ⟨"*", 12⟩, ⟨"unit\u00b2", 15⟩, ⟨"price/", 22⟩, ⟨"-٣e+1", 30⟩]

theorem Token.splits_ofWords_gluedWords :
    Token.Splits gluedWords (Token.ofWords (Token.ofContent 1) gluedWords) ∧
      Token.Splits gluedWords (Token.ofWords (Token.ofValue 1) gluedWords) ∧
      (Token.ofWords (Token.ofValue 1) gluedWords).map (fun t => (t.kind, t.text)) =
        ([(.operator .minus, "-"), (.number, "2.5"), (.operator .times, "*"),
          (.identifier, "unit\u00b2 price"), (.operator .over, "/"), (.operator .minus, "-"),
          (.identifier, "٣e"), (.operator .plus, "+"), (.number, "1")] :
          List (Kind × Text)) := by
  have hparts : ∀ word ∈ gluedWords, word.text ≠ [] ∧ word.text.any isBlank = false := by decide
  have hwords : ∀ word ∈ gluedWords, word.text.IsWord := by
    intro word hword
    obtain ⟨hne, hblank⟩ := hparts word hword
    exact ⟨hne, Text.forall_eq_false_of_any hblank⟩
  have hquoted : (Word.joined gluedWords).isQuoted = false := by decide
  have hnumeral : (Word.joined gluedWords).isNumeral = false := by decide
  obtain ⟨hcontent, hvalue⟩ := Token.splits_ofWords hwords hquoted 1
  exact ⟨hcontent, hvalue hnumeral, by decide⟩

end PlainEnglish
