import PlainEnglish.Proofs.Compile.Numbers
import PlainEnglish.Proofs.Text.Columns

/-!
# Lines with a numeral

A declared numeral is one number, whatever signs are in it. A printed one is split at its signs
first: it is one number only if it has none, a sign in front of it stands where an operand is
expected, and the sign of its exponent is an operator between a name and a number.

Main statement: `Program.parse_numeral_line`.
-/

namespace PlainEnglish

open Grammar

/-! ### Signs of numerals -/

section

variable {t : Text}

lemma Text.IsSign.eq_nil_or_symbol {s : Text} (h : s.IsSign) :
    s = [] ∨ ∃ op : Operator, s = [op.symbol] := by
  rcases h with rfl | rfl | rfl
  · exact Or.inl rfl
  · exact Or.inr ⟨.plus, rfl⟩
  · exact Or.inr ⟨.minus, rfl⟩

lemma isOperator_eq_false_of_isDigit {c : Char} (h : isDigit c = true) :
    isOperator c = false := by
  by_contra hop
  obtain ⟨op, rfl⟩ := isOperator_iff.mp (Bool.of_not_eq_false hop)
  cases op <;> exact absurd h (by decide)

lemma Text.isFree_digits (h : ∀ c ∈ t, isDigit c = true ∨ c = '.') : t.IsFree := by
  intro c hc
  rcases h c hc with hc | rfl
  · exact isOperator_eq_false_of_isDigit hc
  · decide

lemma Text.IsFree.append {s : Text} (hs : s.IsFree) (ht : t.IsFree) : Text.IsFree (s ++ t) := by
  rw [Text.IsFree, List.forall_mem_append]
  exact ⟨hs, ht⟩

/-- What ends with the letter of an exponent is not a numeral. -/
lemma Text.isNumeral_append_letter {e : Char} (h : e = 'e' ∨ e = 'E') (t : Text) :
    Text.isNumeral (t ++ [e]) = false := by
  by_contra hnumeral
  obtain ⟨n, hn⟩ := Option.isSome_iff_exists.mp (Bool.of_not_eq_false hnumeral)
  have hlast := Numeral.getLast?_of_read? hn e (by simp)
  rcases h with rfl | rfl <;> exact absurd hlast (by decide)

/-- A numeral has no signs, or it begins with one, or it has one in its exponent only. -/
lemma Text.cases_of_isNumeral (h : t.isNumeral = true) :
    t.IsFree ∨ (∃ (op : Operator) (rest : Text), t = op.symbol :: rest) ∨
      ∃ (before : Text) (op : Operator) (digits : Text), t = before ++ op.symbol :: digits ∧
        before ≠ [] ∧ before.IsFree ∧ before.isNumeral = false ∧
        digits ≠ [] ∧ ∀ c ∈ digits, isDigit c = true := by
  obtain ⟨n, hn⟩ := Option.isSome_iff_exists.mp h
  obtain ⟨sign, mantissa, exponent, rfl, hsign, hne, hmantissa, hexponent⟩ :=
    Numeral.parts_of_read? hn
  have hfree := Text.isFree_digits hmantissa
  rcases hsign.eq_nil_or_symbol with rfl | ⟨op, rfl⟩
  · rcases hexponent with rfl | ⟨e, sign, digits, rfl, hletter, hsign, hdigits, hall⟩
    · left
      rwa [List.nil_append, List.append_nil]
    · have hletterFree : Text.IsFree [e] := by
        rintro c hc
        rw [List.mem_singleton.mp hc]
        rcases hletter with rfl | rfl <;> decide
      rcases hsign.eq_nil_or_symbol with rfl | ⟨op, rfl⟩
      · left
        exact hfree.append (hletterFree.append
          (Text.isFree_digits fun c hc => Or.inl (hall c hc)))
      · exact Or.inr (Or.inr ⟨mantissa ++ [e], op, digits, by simp, by simp,
          hfree.append hletterFree, Text.isNumeral_append_letter hletter mantissa, hdigits,
          hall⟩)
  · exact Or.inr (Or.inl ⟨op, mantissa ++ exponent, rfl⟩)

end

/-! ### Scanning the two lines -/

/-- The line that prints what a text spells. -/
def Text.printed (t : Text) : Text := "print " ++ t

/-- The tokens of the line that declares a text, with those of the text among them. -/
def Text.declaredRow (t : Text) (row : List Token) : List Token :=
  declaredTokens ++ (row ++ [⟨.newline, ['\n'], 1, t.length + 30⟩, ⟨.finish, [], 2, 1⟩])

/-- The tokens of the line that prints a text, with those of the text among them. -/
def Text.printedRow (t : Text) (row : List Token) : List Token :=
  ⟨.keyword .printWord, "print", 1, 1⟩ ::
    (row ++ [⟨.newline, ['\n'], 1, t.length + 7⟩, ⟨.finish, [], 2, 1⟩])

section

variable {t : Text}

lemma Text.IsWord.wordsFrom_eq (h : t.IsWord) (column : Nat) :
    t.wordsFrom column = [⟨t, column⟩] := by
  have hnone : ∀ c ∈ ([] : Text).head?, isBlank c = true := by simp
  have hwords := Text.wordsFrom_word h hnone column
  rwa [List.append_nil] at hwords

lemma Text.IsWord.isLineBreak_eq_false (h : t.IsWord) {c : Char} (hc : c ∈ t) :
    isLineBreak c = false := by
  by_contra hbreak
  have hblank := isBlank_of_isLineBreak (Bool.of_not_eq_false hbreak)
  rw [h.not_blank c hc] at hblank
  exact Bool.noConfusion hblank

/-- A word ends the line that it stands at the end of. -/
lemma Text.IsWord.trimEnd_append (h : t.IsWord) (before : Text) :
    Text.trimEnd (before ++ t) = before ++ t := by
  apply Text.trimEnd_eq_self
  intro c hc
  rw [List.getLast?_append_of_ne_nil _ h.ne_nil] at hc
  exact h.not_blank c (List.mem_of_mem_getLast? hc)

lemma Text.IsWord.scan_append (h : t.IsWord) {before : Text}
    (hbefore : ∀ c ∈ before, isLineBreak c = false) (hne : Text.words (before ++ t) ≠ []) :
    Token.scan (before ++ t) = Token.ofLine 1 (Text.words (before ++ t)) ++
      [⟨.newline, ['\n'], 1, t.length + (before.length + 1 : Nat)⟩, ⟨.finish, [], 2, 1⟩] := by
  have hbreak : ∀ c ∈ before ++ t, isLineBreak c = false := by
    rw [List.forall_mem_append]
    exact ⟨hbefore, fun c => h.isLineBreak_eq_false⟩
  have hlength : ((before ++ t).length : Int) + 1 = t.length + (before.length + 1 : Nat) := by
    rw [List.length_append]
    push_cast
    ring
  rw [Token.scan_of_no_break (List.append_ne_nil_of_right_ne_nil _ h.ne_nil) hbreak,
    Token.ofPhysicalLine_of_words hne, h.trimEnd_append, List.append_assoc, hlength]
  rfl

lemma Token.ofWords_singleton (scan : Int → Text → List Token) (t : Text) (column : Nat) :
    Token.ofWords scan [⟨t, column⟩] = scan column t := by
  rw [Token.ofWords_cons, Word.joined, List.map_singleton, Text.join_singleton]

lemma Text.words_printed (t : Text) : t.printed.words = ⟨"print", 1⟩ :: t.wordsFrom 7 := by
  have heq : t.printed = ("print" : Text) ++ ' ' :: t := rfl
  rw [heq, Text.words_eq_wordsFrom, Text.wordsFrom_append_space (by decide)
    (Text.forall_eq_false_of_any (by decide))]
  rfl

lemma Text.IsWord.scan_printed (h : t.IsWord) :
    Token.scan t.printed = t.printedRow (Token.ofContent 1 7 t) := by
  have hwords : t.printed.words = [⟨Keyword.printWord.text, 1⟩, ⟨t, 7⟩] :=
    t.words_printed.trans (congrArg _ (h.wordsFrom_eq 7))
  have hne : t.printed.words ≠ [] := hwords ▸ List.cons_ne_nil _ _
  have hscan : Token.scan t.printed = Token.ofLine 1 t.printed.words ++
      [⟨.newline, ['\n'], 1, t.length + 7⟩, ⟨.finish, [], 2, 1⟩] :=
    h.scan_append (Text.forall_eq_false_of_any (by decide)) hne
  rw [hscan, hwords, Token.ofLine_printing, Token.ofWords_singleton]
  rfl

lemma Text.IsWord.scan_declared (h : t.IsWord) (hvalue : t.IsValuePhrase) :
    Token.scan t.declared = t.declaredRow (Token.ofValue 1 30 t) := by
  have hwords : t.declared.words = declaredWords ++ [⟨t, 30⟩] :=
    t.words_declared.trans (congrArg _ (h.wordsFrom_eq 30))
  have hne : t.declared.words ≠ [] := hwords ▸ List.cons_ne_nil _ _
  have hscan : Token.scan t.declared = Token.ofLine 1 t.declared.words ++
      [⟨.newline, ['\n'], 1, t.length + 30⟩, ⟨.finish, [], 2, 1⟩] :=
    h.scan_append (Text.forall_eq_false_of_any (by decide)) hne
  have hparts := hvalue.isValuePart 30
  rw [h.wordsFrom_eq] at hparts
  rw [hscan, hwords, Token.ofLine_declared, List.takeWhile_eq_self_iff.mpr hparts,
    List.dropWhile_eq_nil_iff.mpr hparts, Token.ofWords_singleton, Token.ofLine, List.append_nil,
    List.append_assoc]
  rfl

end

/-! ### Parsing the two lines -/

/-- One clause on a line. -/
lemma Program.ofTokens_clause {c : Clause} (h : ∀ u ∈ c.tokens, u.IsReadable)
    (newline : Token.OfKind .newline) (finish : Token.OfKind .finish) :
    Program.ofTokens (c.tokens ++ [newline.val, finish.val]) = .ok c.statement?.toList := by
  refine Program.ofTokens_eq_ok_iff.mpr ⟨[c, .newline newline], finish, [], ?_, finish.property,
    ?_, ?_⟩
  · simp [Clause.tokens]
  · intro u hu
    rw [Derivation.tokens_cons, List.mem_append] at hu
    rcases hu with hu | hu
    · exact h u hu
    · obtain rfl : u = newline.val := by simpa [Clause.tokens] using hu
      exact newline.isReadable (by simp)
  · simp [Clause.statement?]

section

variable {t : Text} {chain : Chain}

lemma Program.ofTokens_declaredRow (h : ∀ u ∈ chain.tokens, u.IsReadable) :
    Program.ofTokens (t.declaredRow chain.tokens) =
      .ok [.declaration "x" chain.expression 1] := by
  have hclause := Program.ofTokens_clause (c := .declaration ⟨declaredTokens[0], rfl⟩
    ⟨declaredTokens[1], rfl⟩ ⟨declaredTokens[2], rfl⟩ ⟨declaredTokens[3], rfl⟩
    ⟨declaredTokens[4], rfl⟩ chain) (Clause.readable_declaration_iff.mpr h)
    ⟨⟨.newline, ['\n'], 1, t.length + 30⟩, rfl⟩ ⟨⟨.finish, [], 2, 1⟩, rfl⟩
  exact hclause

lemma Program.ofTokens_printedRow (h : ∀ u ∈ chain.tokens, u.IsReadable) :
    Program.ofTokens (t.printedRow chain.tokens) = .ok [.printing chain.expression 1] := by
  have hclause := Program.ofTokens_clause
    (c := .printing ⟨⟨.keyword .printWord, "print", 1, 1⟩, rfl⟩ chain)
    (Clause.readable_printing_iff.mpr h)
    ⟨⟨.newline, ['\n'], 1, t.length + 7⟩, rfl⟩ ⟨⟨.finish, [], 2, 1⟩, rfl⟩
  exact hclause

/-- Behind the keyword of a line that prints an operator is a syntax error. -/
lemma Program.ofTokens_printedRow_operator (op : Operator) (text : Text) (line column : Int)
    (row : List Token) :
    Program.ofTokens (t.printedRow (⟨.operator op, text, line, column⟩ :: row)) =
      .error (.grammar (.unexpected .operand ⟨.operator op, text, line, column⟩)) := by
  let stub : Stub := .printing ⟨⟨.keyword .printWord, "print", 1, 1⟩, rfl⟩ .empty
  have hreadable : ∀ u ∈ Derivation.tokens [] ++ stub.tokens, u.IsReadable := by
    simp [stub, Stub.tokens, Opening.tokens, Token.IsReadable]
  have hkind : Kind.operator op ∉ stub.wanted.kinds := by
    simp [stub, Stub.wanted, Expectation.kinds]
  exact Program.ofTokens_of_stub hreadable hkind

end

/-! ### Numerals -/

section

variable {t : Text} {line column : Int}

lemma Text.IsWord.ofExpression_eq (hword : t.IsWord) (hfree : t.IsFree) :
    Token.ofExpression line column t =
      [⟨if t.isNumeral then .number else .identifier, t, line, column⟩] := by
  have htrim := (Text.isTrimmed_of_not_blank hword.not_blank).trim_eq
  rw [Token.ofExpression, Text.fragments_of_isFree hfree, htrim, if_neg hword.ne_nil,
    List.map_singleton, Text.kind_ofFragment hfree]

lemma Number.ofText?_of_isNumeral (h : t.isNumeral = true) : ∃ x, Number.ofText? t = some x := by
  obtain ⟨n, hn⟩ := Option.isSome_iff_exists.mp h
  exact ⟨n.toNumber, Number.ofText?_of_read? hn⟩

/-- A numeral as an operand. -/
def Grammar.Primary.numeral (t : Text) (line column : Int) : Primary :=
  .number ⟨⟨.number, t, line, column⟩, rfl⟩

lemma Grammar.Primary.expression_numeral {x : Number} (h : Number.ofText? t = some x) :
    (Primary.numeral t line column).expression = .number x := by
  rw [Primary.numeral, Primary.expression, h, Option.getD_some]

lemma Grammar.Primary.isReadable_numeral {x : Number} (h : Number.ofText? t = some x) :
    (Primary.numeral t line column).token.IsReadable := by
  intro _
  rw [Primary.numeral, Primary.token, h, Option.isSome_some]

/-- A numeral on its own is read. -/
lemma Grammar.Chain.readable_numeral {x : Number} (h : Number.ofText? t = some x)
    (line column : Int) : ∀ u ∈ (Chain.mk (.numeral t line column) []).tokens, u.IsReadable := by
  intro u hu
  rw [List.mem_singleton.mp hu]
  exact Primary.isReadable_numeral h

lemma Grammar.Chain.expression_numeral {x : Number} (h : Number.ofText? t = some x) :
    (Chain.mk (.numeral t line column) []).expression = .number x := by
  rw [Chain.expression, List.foldl_nil, Primary.expression_numeral h]

/-- A declared numeral is the number that it names. -/
lemma Program.parse_declared_numeral (h : t.isNumeral = true) {x : Number}
    (hx : Number.ofText? t = some x) :
    Token.scan t.declared = t.declaredRow [⟨.number, t, 1, 30⟩] ∧
      Program.parse t.declared = .ok [.declaration "x" (.number x) 1] := by
  have hscan := (Text.isWord_of_isNumeral h).scan_declared (Text.isValuePhrase_of_isNumeral h)
  rw [Token.ofValue_numeral h] at hscan
  have hparse := Program.ofTokens_declaredRow (t := t) (Chain.readable_numeral hx 1 30)
  rw [Chain.expression_numeral hx] at hparse
  exact ⟨hscan, (congrArg Program.ofTokens hscan).trans hparse⟩

/-- A printed numeral without signs is the number that it names. -/
lemma Program.parse_printed_free (h : t.isNumeral = true) (hfree : t.IsFree) {x : Number}
    (hx : Number.ofText? t = some x) :
    Token.scan t.printed = t.printedRow [⟨.number, t, 1, 7⟩] ∧
      Program.parse t.printed = .ok [.printing (.number x) 1] := by
  have hword := Text.isWord_of_isNumeral h
  have hscan := hword.scan_printed
  rw [Token.ofContent, if_neg (by simp [Text.isQuoted_of_isNumeral h]),
    hword.ofExpression_eq hfree, if_pos h] at hscan
  have hparse := Program.ofTokens_printedRow (t := t) (Chain.readable_numeral hx 1 7)
  rw [Chain.expression_numeral hx] at hparse
  exact ⟨hscan, (congrArg Program.ofTokens hscan).trans hparse⟩

/-- A sign in front of a printed numeral stands where an operand is expected. -/
lemma Program.parse_printed_leading {op : Operator} {rest : Text}
    (h : Text.isNumeral (op.symbol :: rest) = true) :
    Token.scan (Text.printed (op.symbol :: rest)) = Text.printedRow (op.symbol :: rest)
        (⟨.operator op, [op.symbol], 1, 7⟩ :: Token.ofExpression 1 7 rest) ∧
      Program.parse (Text.printed (op.symbol :: rest)) =
        .error (.grammar (.unexpected .operand ⟨.operator op, [op.symbol], 1, 7⟩)) := by
  have hscan := (Text.isWord_of_isNumeral h).scan_printed
  have hnone : Token.ofExpression 1 7 [] = [] := rfl
  have hsplit := Token.ofExpression_append_symbol 1 7 [] op rest
  rw [List.nil_append, hnone, List.nil_append] at hsplit
  rw [Token.ofContent, if_neg (by simp [Text.isQuoted_of_isNumeral h]), hsplit] at hscan
  exact ⟨hscan, (congrArg Program.ofTokens hscan).trans
    (Program.ofTokens_printedRow_operator op _ 1 7 _)⟩

/-- The sign of the exponent of a printed numeral is an operator between a name and a number. -/
lemma Program.parse_printed_exponent {before digits : Text} {op : Operator}
    (h : Text.isNumeral (before ++ op.symbol :: digits) = true) (hne : before ≠ [])
    (hfree : before.IsFree) (hname : before.isNumeral = false) (hdigits : digits ≠ [])
    (hall : ∀ c ∈ digits, isDigit c = true) : ∃ y, Number.ofText? digits = some y ∧
      Token.scan (Text.printed (before ++ op.symbol :: digits)) =
        Text.printedRow (before ++ op.symbol :: digits) [⟨.identifier, before, 1, 7⟩,
          ⟨.operator op, [op.symbol], 1, 7⟩, ⟨.number, digits, 1, 7⟩] ∧
      Program.parse (Text.printed (before ++ op.symbol :: digits)) =
        .ok [.printing (.binary (.name before) op (.number y)) 1] := by
  have hword := Text.isWord_of_isNumeral h
  have hbefore : before.IsWord :=
    ⟨hne, fun c hc => hword.not_blank c (List.mem_append_left _ hc)⟩
  have hnumber : digits.isNumeral = true := by
    rw [Text.isNumeral, Numeral.read?_whole hall hdigits, Option.isSome_some]
  obtain ⟨y, hy⟩ := Number.ofText?_of_isNumeral hnumber
  have hscan := hword.scan_printed
  rw [Token.ofContent, if_neg (by simp [Text.isQuoted_of_isNumeral h]),
    Token.ofExpression_append_symbol, hbefore.ofExpression_eq hfree,
    if_neg (by simp [hname]), (Text.isWord_of_isNumeral hnumber).ofExpression_eq
      (Text.isFree_digits fun c hc => Or.inl (hall c hc)), if_pos hnumber] at hscan
  let chain : Chain := ⟨.name ⟨⟨.identifier, before, 1, 7⟩, rfl⟩,
    [⟨op, ⟨⟨.operator op, [op.symbol], 1, 7⟩, rfl⟩, .numeral digits 1 7⟩]⟩
  have hreadable : ∀ u ∈ chain.tokens, u.IsReadable := by
    have htokens : chain.tokens =
        [⟨.identifier, before, 1, 7⟩, ⟨.operator op, [op.symbol], 1, 7⟩,
      (Primary.numeral digits 1 7).token] := rfl
    intro u hu
    rw [htokens, List.mem_cons, List.mem_cons, List.mem_singleton] at hu
    rcases hu with rfl | rfl | rfl
    · exact Kind.noConfusion
    · exact Kind.noConfusion
    · exact Primary.isReadable_numeral hy
  have hexpression : chain.expression = .binary (.name before) op (.number y) :=
    congrArg (Expression.binary (.name before) op) (Primary.expression_numeral hy)
  have hparse := Program.ofTokens_printedRow (t := before ++ op.symbol :: digits) hreadable
  rw [hexpression] at hparse
  exact ⟨y, hy, hscan, (congrArg Program.ofTokens hscan).trans hparse⟩

/-- A declared numeral is one number. A printed one is the same number if it has no sign; a sign
in front of it is a syntax error; and at the sign of its exponent it falls apart into a name, an
operator and a number. -/
theorem Program.parse_numeral_line (h : t.isNumeral = true) : ∃ x, Number.ofText? t = some x ∧
    Token.scan t.declared = t.declaredRow [⟨.number, t, 1, 30⟩] ∧
    Program.parse t.declared = .ok [.declaration "x" (.number x) 1] ∧
    ((t.IsFree ∧ Token.scan t.printed = t.printedRow [⟨.number, t, 1, 7⟩] ∧
        Program.parse t.printed = .ok [.printing (.number x) 1]) ∨
      (∃ op rest, t = op.symbol :: rest ∧
        Token.scan t.printed = t.printedRow
          (⟨.operator op, [op.symbol], 1, 7⟩ :: Token.ofExpression 1 7 rest) ∧
        Program.parse t.printed =
          .error (.grammar (.unexpected .operand ⟨.operator op, [op.symbol], 1, 7⟩))) ∨
      ∃ before op digits y, t = before ++ op.symbol :: digits ∧ Number.ofText? digits = some y ∧
        Token.scan t.printed = t.printedRow [⟨.identifier, before, 1, 7⟩,
          ⟨.operator op, [op.symbol], 1, 7⟩, ⟨.number, digits, 1, 7⟩] ∧
        Program.parse t.printed =
        .ok [.printing (.binary (.name before) op (.number y)) 1]) := by
  obtain ⟨x, hx⟩ := Number.ofText?_of_isNumeral h
  obtain ⟨hscan, hparse⟩ := Program.parse_declared_numeral h hx
  refine ⟨x, hx, hscan, hparse, ?_⟩
  rcases Text.cases_of_isNumeral h with
    hfree | ⟨op, rest, rfl⟩ | ⟨before, op, digits, rfl, hne, hfree, hname, hdigits, hall⟩
  · exact Or.inl ⟨hfree, Program.parse_printed_free h hfree hx⟩
  · exact Or.inr (Or.inl ⟨op, rest, rfl, Program.parse_printed_leading h⟩)
  · obtain ⟨y, hy⟩ := Program.parse_printed_exponent h hne hfree hname hdigits hall
    exact Or.inr (Or.inr ⟨before, op, digits, y, rfl, hy⟩)

end

/-- A numeral with digits of two scripts and an exponent without a sign. -/
theorem Program.parse_numeral_line_unsigned : Text.isNumeral "٣.5E2" = true ∧ ∃ x,
    Number.ofText? "٣.5E2" = some x ∧
    Program.parse (Text.declared "٣.5E2") = .ok [.declaration "x" (.number x) 1] ∧
    Program.parse (Text.printed "٣.5E2") = .ok [.printing (.number x) 1] := by
  have hnumeral : Text.isNumeral "٣.5E2" = true := by decide
  have hfree (op : Operator) : op.symbol ∉ ("٣.5E2" : Text) := by cases op <;> decide
  obtain ⟨x, hx, -, hdeclared, hprinted⟩ := Program.parse_numeral_line hnumeral
  refine ⟨hnumeral, x, hx, hdeclared, ?_⟩
  rcases hprinted with ⟨-, -, h⟩ | ⟨op, rest, heq, -⟩ | ⟨before, op, digits, y, heq, -⟩
  · exact h
  · exact absurd (heq ▸ List.mem_cons_self) (hfree op)
  · exact absurd (heq ▸ List.mem_append_right before List.mem_cons_self) (hfree op)

/-- A number below zero is not printed as one number. -/
theorem Program.parse_printed_below_zero : ¬∀ t : Text, t.isNumeral = true →
    ∃ x, Number.ofText? t = some x ∧
      Token.scan t.declared = t.declaredRow [⟨.number, t, 1, 30⟩] ∧
      Program.parse t.declared = .ok [.declaration "x" (.number x) 1] ∧
      Token.scan t.printed = t.printedRow [⟨.number, t, 1, 7⟩] ∧
      Program.parse t.printed = .ok [.printing (.number x) 1] := by
  intro h
  have hnumeral : Text.isNumeral "-5" = true := by decide
  obtain ⟨x, -, -, -, -, hparse⟩ := h _ hnumeral
  have herror : Program.parse (Text.printed "-5") =
      .error (.grammar (.unexpected .operand ⟨.operator .minus, "-", 1, 7⟩)) :=
    (Program.parse_printed_leading
      (show Text.isNumeral (Operator.minus.symbol :: "5") = true from hnumeral)).2
  cases hparse.symm.trans herror

end PlainEnglish
