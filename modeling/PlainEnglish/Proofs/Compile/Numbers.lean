import PlainEnglish.Proofs.Compile.Declared
import PlainEnglish.Proofs.Program.RoundTrip

/-!
# Compiling numbers

What the preview shows of a number that is declared and then printed by its name. It reads the
number back from the script, where a minus sign is an operator without a left operand. All
numbers are shown in plain notation but one: the infinity below zero is written as a sign and a
word, and a word that names nothing counts as zero.

Main statement: `compile_numeral`.
-/

namespace PlainEnglish

open Grammar

/-! ### Reading numbers back -/

/-- A number in plain notation is read as a value that is printed in the same way, except for the
infinity below zero. -/
lemma Number.render_evaluate_plain (x : Number) :
    (Environment.evaluate [] x.plain).render =
      if x = .infinite true then ['0'] else x.plain := by
  have hword {t : Text} (ht : t.IsName) : (Environment.evaluate [] t).render = t :=
    congrArg Value.render (Environment.evaluate_name ht)
  cases x with
  | nan =>
    rw [if_neg (by simp)]
    exact hword ⟨by decide, List.all_eq_true.mp (by decide)⟩
  | infinite negative =>
    cases negative with
    | false =>
      rw [if_neg (by simp)]
      exact hword ⟨by decide, List.all_eq_true.mp (by decide)⟩
    | true =>
      -- the word behind the sign names nothing, so nothing is taken from nothing
      rw [if_pos rfl]
      decide +kernel
  | finite negative m =>
    rw [if_neg (by simp)]
    exact (Environment.evaluate_plain rfl negative m).render_eq

/-! ### Scanning numerals -/

section

variable {t : Text}

lemma Text.IsValuePhrase.ofPhysicalLine_declared (h : t.IsValuePhrase) : ∃ a b,
    Token.ofPhysicalLine t.declared 1 =
      declaredTokens ++ (Token.ofValue 1 a t ++ [⟨.newline, ['\n'], 1, b⟩]) := by
  obtain ⟨b, hline⟩ := Token.ofPhysicalLine_declared t
  obtain ⟨a, hvalue⟩ := h.1.exists_ofWords (Token.ofValue 1) 30
  have hparts := h.isValuePart 30
  refine ⟨a, b, ?_⟩
  rw [hline, List.takeWhile_eq_self_iff.mpr hparts, List.dropWhile_eq_nil_iff.mpr hparts, hvalue,
    Token.ofLine, List.append_nil, List.append_assoc]

lemma Token.ofValue_numeral (h : t.isNumeral = true) (line column : Int) :
    Token.ofValue line column t = [⟨.number, t, line, column⟩] := by
  simp [Token.ofValue, Text.isQuoted_of_isNumeral h, h]

lemma Program.parse_numeral (h : t.isNumeral = true) : ∃ x, Number.ofText? t = some x ∧
    Program.parse t.declaredAndPrinted = .ok (Expression.number x).declaredAndPrinted := by
  obtain ⟨n, hn⟩ := Option.isSome_iff_exists.mp h
  have hx := Number.ofText?_of_read? hn
  have hphrase := Text.isValuePhrase_of_isNumeral h
  obtain ⟨a, b, hline⟩ := hphrase.ofPhysicalLine_declared
  rw [Token.ofValue_numeral h] at hline
  have hparse := Program.parse_declaredAndPrinted (fun c => hphrase.1.isLineBreak_eq_false)
    ⟨.number ⟨⟨.number, t, 1, a⟩, rfl⟩, []⟩ hline
  refine ⟨n.toNumber, hx, ?_⟩
  rw [hparse, Chain.expression, List.foldl_nil, Primary.expression, hx, Option.getD_some]

/-- A numeral that is declared and printed is shown as its number in plain notation, but zero is
shown for the infinity below zero. -/
theorem compile_numeral (h : t.isNumeral = true) : ∃ x listing script,
    Number.ofText? t = some x ∧
    (compile Settings.standard t.declaredAndPrinted).outcome =
      .compiled listing script (if x = .infinite true then ['0'] else x.plain) [] := by
  obtain ⟨x, hx, hparse⟩ := Program.parse_numeral h
  obtain ⟨listing, script, houtcome⟩ := compile_declaredAndPrinted hparse
  rw [Expression.render, Number.render_evaluate_plain] at houtcome
  exact ⟨x, listing, script, hx, houtcome⟩

end

/-- A number too far below zero is not shown as the infinity that it is. -/
theorem compile_numeral_below_zero : ¬∀ t : Text, t.isNumeral = true → ∃ x listing script,
    Number.ofText? t = some x ∧
    (compile Settings.standard t.declaredAndPrinted).outcome =
      .compiled listing script x.plain [] := by
  intro h
  have hnumeral : Text.isNumeral "-1e999" = true := by decide +kernel
  have hinfinite : Number.ofText? "-1e999" = some (.infinite true) := by decide +kernel
  obtain ⟨x, listing, script, hx, houtcome⟩ := h _ hnumeral
  obtain ⟨x', hx', hparse⟩ := Program.parse_numeral hnumeral
  obtain rfl := Option.some.inj (hx.symm.trans hinfinite)
  obtain rfl := Option.some.inj (hx'.symm.trans hinfinite)
  obtain ⟨listing', script', houtcome'⟩ := compile_declaredAndPrinted hparse
  rw [Expression.render, Number.render_evaluate_plain, if_pos rfl, houtcome,
    Outcome.compiled.injEq] at houtcome'
  exact absurd houtcome'.2.2.1 (by decide)

/-- A numeral with a sign, a digit of another script, a bare point and an exponent. -/
theorem compile_numeral_signed : Text.isNumeral "-٣.e1" = true ∧ ∃ listing script,
    (compile Settings.standard (Text.declaredAndPrinted "-٣.e1")).outcome =
      .compiled listing script "-30" [] := by
  have hnumeral : Text.isNumeral "-٣.e1" = true := by decide +kernel
  have hx : Number.ofText? "-٣.e1" =
      some (.finite true ⟨4629137466983448576, by decide⟩) := by decide +kernel
  have hplain : Number.plain (.finite true ⟨4629137466983448576, by decide⟩) = "-30".toList := by
    decide +kernel
  obtain ⟨x, listing, script, hx', houtcome⟩ := compile_numeral hnumeral
  obtain rfl := Option.some.inj (hx'.symm.trans hx)
  rw [if_neg (by simp), hplain] at houtcome
  exact ⟨hnumeral, listing, script, houtcome⟩

end PlainEnglish
