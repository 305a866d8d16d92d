import PlainEnglish.Proofs.Preview.Statement
import PlainEnglish.Proofs.Preview.Strings
import PlainEnglish.Proofs.Token.Declared

/-!
# Declaring and printing

A source text that declares a value and prints the variable by its name. The preview shows what
it makes of the written value.

Main statement: `compile_declaredAndPrinted`.
-/

namespace PlainEnglish

open Grammar

/-- A source text that declares what a text spells as `x` and prints `x`. -/
def Text.declaredAndPrinted (t : Text) : Text := t.declared ++ '\n' :: "print x"

/-- A program that declares a value as `x` and prints `x`. -/
def Expression.declaredAndPrinted (e : Expression) : Program :=
  [.declaration "x" e 1, .printing (.name "x") 2]

/-- The tokens of a line that prints `x`. -/
lemma Token.ofPhysicalLine_printing_name : Token.ofPhysicalLine "print x" 2 =
    [⟨.keyword .printWord, "print", 2, 1⟩, ⟨.identifier, "x", 2, 7⟩,
      ⟨.newline, ['\n'], 2, 8⟩] := by
  decide +kernel

/-- A source text is such a program if its first line is scanned as a declaration of the
value. -/
lemma Program.parse_declaredAndPrinted {t : Text} (hbreak : ∀ c ∈ t, isLineBreak c = false)
    (chain : Chain) {column : Int} (hline : Token.ofPhysicalLine t.declared 1 =
      declaredTokens ++ (chain.tokens ++ [⟨.newline, ['\n'], 1, column⟩])) :
    Program.parse t.declaredAndPrinted = .ok chain.expression.declaredAndPrinted := by
  have hdeclared : ∀ c ∈ t.declared, isLineBreak c = false := by
    intro c hc
    rcases List.mem_append.mp hc with hc | hc
    · exact Text.forall_eq_false_of_any (by decide) c hc
    · exact hbreak c hc
  have hlast : Text.lines "print x" = [("print x" : Text)] := by decide
  have htokens : Token.ofLines t.declaredAndPrinted =
      declaredTokens ++ (chain.tokens ++ [⟨.newline, ['\n'], 1, column⟩]) ++
        [⟨.keyword .printWord, "print", 2, 1⟩, ⟨.identifier, "x", 2, 7⟩,
          ⟨.newline, ['\n'], 2, 8⟩] := by
    rw [Token.ofLines, Text.declaredAndPrinted, Text.lines_append_newline hdeclared, hlast,
      List.zipIdx_cons, List.zipIdx_cons, List.zipIdx_nil, List.flatMap_cons, List.flatMap_cons,
      List.flatMap_nil, List.append_nil]
    exact congrArg₂ _ hline Token.ofPhysicalLine_printing_name
  refine Program.parse_eq_ok_iff.mpr ⟨[
    .declaration ⟨declaredTokens[0], rfl⟩ ⟨declaredTokens[1], rfl⟩ ⟨declaredTokens[2], rfl⟩
      ⟨declaredTokens[3], rfl⟩ ⟨declaredTokens[4], rfl⟩ chain,
    .newline ⟨⟨.newline, ['\n'], 1, column⟩, rfl⟩,
    .printing ⟨⟨.keyword .printWord, "print", 2, 1⟩, rfl⟩
      ⟨.name ⟨⟨.identifier, "x", 2, 7⟩, rfl⟩, []⟩,
    .newline ⟨⟨.newline, ['\n'], 2, 8⟩, rfl⟩], ?_, rfl⟩
  rw [htokens]
  simp [Derivation.tokens, Clause.tokens, declaredTokens, Chain.tokens, Primary.token]

/-- What the preview shows of a declared value is what it reads for it. -/
theorem compile_declaredAndPrinted {source : Text} {e : Expression}
    (h : Program.parse source = .ok e.declaredAndPrinted) : ∃ listing script,
    (compile Settings.standard source).outcome =
      .compiled listing script (Environment.evaluate [] e.render).render [] := by
  have hx : Text.IsName "x" := ⟨by decide, List.forall_mem_nil _⟩
  have hfits : ∀ s ∈ e.declaredAndPrinted, s.FitsLine := fun s => Program.fitsLine_of_parse h
  have hvalue : e.render.FitsLine := (hfits (.declaration "x" e 1) (by simp
    [Expression.declaredAndPrinted])).2
  let env : Environment := Environment.define [] "x" (Environment.evaluate [] e.render)
  have hfirst : Trace.afterLine ⟨[], []⟩ 4 (Statement.render 0 (.declaration "x" e 1)) =
      .ok ⟨[], env⟩ := Trace.afterLine_declaration _ _ hx hvalue.isTrimmed hvalue.ne_nil
  have hecho : env.echo "x" = env := if_neg (by decide)
  have hshown : env.printed "x" = (Environment.evaluate [] e.render).render :=
    Environment.printed_of_value rfl
  have hsecond : Trace.afterLine ⟨[], env⟩ (4 + 1)
      (Statement.render 0 (.printing (.name "x") 2)) =
      .ok ⟨[env.printed "x"], env⟩ := by
    have hline := Trace.afterLine_printing ⟨[], env⟩ (4 + 1) hx.isTerm.isTrimmed
    rw [hecho] at hline
    exact hline
  have htrace : Trace.afterLines ⟨[], []⟩
      ((e.declaredAndPrinted.map (Statement.render 0)).zipIdx 4) =
      .ok ⟨[env.printed "x"], env⟩ := by
    simp only [Expression.declaredAndPrinted, List.map_cons, List.map_nil, List.zipIdx_cons,
      List.zipIdx_nil, Trace.afterLines, hfirst, hsecond]
  have hcompiled := compile_of_trace h (fun s hs => (hfits s hs).render.newline_not_mem) htrace
  rw [Trace.lines, List.reverse_singleton, Text.join_singleton, hshown] at hcompiled
  exact ⟨_, _, hcompiled⟩

end PlainEnglish
