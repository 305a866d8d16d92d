import PlainEnglish.Proofs.Compile.Declared

/-!
# Compiling strings

What the preview shows of a string that is declared and then printed by its name, and of a string
that is printed at once.

Main statement: `compile_string_iff`.
-/

namespace PlainEnglish

open Grammar

/-! ### The two programs -/

/-- A source text that declares a string as `x` and prints `x`. -/
def Text.asDeclaredAndPrinted (s : Text) : Text := s.asDeclared ++ '\n' :: "print x"

section

variable {s : Text}

lemma Text.IsDeclarable.parse_asDeclaredAndPrinted (h : s.IsDeclarable) :
    Program.parse s.asDeclaredAndPrinted = .ok (Expression.string s).declaredAndPrinted := by
  obtain ⟨a, b, hline⟩ := h.ofPhysicalLine_asDeclared
  exact Program.parse_declaredAndPrinted (fun c => h.isLineBreak_inScript)
    ⟨.string ⟨⟨.string, s, 1, a⟩, rfl⟩, []⟩ hline

lemma Text.IsDeclarable.parse_asPrinted (h : s.IsDeclarable) :
    Program.parse s.asPrinted = .ok [.printing (.string s) 1] := by
  obtain ⟨a, b, hline⟩ := h.ofPhysicalLine_asPrinted
  have hbreak : ∀ c ∈ s.asPrinted, isLineBreak c = false := by
    intro c hc
    rcases List.mem_append.mp hc with hc | hc
    · exact Text.forall_eq_false_of_any (by decide) c hc
    · exact h.isLineBreak_inScript hc
  have hne : s.asPrinted ≠ [] := List.append_ne_nil_of_right_ne_nil _ (List.cons_ne_nil _ _)
  have htokens : Token.ofLines s.asPrinted = [⟨.keyword .printWord, "print", 1, 1⟩,
      ⟨.string, s, 1, a⟩, ⟨.newline, ['\n'], 1, b⟩] := by
    rw [Token.ofLines, Text.lines_of_no_break hne hbreak, List.zipIdx_cons, List.zipIdx_nil,
      List.flatMap_cons, List.flatMap_nil, List.append_nil]
    exact hline
  exact Program.parse_eq_ok_iff.mpr ⟨[
    .printing ⟨⟨.keyword .printWord, "print", 1, 1⟩, rfl⟩
      ⟨.string ⟨⟨.string, s, 1, a⟩, rfl⟩, []⟩,
    .newline ⟨⟨.newline, ['\n'], 1, b⟩, rfl⟩], htokens.symm, rfl⟩

lemma Text.IsDeclarable.isScanned (h : s.IsDeclarable) : (Expression.string s).IsScanned :=
  .string fun hmem => absurd (h.isLineBreak_eq_false hmem) (by decide)

/-! ### Their previews -/

/-- What the preview shows of a declared string is the value that it reads for it. -/
lemma Text.IsDeclarable.compile_asDeclaredAndPrinted (h : s.IsDeclarable) : ∃ listing script,
    (compile Settings.standard s.asDeclaredAndPrinted).outcome =
      .compiled listing script (Environment.evaluate [] s.inScript).render [] :=
  compile_declaredAndPrinted h.parse_asDeclaredAndPrinted

/-- A string that is printed at once is shown as it is. -/
lemma Text.IsDeclarable.compile_asPrinted (h : s.IsDeclarable) : ∃ listing script,
    (compile Settings.standard s.asPrinted).outcome = .compiled listing script s [] := by
  have hflat : Statement.IsFlat (.printing (.string s) 1) := .operand (.string s)
  obtain ⟨trace, hline, hmirrors⟩ := Statement.afterLine_render Trace.mirrors_start hflat
    trivial h.isScanned 4
  have htrace : Trace.afterLines ⟨[], []⟩
      (List.zipIdx (List.map (Statement.render 0) [.printing (.string s) 1]) 4) = .ok trace := by
    simp only [List.map_cons, List.map_nil, List.zipIdx_cons, List.zipIdx_nil, Trace.afterLines,
      hline]
  have hlines : Text.join ['\n'] trace.lines = s := by
    rw [Trace.lines, hmirrors.printed]
    exact Text.join_singleton _ _
  have hcompiled := compile_of_trace h.parse_asPrinted (by
    simp only [List.forall_mem_cons]
    exact ⟨Statement.newline_not_mem_render hflat h.isScanned, List.forall_mem_nil _⟩) htrace
  rw [hlines] at hcompiled
  exact ⟨_, _, hcompiled⟩

end

/-- A string whose declaration is scanned to it is shown by the preview exactly if it has neither
an operator nor a parenthesis in it, and when it is printed at once it is always shown as it
is. -/
theorem compile_string_iff {s : Text} (h : s.IsDeclarable) :
    (∃ listing script output, (compile Settings.standard s.asDeclaredAndPrinted).outcome =
      .compiled listing script output [] ∧ (output = s ↔ s.IsInert)) ∧
    ∃ listing script,
      (compile Settings.standard s.asPrinted).outcome = .compiled listing script s [] := by
  obtain ⟨listing, script, houtcome⟩ := h.compile_asDeclaredAndPrinted
  exact ⟨⟨listing, script, _, houtcome, Environment.render_evaluate_inScript_iff s⟩,
    h.compile_asPrinted⟩

lemma Text.isDeclarable_hyphen : Text.IsDeclarable "a-b" := by
  unfold Text.IsDeclarable
  decide +kernel

/-- A declared string with a hyphen in it is shown as zero. -/
theorem compile_hyphen_changes : ¬∀ s : Text, s.IsDeclarable →
    (∃ listing script, (compile Settings.standard s.asDeclaredAndPrinted).outcome =
      .compiled listing script s []) ∧
    ∃ listing script,
      (compile Settings.standard s.asPrinted).outcome = .compiled listing script s [] := by
  intro h
  obtain ⟨⟨listing, script, hkept⟩, -⟩ := h "a-b" Text.isDeclarable_hyphen
  obtain ⟨listing', script', houtcome⟩ := Text.isDeclarable_hyphen.compile_asDeclaredAndPrinted
  have hzero : (Environment.evaluate [] (Text.inScript "a-b")).render = ['0'] := by
    decide +kernel
  rw [hzero, hkept, Outcome.compiled.injEq] at houtcome
  exact absurd houtcome.2.2.1 (by decide)

/-- Equals signs, number signs and quotes between the quotes do no harm. -/
theorem compile_string_marks :
    Text.IsDeclarable "a = \"b\" # c" ∧
    (∃ listing script,
      (compile Settings.standard (Text.asDeclaredAndPrinted "a = \"b\" # c")).outcome =
        .compiled listing script "a = \"b\" # c" []) ∧
    ∃ listing script, (compile Settings.standard (Text.asPrinted "a = \"b\" # c")).outcome =
      .compiled listing script "a = \"b\" # c" [] := by
  have h : Text.IsDeclarable "a = \"b\" # c" := by
    unfold Text.IsDeclarable
    decide +kernel
  have hinert : Text.IsInert "a = \"b\" # c" := Text.isInert_of_all (by decide)
  obtain ⟨⟨listing, script, output, houtcome, hiff⟩, hprinted⟩ := compile_string_iff h
  rw [hiff.mpr hinert] at houtcome
  exact ⟨h, ⟨listing, script, houtcome⟩, hprinted⟩

end PlainEnglish
