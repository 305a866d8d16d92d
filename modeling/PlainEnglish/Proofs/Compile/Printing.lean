import PlainEnglish.Proofs.Compile.Growth
import PlainEnglish.Proofs.Preview.Refine
import PlainEnglish.Proofs.Preview.Statement

/-!
# What compiled programs print

The preview of a script goes through one line for each statement. It fails at the first
declaration of a name that begins with an equals sign, and if there is none it shows a line for
every statement that prints, in order.

Main statement: `compile_printed_lines`.
-/

namespace PlainEnglish

/-- The preview of a program with the standard settings. -/
def Program.preview (p : Program) : Preview := Preview.ofScript (p.script Settings.standard)

/-! ### The lines of a script -/

/-- The lines of the header and of the statements, each on its own. -/
lemma Program.splitAt_script {p : Program} (hp : ∀ s ∈ p, s.FitsLine) :
    Text.splitAt '\n' (p.script Settings.standard) =
      ["#!/usr/bin/env python3".toList, "# Generated from EBPL".toList, []] ++
        p.map (Statement.render 0) := by
  rw [Program.script, Text.splitAt_join (by simp [Program.scriptLines])]
  · rfl
  · change ∀ line ∈ ["#!/usr/bin/env python3".toList, "# Generated from EBPL".toList, []] ++
      p.map (Statement.render 0), '\n' ∉ line
    rw [List.forall_mem_append, List.forall_mem_map]
    exact ⟨by decide, fun s hs => (hp s hs).render.newline_not_mem⟩

/-- The script of a longer program is traced from where that of the shorter one has got to. -/
lemma Trace.ofScript_append {p q : Program} (hp : ∀ s ∈ p ++ q, s.FitsLine) :
    Trace.ofScript (Program.script Settings.standard (p ++ q)) =
      (Trace.ofScript (p.script Settings.standard)).bind fun trace =>
        trace.afterLines ((q.map (Statement.render 0)).zipIdx (p.length + 4)) := by
  have hnewline : ∀ s ∈ p ++ q, '\n' ∉ Statement.render 0 s :=
    fun s hs => (hp s hs).render.newline_not_mem
  rw [Trace.ofScript_standard hnewline,
    Trace.ofScript_standard fun s hs => hnewline s (List.mem_append_left q hs), List.map_append,
    List.zipIdx_append, Trace.afterLines_append, List.length_map, Nat.add_comm]

/-! ### Previews of programs -/

/-- What the statements of a program print: a line for each of those that do, in their order,
with the values that the variables have behind it. -/
def Program.printedLines (p : Program) : List Text :=
  (p.zipIdx.filter fun (s, _) => s.prints).map fun (s, i) =>
    (Program.preview (p.take (i + 1))).env.printed s.content

lemma Program.printedLines_concat (p : Program) (s : Statement) :
    Program.printedLines (p ++ [s]) = p.printedLines ++
      if s.prints then [(Program.preview (p ++ [s])).env.printed s.content] else [] := by
  have hlast : (p ++ [s]).take (p.length + 1) = p ++ [s] := List.take_of_length_le (by simp)
  rw [Program.printedLines, List.zipIdx_append, List.filter_append, List.map_append]
  refine congrArg₂ (· ++ ·) ?_ ?_
  · apply List.map_congr_left
    rintro ⟨t, i⟩ hentry
    have hlt := List.snd_lt_of_mem_zipIdx (List.mem_of_mem_filter hentry)
    have htake : (p ++ [s]).take (i + 1) = p.take (i + 1) :=
      List.take_append_of_le_length (by simpa using hlt)
    simp only [htake]
  · by_cases hprints : s.prints = true
    · simp [hprints, hlast]
    · simp [hprints]

lemma Program.preview_of_ok {p : Program} {trace : Trace}
    (h : Trace.ofScript (p.script Settings.standard) = .ok trace) :
    p.preview = ⟨trace.lines, [], trace.env⟩ := by
  rw [Program.preview, Preview.ofScript, h]

/-- The preview of a program in which every declaration has a name to assign to. -/
lemma Program.preview_of_named {p : Program} (hp : ∀ s ∈ p, s.FitsLine)
    (hnamed : ∀ s ∈ p, s.isNameless = false) : ∃ trace,
      Trace.ofScript (p.script Settings.standard) = .ok trace ∧
        trace.lines = p.printedLines := by
  induction p using List.reverseRecOn with
  | nil => exact ⟨⟨[], []⟩, Trace.ofScript_standard (p := []) (by simp), rfl⟩
  | append_singleton p s ih =>
    rw [List.forall_mem_append, List.forall_mem_singleton] at hnamed
    obtain ⟨trace, htrace, hlines⟩ := ih (fun t ht => hp t (by simp [ht])) hnamed.1
    have hline := Trace.afterLine_statement trace (p.length + 4) (hp s (by simp))
    rw [hnamed.2, if_neg (by simp)] at hline
    obtain ⟨env, hline⟩ := hline
    have hscript := Trace.ofScript_append hp
    rw [htrace, List.map_singleton, List.zipIdx_singleton] at hscript
    simp only [Except.bind, Trace.afterLines, hline] at hscript
    refine ⟨_, hscript, ?_⟩
    rw [Program.printedLines_concat, Program.preview_of_ok hscript, ← hlines]
    by_cases hprints : s.prints = true <;> simp [hprints, Trace.lines]

/-- The preview of a program fails at the first declaration that has no name to assign to. -/
lemma Program.preview_of_nameless {before after : Program} {s : Statement}
    (hp : ∀ t ∈ before ++ s :: after, t.FitsLine) (hnamed : ∀ t ∈ before, t.isNameless = false)
    (hnameless : s.isNameless = true) : Program.preview (before ++ s :: after) =
      ⟨[], PreviewError.report ⟨before.length + 4, s.render 0⟩, []⟩ := by
  obtain ⟨trace, htrace, -⟩ := Program.preview_of_named
    (fun t ht => hp t (List.mem_append_left _ ht)) hnamed
  have hline := Trace.afterLine_statement trace (before.length + 4) (hp s (by simp))
  rw [if_pos hnameless] at hline
  have hscript := Trace.ofScript_append hp
  rw [htrace, List.map_cons, List.zipIdx_cons] at hscript
  simp only [Except.bind, Trace.afterLines, hline] at hscript
  rw [Program.preview, Preview.ofScript, hscript]

/-! ### Compilations -/

/-- A compilation shows the preview of its program. -/
lemma compile_preview {source : Text} {p : Program} (h : Program.parse source = .ok p) :
    (compile Settings.standard source).outcome =
      .compiled (Token.listing Settings.standard.tokenPadWidth (Token.scan source))
        (p.script Settings.standard) p.preview.output p.preview.report := compile_standard h

/-- There is a first declaration without a name to assign to, if there is any. -/
lemma Program.exists_first_nameless {p : Program} (h : ∃ s ∈ p, s.isNameless = true) :
    ∃ before s after, p = before ++ s :: after ∧ s.isNameless = true ∧
      ∀ t ∈ before, t.isNameless = false := by
  obtain ⟨s, hs⟩ := Option.isSome_iff_exists.mp (List.find?_isSome.mpr h)
  obtain ⟨hnameless, before, after, heq, hbefore⟩ := List.find?_eq_some_iff_append.mp hs
  exact ⟨before, s, after, heq, hnameless, by simpa using hbefore⟩

/-- The preview of a compiled program fails exactly if some declared name begins with an equals
sign. Then it tells the line of the first such declaration and keeps nothing of what is printed.
Otherwise the statements that print show a line each, in the order of the program, and the other
ones show none. -/
theorem compile_printed_lines {source : Text} {p : Program} (h : Program.parse source = .ok p) :
    ∃ listing output report,
      (compile Settings.standard source).outcome =
        .compiled listing (p.script Settings.standard) output report ∧
      (report ≠ [] ↔ ∃ s ∈ p, s.isNameless = true) ∧
      (∀ before s after, p = before ++ s :: after → s.isNameless = true →
        (∀ t ∈ before, t.isNameless = false) →
        report = "Simulation error: Assignment without a target name (line " ++
          Text.ofNat (before.length + 4) ++ ")" ∧
        (Text.splitAt '\n' (p.script Settings.standard))[before.length + 3]? =
          some (s.render 0) ∧
        output = [] ∧ p.preview.lines = []) ∧
      ((∀ s ∈ p, s.isNameless = false) → output = Text.join ['\n'] p.preview.lines ∧
        p.preview.lines = p.printedLines) := by
  have hp : ∀ s ∈ p, s.FitsLine := fun s => Program.fitsLine_of_parse h
  refine ⟨_, _, _, compile_preview h, ⟨fun hreport => ?_, fun hnameless => ?_⟩, ?_, ?_⟩
  · by_contra hnone
    obtain ⟨trace, htrace, -⟩ := Program.preview_of_named hp (by simpa using hnone)
    rw [Program.preview_of_ok htrace] at hreport
    exact hreport rfl
  · obtain ⟨before, s, after, rfl, hs, hbefore⟩ := Program.exists_first_nameless hnameless
    rw [Program.preview_of_nameless hp hbefore hs]
    exact PreviewError.report_ne_nil _
  · rintro before s after rfl hs hbefore
    rw [Program.preview_of_nameless hp hbefore hs]
    refine ⟨rfl, ?_, rfl, rfl⟩
    rw [Program.splitAt_script hp, List.map_append, List.map_cons]
    simp
  · intro hnamed
    obtain ⟨trace, htrace, hlines⟩ := Program.preview_of_named hp hnamed
    rw [Program.preview_of_ok htrace] at *
    exact ⟨rfl, hlines⟩

/-- A source text in which a declaration looks like a statement that prints, and another one like
a comment. -/
def disguisedSource : Text :=
  "create variable print(a with value (1)\nprint \"b = 1\"\n" ++
  "create variable # with value 3\nprint print(a\n"

def disguisedProgram : Program :=
  [.declaration "print(a" (.name "(1)") 1, .printing (.string "b = 1") 2,
    .declaration "#" (.number (.finite false ⟨4613937818241073152, by decide⟩)) 3,
    .printing (.name "print(a") 4]

/-- The script of the program. -/
def disguisedScript : Text :=
  "#!/usr/bin/env python3\n# Generated from EBPL\n\nprint(a = (1)\nprint(\"b = 1\")\n" ++
  "# = 3\nprint(print(a)"

theorem compile_printed_lines_disguisedSource :
    Program.parse disguisedSource = .ok disguisedProgram ∧
      ∃ listing, (compile Settings.standard disguisedSource).outcome =
        .compiled listing disguisedScript "a = (1\nb = 1\n1" [] := by
  have hparse : Program.parse disguisedSource = .ok disguisedProgram := by decide +kernel
  have hscript : disguisedProgram.script Settings.standard = disguisedScript := by decide +kernel
  have hnamed : ∀ s ∈ disguisedProgram, s.isNameless = false := by decide
  have hprinted : disguisedProgram.printedLines =
      ["a = (1".toList, "b = 1".toList, ['1']] := by decide +kernel
  obtain ⟨listing, output, report, houtcome, hreport, -, hlines⟩ := compile_printed_lines hparse
  obtain ⟨houtput, hshown⟩ := hlines hnamed
  have hnone : report = [] := by
    by_contra hne
    obtain ⟨s, hs, hnameless⟩ := hreport.mp hne
    simp [hnamed s hs] at hnameless
  rw [hscript, houtput, hshown, hprinted, hnone] at houtcome
  exact ⟨hparse, listing, houtcome⟩

end PlainEnglish
