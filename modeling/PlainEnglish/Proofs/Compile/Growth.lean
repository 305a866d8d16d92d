import PlainEnglish.Proofs.Compile.Story
import PlainEnglish.Proofs.Grammar.Concatenation

/-!
# Longer source texts

Lines put at the end of a source text change nothing of what comes before them: the script grows
at its end, a preview that fails goes on failing in the same way, and a preview that does not
fail prints more lines behind those it has printed.

Main statement: `compile_append`.
-/

namespace PlainEnglish

/-! ### Previews -/

/-- What is printed stays printed. -/
def Trace.Extends (trace trace' : Trace) : Prop := trace.printed <:+ trace'.printed

lemma Trace.extends_refl (trace : Trace) : trace.Extends trace := List.suffix_refl _

lemma Trace.Extends.trans {a b c : Trace} (h : a.Extends b) (h' : b.Extends c) : a.Extends c :=
  List.IsSuffix.trans h h'

lemma Trace.Extends.lines {a b : Trace} (h : a.Extends b) : a.lines <+: b.lines :=
  List.reverse_prefix.mpr h

lemma Trace.extends_of_afterLine {trace trace' : Trace} {number : Nat} {line : Text}
    (h : trace.afterLine number line = .ok trace') : trace.Extends trace' := by
  unfold Trace.afterLine at h
  simp only at h
  split at h
  · obtain rfl := Except.ok.inj h
    exact trace.extends_refl
  · cases henv : trace.env.afterLine number line.trim with
    | error e => simp [henv, Except.map] at h
    | ok env =>
      simp only [henv, Except.map, Except.ok.injEq] at h
      subst h
      split
      · exact List.suffix_cons _ _
      · exact List.suffix_refl _

lemma Trace.extends_of_afterLines {trace trace' : Trace} {lines : List (Text × Nat)}
    (h : trace.afterLines lines = .ok trace') : trace.Extends trace' := by
  induction lines generalizing trace with
  | nil =>
    obtain rfl := Except.ok.inj h
    exact trace.extends_refl
  | cons first lines ih =>
    obtain ⟨line, number⟩ := first
    rw [Trace.afterLines] at h
    split at h
    · next next hnext => exact (Trace.extends_of_afterLine hnext).trans (ih h)
    · simp at h

/-- Lines are gone through one row after the other, unless there is a fault in the first one. -/
lemma Trace.afterLines_append (trace : Trace) (before after : List (Text × Nat)) :
    trace.afterLines (before ++ after) =
      (trace.afterLines before).bind fun trace' => trace'.afterLines after := by
  induction before generalizing trace with
  | nil => rfl
  | cons first before ih =>
    obtain ⟨line, number⟩ := first
    rw [List.cons_append, Trace.afterLines, Trace.afterLines]
    split
    · exact ih _
    · rfl

lemma PreviewError.report_ne_nil (e : PreviewError) : e.report ≠ [] :=
  List.append_ne_nil_of_right_ne_nil _ (by decide)

/-- The beginning of a script up to the end of some line, previewed by itself. -/
lemma Preview.ofScript_append (script : Text) {more : Text} (h : ∀ c ∈ more.head?, c = '\n') :
    ((Preview.ofScript script).report ≠ [] →
      (Preview.ofScript (script ++ more)).report = (Preview.ofScript script).report) ∧
    ((Preview.ofScript (script ++ more)).report = [] →
      (Preview.ofScript script).lines <+: (Preview.ofScript (script ++ more)).lines) := by
  cases more with
  | nil =>
    rw [List.append_nil]
    exact ⟨fun _ => rfl, fun _ => List.prefix_refl _⟩
  | cons c more =>
    obtain rfl := h c rfl
    have hscript : Trace.ofScript (script ++ '\n' :: more) = (Trace.ofScript script).bind
        fun trace => trace.afterLines
          ((Text.splitAt '\n' more).zipIdx (1 + (Text.splitAt '\n' script).length)) := by
      rw [Trace.ofScript, Text.splitAt_append_cons, List.zipIdx_append, Trace.afterLines_append]
      rfl
    unfold Preview.ofScript
    rw [hscript]
    cases Trace.ofScript script with
    | error e => exact ⟨fun _ => rfl, fun hnone => absurd hnone e.report_ne_nil⟩
    | ok trace =>
      refine ⟨fun hne => absurd rfl hne, fun hnone => ?_⟩
      simp only [Except.bind] at hnone ⊢
      split at hnone
      · next longer hlonger =>
        exact (Trace.extends_of_afterLines hlonger).lines
      · next e _ => exact absurd hnone e.report_ne_nil

/-! ### Scripts -/

@[simp] lemma Statement.render_moveDown (n spaces : Int) (s : Statement) :
    (s.moveDown n).render spaces = s.render spaces := by
  cases s <;> rfl

/-- The lines of further statements come behind those of a script. -/
lemma Program.script_append (settings : Settings) (p q : Program) : ∃ more : Text,
    Program.script settings (p ++ q) = p.script settings ++ more ∧
      ∀ c ∈ more.head?, c = '\n' := by
  have hlines : Program.scriptLines settings (p ++ q) =
      p.scriptLines settings ++ q.map (Statement.render (0 * settings.indentWidth)) := by
    simp [Program.scriptLines]
  cases q with
  | nil => exact ⟨[], by simp, by simp⟩
  | cons s q =>
    refine ⟨'\n' :: Text.join ['\n']
      ((s :: q).map (Statement.render (0 * settings.indentWidth))), ?_, by simp⟩
    have hne : p.scriptLines settings ≠ [] := by simp [Program.scriptLines]
    rw [Program.script, hlines, Text.join_append hne (by simp), Program.script]
    simp

lemma Program.script_map_moveDown (settings : Settings) (p q : Program) (n : Int) :
    Program.script settings (p ++ q.map (Statement.moveDown n)) =
      Program.script settings (p ++ q) := by
  simp [Program.script, Program.scriptLines, Function.comp_def]

/-! ### Compilations -/

/-- The report and the lines of a preview that settings ask for. -/
lemma Settings.preview_append (settings : Settings) (script : Text) {more : Text}
    (h : ∀ c ∈ more.head?, c = '\n') (hne : (settings.preview script).1.report ≠ []) :
    (settings.preview (script ++ more)).1.report = (settings.preview script).1.report := by
  unfold Settings.preview at *
  split at hne
  · next hsimulate =>
    rw [if_pos hsimulate, if_pos hsimulate]
    exact (Preview.ofScript_append script h).1 hne
  · exact absurd rfl hne

/-- If a compilation of a text with another one behind it succeeds, so does that of the first
text, and its script is the beginning of the longer script. If the preview of the shorter script
fails, that of the longer one fails with the same report, and if that of the longer one succeeds,
it begins with the lines that the shorter script prints. -/
theorem compile_append (settings : Settings) {s t : Text} (hs : s.EndsLine)
    (h : ¬(s.getLast? = some '\r' ∧ t.head? = some '\n')) {listing : List Text}
    {script output report : Text}
    (hok : (compile settings (s ++ t)).outcome = .compiled listing script output report) :
    ∃ (listing' : List Text) (script' output' report' : Text),
      (compile settings s).outcome = .compiled listing' script' output' report' ∧
      script' <+: script ∧ (report' ≠ [] → report = report') ∧
      ((Preview.ofScript script').report ≠ [] →
        (Preview.ofScript script).report = (Preview.ofScript script').report) ∧
      ((Preview.ofScript script).report = [] →
        (Preview.ofScript script').lines <+: (Preview.ofScript script).lines) := by
  have hfailed {source : Text} {e : ParseError} (he : Program.parse source = .error e) :
      ∀ listing script output report,
        (compile settings source).outcome ≠ .compiled listing script output report := by
    obtain ⟨g, rfl⟩ := Program.parse_error_grammar he
    simp [(compile_of_error he).1]
  cases hp : Program.parse s with
  | error e => exact absurd hok (hfailed (Program.parse_append_of_error hs h hp) _ _ _ _)
  | ok p =>
    cases hq : Program.parse t with
    | error e =>
      obtain ⟨_, _, -, herror⟩ := Program.parse_append_of_ok_of_error hs h hp hq
      exact absurd hok (hfailed herror _ _ _ _)
    | ok q =>
      obtain ⟨more, hscript, hmore⟩ := Program.script_append settings p q
      rw [(compile_of_ok (Program.parse_append_of_ok hs h hp hq)).1, Program.script_map_moveDown,
        hscript, Outcome.compiled.injEq] at hok
      obtain ⟨-, rfl, -, rfl⟩ := hok
      obtain ⟨hreport, hlines⟩ := Preview.ofScript_append (p.script settings) hmore
      exact ⟨_, _, _, _, (compile_of_ok hp).1, List.prefix_append _ _,
        settings.preview_append _ hmore, hreport, hlines⟩

/-- A source text whose script assigns to nothing. -/
def faultySource : Text := "create variable = with value 1\r"

/-- The report of its preview. -/
def faultyReport : Text := "Simulation error: Assignment without a target name (line 4)"

theorem compile_append_faultySource :
    faultySource.EndsLine ∧
    ¬(faultySource.getLast? = some '\r' ∧ List.head? ("print 2" : Text) = some '\n') ∧
    ∃ listing script, (compile Settings.standard (faultySource ++ "print 2")).outcome =
        .compiled listing script [] faultyReport ∧
      ∃ listing' script' output' report', (compile Settings.standard faultySource).outcome =
          .compiled listing' script' output' report' ∧
        script' <+: script ∧ (report' ≠ [] → faultyReport = report') := by
  have hs : faultySource.EndsLine := Text.endsLine_of_getLast? rfl (by decide)
  have h : ¬(faultySource.getLast? = some '\r' ∧ List.head? ("print 2" : Text) = some '\n') := by
    decide
  have hok : (compile Settings.standard (faultySource ++ "print 2")).outcome = .compiled
      ["CREATE               -> 'create' (line 1)",
        "VARIABLE             -> 'variable' (line 1)", "IDENTIFIER           -> '=' (line 1)",
        "WITH                 -> 'with' (line 1)", "VALUE                -> 'value' (line 1)",
        "NUMBER               -> '1' (line 1)", "PRINT                -> 'print' (line 2)",
        "NUMBER               -> '2' (line 2)"]
      "#!/usr/bin/env python3\n# Generated from EBPL\n\n= = 1\nprint(2)" [] faultyReport := by
    decide +kernel
  obtain ⟨listing', script', output', report', hshorter, hscript, hreport, -⟩ :=
    compile_append Settings.standard hs h hok
  exact ⟨hs, h, _, _, hok, listing', script', output', report', hshorter, hscript, hreport⟩

end PlainEnglish
