import PlainEnglish.Proofs.Compile.Growth
import PlainEnglish.Proofs.Preview.Checked
import PlainEnglish.Proofs.Preview.Line

/-!
# The one fault of a script

A script has a fault exactly if one of its lines gives a value to nothing. The first such line is
named, and nothing of the trace is kept.

Main statement: `Preview.ofRun_ofScript`.
-/

namespace PlainEnglish

/-! ### Lines without a name -/

/-- A trimmed line that gives a value to nothing: no comment, and with nothing in front of its
first equals sign but something behind it. -/
structure Text.IsNameless (line : Text) : Prop where
  ne_nil : line ≠ []
  not_comment : line.head? ≠ some '#'
  sides : ∃ left right : Text, line = left ++ '=' :: right ∧ '=' ∉ left ∧ left.trim = [] ∧
    right.trim ≠ []

section

variable {line : Text}

/-- A line without an equals sign assigns nothing, and every other line has two sides. -/
lemma Text.assignment?_cases (line : Text) : line.assignment? = none ∨ ∃ left right : Text,
    line = left ++ '=' :: right ∧ '=' ∉ left ∧
      line.assignment? = some (left.trim, right.trim) := by
  by_cases h : '=' ∈ line
  · obtain ⟨left, right, rfl, hleft⟩ := List.eq_append_cons_of_mem h
    exact Or.inr ⟨left, right, rfl, hleft, Text.assignment?_append hleft right⟩
  · exact Or.inl (if_neg h)

lemma Text.isIdle_eq_false_iff : line.isIdle = false ↔ line ≠ [] ∧ line.head? ≠ some '#' := by
  rw [Text.isIdle, Bool.or_eq_false_iff, List.isEmpty_eq_false_iff, decide_eq_false_iff_not]

lemma Text.IsNameless.isIdle (h : line.IsNameless) : line.isIdle = false :=
  Text.isIdle_eq_false_iff.mpr ⟨h.ne_nil, h.not_comment⟩

lemma Text.isNameless_iff : line.IsNameless ↔ line.isIdle = false ∧
    line.assignment?.any (fun (name, value) => name.isEmpty && !value.isEmpty) = true := by
  constructor
  · intro h
    obtain ⟨left, right, rfl, hequals, hleft, hright⟩ := h.sides
    refine ⟨h.isIdle, ?_⟩
    simp [Text.assignment?_append hequals, hleft, hright]
  · rintro ⟨hidle, hany⟩
    obtain ⟨hne, hcomment⟩ := Text.isIdle_eq_false_iff.mp hidle
    rcases line.assignment?_cases with hnone | ⟨left, right, heq, hequals, hsome⟩
    · simp [hnone] at hany
    · simp [hsome] at hany
      exact ⟨hne, hcomment, left, right, heq, hequals, hany⟩

instance : Decidable line.IsNameless := decidable_of_iff _ Text.isNameless_iff.symm

lemma Environment.afterLine_of_isNameless (h : line.IsNameless) (env : Environment)
    (number : Nat) :
    env.afterLine number line = .error ⟨number, line⟩ := by
  obtain ⟨left, right, rfl, hequals, hleft, hright⟩ := h.sides
  rw [Environment.afterLine, Text.assignment?_append hequals]
  simp only [if_neg hright, if_pos hleft]

lemma Environment.exists_afterLine (hidle : line.isIdle = false) (h : ¬line.IsNameless)
    (env : Environment) (number : Nat) : ∃ env', env.afterLine number line = .ok env' := by
  obtain ⟨hne, hcomment⟩ := Text.isIdle_eq_false_iff.mp hidle
  rcases line.assignment?_cases with hnone | ⟨left, right, heq, hequals, hsome⟩
  · exact ⟨env, by rw [Environment.afterLine, hnone]⟩
  · rw [Environment.afterLine, hsome]
    by_cases hright : right.trim = []
    · exact ⟨env, if_pos hright⟩
    · have hleft : left.trim ≠ [] := fun hleft =>
        h ⟨hne, hcomment, left, right, heq, hequals, hleft, hright⟩
      exact ⟨env.define left.trim (env.evaluate right.trim), by
        simp only [if_neg hright, if_neg hleft]⟩

/-- Where there are lines without a name there is a first one. -/
lemma Text.exists_first_isNameless {lines : List Text}
    (h : ∃ line ∈ lines, line.trim.IsNameless) :
    ∃ before line after, lines = before ++ line :: after ∧
      (∀ earlier ∈ before, ¬earlier.trim.IsNameless) ∧ line.trim.IsNameless := by
  have hsome : (lines.find? fun line => line.trim.IsNameless).isSome = true := by
    rw [List.find?_isSome]
    simpa using h
  obtain ⟨line, hline⟩ := Option.isSome_iff_exists.mp hsome
  obtain ⟨hnameless, before, after, hlines, hbefore⟩ := List.find?_eq_some_iff_append.mp hline
  exact ⟨before, line, after, hlines, by simpa using hbefore, by simpa using hnameless⟩

/-! ### Steps -/

lemma Trace.afterLine_of_isNameless (h : line.trim.IsNameless) (trace : Trace) (number : Nat) :
    trace.afterLine number line = .error ⟨number, line.trim⟩ := by
  rw [Trace.afterLine, if_neg (by simp [h.isIdle]), Environment.afterLine_of_isNameless h]
  rfl

lemma Trace.exists_afterLine (h : ¬line.trim.IsNameless) (trace : Trace) (number : Nat) :
    ∃ trace', trace.afterLine number line = .ok trace' := by
  rw [Trace.afterLine]
  by_cases hidle : line.trim.isIdle = true
  · exact ⟨trace, if_pos hidle⟩
  · obtain ⟨env, henv⟩ :=
      Environment.exists_afterLine (Bool.of_not_eq_true hidle) h trace.env number
    rw [if_neg hidle, henv]
    exact ⟨_, rfl⟩

end

/-! ### Runs -/

lemma Trace.exists_afterLines {lines : List Text} (h : ∀ line ∈ lines, ¬line.trim.IsNameless)
    (trace : Trace) (number : Nat) :
    ∃ trace', trace.afterLines (lines.zipIdx number) = .ok trace' := by
  induction lines generalizing trace number with
  | nil => exact ⟨trace, rfl⟩
  | cons line lines ih =>
    rw [List.forall_mem_cons] at h
    obtain ⟨next, hnext⟩ := Trace.exists_afterLine h.1 trace number
    rw [List.zipIdx_cons, Trace.afterLines, hnext]
    exact ih h.2 next (number + 1)

section

variable {script line : Text} {before after : List Text}

lemma Trace.exists_ofScript (h : ∀ line ∈ script.splitAt '\n', ¬line.trim.IsNameless) :
    ∃ trace, Trace.ofScript script = .ok trace := Trace.exists_afterLines h _ 1

/-- A run ends at the first line without a name. -/
lemma Trace.ofScript_of_isNameless (hlines : script.splitAt '\n' = before ++ line :: after)
    (hbefore : ∀ earlier ∈ before, ¬earlier.trim.IsNameless) (hline : line.trim.IsNameless) :
    Trace.ofScript script = .error ⟨before.length + 1, line.trim⟩ := by
  obtain ⟨trace, htrace⟩ := Trace.exists_afterLines hbefore ⟨[], []⟩ 1
  rw [Trace.ofScript, hlines, List.zipIdx_append, Trace.afterLines_append, htrace, Except.bind,
    List.zipIdx_cons, Trace.afterLines, Trace.afterLine_of_isNameless hline, Nat.add_comm]

end

/-! ### Previews -/

/-- The preview that is left of a run that may fail. Any fault is told, an assignment to nothing
in its own words, and nothing of the trace is kept. -/
def Preview.ofRun (message : Fault → Text) : Except Fault Trace → Preview
  | .ok trace => ⟨trace.lines, [], trace.env⟩
  | .error (.nameless e) => ⟨[], e.report, []⟩
  | .error fault => ⟨[], "Simulation error: " ++ message fault, []⟩

lemma Preview.ofRun_checked (message : Fault → Text) (script : Text) :
    Preview.ofRun message (Checked.ofScript script) = Preview.ofScript script := by
  rw [Checked.ofScript_eq, Preview.ofScript]
  cases Trace.ofScript script <;> rfl

/-- There is one way for a script to fail: a line that gives a value to nothing. The first such
line is named, and nothing is kept. Whatever the lines of any other script contain, no operation
of its preview fails. -/
theorem Preview.ofRun_ofScript (message : Fault → Text) (script : Text) :
    Preview.ofRun message (Checked.ofScript script) = Preview.ofScript script ∧
    ((Preview.ofScript script).report ≠ [] ↔
      ∃ line ∈ script.splitAt '\n', line.trim.IsNameless) ∧
    (∀ before line after, script.splitAt '\n' = before ++ line :: after →
      (∀ earlier ∈ before, ¬earlier.trim.IsNameless) → line.trim.IsNameless →
        Checked.ofScript script = .error (.nameless ⟨before.length + 1, line.trim⟩) ∧
        Preview.ofScript script =
        ⟨[], "Simulation error: " ++ "Assignment without a target name" ++
          " (line " ++ Text.ofNat (before.length + 1) ++ ")", []⟩) ∧
    ((∀ line ∈ script.splitAt '\n', ¬line.trim.IsNameless) → ∃ trace,
      Checked.ofScript script = .ok trace ∧
      Preview.ofScript script = ⟨trace.lines, [], trace.env⟩) := by
  have hfails {before after : List Text} {line : Text}
      (hlines : script.splitAt '\n' = before ++ line :: after)
      (hbefore : ∀ earlier ∈ before, ¬earlier.trim.IsNameless) (hline : line.trim.IsNameless) :
      Preview.ofScript script =
        ⟨[], PreviewError.report ⟨before.length + 1, line.trim⟩, []⟩ := by
    rw [Preview.ofScript, Trace.ofScript_of_isNameless hlines hbefore hline]
  have hkeeps (hnone : ∀ line ∈ script.splitAt '\n', ¬line.trim.IsNameless) : ∃ trace,
      Checked.ofScript script = .ok trace ∧
      Preview.ofScript script = ⟨trace.lines, [], trace.env⟩ := by
    obtain ⟨trace, htrace⟩ := Trace.exists_ofScript hnone
    refine ⟨trace, ?_, ?_⟩
    · rw [Checked.ofScript_eq, htrace]
      rfl
    · rw [Preview.ofScript, htrace]
  refine ⟨Preview.ofRun_checked message script, ?_, ?_, hkeeps⟩
  · constructor
    · intro hreport
      by_contra hnone
      obtain ⟨trace, -, hpreview⟩ :=
        hkeeps fun line hline hnameless => hnone ⟨line, hline, hnameless⟩
      exact hreport (congrArg Preview.report hpreview)
    · intro hexists
      obtain ⟨before, line, after, hlines, hbefore, hline⟩ :=
        Text.exists_first_isNameless hexists
      rw [hfails hlines hbefore hline]
      exact PreviewError.report_ne_nil _
  · intro before line after hlines hbefore hline
    refine ⟨?_, hfails hlines hbefore hline⟩
    rw [Checked.ofScript_eq, Trace.ofScript_of_isNameless hlines hbefore hline]
    rfl

/-- Lines of which none is without a name: a comment, quotients by zero and by a text, a
comparison, a difference of texts, and an equals sign with nothing on either side. -/
def namedLines : List Text :=
  ["# = 1", "x = 1e999 / 0", "y = \"a\" / x", "x == y", "print(x - y)", " =\t"]

/-- Two lines without a name. -/
def namelessLines : List Text := ["  = 2", "= 3"]

theorem Preview.ofRun_namelessLines :
    Preview.ofScript (Text.join ['\n'] (namedLines ++ namelessLines)) =
      ⟨[], "Simulation error: Assignment without a target name (line 7)", []⟩ := by
  have hlines : (Text.join ['\n'] (namedLines ++ namelessLines)).splitAt '\n' =
      namedLines ++ ("  = 2" : Text) :: namelessLines.tail := by decide
  have hbefore : ∀ earlier ∈ namedLines, ¬earlier.trim.IsNameless := by decide
  have hline : (Text.trim "  = 2").IsNameless := by decide
  have hreport : "Simulation error: " ++ "Assignment without a target name" ++ " (line " ++
      Text.ofNat (namedLines.length + 1) ++ ")" =
      ("Simulation error: Assignment without a target name (line 7)" : Text) := by decide
  obtain ⟨-, -, hfirst, -⟩ := Preview.ofRun_ofScript (fun _ => []) _
  rw [(hfirst _ _ _ hlines hbefore hline).2, hreport]

end PlainEnglish
