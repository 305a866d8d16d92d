import PlainEnglish.Proofs.Compile.Printing
import PlainEnglish.Proofs.Preview.Variables

/-!
# Variables that compiled programs leave

The variables behind a script are the declared names, and with each equals sign in what a
statement prints one more that no declaration can name. Without the statements that print, all
other variables have the same values.

Main statement: `compile_variables_left`.
-/

namespace PlainEnglish

/-- The preview of a program whose declared names are names. -/
lemma Program.preview_of_names {p : Program} (hp : ∀ s ∈ p, s.FitsLine)
    (hnames : ∀ s ∈ p, s.DeclaresName) :
    p.preview.report = [] ∧ p.preview.env = Environment.afterProgram [] p := by
  obtain ⟨printed, htrace⟩ := Trace.afterLines_afterProgram hp hnames ⟨[], []⟩ 4
  rw [← Trace.ofScript_standard fun s hs => (hp s hs).render.newline_not_mem] at htrace
  rw [Program.preview_of_ok htrace]
  exact ⟨rfl, rfl⟩

lemma Statement.target?_eq_some_iff {p : Program} {key : Text} :
    (∃ s ∈ p, s.target? = some key) ↔
      (∃ value line, Statement.declaration key value line ∈ p) ∨
      ∃ value line, Statement.printing value line ∈ p ∧ '=' ∈ value.render ∧
        key = Text.printStart ++ Text.trimEnd (value.render.takeWhile (· ≠ '=')) := by
  constructor
  · rintro ⟨s, hs, htarget⟩
    cases s with
    | declaration name value line =>
      obtain rfl := Option.some.inj htarget
      exact Or.inl ⟨value, line, hs⟩
    | printing value line =>
      obtain ⟨heq, hkey⟩ := Option.ite_none_right_eq_some.mp htarget
      exact Or.inr ⟨value, line, hs, heq, (Option.some.inj hkey).symm⟩
  · rintro (⟨value, line, hs⟩ | ⟨value, line, hs, heq, rfl⟩)
    · exact ⟨_, hs, rfl⟩
    · exact ⟨_, hs, if_pos heq⟩

/-- The preview of a compiled program whose declared names are names does not fail. It leaves the
declared names as variables, and for each statement that prints an equals sign the text of its
line in front of the first one. What begins otherwise than such a line is a variable with a value
exactly if it is one of the program without the statements that print. -/
theorem compile_variables_left {source : Text} {p : Program} (h : Program.parse source = .ok p)
    (hnames : ∀ name value line, Statement.declaration name value line ∈ p → name.IsName) :
    ∃ listing script output,
      (compile Settings.standard source).outcome = .compiled listing script output [] ∧
      (∀ key, key ∈ (Preview.ofScript script).env.variables.map Prod.fst ↔
        (∃ value line, Statement.declaration key value line ∈ p) ∨
        ∃ value line, Statement.printing value line ∈ p ∧ '=' ∈ value.render ∧
          key = Text.printStart ++ Text.trimEnd (value.render.takeWhile (· ≠ '='))) ∧
      ∀ key value, ¬Text.printStart <+: key →
        ((key, value) ∈ (Preview.ofScript script).env.variables ↔
          (key, value) ∈ (Program.preview
            (p.filter Statement.isDeclaration)).env.variables) := by
  have hp : ∀ s ∈ p, s.FitsLine := fun s => Program.fitsLine_of_parse h
  have hdeclares : ∀ s ∈ p, s.DeclaresName := by
    intro s hs
    cases s with
    | declaration name value line => exact hnames name value line hs
    | printing value line => trivial
  obtain ⟨hreport, henv⟩ := Program.preview_of_names hp hdeclares
  obtain ⟨-, hdeclared⟩ := Program.preview_of_names (p := p.filter Statement.isDeclaration)
    (fun s hs => hp s (List.mem_of_mem_filter hs))
    (fun s hs => hdeclares s (List.mem_of_mem_filter hs))
  refine ⟨_, _, _, hreport ▸ compile_preview h, fun key => ?_, fun key value hkey => ?_⟩
  · rw [← Program.preview, henv, Environment.mem_map_fst_variables_iff,
      Environment.mem_keys_afterProgram, Statement.target?_eq_some_iff]
    simp
  · have hagrees : Environment.Agrees [] [] := fun _ _ => rfl
    rw [← Program.preview, henv, hdeclared, Environment.mem_variables_iff,
      Environment.mem_variables_iff, hagrees.afterProgram p key hkey]

/-- An equals sign between quotes makes a variable. -/
theorem compile_equals_sign_assigns : ¬∀ (source : Text) (p : Program),
    Program.parse source = .ok p →
    (∀ name value line, Statement.declaration name value line ∈ p → name.IsName) →
    ∀ listing script output,
      (compile Settings.standard source).outcome = .compiled listing script output [] →
      ∀ key, key ∈ (Preview.ofScript script).env.variables.map Prod.fst ↔
        ∃ value line, Statement.declaration key value line ∈ p := by
  intro h
  have hparse : Program.parse "print \"a=b\"" = .ok [.printing (.string "a=b") 1] := by
    decide +kernel
  have houtcome : (compile Settings.standard "print \"a=b\"").outcome = .compiled
      ["PRINT                -> 'print' (line 1)", "STRING               -> 'a=b' (line 1)"]
      "#!/usr/bin/env python3\n# Generated from EBPL\n\nprint(\"a=b\")" "a=b" [] := by
    decide +kernel
  have hkeys := h _ _ hparse (by simp) _ _ _ houtcome "print(\"a"
  have hvariable : "print(\"a".toList ∈ (Preview.ofScript
      "#!/usr/bin/env python3\n# Generated from EBPL\n\nprint(\"a=b\")").env.variables.map
        Prod.fst := by decide +kernel
  obtain ⟨value, line, hdeclared⟩ := hkeys.mp hvariable
  simp at hdeclared

/-- A source text that declares two names and prints an equation. -/
def equationSource : Text :=
  "create variable x with value 2\nprint \"x = 5\"\ncreate variable y with value x + 1"

def equationProgram : Program :=
  [.declaration "x" (.number (.finite false ⟨4611686018427387904, by decide⟩)) 1,
    .printing (.string "x = 5") 2, .declaration "y" (.binary (.name "x") .plus (.number .one)) 3]

theorem compile_variables_left_equationSource :
    Program.parse equationSource = .ok equationProgram ∧
      (∀ name value line, Statement.declaration name value line ∈ equationProgram →
        name.IsName) ∧
      ∃ listing script output,
        (compile Settings.standard equationSource).outcome = .compiled listing script output [] ∧
        ∀ key, key ∈ (Preview.ofScript script).env.variables.map Prod.fst ↔
          key = "x".toList ∨ key = "y".toList ∨ key = "print(\"x".toList := by
  have hparse : Program.parse equationSource = .ok equationProgram := by decide +kernel
  have hnames : ∀ name value line, Statement.declaration name value line ∈ equationProgram →
      name.IsName := by
    intro name value line hmem
    have hname : name = ['x'] ∨ name = ['y'] := by
      simp [equationProgram] at hmem
      tauto
    rcases hname with rfl | rfl
    · exact ⟨by decide, List.forall_mem_nil _⟩
    · exact ⟨by decide, List.forall_mem_nil _⟩
  obtain ⟨listing, script, output, houtcome, hkeys, -⟩ := compile_variables_left hparse hnames
  refine ⟨hparse, hnames, listing, script, output, houtcome, fun key => ?_⟩
  rw [hkeys]
  constructor
  · rintro (⟨value, line, hmem⟩ | ⟨value, line, hmem, -, rfl⟩)
    · simp [equationProgram] at hmem
      tauto
    · obtain ⟨rfl, rfl⟩ : value = .string "x = 5" ∧ line = 2 := by
        simpa [equationProgram] using hmem
      exact Or.inr (Or.inr (by decide))
  · rintro (rfl | rfl | rfl)
    · exact Or.inl ⟨_, _, List.mem_cons_self⟩
    · exact Or.inl ⟨_, _, List.mem_cons_of_mem _ (List.mem_cons_of_mem _ List.mem_cons_self)⟩
    · exact Or.inr ⟨.string "x = 5", 2, List.mem_cons_of_mem _ List.mem_cons_self, by decide,
        by decide⟩

end PlainEnglish
