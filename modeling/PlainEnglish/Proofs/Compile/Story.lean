import PlainEnglish.Compile.Run
import PlainEnglish.Program.Node
import PlainEnglish.Proofs.Grammar.Scanned

/-!
# Outcomes and events agree

A compilation never fails but for the grammar, and what its events tell is what its outcome
shows.

Main statement: `compile_outcome_and_events`.
-/

namespace PlainEnglish

open Grammar

/-! ### Counting tokens -/

/-- How many of the tokens begin a statement. -/
def Token.countStarts (tokens : List Token) : Nat :=
  tokens.countP (·.kind = .keyword .createWord) + tokens.countP (·.kind = .keyword .printWord)

lemma Token.countStarts_eq (tokens : List Token) :
    Token.countStarts tokens = (tokens.filterMap Token.start?).length := by
  induction tokens with
  | nil => rfl
  | cons t tokens ih =>
    rw [List.filterMap_cons]
    rw [Token.countStarts] at ih ⊢
    simp only [List.countP_cons, decide_eq_true_eq]
    rcases hkind : t.kind with word | _ | _ | _ | _ | _ | _
    · cases word <;> simp [Token.start?, hkind, ← ih] <;> omega
    all_goals simp [Token.start?, hkind, ih]

/-- A program has a statement for every token that begins one. -/
lemma Program.length_of_parse {source : Text} {p : Program} (h : Program.parse source = .ok p) :
    p.length = Token.countStarts (Token.scan source) := by
  obtain ⟨d, htokens, rfl⟩ := Program.parse_eq_ok_iff.mp h
  rw [Token.countStarts_eq, Token.scan_eq, List.filterMap_append, ← htokens, d.filterMap_start?]
  simp [Token.start?]

/-- A listing leaves out one newline for every line that is not blank, and the end token. -/
lemma Token.length_scan (source : Text) (width : Int) :
    (Token.scan source).length = (Token.listing width (Token.scan source)).length +
      (source.lines.countP fun text => text.any fun c => !isBlank c) + 1 := by
  have hhidden : (Token.ofLines source).countP (fun t => t.kind.isHidden) =
      (Token.ofLines source).countP (·.kind = .newline) := by
    apply List.countP_congr
    intro t ht
    have hfinish := Token.kind_ne_finish_of_mem_ofLines ht
    cases hkind : t.kind <;> simp_all [Kind.isHidden]
  have hsplit := List.length_eq_countP_add_countP (fun t : Token => t.kind.isHidden)
    (l := Token.ofLines source)
  rw [hhidden, Token.countP_newline_ofLines] at hsplit
  rw [Token.listing, List.length_map, ← List.countP_eq_length_filter, Token.scan_eq,
    List.length_append, List.countP_append, hsplit]
  simp [Kind.isHidden, Nat.add_comm]

/-! ### Trees -/

@[simp] lemma Expression.toExpression_toNode (e : Expression) :
    e.toNode.toExpression = .ok e := by
  induction e with
  | number x => rfl
  | string t => rfl
  | name t => rfl
  | binary left op right ihl ihr => simp [Expression.toNode, Node.toExpression, ihl, ihr]

@[simp] lemma Statement.toStatement_toNode (s : Statement) : s.toNode.toStatement = .ok s := by
  cases s <;> simp [Statement.toNode, Node.toStatement, Except.map]

/-- No node of a program is misplaced. -/
lemma Program.ofNodes_toNode (p : Program) :
    Program.ofNodes (p.map Statement.toNode) = .ok p := by
  induction p with
  | nil => rfl
  | cons s p ih => simp [Program.ofNodes, ih, Except.map]

/-! ### Previews -/

/-- A preview that fails prints nothing. -/
lemma Preview.output_of_report {script : Text} (h : (Preview.ofScript script).report ≠ []) :
    (Preview.ofScript script).output = [] := by
  unfold Preview.ofScript at *
  split
  · next heq => simp [heq] at h
  · rfl

/-- Whether a record tells an event of a compilation. -/
def Record.isEvent (r : Record) : Bool := r.logger = pipelineLogger

@[simp] lemma Record.isEvent_ofScan (source : Text) (tokens : List Token) :
    (Record.ofScan source tokens).isEvent = false :=
  decide_eq_false (show ("ebpl.lexer" : Text) ≠ "ebpl.pipeline" by decide)

@[simp] lemma Record.isEvent_ofParse (p : Program) : (Record.ofParse p).isEvent = false :=
  decide_eq_false (show ("ebpl.parser" : Text) ≠ "ebpl.pipeline" by decide)

@[simp] lemma Record.isEvent_ofScript (p : Program) : (Record.ofScript p).isEvent = false :=
  decide_eq_false (show ("ebpl.codegen" : Text) ≠ "ebpl.pipeline" by decide)

@[simp] lemma Record.isEvent_ofPreview (result : Except PreviewError Trace) :
    (Record.ofPreview result).isEvent = false :=
  decide_eq_false (show ("ebpl.runtime" : Text) ≠ "ebpl.pipeline" by decide)

@[simp] lemma CompileEvent.isEvent_record (e : CompileEvent) : e.record.isEvent = true :=
  decide_eq_true rfl

/-- The only event of a preview is that it failed. -/
lemma Settings.preview_spec (settings : Settings) (script : Text) :
    ((settings.preview script).1.report ≠ [] → (settings.preview script).1.output = []) ∧
      (settings.preview script).2.filter Record.isEvent =
        if (settings.preview script).1.report = [] then []
        else [(CompileEvent.previewFailed (settings.preview script).1.report).record] := by
  unfold Settings.preview
  split
  · refine ⟨Preview.output_of_report, ?_⟩
    simp only [Preview.isOk, List.isEmpty_iff]
    split <;> simp
  · exact ⟨fun h => absurd rfl h, rfl⟩

/-! ### Compilations -/

lemma Compilation.events_eq (c : Compilation) : c.events = c.records.filter Record.isEvent := rfl

@[simp] lemma ParseError.message_grammar (e : SyntaxError) :
    (ParseError.grammar e).message = e.message := rfl

lemma compile_eq_of_error {settings : Settings} {source : Text} {e : SyntaxError}
    (h : Program.parse source = .error (.grammar e)) : compile settings source =
      ⟨.failed e.message,
        [Record.ofScan source (Token.scan source), (CompileEvent.syntaxError e).record]⟩ := by
  rw [Program.parse] at h
  simp [compile, h]

lemma compile_eq_of_ok {settings : Settings} {source : Text} {p : Program}
    (h : Program.parse source = .ok p) : compile settings source =
      ⟨.compiled (Token.listing settings.tokenPadWidth (Token.scan source)) (p.script settings)
          (settings.preview (p.script settings)).1.output
          (settings.preview (p.script settings)).1.report,
        [Record.ofScan source (Token.scan source), Record.ofParse p, Record.ofScript p] ++
          (settings.preview (p.script settings)).2 ++
          [(CompileEvent.compiled p.length (Token.scan source).length).record]⟩ := by
  rw [Program.parse] at h
  simp [compile, h]

lemma compile_of_error {settings : Settings} {source : Text} {e : SyntaxError}
    (h : Program.parse source = .error (.grammar e)) :
    (compile settings source).outcome = .failed e.message ∧
      (compile settings source).events = [(CompileEvent.syntaxError e).record] := by
  simp [compile_eq_of_error h, Compilation.events_eq]

lemma compile_of_ok {settings : Settings} {source : Text} {p : Program}
    (h : Program.parse source = .ok p) :
    (compile settings source).outcome =
        .compiled (Token.listing settings.tokenPadWidth (Token.scan source)) (p.script settings)
          (settings.preview (p.script settings)).1.output
          (settings.preview (p.script settings)).1.report ∧
      (compile settings source).events =
        (settings.preview (p.script settings)).2.filter Record.isEvent ++
          [(CompileEvent.compiled p.length (Token.scan source).length).record] := by
  simp [compile_eq_of_ok h, Compilation.events_eq]

/-- A compilation fails with the syntax error of its source text and tells it as its only event,
or it shows the script of the program, and tells whether the preview failed and how many
statements and tokens there are. Reading a number never fails, and no node of the program is
misplaced. -/
theorem compile_outcome_and_events (settings : Settings) (source : Text) :
    (∃ e : SyntaxError, Program.parse source = .error (.grammar e) ∧
      (compile settings source).outcome.toJson = .object [("success", .bool false),
        ("error", .text e.message), ("errors", .array [.text e.message])] ∧
      (compile settings source).events = [⟨"ebpl.pipeline", .info, "Compilation failed",
        some ⟨"syntax_error", [("line", Json.ofOption .integer e.line),
          ("expected", Json.ofTexts e.expected), ("found", Json.ofOption .text e.found)]⟩⟩]) ∨
    ∃ (p : Program) (listing : List Text) (output report : Text) (statements tokens : Nat),
      Program.parse source = .ok p ∧ Program.ofNodes (p.map Statement.toNode) = .ok p ∧
      (compile settings source).outcome.toJson = .object [("success", .bool true),
        ("tokens", Json.ofTexts listing), ("generatedCode", .text (p.script settings)),
        ("executionOutput", .text output), ("executionError", .text report)] ∧
      (compile settings source).events =
        (if report = [] then [] else [⟨"ebpl.pipeline", .warning, "Execution preview failed",
          some ⟨"simulation_error", [("error", .text report)]⟩⟩]) ++
        [⟨"ebpl.pipeline", .debug, "Compiled program",
          some ⟨"compiled", [("statements", .integer statements),
            ("tokens", .integer tokens)]⟩⟩] ∧
      (report ≠ [] → output = []) ∧
      statements = (Token.scan source).countP (·.kind = .keyword .createWord) +
        (Token.scan source).countP (·.kind = .keyword .printWord) ∧
      tokens = listing.length +
        (source.lines.countP fun text => text.any fun c => !isBlank c) + 1 := by
  cases hparse : Program.parse source with
  | error e =>
    obtain ⟨g, rfl⟩ := Program.parse_error_grammar hparse
    obtain ⟨houtcome, hevents⟩ := @compile_of_error settings source g hparse
    exact Or.inl ⟨g, rfl, by rw [houtcome]; rfl, hevents⟩
  | ok p =>
    obtain ⟨houtcome, hevents⟩ := @compile_of_ok settings source p hparse
    obtain ⟨houtput, hpreview⟩ := settings.preview_spec (p.script settings)
    exact Or.inr ⟨p, _, _, _, _, _, rfl, p.ofNodes_toNode, by rw [houtcome]; rfl,
      by rw [hevents, hpreview]; rfl, houtput, Program.length_of_parse hparse,
      Token.length_scan source settings.tokenPadWidth⟩

end PlainEnglish
