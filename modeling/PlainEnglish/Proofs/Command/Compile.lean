import PlainEnglish.Command.Run
import PlainEnglish.Proofs.Json.RoundTrip
import PlainEnglish.Proofs.Text.Bytes
import PlainEnglish.Proofs.Text.Newlines

/-!
# Compiling from the command line

The program compiles what it reads, in which every return has become a newline. That changes
nothing about the outcome, since a compilation looks at lines only. The outcome is printed as a
document that is read back, and the status tells whether it is a success. There is an outcome
wherever there is room for the width to which the listing is filled up.

Main statements: `compileWithin_withNewlines`, `Surroundings.perform_compile`.
-/

namespace PlainEnglish

section

variable {limits : Limits} {settings : Settings} {source : Text} {c : Compilation}

/-! ### Room for the listing -/

lemma Text.canPad_of_le {widest : Nat} {width : Int} (hlow : -0x8000000000000000 ≤ width)
    (hwidth : width ≤ widest) (t : Text) : t.canPad widest width = true := by
  simpa [Text.canPad, hwidth] using hlow

/-- A compilation comes to an end if there is room for the width of the listing. -/
lemma compiles_of_le (hlow : -0x8000000000000000 ≤ settings.tokenPadWidth)
    (hwidth : settings.tokenPadWidth ≤ limits.width) (source : Text) :
    compiles limits settings source = true := by
  unfold compiles
  simp only
  split
  · rfl
  · exact List.all_eq_true.mpr fun t _ => Text.canPad_of_le hlow hwidth t.kind.name

lemma compiles_of_error {e : ParseError} (h : Program.parse source = .error e) :
    compiles limits settings source = true := by
  have htokens : Program.ofTokens (Token.scan source) = .error e := h
  simp only [compiles, htokens]

lemma compiles_of_ok {p : Program} (h : Program.parse source = .ok p) :
    compiles limits settings source =
      Token.canList limits.width settings.tokenPadWidth (Token.scan source) := by
  have htokens : Program.ofTokens (Token.scan source) = .ok p := h
  simp only [compiles, htokens]

/-! ### Returns and newlines -/

lemma Token.scan_withNewlines (source : Text) :
    Token.scan source.withNewlines = Token.scan source := by
  simp only [Token.scan, Text.lines_withNewlines]

/-- A compilation does not see which line breaks end the lines. -/
theorem compile_withNewlines (settings : Settings) (source : Text) :
    compile settings source.withNewlines = compile settings source := by
  have hrecord : Record.ofScan source.withNewlines = Record.ofScan source := by
    funext tokens
    unfold Record.ofScan
    rw [Text.lines_withNewlines]
  unfold compile
  rw [Token.scan_withNewlines, hrecord]

lemma compiles_withNewlines (limits : Limits) (settings : Settings) (source : Text) :
    compiles limits settings source.withNewlines = compiles limits settings source := by
  unfold compiles
  rw [Token.scan_withNewlines]

theorem compileWithin_withNewlines (limits : Limits) (settings : Settings) (source : Text) :
    compileWithin limits settings source.withNewlines =
      compileWithin limits settings source := by
  rw [compileWithin, compiles_withNewlines, compile_withNewlines, compileWithin]

/-! ### Printed outcomes -/

lemma Outcome.fits_toJson (o : Outcome) {levels : Nat} (h : 2 ≤ levels) :
    o.toJson.Fits levels := by
  have hpos : 0 < levels := Nat.zero_lt_of_lt h
  have hless : 0 < levels - 1 := Nat.sub_pos_of_lt h
  cases o with
  | failed message =>
    simp [Outcome.toJson, Json.Fits, Json.EntriesFit, Json.AllFit, hpos, hless]
  | compiled listing script output report =>
    have hlisting : (Json.ofTexts listing).Fits (levels - 1) := by
      refine ⟨hless, Json.allFit_iff.mpr fun item hitem => ?_⟩
      obtain ⟨t, -, rfl⟩ := List.mem_map.mp hitem
      trivial
    have hkeys : (["success", "tokens", "generatedCode", "executionOutput",
        "executionError"] : List Text).Nodup := by decide
    exact ⟨hpos, hkeys, trivial, hlisting, trivial, trivial, trivial, trivial⟩

/-- A printed document is read back as the outcome. -/
lemma Outcome.readWithin_document (o : Outcome) {levels : Nat} (h : 2 ≤ levels) :
    Json.readWithin levels (Text.ofPrinted [o.document]) = .ok o.toJson := by
  have hnewline : ∀ c ∈ ['\n'], Json.isSpace c = true := List.forall_mem_singleton.mpr rfl
  have hread := Json.readWithin_write (.indented 2) (o.fits_toJson h) hnewline
  rwa [Text.ofPrinted, List.flatMap_singleton]

/-- The status of a compilation. -/
def Outcome.status (o : Outcome) : Int := if o.isSuccess then 0 else failureStatus

variable {around : Surroundings} {verbose : Bool} {view : View}

lemma Surroundings.reportOf_ending (c : Compilation) :
    (around.reportOf settings verbose view c).ending = .status c.outcome.status := by
  obtain ⟨outcome, records⟩ := c
  cases outcome <;> rfl

lemma Surroundings.reportOf_printed (c : Compilation) :
    (around.reportOf settings verbose view c).printed = view.printed c.outcome := by
  obtain ⟨outcome, records⟩ := c
  cases outcome <;> rfl

lemma Surroundings.compile_ending :
    (around.compile settings verbose view source).ending =
      if compiles around.limits settings source then
        .status (PlainEnglish.compile settings source).outcome.status
      else .unreadable .tooWide := by
  unfold Surroundings.compile compileWithin
  by_cases h : compiles around.limits settings source = true
  · rw [if_pos h, if_pos h]
    exact Surroundings.reportOf_ending _
  · rw [if_neg h, if_neg h]

lemma Surroundings.compile_of_some (h : compileWithin around.limits settings source = some c) :
    around.compile settings verbose view source = around.reportOf settings verbose view c := by
  simp only [Surroundings.compile, h]

/-! ### Compiling a file or the input -/

/-- A source text stands in a file, or on the input if the name is a hyphen. -/
def Surroundings.Holds (around : Surroundings) (file source : Text) : Prop :=
  if file = ['-'] then around.input = source
  else around.files (Path.ofText file) = .ok (some (.file ⟨source.bytes.toArray⟩))

variable {file : Text}

lemma Surroundings.Holds.source_eq (h : around.Holds file source) :
    around.source file = .ok (.ok source.withNewlines) := by
  unfold Surroundings.Holds at h
  unfold Surroundings.source
  split at h
  · next hfile => rw [if_pos hfile, h]
  · next hfile =>
    rw [if_neg hfile, h]
    simp only [Entry.text, Entry.characters, Text.ofBytes?_bytes, Except.map]

/-- What stands in a file is compiled. -/
lemma Surroundings.Holds.perform_eq (h : around.Holds file source) :
    around.perform settings verbose (.compile file view) =
      around.compile settings verbose view source.withNewlines := by
  simp only [Surroundings.perform, h.source_eq]

/-- The whole outcome is printed, and the status is that of the outcome. -/
theorem Surroundings.perform_compile (h : around.Holds file source) (hwhole : view.whole = true)
    (hcompile : compileWithin around.limits settings source = some c) :
    (∀ levels, 2 ≤ levels →
      Json.readWithin levels (around.perform settings verbose (.compile file view)).output =
        .ok c.outcome.toJson) ∧
      (around.perform settings verbose (.compile file view)).ending =
        .status c.outcome.status := by
  have hperform : around.perform settings verbose (.compile file view) =
      around.reportOf settings verbose view c := by
    rw [h.perform_eq]
    exact Surroundings.compile_of_some
      ((compileWithin_withNewlines around.limits settings source).trans hcompile)
  have hprinted : view.printed c.outcome = [c.outcome.document] := by
    simp only [View.printed, hwhole, if_true]
  rw [hperform, Surroundings.reportOf_ending, Report.output, Surroundings.reportOf_printed,
    hprinted]
  exact ⟨fun levels => c.outcome.readWithin_document, rfl⟩

lemma Surroundings.run_of_read {words : List Text} {i : Invocation}
    (hread : Invocation.read words = .ok i) (hsettings : around.settings i = .ok settings) :
    around.run words = around.perform settings i.verbose i.task := by
  simp only [Surroundings.run, hread, Surroundings.invoke, hsettings]

end

end PlainEnglish
