import PlainEnglish.Proofs.Command.Compile
import PlainEnglish.Proofs.Command.Level
import PlainEnglish.Proofs.Command.Words
import PlainEnglish.Proofs.Compile.Story

/-!
# How compiling a file ends

The settings are loaded, the file is read and its program compiled. A document that is at fault,
a file that is missing or cannot be opened, and a syntax error end the run with a status of their
own. What cannot be read ends it without one, whether it is the document or the file, and so does
a listing for which there is no room. How a run goes on whose document holds half of a pair of
code units is left open.

Main statement: `Surroundings.run_compile_ending`.
-/

namespace PlainEnglish

/-- No file that can be opened stands where a name leads to: there is nothing, a directory, or a
file that is closed. -/
def Surroundings.Lacks (around : Surroundings) (file : Text) : Prop :=
  file ≠ ['-'] ∧ (around.files (Path.ofText file) = .ok none ∨
    around.files (Path.ofText file) = .ok (some .directory) ∨
    ∃ reason, around.files (Path.ofText file) = .ok (some (.closed reason)))

/-- How a file with a name that is no switch is compiled to an end, by what there is. -/
inductive Surroundings.CompilesTo (around : Surroundings) (file : Text) : Ending → Prop
  -- the document of settings cannot be looked for, cannot be read, or is at fault
  | unlocated {failure : ReadFailure}
    (h : Settings.locate around.files around.directory none = .error failure) :
    around.CompilesTo file (.unreadable failure)
  | unreadable {path : Path} {entry : Entry} {failure : ReadFailure}
    (hlocate : Settings.locate around.files around.directory none = .ok (some (path, entry)))
    (h : Settings.Unreadable around.limits path entry failure) (hpaired : failure ≠ .halfPair) :
    around.CompilesTo file (.unreadable failure)
  | faulty {path : Path} {fault : SettingsFault}
    (h : around.settings (.ofFile file) = .error (.fault path fault)) :
    around.CompilesTo file (.status usageStatus)
  -- the file cannot be looked for, is none, or is no text
  | unsought {settings : Settings} {failure : ReadFailure}
    (hsettings : around.settings (.ofFile file) = .ok settings) (hfile : file ≠ ['-'])
    (h : around.files (Path.ofText file) = .error failure) :
    around.CompilesTo file (.unreadable failure)
  | missing {settings : Settings} (hsettings : around.settings (.ofFile file) = .ok settings)
    (h : around.Lacks file) : around.CompilesTo file (.status usageStatus)
  | notText {settings : Settings} {bytes : ByteArray}
    (hsettings : around.settings (.ofFile file) = .ok settings) (hfile : file ≠ ['-'])
    (hbytes : around.files (Path.ofText file) = .ok (some (.file bytes)))
    (h : ∀ t, .file bytes ≠ Entry.ofText t) : around.CompilesTo file (.unreadable .notText)
  -- its text breaks the grammar, or is that of a program, for whose listing there is room or not
  | failed {settings : Settings} {source : Text} {e : SyntaxError}
    (hsettings : around.settings (.ofFile file) = .ok settings)
    (hholds : around.Holds file source)
    (h : Program.parse source = .error (.grammar e)) :
    around.CompilesTo file (.status failureStatus)
  | compiled {settings : Settings} {source : Text} {p : Program}
    (hsettings : around.settings (.ofFile file) = .ok settings)
    (hholds : around.Holds file source)
    (h : Program.parse source = .ok p)
    (hroom :
      Token.canList around.limits.width settings.tokenPadWidth (Token.scan source) = true) :
    around.CompilesTo file (.status 0)
  | tooWide {settings : Settings} {source : Text} {p : Program}
    (hsettings : around.settings (.ofFile file) = .ok settings)
    (hholds : around.Holds file source)
    (h : Program.parse source = .ok p)
    (hroom :
      Token.canList around.limits.width settings.tokenPadWidth (Token.scan source) = false) :
    around.CompilesTo file (.unreadable .tooWide)

section

variable {around : Surroundings} {file source : Text} {settings : Settings}
  {failure : ReadFailure}

/-! ### Settings -/

/-- Without switches the usual documents and the environment lay down the settings. -/
lemma Surroundings.settings_ofFile : around.settings (.ofFile file) =
    Settings.load around.files around.directory none around.environment around.limits := by
  have hsame : Settings.ofInvocation (.ofFile file) = id := rfl
  rw [Surroundings.settings, Invocation.ofFile, Option.any_none, if_neg (by simp)]
  rw [Invocation.ofFile] at hsame
  rw [hsame, Except.map_id]
  rfl

/-- No settings can be loaded at all if there is no looking for a document or no reading it. -/
lemma Surroundings.settings_unreadable_iff :
    around.settings (.ofFile file) = .error (.unreadable failure) ↔
      Settings.locate around.files around.directory none = .error failure ∨
        ∃ path entry, Settings.locate around.files around.directory none =
          .ok (some (path, entry)) ∧
          Settings.Unreadable around.limits path entry failure := by
  rw [Surroundings.settings_ofFile, Settings.load]
  cases hlocate : Settings.locate around.files around.directory none with
  | error f => simp
  | ok found =>
    cases found with
    | none => simp
    | some found =>
      obtain ⟨path, entry⟩ := found
      have hmap :
          (Settings.ofEntry around.limits path entry).map (·.inEnvironment around.environment) =
            .error (.unreadable failure) ↔
              Settings.Unreadable around.limits path entry failure := by
        rw [← Settings.ofEntry_unreadable_iff]
        cases Settings.ofEntry around.limits path entry <;> simp [Except.map]
      constructor
      · exact fun h => Or.inr ⟨path, entry, rfl, hmap.mp h⟩
      · rintro (h | ⟨_, _, hsame, h⟩)
        · exact nomatch h
        · obtain ⟨rfl, rfl⟩ := Prod.mk.inj (Option.some.inj (Except.ok.inj hsame))
          exact hmap.mpr h

/-! ### The file -/

/-- A file has a source text, or it is missing, or it cannot be read. -/
lemma Surroundings.source_cases (around : Surroundings) (file : Text) :
    (∃ source, around.Holds file source) ∨ around.Lacks file ∨
      file ≠ ['-'] ∧ ((∃ failure, around.files (Path.ofText file) = .error failure) ∨
        ∃ bytes, around.files (Path.ofText file) = .ok (some (.file bytes)) ∧
          ∀ t, .file bytes ≠ Entry.ofText t) := by
  by_cases hfile : file = ['-']
  · exact Or.inl ⟨around.input, by rw [Surroundings.Holds, if_pos hfile]⟩
  · cases hfound : around.files (Path.ofText file) with
    | error failure => exact Or.inr (Or.inr ⟨hfile, Or.inl ⟨failure, rfl⟩⟩)
    | ok found =>
      match found with
      | none => exact Or.inr (Or.inl ⟨hfile, Or.inl hfound⟩)
      | some .directory => exact Or.inr (Or.inl ⟨hfile, Or.inr (Or.inl hfound)⟩)
      | some (.closed reason) => exact Or.inr (Or.inl ⟨hfile, Or.inr (Or.inr ⟨reason, hfound⟩)⟩)
      | some (.file bytes) =>
        rcases Entry.file_cases bytes with ⟨source, hsource⟩ | ⟨hnone, -⟩
        · refine Or.inl ⟨source, ?_⟩
          rw [Surroundings.Holds, if_neg hfile, hfound, hsource, Entry.ofText]
        · exact Or.inr (Or.inr ⟨hfile, Or.inr ⟨bytes, rfl, hnone⟩⟩)

lemma Surroundings.Lacks.source_eq (h : around.Lacks file) :
    ∃ e : CommandError, around.source file = .ok (.error e) ∧
      (Complaint.own e).status = usageStatus := by
  unfold Surroundings.source
  rw [if_neg h.1]
  rcases h.2 with h | h | ⟨reason, h⟩ <;> rw [h] <;> exact ⟨_, rfl, rfl⟩

/-- A text in a file is compiled as it stands there, with whatever line breaks. -/
lemma Surroundings.Holds.ending_eq {verbose : Bool} {view : View}
    (h : around.Holds file source) :
    (around.perform settings verbose (.compile file view)).ending =
      if compiles around.limits settings source then
        .status (PlainEnglish.compile settings source).outcome.status
      else .unreadable .tooWide := by
  rw [h.perform_eq, Surroundings.compile_ending, compiles_withNewlines, compile_withNewlines]

/-! ### Endings -/

/-- The run does what its words ask for. -/
lemma Surroundings.run_ofFile
    (hread : Invocation.read [compileCommand, file] = .ok (.ofFile file)) :
    around.run [compileCommand, file] = around.invoke (.ofFile file) := by
  rw [Surroundings.run, hread]

/-- With settings, the run ends as the task does. -/
lemma Surroundings.invoke_ofFile (h : around.settings (.ofFile file) = .ok settings) :
    around.invoke (.ofFile file) =
      around.perform settings false (.compile file ⟨false, false, false, false⟩) := by
  rw [Surroundings.invoke, h]
  rfl

/-- Every way to an end is the way of a run. -/
lemma Surroundings.CompilesTo.ending_eq {ending : Ending} (h : around.CompilesTo file ending) :
    (around.invoke (.ofFile file)).ending = ending := by
  have hnone {failure : ReadFailure}
      (h : around.settings (.ofFile file) = .error (.unreadable failure)) :
      (around.invoke (.ofFile file)).ending = .unreadable failure := by
    rw [Surroundings.invoke, h]
  cases h with
  | unlocated h => exact hnone (Surroundings.settings_unreadable_iff.mpr (Or.inl h))
  | unreadable hlocate h _ =>
    exact hnone (Surroundings.settings_unreadable_iff.mpr (Or.inr ⟨_, _, hlocate, h⟩))
  | faulty h =>
    rw [Surroundings.invoke, h]
    rfl
  | unsought hsettings hfile h =>
    rw [Surroundings.invoke_ofFile hsettings]
    simp only [Surroundings.perform, Surroundings.source, if_neg hfile, h]
  | missing hsettings h =>
    obtain ⟨e, hsource, hstatus⟩ := h.source_eq
    rw [Surroundings.invoke_ofFile hsettings]
    simp only [Surroundings.perform, hsource]
    exact congrArg Ending.status hstatus
  | notText hsettings hfile hbytes h =>
    have htext := (Entry.file_cases _).resolve_left (not_exists.mpr h)
    rw [Surroundings.invoke_ofFile hsettings]
    simp only [Surroundings.perform, Surroundings.source, if_neg hfile, hbytes, Entry.text,
      htext.2, Except.map]
  | failed hsettings hholds h =>
    rw [Surroundings.invoke_ofFile hsettings, hholds.ending_eq, if_pos (compiles_of_error h),
      (compile_of_error h).1]
    rfl
  | compiled hsettings hholds h hroom =>
    rw [Surroundings.invoke_ofFile hsettings, hholds.ending_eq, compiles_of_ok h, if_pos hroom,
      (compile_of_ok h).1]
    rfl
  | tooWide hsettings hholds h hroom =>
    rw [Surroundings.invoke_ofFile hsettings, hholds.ending_eq, compiles_of_ok h,
      if_neg (ne_true_of_eq_false hroom)]

/-- Every run takes one of the ways to an end. -/
lemma Surroundings.exists_compilesTo
    (hpaired : around.settings (.ofFile file) ≠ .error (.unreadable .halfPair)) :
    ∃ ending, around.CompilesTo file ending := by
  cases hsettings : around.settings (.ofFile file) with
  | error e =>
    cases e with
    | fault path fault => exact ⟨_, .faulty hsettings⟩
    | unreadable failure =>
      rcases Surroundings.settings_unreadable_iff.mp hsettings with h | ⟨path, entry, hlocate, h⟩
      · exact ⟨_, .unlocated h⟩
      · refine ⟨_, .unreadable hlocate h ?_⟩
        rintro rfl
        exact hpaired hsettings
  | ok settings =>
    rcases around.source_cases file with
      ⟨source, hholds⟩ | hlacks | ⟨hfile, ⟨failure, h⟩ | ⟨bytes, hbytes, h⟩⟩
    · cases hparse : Program.parse source with
      | error e =>
        obtain ⟨g, rfl⟩ := Program.parse_error_grammar hparse
        exact ⟨_, .failed hsettings hholds hparse⟩
      | ok p =>
        cases hroom :
          Token.canList around.limits.width settings.tokenPadWidth (Token.scan source) with
        | true => exact ⟨_, .compiled hsettings hholds hparse hroom⟩
        | false => exact ⟨_, .tooWide hsettings hholds hparse hroom⟩
    · exact ⟨_, .missing hsettings hlacks⟩
    · exact ⟨_, .unsought hsettings hfile h⟩
    · exact ⟨_, .notText hsettings hfile hbytes h⟩

/-- A run ends in exactly the ways there are. -/
lemma Surroundings.invoke_ending_iff
    (hpaired : around.settings (.ofFile file) ≠ .error (.unreadable .halfPair))
    {ending : Ending} :
    (around.invoke (.ofFile file)).ending = ending ↔ around.CompilesTo file ending := by
  refine ⟨?_, Surroundings.CompilesTo.ending_eq⟩
  rintro rfl
  obtain ⟨ending, h⟩ := Surroundings.exists_compilesTo hpaired
  rwa [h.ending_eq]

/-- No width that is laid down is negative. -/
lemma Surroundings.tokenPadWidth_nonneg {i : Invocation} (h : around.settings i = .ok settings) :
    0 ≤ settings.tokenPadWidth := by
  obtain ⟨d, hfinds, rfl⟩ := Surroundings.settings_eq_ok_iff.mp h
  exact hfinds.valid.tokenPadWidth_nonneg

/-- A document that is a text within the limits is not given up, and neither is one that there is
not. -/
lemma Surroundings.settings_ne_unreadable
    (h : Settings.locate around.files around.directory none = .ok none ∨
      ∃ path t, Settings.locate around.files around.directory none =
      .ok (some (path, .ofText t)) ∧
        ∀ failure, ¬Settings.Exceeds around.limits path t failure) (failure : ReadFailure) :
    around.settings (.ofFile file) ≠ .error (.unreadable failure) := by
  intro hsettings
  rcases Surroundings.settings_unreadable_iff.mp hsettings with herror |
    ⟨path, entry, hfound, hread⟩
  · rcases h with hnone | ⟨path, t, hlocate, -⟩
    · exact nomatch herror.symm.trans hnone
    · exact nomatch herror.symm.trans hlocate
  · rcases h with hnone | ⟨path', t, hlocate, hlimits⟩
    · exact nomatch hfound.symm.trans hnone
    · have hsame := Option.some.inj (Except.ok.inj (hfound.symm.trans hlocate))
      obtain ⟨rfl, rfl⟩ := Prod.mk.inj hsame
      exact hlimits failure (Settings.unreadable_ofText_iff.mp hread)

/-- Where settings can be loaded or are at fault and the file is a text or missing, nothing is
unreadable, and nothing is too wide if there is room for the width. -/
lemma Surroundings.CompilesTo.exists_status {ending : Ending} (h : around.CompilesTo file ending)
    (hreadable : ∀ failure, around.settings (.ofFile file) ≠ .error (.unreadable failure))
    (hfile : (∃ source, around.Holds file source) ∨ around.Lacks file)
    (hwidth : ∀ settings, around.settings (.ofFile file) = .ok settings →
      settings.tokenPadWidth ≤ around.limits.width) :
    ∃ n, ending = .status n ∧ (n = 0 ∨ n = 1 ∨ n = 2) := by
  cases h with
  | faulty => exact ⟨2, rfl, by simp⟩
  | missing => exact ⟨2, rfl, by simp⟩
  | failed => exact ⟨1, rfl, by simp⟩
  | compiled => exact ⟨0, rfl, by simp⟩
  | unlocated h =>
    exact absurd (Surroundings.settings_unreadable_iff.mpr (Or.inl h)) (hreadable _)
  | unreadable hlocate h _ =>
    exact absurd (Surroundings.settings_unreadable_iff.mpr (Or.inr ⟨_, _, hlocate, h⟩))
      (hreadable _)
  | unsought _ hname h =>
    rcases hfile with ⟨source, hholds⟩ | ⟨-, h' | h' | ⟨reason, h'⟩⟩
    · rw [Surroundings.Holds, if_neg hname] at hholds
      exact nomatch h.symm.trans hholds
    all_goals exact nomatch h.symm.trans h'
  | notText _ hname hbytes h =>
    rcases hfile with ⟨source, hholds⟩ | ⟨-, h' | h' | ⟨reason, h'⟩⟩
    · rw [Surroundings.Holds, if_neg hname] at hholds
      exact absurd (Option.some.inj (Except.ok.inj (hbytes.symm.trans hholds))) (h source)
    all_goals exact nomatch hbytes.symm.trans h'
  | tooWide hsettings _ h hroom =>
    have hlow : (-0x8000000000000000 : Int) ≤ 0 := by decide
    have hcompiles := compiles_of_le (hlow.trans (Surroundings.tokenPadWidth_nonneg hsettings))
      (hwidth _ hsettings)
    exact nomatch hroom.symm.trans ((compiles_of_ok h).symm.trans (hcompiles _))

/-- The words that ask to compile a file are what they seem if the file does not look like a
switch, and are refused with a status otherwise. Unless the document is given up for half of a
pair, the run ends in exactly the ways there are to compile the file: with the status of a
success, of a syntax error, of a document that is at fault or of a file that is missing, and
without a status only if the document or the file cannot be read or there is no room for the
listing. So there is a status whenever both are texts, the document keeps to the limits and the
width that it lays down does. One that is no TOML keeps to them if it has neither too many
brackets nor too many digits in a row nor an escape of half of a pair. -/
theorem Surroundings.run_compile_ending (around : Surroundings) (file : Text) :
    ((file.head? = some '-' → file = ['-']) →
      Invocation.read [compileCommand, file] = .ok (.ofFile file)) ∧
    (Invocation.read [compileCommand, file] = .ok (.ofFile file) →
      around.settings (.ofFile file) ≠ .error (.unreadable .halfPair) →
      ∀ ending, (around.run [compileCommand, file]).ending = ending ↔
        around.CompilesTo file ending) ∧
    (Invocation.read [compileCommand, file] ≠ .ok (.ofFile file) →
      (around.run [compileCommand, file]).ending = .status 0 ∨
        (around.run [compileCommand, file]).ending = .status 2) ∧
    ((Settings.locate around.files around.directory none = .ok none ∨
      ∃ path t, Settings.locate around.files around.directory none =
      .ok (some (path, .ofText t)) ∧
        ((∀ failure, ¬Settings.Exceeds around.limits path t failure) ∨
          path.hasEnding "toml" = false ∧ t.countP Json.opensLevel ≤ around.limits.json ∧
            (∀ digits, ¬t.HasLongRow digits) ∧ ¬t.EscapesHalf)) →
      (∃ source, around.Holds file source) ∨ around.Lacks file →
      (∀ settings, around.settings (.ofFile file) = .ok settings →
        settings.tokenPadWidth ≤ around.limits.width) →
      ∃ n, (around.run [compileCommand, file]).ending = .status n ∧
      (n = 0 ∨ n = 1 ∨ n = 2)) := by
  have hrun (hread : Invocation.read [compileCommand, file] = .ok (.ofFile file))
      (hpaired : around.settings (.ofFile file) ≠ .error (.unreadable .halfPair))
      (ending : Ending) :
      (around.run [compileCommand, file]).ending = ending ↔ around.CompilesTo file ending := by
    rw [Surroundings.run_ofFile hread]
    exact Surroundings.invoke_ending_iff hpaired
  have hrefused (hread : Invocation.read [compileCommand, file] ≠ .ok (.ofFile file)) :
      (around.run [compileCommand, file]).ending = .status 0 ∨
        (around.run [compileCommand, file]).ending = .status 2 := by
    obtain ⟨refusal, hrefusal⟩ := (Invocation.read_compile_cases file).resolve_right hread
    rw [Surroundings.run, hrefusal]
    exact Report.ending_of_refused hrefusal
  refine ⟨Invocation.read_file, hrun, hrefused, fun hdocument hfile hwidth => ?_⟩
  have hlimits : Settings.locate around.files around.directory none = .ok none ∨
      ∃ path t, Settings.locate around.files around.directory none =
        .ok (some (path, .ofText t)) ∧
        ∀ failure, ¬Settings.Exceeds around.limits path t failure := by
    refine hdocument.imp_right ?_
    rintro ⟨path, t, hlocate, hlimits | ⟨hpath, hlevels, hdigits, hescape⟩⟩
    · exact ⟨path, t, hlocate, hlimits⟩
    · exact ⟨path, t, hlocate, Settings.not_exceeds_of_json hpath hlevels hdigits hescape⟩
  by_cases hread : Invocation.read [compileCommand, file] = .ok (.ofFile file)
  · have hreadable := fun failure =>
      @Surroundings.settings_ne_unreadable around file hlimits failure
    exact ((hrun hread (hreadable _) _).mp rfl).exists_status hreadable hfile hwidth
  · rcases hrefused hread with h | h
    · exact ⟨0, h, by simp⟩
    · exact ⟨2, h, by simp⟩

end

/-- A file with a program beside an empty document of settings. -/
def tidySurroundings : Surroundings where
  directory := ⟨true, []⟩
  files := fun path =>
    if path = ⟨true, [".ebplrc"]⟩ then .ok (some (.ofText "\x7b\x7d"))
    else if path = ⟨false, ["a.ebpl"]⟩ then .ok (some (.ofText "print 1"))
    else .ok none
  input := []
  environment := []
  clock := []
  trace := []
  hasServer := false

theorem Surroundings.run_compile_tidy :
    (tidySurroundings.run [compileCommand, "a.ebpl"]).ending = .status 0 ∧
      ∃ n, (tidySurroundings.run [compileCommand, "a.ebpl"]).ending = .status n ∧
        (n = 0 ∨ n = 1 ∨ n = 2) := by
  obtain ⟨hwords, hending, -, hstatus⟩ := tidySurroundings.run_compile_ending "a.ebpl"
  have hlocate : Settings.locate tidySurroundings.files tidySurroundings.directory none =
      .ok (some (⟨true, [".ebplrc"]⟩, .ofText "\x7b\x7d")) := by
    rfl
  have hholds : tidySurroundings.Holds "a.ebpl" "print 1" := by
    rfl
  have hparse : ∃ p, Program.parse "print 1" = .ok p := by
    have hok : (Program.parse "print 1").isOk = true := by decide +kernel
    generalize Program.parse "print 1" = result at hok ⊢
    cases result with
    | ok p => exact ⟨p, rfl⟩
    | error e => exact nomatch hok
  have hsettings : tidySurroundings.settings (.ofFile "a.ebpl") = .ok Settings.standard := by
    have hfits : (Json.object []).Fits Limits.standard.json :=
      ⟨by decide, List.nodup_nil, trivial⟩
    have htable : Table.ofEntry .standard ⟨true, [".ebplrc"]⟩ (.ofText "\x7b\x7d") = .ok [] :=
      Table.ofEntry_write hfits (by decide) (by decide)
    rw [Surroundings.settings_ofFile, Settings.load, hlocate]
    have hentry : Settings.ofEntry .standard ⟨true, [".ebplrc"]⟩ (.ofText "\x7b\x7d") =
        .ok Settings.standard := by
      simp only [Settings.ofEntry, htable]
      rfl
    exact congrArg (Except.map (·.inEnvironment [])) hentry
  obtain ⟨p, hparse⟩ := hparse
  have hpaired : tidySurroundings.settings (.ofFile "a.ebpl") ≠
      .error (.unreadable .halfPair) := by
    rw [hsettings]
    simp
  refine ⟨(hending (hwords (by decide)) hpaired _).mpr
    (.compiled hsettings hholds hparse (by decide +kernel)), ?_⟩
  refine hstatus (Or.inr ⟨_, _, hlocate, Or.inr ⟨rfl, by decide, ?_, ?_⟩⟩)
    (Or.inl ⟨_, hholds⟩) ?_
  · rintro digits ⟨hlong, row, hrow, rfl, -⟩
    exact absurd (hlong.trans_le hrow.length_le) (by decide)
  · rintro ⟨a, b, c, d, unit, hescape, -⟩
    exact absurd hescape.length_le (Nat.not_le_of_lt (show 2 < 6 by decide))
  · intro settings h
    obtain rfl := Except.ok.inj (hsettings.symm.trans h)
    decide

/-- A file that is no text. -/
def strangeSurroundings : Surroundings where
  directory := ⟨true, []⟩
  files := fun path =>
    if path = ⟨false, ["bad.ebpl"]⟩ then .ok (some (.file ⟨#[0xff]⟩)) else .ok none
  input := []
  environment := []
  clock := []
  trace := []
  hasServer := false

/-- Not every run ends with a status, even if each document and the file are files. -/
theorem Surroundings.run_compile_strange : ¬∀ (around : Surroundings) (file : Text),
    (∀ path ∈ Settings.candidates around.directory none, around.files path = .ok none ∨
      ∃ bytes, around.files path = .ok (some (.file bytes))) →
    (∃ bytes, around.files (Path.ofText file) = .ok (some (.file bytes))) →
    ∃ n, (around.run [compileCommand, file]).ending = .status n ∧ (n = 0 ∨ n = 1 ∨ n = 2) := by
  intro h
  have hsettings : strangeSurroundings.settings (.ofFile "bad.ebpl") =
      .ok Settings.standard := by
    rfl
  have hbytes : strangeSurroundings.files (Path.ofText "bad.ebpl") =
      .ok (some (.file ⟨#[0xff]⟩)) := by
    rfl
  have hnone : Text.ofBytes? ⟨#[0xff]⟩ = none := by decide +kernel
  have hnotText (t : Text) : .file ⟨#[0xff]⟩ ≠ Entry.ofText t := by
    intro heq
    rw [Text.ofBytes?_eq_some_iff.mpr (Entry.file.inj heq)] at hnone
    exact nomatch hnone
  have hending : (strangeSurroundings.run [compileCommand, "bad.ebpl"]).ending =
      .unreadable .notText := by
    rw [Surroundings.run_ofFile (Invocation.read_file (by decide))]
    exact (Surroundings.CompilesTo.notText hsettings (by decide) hbytes hnotText).ending_eq
  have hdocuments : ∀ path ∈ Settings.candidates strangeSurroundings.directory none,
      strangeSurroundings.files path = .ok none := by
    exact List.forall_mem_cons.mpr ⟨rfl, List.forall_mem_singleton.mpr rfl⟩
  obtain ⟨n, hn, -⟩ :=
    h strangeSurroundings "bad.ebpl" (fun path hpath => Or.inl (hdocuments path hpath))
      ⟨_, hbytes⟩
  exact nomatch hending.symm.trans hn

end PlainEnglish
