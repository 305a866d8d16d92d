import PlainEnglish.Command.Run
import PlainEnglish.Journal.Registry
import PlainEnglish.Proofs.Settings.Load
import PlainEnglish.Proofs.Settings.Setting
import PlainEnglish.Proofs.Usage.Given

/-!
# The level in force

A run goes by the settings of its document in all but the level of its log, on which the
environment and then a switch have the last word. Each of them names a level in its own way: a
document with a fault if there is no such level, the environment without one, and the switch by a
choice. So the level in force always has a name, also where it is handed on to a service.

Main statement: `Surroundings.run_level`.
-/

namespace PlainEnglish

/-- The name of the level that an environment asks for in any letter case, if there is such a
level. -/
def environmentLevel? (environment : List (Text × Text)) : Option Text :=
  ((environment.lookup logLevelVariable).map Text.lowercase).filter Text.isLevelName

/-- Settings with the level of a switch, or else of an environment, or else their own. -/
def Settings.inForce (environment : List (Text × Text)) (switch : Option Text) (s : Settings) :
    Settings :=
  { s with logLevel := (switch.or (environmentLevel? environment)).getD s.logLevel }

/-- What an invocation finds laid down: the settings of its document or, if there is none, the
standard ones. -/
inductive Surroundings.Finds (around : Surroundings) (i : Invocation) : Settings → Prop
  | standard (hname : ∀ name, i.document = some name → '\x00' ∉ name)
    (hlocate : Settings.locate around.files around.directory (i.named around.directory) =
      .ok none) :
    around.Finds i .standard
  | document {path : Path} {entry : Entry} {s : Settings}
    (hname : ∀ name, i.document = some name → '\x00' ∉ name)
    (hlocate : Settings.locate around.files around.directory (i.named around.directory) =
      .ok (some (path, entry)))
    (h : Settings.ofEntry around.limits path entry = .ok s) : around.Finds i s

section

variable {around : Surroundings} {i : Invocation} {s : Settings} {words : List Text}
  {level : Text}
  {path : Path} {entry : Entry} {task : Task} {verbose : Bool} {hosting : Hosting}

/-! ### What a document lays down -/

lemma Settings.valid_of_ofEntry {limits : Limits}
    (h : Settings.ofEntry limits path entry = .ok s) : s.Valid := by
  unfold Settings.ofEntry at h
  split at h
  · exact nomatch h
  · next table =>
    split at h
    · next hsettings =>
      obtain rfl := Except.ok.inj h
      exact Settings.valid_of_ofDocument hsettings
    · exact nomatch h
    · exact nomatch h

lemma Surroundings.Finds.valid (h : around.Finds i s) : s.Valid := by
  cases h with
  | standard => exact ⟨by decide, by decide, by decide⟩
  | document _ _ h => exact Settings.valid_of_ofEntry h

/-! ### The environment and the switch -/

lemma Settings.inEnvironment_eq (environment : List (Text × Text)) (s : Settings) :
    s.inEnvironment environment = s.inForce environment none := by
  unfold Settings.inEnvironment Settings.inForce environmentLevel?
  cases environment.lookup logLevelVariable with
  | none => rfl
  | some value =>
    rw [Option.map_some, Option.filter_some]
    by_cases h : value.lowercase.isLevelName = true
    · simp only [h, if_true, Option.none_or, Option.getD_some]
    · simp only [h, Bool.false_eq_true, if_false, Option.none_or, Option.getD_none]

lemma Settings.ofInvocation_inForce (environment : List (Text × Text)) (s : Settings) :
    Settings.ofInvocation i (s.inForce environment none) = s.inForce environment i.logLevel := by
  unfold Settings.ofInvocation Settings.inForce
  cases i.logLevel <;> rfl

/-- The settings of an invocation are those that it finds, with the level in force. -/
lemma Surroundings.settings_eq_ok_iff : around.settings i = .ok s ↔
    ∃ d, around.Finds i d ∧ s = d.inForce around.environment i.logLevel := by
  have hany : i.document.any (fun name => decide ('\x00' ∈ name)) = true ↔
      ∃ name, i.document = some name ∧ '\x00' ∈ name := by
    simp [Option.any_eq_true]
  unfold Surroundings.settings Settings.load
  simp only [Settings.inEnvironment_eq]
  constructor
  · intro h
    split at h
    · exact nomatch h
    · next hname =>
      have hname : ∀ name, i.document = some name → '\x00' ∉ name := by
        intro name heq hmem
        exact hname (hany.mpr ⟨name, heq, hmem⟩)
      split at h
      · exact nomatch h
      · next hlocate =>
        obtain rfl := Except.ok.inj h
        exact ⟨_, .standard hname hlocate, Settings.ofInvocation_inForce _ _⟩
      · next path entry hlocate =>
        cases hd : Settings.ofEntry around.limits path entry with
        | error e => exact nomatch (hd ▸ h)
        | ok d =>
          rw [hd] at h
          obtain rfl := Except.ok.inj h
          exact ⟨d, .document hname hlocate hd, Settings.ofInvocation_inForce _ _⟩
  · rintro ⟨d, hd, rfl⟩
    have hname : ¬i.document.any (fun name => decide ('\x00' ∈ name)) = true := by
      rw [hany]
      rintro ⟨name, heq, hmem⟩
      cases hd with
      | standard hname | document hname => exact hname name heq hmem
    rw [if_neg hname]
    cases hd with
    | standard _ hlocate =>
      rw [hlocate]
      exact congrArg Except.ok (Settings.ofInvocation_inForce _ _)
    | document _ hlocate h =>
      rw [hlocate]
      simp only [h]
      exact congrArg Except.ok (Settings.ofInvocation_inForce _ _)

/-- The choices of the switch for the level. -/
def levelChoices : List Text := ["debug", "info", "warn", "error"]

lemma Invocation.logLevel_of_read (hread : Invocation.read words = .ok i) :
    ∃ main, Usage.main.given words = .ok main ∧ i.logLevel = main.value? levelSwitch := by
  unfold Invocation.read at hread
  split at hread
  · exact nomatch hread
  · next main hmain =>
    refine ⟨main, hmain, ?_⟩
    split at hread
    · split at hread <;> exact nomatch hread
    · split at hread
      · exact nomatch hread
      · simp only at hread
        split at hread
        · exact nomatch hread
        · obtain rfl := Except.ok.inj hread
          rfl

/-- The switch for the level is given by one of its choices. -/
lemma Invocation.logLevel_mem (hread : Invocation.read words = .ok i)
    (hlevel : i.logLevel = some level) :
    level ∈ levelChoices := by
  obtain ⟨main, hmain, hvalue⟩ := Invocation.logLevel_of_read hread
  have hswitch : ∀ s ∈ Usage.main.switches, s.name = levelSwitch →
      s.effect = .value (.oneOf levelChoices) := by decide
  have hgiven : Usage.main.read words = .ok main := by
    unfold Usage.given at hmain
    split at hmain
    · next hread =>
      obtain rfl := Except.ok.inj hmain
      exact hread
    · exact nomatch hmain
  have hmem : (levelSwitch, some level) ∈ main.values :=
    Given.mem_of_value? (hvalue.symm.trans hlevel)
  obtain ⟨s, hs, rule, hname, heffect, hrule⟩ := Usage.obeys_of_read hgiven _ _ hmem
  obtain rfl : _ = rule := SwitchEffect.value.inj ((hswitch s hs hname).symm.trans heffect)
  by_contra hnot
  simp [ValueRule.mistake?, hnot] at hrule

lemma Text.isLevelName_of_mem (h : level ∈ levelChoices) : level.isLevelName = true := by
  have hnames : ∀ level ∈ levelChoices, level.isLevelName = true := by decide
  exact hnames level h

/-! ### Services -/

lemma Surroundings.hosting_compile (view : View) (source : Text) :
    (around.compile s verbose view source).hosting = none := by
  unfold Surroundings.compile
  split
  · unfold Surroundings.reportOf
    simp only
    split <;> rfl
  · rfl

/-- Only the task of serving starts a service. -/
lemma Surroundings.hosting_perform (h : (around.perform s verbose task).hosting = some hosting) :
    ∃ e, task = .serve e ∧ hosting = .ofSettings s e := by
  cases task with
  | compile file view =>
    unfold Surroundings.perform at h
    simp only at h
    split at h
    · exact nomatch (Surroundings.hosting_compile _ _).symm.trans h
    · exact nomatch h
    · exact nomatch h
  | catalogue => exact nomatch h
  | source name =>
    unfold Surroundings.perform at h
    simp only at h
    split at h <;> exact nomatch h
  | run name view =>
    unfold Surroundings.perform at h
    simp only at h
    split at h
    · exact nomatch (Surroundings.hosting_compile _ _).symm.trans h
    · exact nomatch h
  | serve e =>
    unfold Surroundings.perform at h
    simp only at h
    split at h
    · exact ⟨e, rfl, (Option.some.inj h).symm⟩
    · exact nomatch h

lemma Surroundings.hosting_serve {e : Endpoint} (h : around.hasServer = true) :
    (around.perform s verbose (.serve e)).hosting = some (.ofSettings s e) := by
  unfold Surroundings.perform
  simp only [h, if_true]

/-- The names of the levels that a service knows. -/
def serviceLevels : List Text := ["debug", "info", "warning", "error"]

lemma Hosting.logLevel_mem (h : s.logLevel.isLevelName = true) (e : Endpoint) :
    (Hosting.ofSettings s e).logLevel ∈ serviceLevels := by
  have hnames : ∀ name ∈ Level.names.map Prod.fst,
      (if name = "warn" then ("warning" : Text) else name) ∈ serviceLevels := by decide
  exact hnames _ (Text.isLevelName_iff.mp h)

/-! ### Runs -/

/-- A run carries out its task by the settings of its document, with the level of the switch if
there is one, or else that of the environment if this names one, or else that of the document.
The switch has one of its choices, and the level in force has a name whatever it comes from, so
that the log is never configured with the level that stands for unknown names. A service is told
one of the names that it knows. -/
theorem Surroundings.run_level {d : Settings} (hread : Invocation.read words = .ok i)
    (hfinds : around.Finds i d) :
    ∃ s : Settings, around.settings i = .ok s ∧
      around.run words = around.perform s i.verbose i.task ∧
      s = { d with
        logLevel := (i.logLevel.or (environmentLevel? around.environment)).getD d.logLevel } ∧
      (∀ level, i.logLevel = some level → level ∈ levelChoices) ∧
      s.logLevel.isLevelName = true ∧
      (∃ level, Level.ofName? s.logLevel.lowercase = some level ∧
        ∀ r : Registry, (r.configure s.logLevel).level = some level) ∧
      (∀ e, i.task = .serve e → around.hasServer = true →
        (around.run words).hosting = some (.ofSettings s e)) ∧
      ∀ hosting, (around.run words).hosting = some hosting →
        hosting.settings = s ∧ hosting.logLevel ∈ serviceLevels := by
  have hsettings := Surroundings.settings_eq_ok_iff.mpr ⟨d, hfinds, rfl⟩
  have hrun : around.run words =
      around.perform (d.inForce around.environment i.logLevel) i.verbose i.task := by
    simp only [Surroundings.run, hread, Surroundings.invoke, hsettings]
  have hname : (d.inForce around.environment i.logLevel).logLevel.isLevelName = true := by
    unfold Settings.inForce
    cases hswitch : i.logLevel with
    | some level => exact Text.isLevelName_of_mem (Invocation.logLevel_mem hread hswitch)
    | none =>
      cases henvironment : environmentLevel? around.environment with
      | some level => exact (Option.filter_eq_some_iff.mp henvironment).2
      | none => exact hfinds.valid.logLevel_known
  refine ⟨_, hsettings, hrun, rfl, fun level => Invocation.logLevel_mem hread, hname,
    ⟨_, Text.ofName?_of_isLevelName hname, fun r => ?_⟩, ?_, ?_⟩
  · unfold Registry.configure
    simp only
    split <;> rfl
  · intro e htask hserver
    rw [hrun, htask, Surroundings.hosting_serve hserver]
  · intro hosting hhosting
    rw [hrun] at hhosting
    obtain ⟨e, -, rfl⟩ := Surroundings.hosting_perform hhosting
    exact ⟨rfl, Hosting.logLevel_mem hname e⟩

end

/-- A result that can be computed to the end. -/
lemma eq_ok_of_toOption {ε α : Type} {result : Except ε α} {a : α}
    (h : result.toOption = some a) :
    result = .ok a := by
  cases result with
  | ok b => exact congrArg Except.ok (Option.some.inj h)
  | error e => exact nomatch h

/-- A service that is asked for with a level by its document, by the environment and by a
switch. -/
def layeredEntries : List (Text × Json) :=
  [("compiler", .object [("log_level", .text "DEBUG"), ("simulate", .bool false)])]

def layeredPath : Path := ⟨true, [".ebplrc"]⟩

def layeredEntry : Entry := .ofText (Json.write .compact (.object layeredEntries))

def layeredSurroundings : Surroundings where
  directory := ⟨true, []⟩
  files := fun path => if path = layeredPath then .ok (some layeredEntry) else .ok none
  input := []
  environment := [("EBPL_LOG_LEVEL", "Error")]
  clock := []
  trace := []
  hasServer := true

def layeredSettings : Settings := { simulate := false, logLevel := "debug" }

def layeredInvocation : Invocation := ⟨none, false, some "warn", .serve .standard⟩

theorem Surroundings.run_level_layered :
    Invocation.read ["--log-level", "warn", "serve"] = .ok layeredInvocation ∧
      layeredSurroundings.Finds layeredInvocation layeredSettings ∧
      layeredSurroundings.settings layeredInvocation =
        .ok { layeredSettings with logLevel := "warn" } ∧
      (layeredSurroundings.run ["--log-level", "warn", "serve"]).hosting =
        some ⟨.standard, "warning", { layeredSettings with logLevel := "warn" }⟩ := by
  have hread : Invocation.read ["--log-level", "warn", "serve"] = .ok layeredInvocation :=
    eq_ok_of_toOption (by decide +kernel)
  have hfits : (Json.object layeredEntries).Fits Limits.standard.json :=
    ⟨by decide, by decide, ⟨by decide, by decide, trivial, trivial, trivial⟩, trivial⟩
  have hdocument :
      Settings.ofEntry .standard layeredPath layeredEntry = .ok layeredSettings := by
    have htable : Table.ofEntry .standard layeredPath layeredEntry =
        .ok (Datum.ofEntries layeredEntries) :=
      Table.ofEntry_write hfits rfl (by decide)
    have hsettings : Settings.ofDocument Limits.standard.shown (Datum.ofEntries layeredEntries) =
        .ok layeredSettings :=
      eq_ok_of_toOption (by decide +kernel)
    simp only [Settings.ofEntry, htable, hsettings]
  have hfinds : layeredSurroundings.Finds layeredInvocation layeredSettings :=
    .document nofun rfl hdocument
  obtain ⟨s, hsettings, -, hs, -, -, -, hserve, -⟩ := Surroundings.run_level hread hfinds
  obtain rfl : s = { layeredSettings with logLevel := "warn" } := hs
  exact ⟨hread, hfinds, hsettings, hserve .standard rfl rfl⟩

end PlainEnglish
