import Mathlib.Tactic
import PlainEnglish.Limits
import PlainEnglish.Proofs.Journal.Level
import PlainEnglish.Proofs.Settings.Shown

/-!
# Single settings

A document lays down each setting by what stands under the key of that setting, and by nothing
else. What it lays down is valid, and valid settings that are written in a document are laid down
by it.

Main statement: `Settings.ofDocument_settings`.
-/

namespace PlainEnglish

/-- What can be set. -/
inductive Setting where
  | headerLines
  | logLevel
  | indentWidth
  | tokenPadWidth
  | simulate
deriving DecidableEq, Repr

/-- The key of a setting in a document. -/
def Setting.key : Setting → Text
  | .headerLines => "header_lines"
  | .logLevel => "log_level"
  | .indentWidth => "indent_width"
  | .tokenPadWidth => "token_pad_width"
  | .simulate => "simulate"

/-- One of the settings, as a value in a document. -/
def Settings.datum (s : Settings) : Setting → Datum
  | .headerLines => .list (s.headerLines.map .text)
  | .logLevel => .text s.logLevel
  | .indentWidth => .integer s.indentWidth
  | .tokenPadWidth => .integer s.tokenPadWidth
  | .simulate => .bool s.simulate

/-- The settings with their standard for the setting that has a key, if one has. -/
def Settings.without (s : Settings) (key : Text) : Settings where
  headerLines := if key = Setting.headerLines.key then standard.headerLines else s.headerLines
  logLevel := if key = Setting.logLevel.key then standard.logLevel else s.logLevel
  indentWidth := if key = Setting.indentWidth.key then standard.indentWidth else s.indentWidth
  tokenPadWidth :=
    if key = Setting.tokenPadWidth.key then standard.tokenPadWidth else s.tokenPadWidth
  simulate := if key = Setting.simulate.key then standard.simulate else s.simulate

/-- What stands in a document in the place of a setting. -/
def Table.setting? (document : Table) (f : Setting) : Option Datum :=
  match document.value? "compiler" with
  | some (.table part) => Table.value? part f.key
  | _ => none

/-- A table without what stands under a key. -/
def Table.without (table : Table) (key : Text) : Table := table.filter fun entry => entry.1 ≠ key

/-- What a part of a document lays down for a setting. -/
def Table.read (room : Nat) (part : Table) : Setting → Except SettingsFault Datum
  | .headerLines => (part.headerLines room).map fun lines => .list (lines.map .text)
  | .logLevel => (part.logLevel room).map .text
  | .indentWidth =>
    (part.width room Setting.indentWidth.key Settings.standard.indentWidth).map .integer
  | .tokenPadWidth =>
    (part.width room Setting.tokenPadWidth.key Settings.standard.tokenPadWidth).map .integer
  | .simulate => (part.flag room Setting.simulate.key Settings.standard.simulate).map .bool

/-! ### Results -/

section

variable {α β : Type} {result : Except SettingsFault α} {next : α → Except SettingsFault β}
  {f : α → β} {a : α} {b : β} {fault : SettingsFault}

lemma SettingsFault.bind_eq_ok_iff :
    (result >>= next) = .ok b ↔ ∃ a, result = .ok a ∧ next a = .ok b := by
  cases result <;> simp [bind, Except.bind]

lemma SettingsFault.bind_eq_error_iff : (result >>= next) = .error fault ↔
    result = .error fault ∨ ∃ a, result = .ok a ∧ next a = .error fault := by
  cases result <;> simp [bind, Except.bind]

lemma SettingsFault.map_eq_ok_iff (hf : Function.Injective f) :
    result.map f = .ok (f a) ↔ result = .ok a := by
  cases result <;> simp [Except.map, hf.eq_iff]

lemma SettingsFault.map_eq_error_iff : result.map f = .error fault ↔ result = .error fault := by
  cases result <;> simp [Except.map]

end

section

variable {room : Nat} {document document' part part' : Table} {s s' : Settings} {f : Setting}
  {key key' : Text} {value : Datum} {fault : SettingsFault}

/-! ### All settings of a document -/

lemma Datum.list_map_text_injective :
    Function.Injective fun lines : List Text => Datum.list (lines.map .text) := by
  have htext : Function.Injective Datum.text := fun _ _ => Datum.text.inj
  exact fun _ _ h => (List.map_injective_iff.mpr htext) (Datum.list.inj h)

lemma Settings.eq_of_datum (h : ∀ f, s.datum f = s'.datum f) : s = s' := by
  have hheader := Datum.list_map_text_injective (h .headerLines)
  have hlevel := Datum.text.inj (h .logLevel)
  have hindent := Datum.integer.inj (h .indentWidth)
  have hpad := Datum.integer.inj (h .tokenPadWidth)
  have hsimulate := Datum.bool.inj (h .simulate)
  cases s
  cases s'
  simp_all

/-- A document lays down settings if its part lays down each of them. -/
lemma Settings.ofDocument_eq_ok_iff : Settings.ofDocument room document = .ok s ↔
    ∃ part, document.settingsPart = .ok part ∧ ∀ f, part.read room f = .ok (s.datum f) := by
  have hread (part : Table) : (∀ f, part.read room f = .ok (s.datum f)) ↔
      part.headerLines room = .ok s.headerLines ∧ part.logLevel room = .ok s.logLevel ∧
        part.width room "indent_width" Settings.standard.indentWidth = .ok s.indentWidth ∧
        part.width room "token_pad_width" Settings.standard.tokenPadWidth = .ok s.tokenPadWidth ∧
        part.flag room "simulate" Settings.standard.simulate = .ok s.simulate := by
    rw [← SettingsFault.map_eq_ok_iff Datum.list_map_text_injective,
      ← SettingsFault.map_eq_ok_iff fun _ _ => Datum.text.inj,
      ← SettingsFault.map_eq_ok_iff fun _ _ => Datum.integer.inj,
      ← SettingsFault.map_eq_ok_iff fun _ _ => Datum.integer.inj,
      ← SettingsFault.map_eq_ok_iff fun _ _ => Datum.bool.inj]
    constructor
    · exact fun h => ⟨h .headerLines, h .logLevel, h .indentWidth, h .tokenPadWidth, h .simulate⟩
    · rintro ⟨hheader, hlevel, hindent, hpad, hsimulate⟩ (_ | _)
      exacts [hheader, hlevel, hindent, hpad, hsimulate]
  simp only [hread]
  unfold Settings.ofDocument
  simp only [SettingsFault.bind_eq_ok_iff]
  constructor
  · rintro ⟨part, hpart, _, hheader, _, hlevel, _, hindent, _, hpad, _, hsimulate, hs⟩
    obtain rfl := Except.ok.inj hs
    exact ⟨part, hpart, hheader, hlevel, hindent, hpad, hsimulate⟩
  · rintro ⟨part, hpart, hheader, hlevel, hindent, hpad, hsimulate⟩
    exact ⟨part, hpart, _, hheader, _, hlevel, _, hindent, _, hpad, _, hsimulate, rfl⟩

/-- A document is at fault in its part as a whole or in one of the settings. -/
lemma Settings.fault_of_ofDocument (h : Settings.ofDocument room document = .error fault) :
    document.settingsPart = .error fault ∨
      ∃ part f, document.settingsPart = .ok part ∧ part.read room f = .error fault := by
  unfold Settings.ofDocument at h
  simp only [SettingsFault.bind_eq_error_iff] at h
  rcases h with h | ⟨part, hpart, h⟩
  · exact Or.inl h
  · refine Or.inr ?_
    rcases h with h | ⟨_, -, h | ⟨_, -, h | ⟨_, -, h | ⟨_, -, h | ⟨_, -, h⟩⟩⟩⟩⟩
    · exact ⟨part, .headerLines, hpart, SettingsFault.map_eq_error_iff.mpr h⟩
    · exact ⟨part, .logLevel, hpart, SettingsFault.map_eq_error_iff.mpr h⟩
    · exact ⟨part, .indentWidth, hpart, SettingsFault.map_eq_error_iff.mpr h⟩
    · exact ⟨part, .tokenPadWidth, hpart, SettingsFault.map_eq_error_iff.mpr h⟩
    · exact ⟨part, .simulate, hpart, SettingsFault.map_eq_error_iff.mpr h⟩
    · exact nomatch h

/-! ### The part of a document -/

lemma Table.settingsPart_of_value? (h : document.value? "compiler" = some (.table part)) :
    document.settingsPart = .ok part := by
  rw [Table.settingsPart, h]
  cases part <;> rfl

/-- Where the whole part says nothing, none of its settings does. -/
lemma Table.value?_of_settingsPart (h : document.settingsPart = .ok part) (f : Setting) :
    part.value? f.key = document.setting? f := by
  unfold Table.settingsPart at h
  unfold Table.setting?
  split at h
  · next hnone =>
    obtain rfl := Except.ok.inj h
    rw [hnone]
    rfl
  · next value hvalue =>
    rw [hvalue]
    split at h
    · next hvoid =>
      obtain rfl := Except.ok.inj h
      cases value with
      | table entries =>
        obtain rfl : entries = [] := List.isEmpty_iff.mp hvoid
        rfl
      | _ => rfl
    · split at h
      · obtain rfl := Except.ok.inj h
        rfl
      · exact nomatch h

lemma Table.setting?_eq_some_iff : document.setting? f = some value ↔
    ∃ part, document.value? "compiler" = some (.table part) ∧
      Table.value? part f.key = some value := by
  unfold Table.setting?
  split
  · next part hpart =>
    refine ⟨fun h => ⟨part, hpart, h⟩, ?_⟩
    rintro ⟨part', hpart', h⟩
    obtain rfl : part = part' := Datum.table.inj (Option.some.inj (hpart.symm.trans hpart'))
    exact h
  · next hother =>
    refine ⟨fun h => (nomatch h), ?_⟩
    rintro ⟨part, hpart, -⟩
    exact absurd hpart (hother part)

/-! ### Single settings of a part -/

/-- A setting is read from what stands under its key. -/
lemma Table.read_congr (h : part.value? f.key = part'.value? f.key) :
    part.read room f = part'.read room f := by
  cases f with
  | headerLines =>
    have hlines : part.value? "header_lines" = part'.value? "header_lines" := h
    simp only [Table.read, Table.headerLines, hlines]
  | logLevel =>
    have hlevel : part.value? "log_level" = part'.value? "log_level" := h
    simp only [Table.read, Table.logLevel, Table.levelName, hlevel]
  | indentWidth => simp only [Table.read, Table.width, h]
  | tokenPadWidth => simp only [Table.read, Table.width, h]
  | simulate => simp only [Table.read, Table.flag, h]

lemma Table.read_of_none (h : part.value? f.key = none) :
    part.read room f = .ok (Settings.standard.datum f) := by
  have hempty : part.value? f.key = Table.value? [] f.key := h
  rw [Table.read_congr hempty]
  cases f <;> rfl

/-- A valid setting is read as it is written. -/
lemma Table.read_datum (hs : s.Valid) (h : part.value? f.key = some (s.datum f)) :
    part.read room f = .ok (s.datum f) := by
  cases f with
  | headerLines =>
    have hlines : part.value? "header_lines" = some (.list (s.headerLines.map .text)) := h
    have hshown : ∀ d ∈ s.headerLines.map Datum.text, d.obstacle? room = none := by
      intro d hd
      obtain ⟨line, -, rfl⟩ := List.mem_map.mp hd
      rfl
    have hshow : (s.headerLines.map Datum.text).map Datum.show = s.headerLines := by
      rw [List.map_map]
      exact List.map_id _
    rw [Table.read, Table.headerLines, hlines]
    simp only [Datum.mapM_shown hshown, hshow]
    rfl
  | logLevel =>
    have hlevel : part.value? "log_level" = some (.text s.logLevel) := h
    have hvoid : (Datum.text s.logLevel).isVoid = false := by
      have hnames : ∀ name ∈ Level.names.map Prod.fst, (Datum.text name).isVoid = false := by
        decide
      exact hnames _ (Text.isLevelName_iff.mp hs.logLevel_known)
    have hname : part.levelName room = .ok s.logLevel := by
      rw [Table.levelName, hlevel]
      simp only [hvoid, Bool.false_eq_true, if_false]
      exact congrArg Except.ok (Text.lowercase_of_isLevelName hs.logLevel_known)
    rw [Table.read, Table.logLevel, hname]
    simp only [hs.logLevel_known, if_true]
    rfl
  | indentWidth =>
    have hwidth : part.value? Setting.indentWidth.key = some (.integer s.indentWidth) := h
    rw [Table.read, Table.width, hwidth]
    simp only [hs.indentWidth_nonneg, if_true]
    rfl
  | tokenPadWidth =>
    have hwidth : part.value? Setting.tokenPadWidth.key = some (.integer s.tokenPadWidth) := h
    rw [Table.read, Table.width, hwidth]
    simp only [hs.tokenPadWidth_nonneg, if_true]
    rfl
  | simulate =>
    have hflag : part.value? Setting.simulate.key = some (.bool s.simulate) := h
    rw [Table.read, Table.flag, hflag]
    rfl

/-! ### Validity -/

lemma Table.nonneg_of_width {standard n : Int} (hstandard : 0 ≤ standard)
    (h : part.width room key standard = .ok n) : 0 ≤ n := by
  unfold Table.width at h
  split at h
  · obtain rfl := Except.ok.inj h
    exact hstandard
  · split at h
    · next hn =>
      obtain rfl := Except.ok.inj h
      exact hn
    · exact nomatch h
  · exact nomatch h

lemma Table.isLevelName_of_logLevel {name : Text} (h : part.logLevel room = .ok name) :
    name.isLevelName = true := by
  unfold Table.logLevel at h
  split at h
  · exact nomatch h
  · split at h
    · next hname =>
      obtain rfl := Except.ok.inj h
      exact hname
    · exact nomatch h

/-- Whatever a document lays down is valid. -/
lemma Settings.valid_of_ofDocument (h : Settings.ofDocument room document = .ok s) :
    s.Valid := by
  obtain ⟨part, -, hread⟩ := Settings.ofDocument_eq_ok_iff.mp h
  have hindent :=
    (SettingsFault.map_eq_ok_iff fun _ _ => Datum.integer.inj).mp (hread .indentWidth)
  have hpad :=
    (SettingsFault.map_eq_ok_iff fun _ _ => Datum.integer.inj).mp (hread .tokenPadWidth)
  have hlevel := (SettingsFault.map_eq_ok_iff fun _ _ => Datum.text.inj).mp (hread .logLevel)
  exact ⟨Table.nonneg_of_width (by decide) hindent, Table.nonneg_of_width (by decide) hpad,
    Table.isLevelName_of_logLevel hlevel⟩

/-! ### Leaving a key out -/

lemma Table.value?_without (table : Table) (key key' : Text) :
    (table.without key).value? key' = if key' = key then none else table.value? key' := by
  unfold Table.value? Table.without
  induction table with
  | nil => simp
  | cons entry table ih =>
    rw [List.filter_cons, List.lookup_cons]
    by_cases hentry : entry.1 = key
    · rw [if_neg (by simp [hentry]), ih]
      split
      · rfl
      · next hne =>
        rw [beq_eq_false_iff_ne.mpr (hentry ▸ hne)]
    · rw [if_pos (by simp [hentry]), List.lookup_cons, ih]
      split
      · next hsame =>
        rw [if_neg]
        rintro rfl
        exact hentry (eq_of_beq hsame).symm
      · rfl

lemma Settings.datum_without (s : Settings) (key : Text) (f : Setting) :
    (s.without key).datum f = if key = f.key then standard.datum f else s.datum f := by
  cases f <;> simp only [Settings.datum, Settings.without] <;> split <;> rfl

/-- What a document lays down is valid. It lays down all valid settings that are written in its
part, whatever else stands there or beside it. Leaving a key out of the part gives another
document that is free of faults, and the setting with this key its standard, and changes nothing
else. And a setting is the same wherever the same stands under its key. -/
theorem Settings.ofDocument_settings (room : Nat) (document : Table) :
    (∀ s, Settings.ofDocument room document = .ok s → s.Valid) ∧
    (∀ s : Settings, s.Valid → (∀ f, document.setting? f = some (s.datum f)) →
      Settings.ofDocument room document = .ok s) ∧
    (∀ s part key document', Settings.ofDocument room document = .ok s →
      document.value? "compiler" = some (.table part) →
      Table.value? document' "compiler" = some (.table (Table.without part key)) →
      Settings.ofDocument room document' = .ok (s.without key)) ∧
    ∀ s s' document' f, Settings.ofDocument room document = .ok s →
      Settings.ofDocument room document' = .ok s' → document.setting? f = document'.setting? f →
      s.datum f = s'.datum f := by
  refine ⟨fun s => Settings.valid_of_ofDocument, ?_, ?_, ?_⟩
  · intro s hs hdatum
    obtain ⟨part, hpart, -⟩ := Table.setting?_eq_some_iff.mp (hdatum .headerLines)
    have hread := Table.settingsPart_of_value? hpart
    refine Settings.ofDocument_eq_ok_iff.mpr ⟨part, hread, fun f => Table.read_datum hs ?_⟩
    rw [Table.value?_of_settingsPart hread, hdatum]
  · intro s part key document' hs hpart hpart'
    obtain ⟨part₁, hpart₁, hread⟩ := Settings.ofDocument_eq_ok_iff.mp hs
    obtain rfl : part = part₁ :=
      Except.ok.inj ((Table.settingsPart_of_value? hpart).symm.trans hpart₁)
    refine Settings.ofDocument_eq_ok_iff.mpr
      ⟨_, Table.settingsPart_of_value? hpart', fun f => ?_⟩
    rw [Settings.datum_without]
    split
    · next hkey =>
      exact Table.read_of_none (by rw [Table.value?_without, if_pos hkey.symm])
    · next hkey =>
      rw [← hread f]
      exact Table.read_congr (by rw [Table.value?_without, if_neg (Ne.symm hkey)])
  · intro s s' document' f hs hs' hsame
    obtain ⟨part, hpart, hread⟩ := Settings.ofDocument_eq_ok_iff.mp hs
    obtain ⟨part', hpart', hread'⟩ := Settings.ofDocument_eq_ok_iff.mp hs'
    have hvalue : part.value? f.key = part'.value? f.key := by
      rw [Table.value?_of_settingsPart hpart, Table.value?_of_settingsPart hpart', hsame]
    exact Except.ok.inj ((hread f).symm.trans ((Table.read_congr hvalue).trans (hread' f)))

end

/-- A document with all settings, in an order of their own, and with keys that mean nothing. -/
def crowdedPart : Table :=
  [("simulate", .bool false), ("colour", .text "red"), ("header_lines", .list []),
    ("log_level", .text "warn"), ("token_pad_width", .integer 12), ("indent_width", .integer 0)]

def crowdedDocument (part : Table) : Table := [("editor", .list []), ("compiler", .table part)]

def crowdedSettings : Settings where
  headerLines := []
  indentWidth := 0
  tokenPadWidth := 12
  simulate := false
  logLevel := "warn"

theorem Settings.ofDocument_crowdedDocument :
    crowdedSettings.Valid ∧
      (∀ f, (crowdedDocument crowdedPart).setting? f = some (crowdedSettings.datum f)) ∧
      Settings.ofDocument Limits.standard.shown (crowdedDocument crowdedPart) =
        .ok crowdedSettings ∧
      Settings.ofDocument Limits.standard.shown
        (crowdedDocument (crowdedPart.without "log_level")) =
        .ok { crowdedSettings with logLevel := "info" } := by
  have hvalid : crowdedSettings.Valid := ⟨by decide, by decide, by decide⟩
  have hdatum (f : Setting) :
      (crowdedDocument crowdedPart).setting? f = some (crowdedSettings.datum f) := by
    cases f <;> rfl
  obtain ⟨-, hwritten, hwithout, -⟩ :=
    Settings.ofDocument_settings Limits.standard.shown (crowdedDocument crowdedPart)
  have hread := hwritten crowdedSettings hvalid hdatum
  exact ⟨hvalid, hdatum, hread, hwithout _ crowdedPart "log_level" _ hread rfl rfl⟩

end PlainEnglish
