import PlainEnglish.Proofs.Json.Limits
import PlainEnglish.Proofs.Json.RoundTrip
import PlainEnglish.Proofs.Text.Bytes
import PlainEnglish.Proofs.Text.Newlines
import PlainEnglish.Settings.Load

/-!
# Settings that cannot be read

A document of settings cannot be read at all if it cannot be opened, if a directory stands in its
place, if its bytes are no text, or if it exceeds a limit: of levels, of digits, of single halves
of pairs, or of what can be shown of it. Every other document lays down settings or is at fault.
A JSON document exceeds a limit only by its brackets, by a row of digits or by an escape.

Main statements: `Settings.ofEntry_unreadable_iff`, `Settings.Exceeds.of_json`.
-/

namespace PlainEnglish

/-- A file with the bytes of a text. -/
def Entry.ofText (t : Text) : Entry := .file ⟨t.bytes.toArray⟩

/-- Why the text of the document at a path exceeds a limit. In one that is no TOML whatever is
read can be shown. -/
inductive Settings.Exceeds (limits : Limits) (path : Path) (t : Text) : ReadFailure → Prop
  | toml {fault : Toml.Fault} {failure : ReadFailure} (hpath : path.hasEnding "toml" = true)
    (h : Toml.read limits.toml t = .error fault) (hfault : fault.failure? = some failure) :
    Settings.Exceeds limits path t failure
  | unshownToml {table : Table} {failure : ReadFailure} (hpath : path.hasEnding "toml" = true)
    (h : Toml.read limits.toml t = .ok table)
    (hsettings : Settings.ofDocument limits.shown table = .error (.unwritable failure)) :
    Settings.Exceeds limits path t failure
  | json {e : Json.ReadError} {failure : ReadFailure} (hpath : path.hasEnding "toml" = false)
    (h : Json.readWithin limits.json t.withNewlines = .error e)
    (hfault : e.fault.failure? = some failure) : Settings.Exceeds limits path t failure

/-- Why what stands at a path cannot be read as settings. -/
inductive Settings.Unreadable (limits : Limits) (path : Path) : Entry → ReadFailure → Prop
  | directory : Settings.Unreadable limits path .directory .isDirectory
  | closed (reason : Text) : Settings.Unreadable limits path (.closed reason) (.closed reason)
  | notText {bytes : ByteArray} (h : ∀ t, .file bytes ≠ Entry.ofText t) :
    Settings.Unreadable limits path (.file bytes) .notText
  | exceeds {t : Text} {failure : ReadFailure} (h : Settings.Exceeds limits path t failure) :
    Settings.Unreadable limits path (.ofText t) failure

section

variable {limits : Limits} {path : Path} {entry : Entry} {t : Text} {failure : ReadFailure}

/-! ### Texts of files -/

lemma Entry.characters_ofText (t : Text) : (Entry.ofText t).characters = .ok t := by
  simp only [Entry.ofText, Entry.characters, Text.ofBytes?_bytes]

/-- A file has a text, or its bytes are those of none. -/
lemma Entry.file_cases (bytes : ByteArray) : (∃ t, Entry.file bytes = .ofText t) ∨
    (∀ t, Entry.file bytes ≠ .ofText t) ∧ (Entry.file bytes).characters = .error .notText := by
  cases hbytes : Text.ofBytes? bytes with
  | some t => exact Or.inl ⟨t, congrArg Entry.file (Text.ofBytes?_eq_some_iff.mp hbytes)⟩
  | none =>
    refine Or.inr ⟨fun t heq => ?_, by simp only [Entry.characters, hbytes]⟩
    rw [Text.ofBytes?_eq_some_iff.mpr (Entry.file.inj heq)] at hbytes
    exact nomatch hbytes

/-! ### Tables -/

section

variable {table : Table}

lemma Table.ofToml_ok_iff : Table.ofToml limits path (.ofText t) = .ok table ↔
    Toml.read limits.toml t = .ok table := by
  unfold Table.ofToml
  simp only [Entry.characters_ofText]
  cases Toml.read limits.toml t with
  | ok table => simp
  | error fault => cases hfault : fault.failure? <;> simp [hfault]

lemma Table.ofToml_unreadable_iff :
    Table.ofToml limits path (.ofText t) = .error (.unreadable failure) ↔
      ∃ fault, Toml.read limits.toml t = .error fault ∧ fault.failure? = some failure := by
  unfold Table.ofToml
  simp only [Entry.characters_ofText]
  cases Toml.read limits.toml t with
  | ok table => simp
  | error fault => cases hfault : fault.failure? <;> simp [hfault]

lemma Table.exists_object_of_ofJson (h : Table.ofJson limits path (.ofText t) = .ok table) :
    ∃ entries, Json.readWithin limits.json t.withNewlines = .ok (.object entries) ∧
      table = Datum.ofEntries entries := by
  unfold Table.ofJson Entry.text at h
  simp only [Entry.characters_ofText, Except.map] at h
  split at h
  · next entries hread =>
    obtain rfl := Except.ok.inj h
    exact ⟨entries, hread, rfl⟩
  · exact nomatch h
  · split at h <;> exact nomatch h

/-- A file with a JSON object, on one line as it is written, holds the table of that object. -/
lemma Table.ofEntry_write {entries : List (Text × Json)}
    (h : (Json.object entries).Fits limits.json) (hpath : path.hasEnding "toml" = false)
    (hline : (Json.write .compact (.object entries)).withNewlines =
      Json.write .compact (.object entries)) :
    Table.ofEntry limits path (.ofText (Json.write .compact (.object entries))) =
      .ok (Datum.ofEntries entries) := by
  have hread : Json.readWithin limits.json (Json.write .compact (.object entries)) =
      .ok (.object entries) := by
    simpa using Json.readWithin_write .compact h (b := []) (by simp)
  rw [Table.ofEntry, if_neg (ne_true_of_eq_false hpath), Table.ofJson, Entry.text,
    Entry.characters_ofText, Except.map, hline]
  simp only [hread]

lemma Table.ofJson_unreadable_iff :
    Table.ofJson limits path (.ofText t) = .error (.unreadable failure) ↔
      ∃ e, Json.readWithin limits.json t.withNewlines = .error e ∧
        e.fault.failure? = some failure := by
  unfold Table.ofJson Entry.text
  simp only [Entry.characters_ofText, Except.map]
  cases Json.readWithin limits.json t.withNewlines with
  | ok value => cases value <;> simp
  | error e => cases hfault : e.fault.failure? <;> simp [hfault]

end

/-! ### Documents -/

/-- What is read as no settings is read as no table, or something in its table cannot be
shown. -/
lemma Settings.ofEntry_eq_unreadable_iff :
    Settings.ofEntry limits path entry = .error (.unreadable failure) ↔
      Table.ofEntry limits path entry = .error (.unreadable failure) ∨
        ∃ table, Table.ofEntry limits path entry = .ok table ∧
          Settings.ofDocument limits.shown table = .error (.unwritable failure) := by
  unfold Settings.ofEntry
  cases Table.ofEntry limits path entry with
  | error e => simp
  | ok table =>
    cases hsettings : Settings.ofDocument limits.shown table with
    | ok settings => simp [hsettings]
    | error fault => cases fault <;> simp [hsettings]

/-- What has no characters is not read. -/
lemma Settings.ofEntry_of_characters (h : entry.characters = .error failure) :
    Settings.ofEntry limits path entry = .error (.unreadable failure) := by
  refine Settings.ofEntry_eq_unreadable_iff.mpr (Or.inl ?_)
  unfold Table.ofEntry
  split
  · simp only [Table.ofToml, h]
  · simp only [Table.ofJson, Entry.text, h, Except.map]

lemma Settings.tells_ofJson {entries : List (Text × Json)}
    (h : Json.readWithin limits.json t = .ok (.object entries)) :
    Settings.Tells (Settings.ofDocument limits.shown (Datum.ofEntries entries)) :=
  Settings.tells_ofDocument
    (Datum.obstacle?_mono limits.json_le_shown (Json.obstacle?_of_readWithin h))

/-- A text is not read only if it exceeds a limit. -/
lemma Settings.ofEntry_ofText_iff :
    Settings.ofEntry limits path (.ofText t) = .error (.unreadable failure) ↔
      Settings.Exceeds limits path t failure := by
  rw [Settings.ofEntry_eq_unreadable_iff]
  constructor
  · intro h
    unfold Table.ofEntry at h
    split at h
    · next hpath =>
      rcases h with h | ⟨table, h, hsettings⟩
      · obtain ⟨fault, hread, hfault⟩ := Table.ofToml_unreadable_iff.mp h
        exact .toml hpath hread hfault
      · exact .unshownToml hpath (Table.ofToml_ok_iff.mp h) hsettings
    · next hpath =>
      rw [Bool.not_eq_true] at hpath
      rcases h with h | ⟨table, h, hsettings⟩
      · obtain ⟨e, hread, hfault⟩ := Table.ofJson_unreadable_iff.mp h
        exact .json hpath hread hfault
      · obtain ⟨entries, hread, rfl⟩ := Table.exists_object_of_ofJson h
        exact absurd hsettings (Settings.tells_ofJson hread failure)
  · intro h
    unfold Table.ofEntry
    cases h with
    | toml hpath h hfault =>
      rw [if_pos hpath]
      exact Or.inl (Table.ofToml_unreadable_iff.mpr ⟨_, h, hfault⟩)
    | unshownToml hpath h hsettings =>
      rw [if_pos hpath]
      exact Or.inr ⟨_, Table.ofToml_ok_iff.mpr h, hsettings⟩
    | json hpath h hfault =>
      rw [if_neg (ne_true_of_eq_false hpath)]
      exact Or.inl (Table.ofJson_unreadable_iff.mpr ⟨_, h, hfault⟩)

/-- What cannot be read is told apart from what is at fault. -/
theorem Settings.ofEntry_unreadable_iff :
    Settings.ofEntry limits path entry = .error (.unreadable failure) ↔
      Settings.Unreadable limits path entry failure := by
  have hother {failure' : ReadFailure} (hcharacters : entry.characters = .error failure')
      (h : Settings.ofEntry limits path entry = .error (.unreadable failure)) :
      failure' = failure := by
    simpa [Settings.ofEntry_of_characters hcharacters] using h
  constructor
  · intro h
    cases entry with
    | directory =>
      obtain rfl := hother rfl h
      exact .directory
    | closed reason =>
      obtain rfl := hother rfl h
      exact .closed reason
    | file bytes =>
      rcases Entry.file_cases bytes with ⟨t, ht⟩ | ⟨hnone, hcharacters⟩
      · rw [ht] at h ⊢
        exact .exceeds (Settings.ofEntry_ofText_iff.mp h)
      · obtain rfl := hother hcharacters h
        exact .notText hnone
  · intro h
    cases h with
    | directory => exact Settings.ofEntry_of_characters rfl
    | closed reason => exact Settings.ofEntry_of_characters rfl
    | @notText bytes hnone =>
      rcases Entry.file_cases bytes with ⟨t, ht⟩ | ⟨-, hcharacters⟩
      · exact absurd ht (hnone t)
      · exact Settings.ofEntry_of_characters hcharacters
    | exceeds hexceeds => exact Settings.ofEntry_ofText_iff.mpr hexceeds

lemma Settings.unreadable_ofText_iff : Settings.Unreadable limits path (.ofText t) failure ↔
    Settings.Exceeds limits path t failure :=
  Settings.ofEntry_unreadable_iff.symm.trans Settings.ofEntry_ofText_iff

/-! ### JSON documents -/

lemma Text.EscapesHalf.of_withNewlines (h : t.withNewlines.EscapesHalf) : t.EscapesHalf := by
  obtain ⟨a, b, c, d, unit, hescape, hvalue, hunit⟩ := h
  have hnewline : '\n' ∉ ['\\', 'u', a, b, c, d] := by
    have hnone : hexDigit? '\n' = none := by decide
    intro hmem
    obtain rfl | rfl | rfl | rfl : '\n' = a ∨ '\n' = b ∨ '\n' = c ∨ '\n' = d := by
      simpa using hmem
    all_goals simp [Json.hexValue4?, hnone] at hvalue
  exact ⟨a, b, c, d, unit, Text.isInfix_of_withNewlines hnewline hescape, hvalue, hunit⟩

/-- A text that is no TOML exceeds a limit only if it holds more opening brackets than there may
be levels, a row of more digits than a whole number may have, or an escape of half of a pair. -/
theorem Settings.Exceeds.of_json (hpath : path.hasEnding "toml" = false)
    (h : Settings.Exceeds limits path t failure) :
    limits.json < t.countP Json.opensLevel ∨ (∃ digits, t.HasLongRow digits) ∨
      t.EscapesHalf := by
  cases h with
  | toml hyes | unshownToml hyes => exact nomatch hpath.symm.trans hyes
  | @json e _ _ hread hfault =>
    have hseen := Json.isSeen_of_readWithin hread
    cases hkind : e.fault with
    | tooDeep =>
      rw [hkind] at hseen
      exact Or.inl (Nat.lt_of_lt_of_le hseen (Text.countP_withNewlines_le rfl t))
    | hugeInteger digits =>
      rw [hkind] at hseen
      obtain ⟨hlong, row, hrow, hlength, hdigits⟩ := hseen
      have hnewline : '\n' ∉ row := fun hmem => absurd (hdigits _ hmem) (by decide)
      exact Or.inr (Or.inl
        ⟨_, hlong, row, Text.isInfix_of_withNewlines hnewline hrow, hlength, hdigits⟩)
    | halfPair =>
      rw [hkind] at hseen
      exact Or.inr (Or.inr (Text.EscapesHalf.of_withNewlines hseen))
    | _ => exact nomatch hkind ▸ hfault

/-- One with none of these exceeds no limit. -/
lemma Settings.not_exceeds_of_json (hpath : path.hasEnding "toml" = false)
    (hlevels : t.countP Json.opensLevel ≤ limits.json) (hdigits : ∀ digits, ¬t.HasLongRow digits)
    (hescape : ¬t.EscapesHalf) (failure : ReadFailure) :
    ¬Settings.Exceeds limits path t failure := by
  intro h
  rcases h.of_json hpath with hdeep | ⟨digits, hlong⟩ | hhalf
  · exact Nat.not_le_of_lt hdeep hlevels
  · exact hdigits digits hlong
  · exact hescape hhalf

end

end PlainEnglish
