import PlainEnglish.Proofs.Number.Numeral
import PlainEnglish.Proofs.Settings.Load
import PlainEnglish.Proofs.Settings.Setting

/-!
# Values of the wrong sort

A value of the wrong sort in the place of a setting, or of all settings, is a fault of its
document, which is told with the path of the document. But some such values are overlooked: one
that says nothing, in the place of all settings or of the level, counts as if it were not there,
and the values in a list of header lines are turned into texts.

Main statements: `Settings.ofDocument_misfit`, `Settings.ofDocument_overlooked`.
-/

namespace PlainEnglish

/-- What may stand in a document in the place of a setting. -/
inductive Setting.Fits : Setting → Datum → Prop
  | line (line : Text) : Fits .headerLines (.text line)
  | lines (lines : List Text) : Fits .headerLines (.list (lines.map .text))
  | level {name : Text} (h : name.lowercase.isLevelName = true) : Fits .logLevel (.text name)
  | indentWidth {n : Int} (h : 0 ≤ n) : Fits .indentWidth (.integer n)
  | tokenPadWidth {n : Int} (h : 0 ≤ n) : Fits .tokenPadWidth (.integer n)
  | simulate (b : Bool) : Fits .simulate (.bool b)

/-- A value of the wrong sort stands in a document: in the place of all settings, or in that of
one. -/
inductive Table.Misfit (document : Table) : Option Setting → Datum → Prop
  | part {value : Datum} (h : document.value? "compiler" = some value)
    (hkind : ∀ part, value ≠ .table part) : document.Misfit none value
  | setting {f : Setting} {value : Datum} (h : document.setting? f = some value)
    (hkind : ¬f.Fits value) : document.Misfit (some f) value

/-- A value that is not minded in a place, whether it fits or not. -/
def Datum.IsOverlooked (room : Nat) : Option Setting → Datum → Prop
  | none, value => value.isVoid = true
  | some .logLevel, value => value.isVoid = true
  | some .headerLines, .list items => ∀ d ∈ items, d.obstacle? room = none
  | _, _ => False

/-! ### Values that are no texts -/

section

variable {value : Datum} {d : Decimal} {c : Char}

lemma Text.mem_marks_of_isDigit (h : c.isDigit = true) : c ∈ Text.marks := by
  have hdigits : ∀ n < 10, Char.ofNat (48 + n) ∈ Text.marks := by decide
  have hrange : 48 ≤ c.toNat ∧ c.toNat ≤ 57 := by
    simpa [Char.isDigit, UInt32.le_iff_toNat_le] using h
  have hc := hdigits (c.toNat - 48) (by omega)
  rwa [Nat.add_sub_cancel' hrange.1, Char.ofNat_toNat] at hc

lemma Text.mark_mem_ofInt (n : Int) : ∃ c ∈ Text.marks, c ∈ Text.ofInt n := by
  cases n with
  | ofNat k =>
    obtain ⟨c, hc⟩ := List.exists_mem_of_ne_nil _ (Text.ofNat_ne_nil k)
    exact ⟨c, Text.mem_marks_of_isDigit (Text.isDigit_of_mem_ofNat hc), hc⟩
  | negSucc k => exact ⟨'-', by decide, List.mem_cons_self⟩

lemma Decimal.point_mem_plain (h : d.exponent < 0) : '.' ∈ d.plain := by
  unfold Decimal.plain
  split
  · next k hk => exact absurd h (by simp [hk])
  · simp

lemma Decimal.sign_mem_scientific (d : Decimal) : ∃ c ∈ Text.marks, c ∈ d.scientific := by
  unfold Decimal.scientific
  by_cases h : d.exponent + (Text.ofNat d.coefficient).length - 1 < 0
  · exact ⟨'-', by decide, by simp [h]⟩
  · exact ⟨'+', by decide, by simp [h]⟩

lemma Number.mark_mem_literal (negative : Bool) (m : Magnitude) :
    ∃ c ∈ Text.marks, c ∈ (Number.finite negative m).literal := by
  simp only [Number.literal]
  split
  · exact ⟨'.', by decide, by simp⟩
  · split
    · split
      · exact ⟨'.', by decide, by simp⟩
      · next h =>
        exact ⟨'.', by decide,
          List.mem_append_right _ (Decimal.point_mem_plain (lt_of_not_ge h))⟩
    · obtain ⟨c, hc, hmem⟩ := m.shortest.sign_mem_scientific
      exact ⟨c, hc, List.mem_append_right _ hmem⟩

lemma Day.hyphen_mem_show (d : Day) : '-' ∈ d.show := by
  simp [Day.show, Text.join, List.intercalate]

lemma TimeOfDay.colon_mem_show (t : TimeOfDay) : ':' ∈ t.show := by
  simp [TimeOfDay.show, Text.join, List.intercalate]

/-- No value that says something names a level by its text, unless it is a text itself. -/
lemma Datum.isLevelName_lowercase_show (hvoid : value.isVoid = false)
    (htext : ∀ t, value ≠ .text t) :
    value.show.lowercase.isLevelName = false := by
  have hmark (h : ∃ c ∈ Text.marks, c ∈ value.show) :
      value.show.lowercase.isLevelName = false := by
    obtain ⟨c, hc, hmem⟩ := h
    exact Text.isLevelName_lowercase_of_mem hc hmem
  cases value with
  | null => exact nomatch hvoid
  | bool b =>
    cases b with
    | false => exact nomatch hvoid
    | true => decide +kernel
  | integer n => exact hmark (Text.mark_mem_ofInt n)
  | number x =>
    cases x with
    | nan => decide +kernel
    | infinite negative => cases negative <;> decide +kernel
    | finite negative m => exact hmark (Number.mark_mem_literal negative m)
  | text t => exact absurd rfl (htext t)
  | moment m =>
    cases m with
    | day d => exact hmark ⟨'-', by decide, d.hyphen_mem_show⟩
    | time t => exact hmark ⟨':', by decide, t.colon_mem_show⟩
    | both d t offset =>
      exact hmark ⟨'-', by decide,
        List.mem_append_left _ (List.mem_append_left _ d.hyphen_mem_show)⟩
  | list items => exact hmark ⟨'[', by decide, List.mem_cons_self⟩
  | table entries => exact hmark ⟨'\x7b', by decide, List.mem_cons_self⟩

end

/-! ### Settings that are read -/

section

variable {room : Nat} {document part : Table} {f : Setting} {value : Datum} {items : List Datum}
  {s : Settings} {fault : SettingsFault} {place : Option Setting}

/-- Values are turned into texts if all of them can be shown. -/
lemma Datum.mapM_shown_eq_error_iff : (∃ fault, items.mapM (Datum.shown room) = .error fault) ↔
    ¬∀ d ∈ items, d.obstacle? room = none := by
  induction items with
  | nil => simp [pure, Except.pure]
  | cons d items ih =>
    rw [List.forall_mem_cons, List.mapM_cons]
    simp only [SettingsFault.bind_eq_error_iff]
    cases hd : d.obstacle? room with
    | none =>
      rw [Datum.shown_of_obstacle? hd]
      simp [← ih, pure, Except.pure]
    | some failure => simp [Datum.shown, hd]

/-- Texts can be shown. -/
lemma Setting.Fits.obstacle?_of_mem (h : Setting.headerLines.Fits (.list items)) {d : Datum}
    (hd : d ∈ items) : d.obstacle? room = none := by
  cases h with
  | lines lines =>
    obtain ⟨line, -, rfl⟩ := List.mem_map.mp hd
    rfl

lemma Table.logLevel_of_isVoid (h : part.value? Setting.logLevel.key = some value)
    (hvoid : value.isVoid = true) : part.logLevel room = .ok Settings.standard.logLevel := by
  have hlevel : part.value? "log_level" = some value := h
  rw [Table.logLevel, Table.levelName, hlevel]
  simp only [hvoid, if_true]
  rfl

lemma Table.logLevel_of_not_isVoid (h : part.value? Setting.logLevel.key = some value)
    (hvoid : value.isVoid = false) : part.logLevel room = (value.shown room).bind fun name =>
      if name.lowercase.isLevelName then .ok name.lowercase
      else .error (.unknownLevel name.lowercase) := by
  have hlevel : part.value? "log_level" = some value := h
  rw [Table.logLevel, Table.levelName, hlevel]
  simp only [hvoid, Bool.false_eq_true, if_false]
  cases value.shown room <;> rfl

/-- What fits is read, and so is what is overlooked. -/
lemma Table.exists_read (h : part.value? f.key = some value)
    (hvalue : f.Fits value ∨ value.IsOverlooked room (some f)) :
    ∃ d, part.read room f = .ok d := by
  rcases hvalue with hfits | hover
  · cases hfits with
    | line line =>
      have hlines : part.value? "header_lines" = some (.text line) := h
      exact ⟨_, by rw [Table.read, Table.headerLines, hlines]; rfl⟩
    | lines lines =>
      have hlines : part.value? "header_lines" = some (.list (lines.map .text)) := h
      have hshown : ∀ d ∈ lines.map Datum.text, d.obstacle? room = none :=
        fun d hd => (Setting.Fits.lines lines).obstacle?_of_mem hd
      exact ⟨_, by
        rw [Table.read, Table.headerLines, hlines]; simp only [Datum.mapM_shown hshown]; rfl⟩
    | @level name hname =>
      cases hvoid : (Datum.text name).isVoid with
      | true => exact ⟨_, by rw [Table.read, Table.logLevel_of_isVoid h hvoid]; rfl⟩
      | false =>
        refine ⟨.text name.lowercase, ?_⟩
        rw [Table.read, Table.logLevel_of_not_isVoid h hvoid]
        exact congrArg (Except.map Datum.text) (if_pos hname)
    | @indentWidth n hn =>
      exact ⟨_, by rw [Table.read, Table.width, h]; simp only [hn, if_true]; rfl⟩
    | @tokenPadWidth n hn =>
      exact ⟨_, by rw [Table.read, Table.width, h]; simp only [hn, if_true]; rfl⟩
    | simulate b => exact ⟨_, by rw [Table.read, Table.flag, h]; rfl⟩
  · cases f with
    | headerLines =>
      cases value with
      | list items =>
        have hlines : part.value? "header_lines" = some (.list items) := h
        have hshown := Datum.mapM_shown hover
        exact ⟨_, by rw [Table.read, Table.headerLines, hlines]; simp only [hshown]; rfl⟩
      | _ => exact hover.elim
    | logLevel => exact ⟨_, by rw [Table.read, Table.logLevel_of_isVoid h hover]; rfl⟩
    | indentWidth | tokenPadWidth | simulate => exact hover.elim

/-- What does not fit and is minded is a fault. -/
lemma Table.exists_fault (h : part.value? f.key = some value) (hfits : ¬f.Fits value)
    (hover : ¬value.IsOverlooked room (some f)) : ∃ fault, part.read room f = .error fault := by
  cases f with
  | headerLines =>
    have hlines : part.value? "header_lines" = some value := h
    simp only [Table.read, SettingsFault.map_eq_error_iff, Table.headerLines, hlines]
    cases value with
    | text line => exact absurd (.line line) hfits
    | list items => exact Datum.mapM_shown_eq_error_iff.mpr hover
    | _ => exact ⟨_, rfl⟩
  | logLevel =>
    have hvoid : value.isVoid = false := Bool.eq_false_iff.mpr hover
    rw [Table.read]
    simp only [SettingsFault.map_eq_error_iff, Table.logLevel_of_not_isVoid h hvoid]
    cases hvalue : value.obstacle? room with
    | some failure => exact ⟨_, by rw [Datum.shown, hvalue]; rfl⟩
    | none =>
      have hname : value.show.lowercase.isLevelName = false := by
        by_cases htext : ∃ t, value = .text t
        · obtain ⟨t, rfl⟩ := htext
          exact Bool.eq_false_iff.mpr fun hname => hfits (.level hname)
        · exact Datum.isLevelName_lowercase_show hvoid fun t ht => htext ⟨t, ht⟩
      refine ⟨.unknownLevel value.show.lowercase, ?_⟩
      rw [Datum.shown_of_obstacle? hvalue]
      exact if_neg (ne_true_of_eq_false hname)
  | indentWidth =>
    simp only [Table.read, SettingsFault.map_eq_error_iff, Table.width, h]
    cases value with
    | integer n => exact ⟨_, if_neg fun hn => hfits (.indentWidth hn)⟩
    | _ => exact ⟨_, rfl⟩
  | tokenPadWidth =>
    simp only [Table.read, SettingsFault.map_eq_error_iff, Table.width, h]
    cases value with
    | integer n => exact ⟨_, if_neg fun hn => hfits (.tokenPadWidth hn)⟩
    | _ => exact ⟨_, rfl⟩
  | simulate =>
    simp only [Table.read, SettingsFault.map_eq_error_iff, Table.flag, h]
    cases value with
    | bool b => exact absurd (.simulate b) hfits
    | _ => exact ⟨_, rfl⟩

/-- A fault can be told if the value that is at fault can be shown. -/
lemma Table.tells_read (h : part.value? f.key = some value)
    (hshown : value.obstacle? room = none) : Settings.Tells (part.read room f) := by
  have hpart : Table.IsShown room [(f.key, value)] := List.forall_mem_singleton.mpr hshown
  have hsame : part.value? f.key = Table.value? [(f.key, value)] f.key := by
    rw [h, Table.value?, List.lookup_cons_self]
  intro failure
  rw [Table.read_congr hsame]
  cases f with
  | headerLines => exact mt SettingsFault.map_eq_error_iff.mp (hpart.tells_headerLines failure)
  | logLevel => exact mt SettingsFault.map_eq_error_iff.mp (hpart.tells_logLevel failure)
  | indentWidth => exact mt SettingsFault.map_eq_error_iff.mp (hpart.tells_width _ failure)
  | tokenPadWidth => exact mt SettingsFault.map_eq_error_iff.mp (hpart.tells_width _ failure)
  | simulate => exact mt SettingsFault.map_eq_error_iff.mp (hpart.tells_flag _ failure)

/-! ### Misfits of documents -/

lemma Table.isVoid_of_settingsPart (hvalue : document.value? "compiler" = some value)
    (hkind : ∀ part, value ≠ .table part) (hpart : document.settingsPart = .ok part) :
    value.isVoid = true := by
  rw [Table.settingsPart, hvalue] at hpart
  by_contra hvoid
  simp only [if_neg hvoid] at hpart
  cases value with
  | table entries => exact hkind entries rfl
  | _ => cases hpart

/-- The fault of a document lies in a misfit that is minded. -/
lemma Table.exists_misfit (h : Settings.ofDocument room document = .error fault) :
    ∃ place value, document.Misfit place value ∧ ¬value.IsOverlooked room place ∧
      (value.obstacle? room = none → ∀ failure, fault ≠ .unwritable failure) := by
  rcases Settings.fault_of_ofDocument h with hpart | ⟨part, f, hpart, hread⟩
  · unfold Table.settingsPart at hpart
    split at hpart
    · exact nomatch hpart
    · next value hvalue =>
      split at hpart
      · exact nomatch hpart
      · next hvoid =>
        split at hpart
        · exact nomatch hpart
        · next hkind =>
          obtain rfl := Except.error.inj hpart
          exact ⟨none, value, .part hvalue hkind, hvoid, fun _ _ => nofun⟩
  · cases hvalue : part.value? f.key with
    | none => exact nomatch hread.symm.trans (Table.read_of_none hvalue)
    | some value =>
      have hsetting : document.setting? f = some value :=
        (Table.value?_of_settingsPart hpart f).symm.trans hvalue
      have hneither : ¬(f.Fits value ∨ value.IsOverlooked room (some f)) := by
        intro hvalue'
        obtain ⟨d, hd⟩ := Table.exists_read hvalue hvalue'
        exact nomatch hread.symm.trans hd
      obtain ⟨hfits, hover⟩ := not_or.mp hneither
      refine ⟨some f, value, .setting hsetting hfits, hover, fun hshown failure hfault => ?_⟩
      exact Table.tells_read hvalue hshown failure (hfault ▸ hread)

/-- A misfit that is minded is a fault of its document. -/
lemma Table.Misfit.exists_fault (h : document.Misfit place value)
    (hover : ¬value.IsOverlooked room place) :
    ∃ fault, Settings.ofDocument room document = .error fault := by
  cases hdocument : Settings.ofDocument room document with
  | error fault => exact ⟨fault, rfl⟩
  | ok s =>
    obtain ⟨part, hpart, hread⟩ := Settings.ofDocument_eq_ok_iff.mp hdocument
    cases h with
    | part hvalue hkind => exact absurd (Table.isVoid_of_settingsPart hvalue hkind hpart) hover
    | @setting f _ hvalue hkind =>
      rw [← Table.value?_of_settingsPart hpart] at hvalue
      obtain ⟨fault, hfault⟩ := Table.exists_fault hvalue hkind hover
      exact nomatch hfault.symm.trans (hread f)

/-! ### What is overlooked -/

/-- Something void in the place of all settings leaves them their standards. -/
lemma Table.Misfit.eq_standard (h : document.Misfit none value)
    (hs : Settings.ofDocument room document = .ok s) : s = Settings.standard := by
  obtain ⟨part, hpart, hread⟩ := Settings.ofDocument_eq_ok_iff.mp hs
  cases h with
  | part hvalue hkind =>
    refine Settings.eq_of_datum fun f => ?_
    have hnone : document.setting? f = none := by
      rw [Option.eq_none_iff_forall_ne_some]
      intro value' hvalue'
      obtain ⟨part', hpart', -⟩ := Table.setting?_eq_some_iff.mp hvalue'
      exact hkind part' (Option.some.inj (hvalue.symm.trans hpart'))
    have hpart := (Table.value?_of_settingsPart hpart f).trans hnone
    exact Except.ok.inj ((hread f).symm.trans (Table.read_of_none hpart))

/-- Something void in the place of the level leaves it its standard. -/
lemma Table.Misfit.logLevel_eq (h : document.Misfit (some .logLevel) value)
    (hs : Settings.ofDocument room document = .ok s) :
    s.logLevel = Settings.standard.logLevel := by
  obtain ⟨part, hpart, hread⟩ := Settings.ofDocument_eq_ok_iff.mp hs
  have hover : value.isVoid = true := by
    by_contra hover
    obtain ⟨fault, hfault⟩ := h.exists_fault hover
    exact nomatch hfault.symm.trans hs
  cases h with
  | setting hvalue hkind =>
    rw [← Table.value?_of_settingsPart hpart] at hvalue
    have hlevel := (SettingsFault.map_eq_ok_iff fun _ _ => Datum.text.inj).mp (hread .logLevel)
    exact Except.ok.inj (hlevel.symm.trans (Table.logLevel_of_isVoid hvalue hover))

/-- A list in the place of the header lines is turned into texts. -/
lemma Table.Misfit.headerLines_eq (h : document.Misfit (some .headerLines) (.list items))
    (hs : Settings.ofDocument room document = .ok s) : s.headerLines = items.map Datum.show := by
  obtain ⟨part, hpart, hread⟩ := Settings.ofDocument_eq_ok_iff.mp hs
  have hover : ∀ d ∈ items, d.obstacle? room = none := by
    by_contra hover
    obtain ⟨fault, hfault⟩ := h.exists_fault hover
    exact nomatch hfault.symm.trans hs
  cases h with
  | setting hvalue hkind =>
    rw [← Table.value?_of_settingsPart hpart] at hvalue
    have hlines : part.value? "header_lines" = some (.list items) := hvalue
    have hheader := (SettingsFault.map_eq_ok_iff Datum.list_map_text_injective).mp
      (hread .headerLines)
    rw [Table.headerLines, hlines] at hheader
    exact Except.ok.inj (hheader.symm.trans (Datum.mapM_shown hover))

/-- A document is at fault exactly if a value of the wrong sort stands in it and is not
overlooked. If all such values can be shown, the fault is told, with the path of the document.
What is overlooked gives way to the standard, or is turned into texts. -/
theorem Settings.ofDocument_misfit (limits : Limits) (document : Table) :
    ((∃ fault, Settings.ofDocument limits.shown document = .error fault) ↔
      ∃ place value, document.Misfit place value ∧ ¬value.IsOverlooked limits.shown place) ∧
    (∀ fault, Settings.ofDocument limits.shown document = .error fault →
      (∀ place value, document.Misfit place value → value.obstacle? limits.shown = none) →
      (∀ failure, fault ≠ .unwritable failure) ∧
      ∀ path entry, Table.ofEntry limits path entry = .ok document →
        Settings.ofEntry limits path entry = .error (.fault path fault) ∧
        (fault.diagnostic path.text).subject = .settings (some path.text)) ∧
    ∀ s, Settings.ofDocument limits.shown document = .ok s →
      (∀ value, document.Misfit none value → s = Settings.standard) ∧
      (∀ value, document.Misfit (some .logLevel) value →
        s.logLevel = Settings.standard.logLevel) ∧
      ∀ items, document.Misfit (some .headerLines) (.list items) →
        s.headerLines = items.map Datum.show := by
  refine ⟨⟨?_, ?_⟩, ?_, ?_⟩
  · rintro ⟨fault, hfault⟩
    obtain ⟨place, value, hmisfit, hover, -⟩ := Table.exists_misfit hfault
    exact ⟨place, value, hmisfit, hover⟩
  · rintro ⟨place, value, hmisfit, hover⟩
    exact hmisfit.exists_fault hover
  · intro fault hfault hshown
    obtain ⟨place, value, hmisfit, -, htells⟩ := Table.exists_misfit hfault
    have htold := htells (hshown place value hmisfit)
    refine ⟨htold, fun path entry hentry => ⟨?_, rfl⟩⟩
    simp only [Settings.ofEntry, hentry, hfault]
  · exact fun s hs => ⟨fun _ h => h.eq_standard hs, fun _ h => h.logLevel_eq hs,
      fun _ h => h.headerLines_eq hs⟩

end

/-- A document that means to switch the preview off, but by a text, and the file that it stands
in. -/
def strictDocument : Table := [("compiler", .table [("simulate", .text "false")])]

def strictJson : Json := .object [("compiler", .object [("simulate", .text "false")])]

def strictPath : Path := ⟨true, [".ebplrc"]⟩

def strictEntry : Entry := .ofText (Json.write .compact strictJson)

lemma Table.ofEntry_strictEntry :
    Table.ofEntry .standard strictPath strictEntry = .ok strictDocument := by
  have hfits : strictJson.Fits Limits.standard.json :=
    ⟨by decide, by decide, ⟨by decide, by decide, trivial, trivial⟩, trivial⟩
  exact Table.ofEntry_write hfits (by decide) (by decide)

theorem Settings.ofDocument_strictDocument :
    strictDocument.Misfit (some .simulate) (.text "false") ∧
      (∀ place value, strictDocument.Misfit place value →
        value.obstacle? Limits.standard.shown = none) ∧
      Table.ofEntry .standard strictPath strictEntry = .ok strictDocument ∧
      ∃ fault,
        Settings.ofEntry .standard strictPath strictEntry = .error (.fault strictPath fault) ∧
        (fault.diagnostic strictPath.text).subject = .settings (some strictPath.text) := by
  have hmisfit : strictDocument.Misfit (some .simulate) (.text "false") := .setting rfl nofun
  have hshown (place : Option Setting) (value : Datum) (h : strictDocument.Misfit place value) :
      value.obstacle? Limits.standard.shown = none := by
    cases h with
    | part hvalue hkind => exact absurd (Option.some.inj hvalue).symm (hkind _)
    | @setting f _ hvalue hkind =>
      cases f with
      | simulate =>
        obtain rfl := Option.some.inj hvalue
        rfl
      | _ => exact nomatch hvalue
  obtain ⟨hfault, htold, -⟩ := Settings.ofDocument_misfit .standard strictDocument
  obtain ⟨fault, h⟩ := hfault.mpr ⟨_, _, hmisfit, id⟩
  exact ⟨hmisfit, hshown, Table.ofEntry_strictEntry, fault,
    (htold fault h hshown).2 strictPath strictEntry Table.ofEntry_strictEntry⟩

/-- A value of the wrong sort is no fault of every document: here an empty list stands in the
place of all settings. -/
theorem Settings.ofDocument_overlooked :
    ¬∀ (document : Table) (place : Option Setting) (value : Datum), document.Misfit place value →
      value ≠ .null →
      ∃ fault, Settings.ofDocument Limits.standard.shown document = .error fault := by
  intro h
  have hmisfit : Table.Misfit [("compiler", .list [])] none (.list []) := .part rfl nofun
  have hstandard : Settings.ofDocument Limits.standard.shown [("compiler", .list [])] =
      .ok Settings.standard := by
    rfl
  obtain ⟨fault, hfault⟩ := h _ _ _ hmisfit nofun
  exact nomatch hfault.symm.trans hstandard

end PlainEnglish
