import PlainEnglish.Proofs.Json.Text
import PlainEnglish.Proofs.Text.Split

/-!
# Documents are read back

A value without numbers that is written as a document, in any layout, is read back from it. The
walk follows the value: each part is read whatever stands behind it, and the fuel that is left is
never less than the length of what is still to be read.

Main statement: `Json.readWithin_write`.
-/

namespace PlainEnglish

/-! ### Values that are read back -/

mutual

/-- Whether a value holds no number, no key twice, and no more levels than there is room for. -/
def Json.Fits (room : Nat) : Json → Prop
  | .integer _ | .number _ => False
  | .array items => 0 < room ∧ Json.AllFit (room - 1) items
  | .object entries =>
    0 < room ∧ (entries.map Prod.fst).Nodup ∧ Json.EntriesFit (room - 1) entries
  | _ => True

/-- Whether this holds of all values. -/
def Json.AllFit (room : Nat) : List Json → Prop
  | [] => True
  | item :: items => item.Fits room ∧ Json.AllFit room items

/-- Whether this holds of the values of all entries. -/
def Json.EntriesFit (room : Nat) : List (Text × Json) → Prop
  | [] => True
  | (_, value) :: entries => value.Fits room ∧ Json.EntriesFit room entries

end

lemma Json.allFit_iff {room : Nat} {items : List Json} :
    Json.AllFit room items ↔ ∀ item ∈ items, item.Fits room := by
  induction items with
  | nil => simp [Json.AllFit]
  | cons item items ih => rw [Json.AllFit, ih, List.forall_mem_cons]

/-! ### Blanks -/

lemma Json.skipSpace_append {b : Text} (h : ∀ c ∈ b, Json.isSpace c = true) (t : Text) :
    Json.skipSpace (b ++ t) = Json.skipSpace t := List.dropWhile_append_of_pos h

lemma Json.skipSpace_cons {c : Char} (h : Json.isSpace c = false) (t : Text) :
    Json.skipSpace (c :: t) = c :: t := by
  simp [Json.skipSpace, h]

lemma Json.Layout.isSpace_lead (layout : Json.Layout) (level : Nat) :
    ∀ c ∈ layout.lead level, Json.isSpace c = true := by
  cases layout with
  | indented width =>
    rw [Json.Layout.lead, List.forall_mem_cons]
    refine ⟨rfl, fun c hc => ?_⟩
    rw [List.eq_of_mem_replicate hc]
    rfl
  | compact => exact List.forall_mem_nil _
  | spaced => exact List.forall_mem_nil _

/-- Between two parts stands a comma with blanks behind it. -/
lemma Json.Layout.exists_separator (layout : Json.Layout) (level : Nat) : ∃ gap,
    layout.separator level = ',' :: gap ∧ ∀ c ∈ gap, Json.isSpace c = true := by
  cases layout with
  | indented width => exact ⟨_, rfl, Json.Layout.isSpace_lead (.indented width) level⟩
  | compact => exact ⟨_, rfl, Json.Layout.isSpace_lead .compact level⟩
  | spaced =>
    refine ⟨[' '], rfl, ?_⟩
    rw [List.forall_mem_singleton]
    rfl

lemma Json.Layout.exists_colon (layout : Json.Layout) : ∃ gap,
    layout.colon = ':' :: gap ∧ ∀ c ∈ gap, Json.isSpace c = true := by
  cases layout with
  | compact => exact ⟨[], rfl, List.forall_mem_nil _⟩
  | _ =>
    refine ⟨[' '], rfl, ?_⟩
    rw [List.forall_mem_singleton]
    rfl

/-! ### Beginnings -/

/-- The characters that a written value without numbers can begin with. -/
def Json.openers : List Char := ['"', '[', '\x7b', 'n', 't', 'f']

/-- Whether a document begins with one of them. -/
def Json.Opens (t : Text) : Prop := ∃ c more, t = c :: more ∧ c ∈ Json.openers

section

variable {t : Text}

lemma Json.Opens.append (h : Json.Opens t) (rest : Text) : Json.Opens (t ++ rest) := by
  obtain ⟨c, more, rfl, hc⟩ := h
  exact ⟨c, more ++ rest, rfl, hc⟩

lemma Json.Opens.length_pos (h : Json.Opens t) : 0 < t.length := by
  obtain ⟨c, more, rfl, -⟩ := h
  exact Nat.succ_pos _

lemma Json.Opens.skipSpace_eq (h : Json.Opens t) : Json.skipSpace t = t := by
  have hspace : ∀ c ∈ Json.openers, Json.isSpace c = false := by
    simp [Json.openers, Json.isSpace]
  obtain ⟨c, more, rfl, hc⟩ := h
  exact Json.skipSpace_cons (hspace c hc) more

lemma Json.Opens.skipSpace_append (h : Json.Opens t) {b : Text}
    (hb : ∀ c ∈ b, Json.isSpace c = true) : Json.skipSpace (b ++ t) = t := by
  rw [Json.skipSpace_append hb, h.skipSpace_eq]

lemma Json.Opens.join {piece : Text} (h : Json.Opens piece) (separator : Text)
    (pieces : List Text) :
    Json.Opens (Text.join separator (piece :: pieces)) := by
  cases pieces with
  | nil => rwa [Text.join_singleton]
  | cons next pieces =>
    rw [Text.join_cons, List.append_assoc]
    exact h.append _

lemma Json.opens_writeText (t : Text) : Json.Opens (Json.writeText t) := ⟨_, _, rfl, by decide⟩

lemma Json.opens_writeAt {room : Nat} {value : Json} (h : value.Fits room) (layout : Json.Layout)
    (level : Nat) : Json.Opens (Json.writeAt layout level value) := by
  cases value with
  | null => exact ⟨_, _, rfl, by decide⟩
  | bool b => cases b <;> exact ⟨_, _, rfl, by decide⟩
  | integer n => exact h.elim
  | number x => exact h.elim
  | text t => exact Json.opens_writeText t
  | array items => cases items <;> exact ⟨_, _, rfl, by decide⟩
  | object entries => cases entries <;> exact ⟨_, _, rfl, by decide⟩

end

/-! ### Steps of reading -/

section

variable {fuel room : Nat} {t u rest rest' : Text} {key : Text} {item value : Json}
  {items : List Json} {entries : List (Text × Json)}

lemma Json.readValue_word {word : Text} (hword : (word, value) ∈ [(("null" : Text), Json.null),
    ("true", .bool true), ("false", .bool false)]) :
    Json.readValue (fuel + 1) room (word ++ rest) = .ok (value, rest) := by
  simp only [List.mem_cons, Prod.mk.injEq, List.not_mem_nil, or_false] at hword
  rcases hword with ⟨rfl, rfl⟩ | ⟨rfl, rfl⟩ | ⟨rfl, rfl⟩ <;> rfl

lemma Json.readValue_text : Json.readValue (fuel + 1) room (Json.writeText t ++ rest) =
    .ok (.text t, rest) := by
  have htext := Json.readText_writeText t rest
  rw [Json.writeText, List.append_assoc, List.cons_append] at htext ⊢
  simp only [Json.readValue, htext, Except.map]

lemma Json.readValue_items (hroom : 0 < room) (hu : Json.Opens u) (h : Json.skipSpace t = u) :
    Json.readValue (fuel + 1) room ('[' :: t) = Json.readItems fuel (room - 1) [] u := by
  obtain ⟨c, more, rfl, hc⟩ := hu
  rw [Json.readValue, if_neg hroom.ne', h]
  split
  · next heq =>
    obtain rfl := (List.cons.inj heq).1
    exact absurd hc (by decide)
  · rfl

lemma Json.readValue_entries (hroom : 0 < room) (hu : Json.Opens u) (h : Json.skipSpace t = u) :
    Json.readValue (fuel + 1) room ('\x7b' :: t) = Json.readEntries fuel (room - 1) [] u := by
  obtain ⟨c, more, rfl, hc⟩ := hu
  rw [Json.readValue, if_neg hroom.ne', h]
  split
  · next heq =>
    obtain rfl := (List.cons.inj heq).1
    exact absurd hc (by decide)
  · rfl

lemma Json.readItems_comma (hitem : Json.readValue fuel room t = .ok (item, rest))
    (h : Json.skipSpace rest = ',' :: rest') : Json.readItems (fuel + 1) room items t =
      Json.readItems fuel room (item :: items) (Json.skipSpace rest') := by
  simp only [Json.readItems, hitem, h]

lemma Json.readItems_close (hitem : Json.readValue fuel room t = .ok (item, rest))
    (h : Json.skipSpace rest = ']' :: rest') : Json.readItems (fuel + 1) room items t =
      .ok (.array (item :: items).reverse, rest') := by
  simp only [Json.readItems, hitem, h]

/-- A key with its value is read, and then what comes next tells whether there are more. -/
lemma Json.readEntries_comma {afterKey afterColon : Text}
    (hcolon : Json.skipSpace afterKey = ':' :: afterColon)
    (hvalue : Json.readValue fuel room (Json.skipSpace afterColon) = .ok (value, rest))
    (h : Json.skipSpace rest = ',' :: rest') :
    Json.readEntries (fuel + 1) room entries (Json.writeText key ++ afterKey) =
      Json.readEntries fuel room (Json.insert key value entries) (Json.skipSpace rest') := by
  have hkey := Json.readText_writeText key afterKey
  rw [Json.writeText, List.append_assoc, List.cons_append] at hkey ⊢
  simp only [Json.readEntries, hkey, hcolon, hvalue, h]

lemma Json.readEntries_close {afterKey afterColon : Text}
    (hcolon : Json.skipSpace afterKey = ':' :: afterColon)
    (hvalue : Json.readValue fuel room (Json.skipSpace afterColon) = .ok (value, rest))
    (h : Json.skipSpace rest = '\x7d' :: rest') :
    Json.readEntries (fuel + 1) room entries (Json.writeText key ++ afterKey) =
      .ok (.object (Json.insert key value entries), rest') := by
  have hkey := Json.readText_writeText key afterKey
  rw [Json.writeText, List.append_assoc, List.cons_append] at hkey ⊢
  simp only [Json.readEntries, hkey, hcolon, hvalue, h]

/-- An entry under a new key comes last. -/
lemma Json.insert_of_not_mem (h : key ∉ entries.map Prod.fst) :
    Json.insert key value entries = entries ++ [(key, value)] := by
  induction entries with
  | nil => rfl
  | cons entry entries ih =>
    obtain ⟨k, v⟩ := entry
    rw [List.map_cons, List.mem_cons, not_or] at h
    rw [Json.insert, if_neg (Ne.symm h.1), ih h.2, List.cons_append]

end

/-! ### Parts of a document -/

section

variable {layout : Json.Layout} {level room : Nat} {items : List Json}
  {entries : List (Text × Json)}

/-- The parts of an array, with separators between them. -/
def Json.itemsText (layout : Json.Layout) (level : Nat) (items : List Json) : Text :=
  Text.join (layout.separator level) (Json.writeItems layout level items)

/-- The parts of an object, with separators between them. -/
def Json.entriesText (layout : Json.Layout) (level : Nat) (entries : List (Text × Json)) :
    Text :=
  Text.join (layout.separator level) (Json.writeEntries layout level entries)

lemma Json.writeAt_array (h : items ≠ []) : Json.writeAt layout level (.array items) =
    '[' :: (layout.lead (level + 1) ++ (Json.itemsText layout (level + 1) items ++
      (layout.lead level ++ [']']))) := by
  obtain ⟨item, items, rfl⟩ := List.exists_cons_of_ne_nil h
  simp [Json.writeAt, Json.itemsText]

lemma Json.writeAt_object (h : entries ≠ []) : Json.writeAt layout level (.object entries) =
    '\x7b' :: (layout.lead (level + 1) ++ (Json.entriesText layout (level + 1) entries ++
      (layout.lead level ++ ['\x7d']))) := by
  obtain ⟨entry, entries, rfl⟩ := List.exists_cons_of_ne_nil h
  simp [Json.writeAt, Json.entriesText]

lemma Json.itemsText_singleton (item : Json) :
    Json.itemsText layout level [item] = Json.writeAt layout level item :=
  Text.join_singleton _ _

lemma Json.itemsText_cons (item : Json) (h : items ≠ []) :
    Json.itemsText layout level (item :: items) =
      Json.writeAt layout level item ++
        (layout.separator level ++ Json.itemsText layout level items) := by
  obtain ⟨next, items, rfl⟩ := List.exists_cons_of_ne_nil h
  rw [← List.append_assoc]
  exact Text.join_cons _ _ _ _

lemma Json.entriesText_singleton (key : Text) (value : Json) :
    Json.entriesText layout level [(key, value)] =
      Json.writeText key ++ (layout.colon ++ Json.writeAt layout level value) := by
  rw [← List.append_assoc]
  exact Text.join_singleton _ _

lemma Json.entriesText_cons (key : Text) (value : Json) (h : entries ≠ []) :
    Json.entriesText layout level ((key, value) :: entries) =
      Json.writeText key ++ (layout.colon ++ (Json.writeAt layout level value ++
        (layout.separator level ++ Json.entriesText layout level entries))) := by
  obtain ⟨next, entries, rfl⟩ := List.exists_cons_of_ne_nil h
  simp only [← List.append_assoc]
  exact Text.join_cons _ _ _ _

lemma Json.opens_itemsText (layout : Json.Layout) (level : Nat) (hfit : Json.AllFit room items)
    (h : items ≠ []) : Json.Opens (Json.itemsText layout level items) := by
  obtain ⟨item, items, rfl⟩ := List.exists_cons_of_ne_nil h
  exact (Json.opens_writeAt hfit.1 layout level).join _ _

lemma Json.opens_entriesText (layout : Json.Layout) (level : Nat) (h : entries ≠ []) :
    Json.Opens (Json.entriesText layout level entries) := by
  obtain ⟨⟨key, value⟩, entries, rfl⟩ := List.exists_cons_of_ne_nil h
  refine Json.Opens.join ?_ _ _
  rw [List.append_assoc]
  exact (Json.opens_writeText key).append _

lemma Json.skipSpace_lead_append {t : Text} (h : Json.Opens t) :
    Json.skipSpace (layout.lead level ++ t) = t :=
  h.skipSpace_append (layout.isSpace_lead level)

lemma Json.skipSpace_lead_cons {c : Char} (hc : Json.isSpace c = false) (rest : Text) :
    Json.skipSpace (layout.lead level ++ c :: rest) = c :: rest := by
  rw [Json.skipSpace_append (layout.isSpace_lead level), Json.skipSpace_cons hc]

end

/-! ### Reading back -/

/-- Keys that are neither used before an entry nor its own are not used up to it. -/
lemma Json.not_mem_keys_concat {key : Text} {keys : List Text} {done : List (Text × Json)}
    (value : Json) (hkey : key ∉ keys) (hdone : ∀ k ∈ keys, k ∉ done.map Prod.fst) :
    ∀ k ∈ keys, k ∉ (done ++ [(key, value)]).map Prod.fst := by
  intro k hk
  rw [List.map_append, List.mem_append, not_or]
  refine ⟨hdone k hk, ?_⟩
  intro hmem
  obtain rfl : k = key := by simpa using hmem
  exact hkey hk

mutual

/-- A written value is read back, whatever stands behind it. -/
theorem Json.readValue_writeAt (layout : Json.Layout) {level room fuel : Nat} (rest : Text)
    (value : Json) (hfit : value.Fits room)
    (hfuel : (Json.writeAt layout level value).length ≤ fuel) :
    Json.readValue fuel room (Json.writeAt layout level value ++ rest) = .ok (value, rest) := by
  have hpos := (Json.opens_writeAt hfit layout level).length_pos
  obtain ⟨fuel, rfl⟩ : ∃ n, fuel = n + 1 :=
    Nat.exists_eq_add_one.mpr (Nat.lt_of_lt_of_le hpos hfuel)
  clear hpos
  cases value with
  | null =>
    rw [Json.writeAt]
    exact Json.readValue_word (by simp)
  | bool b =>
    cases b <;> rw [Json.writeAt]
    · exact Json.readValue_word (by simp)
    · exact Json.readValue_word (by simp)
  | integer n => exact hfit.elim
  | number x => exact hfit.elim
  | text t => exact Json.readValue_text
  | array items =>
    obtain ⟨hroom, hitems⟩ := hfit
    by_cases hnil : items = []
    · subst hnil
      simp [Json.writeAt, Json.readValue, hroom.ne', Json.skipSpace, Json.isSpace]
    · have hopens := Json.opens_itemsText layout (level + 1) hitems hnil
      rw [Json.writeAt_array hnil] at hfuel ⊢
      simp only [List.cons_append, List.append_assoc, List.length_cons,
        List.length_append] at hfuel ⊢
      rw [Json.readValue_items hroom (hopens.append _)
        (Json.skipSpace_lead_append (hopens.append _))]
      have hclose : Json.skipSpace (layout.lead level ++ ([']'] ++ rest)) = ']' :: rest :=
        Json.skipSpace_lead_cons rfl rest
      exact Json.readItems_itemsText layout hclose items hnil hitems (by omega)
  | object entries =>
    obtain ⟨hroom, hkeys, hentries⟩ := hfit
    by_cases hnil : entries = []
    · subst hnil
      simp [Json.writeAt, Json.readValue, hroom.ne', Json.skipSpace, Json.isSpace]
    · have hopens := Json.opens_entriesText layout (level + 1) hnil
      rw [Json.writeAt_object hnil] at hfuel ⊢
      simp only [List.cons_append, List.append_assoc, List.length_cons,
        List.length_append] at hfuel ⊢
      rw [Json.readValue_entries hroom (hopens.append _)
        (Json.skipSpace_lead_append (hopens.append _))]
      have hclose : Json.skipSpace (layout.lead level ++ (['\x7d'] ++ rest)) = '\x7d' :: rest :=
        Json.skipSpace_lead_cons rfl rest
      exact Json.readEntries_entriesText layout hclose entries hnil hkeys (by simp) hentries
        (by omega)

/-- So are written values with separators between them, up to the bracket that closes them. -/
theorem Json.readItems_itemsText (layout : Json.Layout) {level room fuel : Nat}
    {done : List Json} {close rest : Text} (hclose : Json.skipSpace close = ']' :: rest)
    (items : List Json) (hne : items ≠ []) (hfit : Json.AllFit room items)
    (hfuel : (Json.itemsText layout level items).length < fuel) :
    Json.readItems fuel room done (Json.itemsText layout level items ++ close) =
      .ok (.array (done.reverse ++ items), rest) := by
  obtain ⟨fuel, rfl⟩ : ∃ n, fuel = n + 1 := Nat.exists_eq_add_one.mpr (Nat.zero_lt_of_lt hfuel)
  cases items with
  | nil => exact absurd rfl hne
  | cons item items =>
    obtain ⟨hitem, hitems⟩ := hfit
    by_cases hnil : items = []
    · subst hnil
      rw [Json.itemsText_singleton] at hfuel ⊢
      have hvalue := Json.readValue_writeAt layout close item hitem (Nat.le_of_lt_succ hfuel)
      rw [Json.readItems_close hvalue hclose, List.reverse_cons]
    · obtain ⟨gap, hseparator, hgap⟩ := layout.exists_separator level
      have hopens := Json.opens_itemsText layout level hitems hnil
      have hskip := (hopens.append close).skipSpace_append hgap
      rw [Json.itemsText_cons item hnil, hseparator] at hfuel ⊢
      simp only [List.cons_append, List.append_assoc, List.length_cons,
        List.length_append] at hfuel ⊢
      have hlength : (Json.writeAt layout level item).length ≤ fuel := by omega
      have hvalue := Json.readValue_writeAt layout
        (',' :: (gap ++ (Json.itemsText layout level items ++ close))) item hitem hlength
      rw [Json.readItems_comma hvalue (Json.skipSpace_cons rfl _), hskip,
        Json.readItems_itemsText layout hclose items hnil hitems (by omega), List.reverse_cons,
        List.append_assoc, List.singleton_append]

/-- So are written entries, if no key is used twice. -/
theorem Json.readEntries_entriesText (layout : Json.Layout) {level room fuel : Nat}
    {done : List (Text × Json)} {close rest : Text}
    (hclose : Json.skipSpace close = '\x7d' :: rest) (entries : List (Text × Json))
    (hne : entries ≠ []) (hkeys : (entries.map Prod.fst).Nodup)
    (hnew : ∀ key ∈ entries.map Prod.fst, key ∉ done.map Prod.fst)
    (hfit : Json.EntriesFit room entries)
    (hfuel : (Json.entriesText layout level entries).length < fuel) :
    Json.readEntries fuel room done (Json.entriesText layout level entries ++ close) =
      .ok (.object (done ++ entries), rest) := by
  obtain ⟨fuel, rfl⟩ : ∃ n, fuel = n + 1 := Nat.exists_eq_add_one.mpr (Nat.zero_lt_of_lt hfuel)
  obtain ⟨blanks, hcolon, hblanks⟩ := layout.exists_colon
  cases entries with
  | nil => exact absurd rfl hne
  | cons entry entries =>
    obtain ⟨key, value⟩ := entry
    obtain ⟨hvalue, hentries⟩ := hfit
    rw [List.map_cons, List.nodup_cons] at hkeys
    rw [List.map_cons, List.forall_mem_cons] at hnew
    have hopens := Json.opens_writeAt hvalue layout level
    have hread (rest : Text) (hle : (Json.writeAt layout level value).length ≤ fuel) :=
      Json.readValue_writeAt layout rest value hvalue hle
    have hskip (more : Text) := (hopens.append more).skipSpace_append hblanks
    by_cases hnil : entries = []
    · subst hnil
      rw [Json.entriesText_singleton, hcolon] at hfuel ⊢
      simp only [List.cons_append, List.append_assoc, List.length_cons,
        List.length_append] at hfuel ⊢
      have hread := hread close (by omega)
      rw [← hskip close] at hread
      rw [Json.readEntries_close (Json.skipSpace_cons rfl _) hread hclose,
        Json.insert_of_not_mem hnew.1]
    · obtain ⟨gap, hseparator, hgap⟩ := layout.exists_separator level
      have hopens' := Json.opens_entriesText layout level hnil
      have hnext := (hopens'.append close).skipSpace_append hgap
      have hnew' := Json.not_mem_keys_concat value hkeys.1 hnew.2
      rw [Json.entriesText_cons key value hnil, hcolon, hseparator] at hfuel ⊢
      simp only [List.cons_append, List.append_assoc, List.length_cons,
        List.length_append] at hfuel ⊢
      have hread := hread (',' :: (gap ++ (Json.entriesText layout level entries ++ close)))
        (by omega)
      rw [← hskip] at hread
      rw [Json.readEntries_comma (Json.skipSpace_cons rfl _) hread (Json.skipSpace_cons rfl _),
        hnext, Json.insert_of_not_mem hnew.1,
        Json.readEntries_entriesText layout hclose entries hnil hkeys.2 hnew' hentries
          (by omega),
        List.append_assoc, List.singleton_append]

end

/-- A value without numbers is read back from the document that it is written as. -/
theorem Json.readWithin_write (layout : Json.Layout) {room : Nat} {value : Json}
    (h : value.Fits room) {b : Text} (hb : ∀ c ∈ b, Json.isSpace c = true) :
    Json.readWithin room (Json.write layout value ++ b) = .ok value := by
  have hopens := (Json.opens_writeAt h layout 0).append b
  have hmark : (Json.writeAt layout 0 value ++ b).head? ≠ some '\ufeff' := by
    obtain ⟨c, more, heq, hc⟩ := hopens
    rw [heq, List.head?_cons]
    rintro ⟨rfl⟩
    exact absurd hc (by decide)
  have hlength : (Json.writeAt layout 0 value).length ≤
      2 * (Json.writeAt layout 0 value ++ b).length + 2 := by
    rw [List.length_append]
    omega
  have hvalue := Json.readValue_writeAt layout b value h hlength
  have hend : Json.skipSpace b = [] := by
    have hskip := Json.skipSpace_append hb []
    rwa [List.append_nil] at hskip
  simp only [Json.readWithin, Json.readAll, Json.write, if_neg hmark, hopens.skipSpace_eq,
    hvalue, hend]

end PlainEnglish
