import Mathlib.Tactic
import PlainEnglish.Settings.Document

/-!
# Values that can be shown

A value that stands in a document and is at fault is shown with its fault. Where nothing in the
document stands in the way of showing it, every fault can be told.

Main statement: `Settings.tells_ofDocument`.
-/

namespace PlainEnglish

section

variable {room room' : Nat} {d : Datum} {items : List Datum} {entries : Table}

/-! ### Parts of values -/

lemma Datum.obstacleInItems?_eq_none_iff : Datum.obstacleInItems? room items = none ↔
    ∀ d ∈ items, d.obstacle? room = none := by
  induction items with
  | nil => simp [Datum.obstacleInItems?]
  | cons d items ih =>
    rw [Datum.obstacleInItems?, Option.or_eq_none_iff, ih, List.forall_mem_cons]

lemma Datum.obstacleInEntries?_eq_none_iff : Datum.obstacleInEntries? room entries = none ↔
    ∀ entry ∈ entries, entry.2.obstacle? room = none := by
  induction entries with
  | nil => simp [Datum.obstacleInEntries?]
  | cons entry entries ih =>
    rw [Datum.obstacleInEntries?, Option.or_eq_none_iff, ih, List.forall_mem_cons]

lemma Datum.obstacle?_list : (Datum.list items).obstacle? room = none ↔
    0 < room ∧ ∀ d ∈ items, d.obstacle? (room - 1) = none := by
  rw [Datum.obstacle?]
  split
  · next hroom => simp [hroom]
  · next hroom =>
    rw [Datum.obstacleInItems?_eq_none_iff, and_iff_right (Nat.pos_of_ne_zero hroom)]

lemma Datum.obstacle?_table : (Datum.table entries).obstacle? room = none ↔
    0 < room ∧ ∀ entry ∈ entries, entry.2.obstacle? (room - 1) = none := by
  rw [Datum.obstacle?]
  split
  · next hroom => simp [hroom]
  · next hroom =>
    rw [Datum.obstacleInEntries?_eq_none_iff, and_iff_right (Nat.pos_of_ne_zero hroom)]

lemma Datum.obstacle?_integer (n : Int) : (Datum.integer n).obstacle? room =
    (Datum.integer n).obstacle? room' := by
  rw [Datum.obstacle?, Datum.obstacle?]

/-- What can be shown can be shown with more room. -/
lemma Datum.obstacle?_mono (hle : room ≤ room') (h : d.obstacle? room = none) :
    d.obstacle? room' = none := by
  induction room generalizing room' d with
  | zero =>
    cases d with
    | integer n => rwa [Datum.obstacle?_integer]
    | list items => exact absurd (Datum.obstacle?_list.mp h).1 (lt_irrefl 0)
    | table entries => exact absurd (Datum.obstacle?_table.mp h).1 (lt_irrefl 0)
    | _ => rfl
  | succ room ih =>
    have hroom : 0 < room' := Nat.zero_lt_of_lt hle
    have hless : room ≤ room' - 1 := Nat.le_sub_one_of_lt hle
    cases d with
    | integer n => rwa [Datum.obstacle?_integer]
    | list items =>
      have hitems := (Datum.obstacle?_list.mp h).2
      exact Datum.obstacle?_list.mpr ⟨hroom, fun d hd => ih hless (hitems d hd)⟩
    | table entries =>
      have hentries := (Datum.obstacle?_table.mp h).2
      exact Datum.obstacle?_table.mpr ⟨hroom, fun entry hentry =>
        ih hless (hentries entry hentry)⟩
    | _ => rfl

end

/-! ### Settings -/

/-- A result is not missing because some value cannot be shown. -/
def Settings.Tells {α : Type} (result : Except SettingsFault α) : Prop :=
  ∀ failure, result ≠ .error (.unwritable failure)

/-- Every value of a table can be shown. -/
def Table.IsShown (room : Nat) (table : Table) : Prop :=
  ∀ entry ∈ table, entry.2.obstacle? room = none

section

variable {room : Nat} {part : Table} {key : Text} {value : Datum} {fault : SettingsFault}

lemma Settings.Tells.bind {α β : Type} {result : Except SettingsFault α}
    {next : α → Except SettingsFault β} (h : Settings.Tells result)
    (hnext : ∀ a, result = .ok a → Settings.Tells (next a)) :
    Settings.Tells (result >>= next) := by
  cases result with
  | error fault =>
    exact fun failure heq => h failure (congrArg Except.error (Except.error.inj heq))
  | ok a => exact hnext a rfl

lemma Table.mem_of_value? (h : part.value? key = some value) : (key, value) ∈ part := by
  obtain ⟨before, after, rfl, -⟩ := List.lookup_eq_some_iff.mp h
  exact List.mem_append_right before List.mem_cons_self

lemma Table.IsShown.obstacle?_of_value? (h : part.IsShown room)
    (hvalue : part.value? key = some value) : value.obstacle? room = none :=
  h _ (Table.mem_of_value? hvalue)

lemma SettingsFault.showing_of_obstacle? (h : value.obstacle? room = none) :
    SettingsFault.showing room value fault = fault := by
  rw [SettingsFault.showing, h]

lemma Datum.shown_of_obstacle? (h : value.obstacle? room = none) :
    value.shown room = .ok value.show := by
  rw [Datum.shown, h]

lemma Datum.mapM_shown {items : List Datum} (h : ∀ d ∈ items, d.obstacle? room = none) :
    items.mapM (Datum.shown room) = .ok (items.map Datum.show) := by
  induction items with
  | nil => rfl
  | cons d items ih =>
    rw [List.forall_mem_cons] at h
    rw [List.mapM_cons, Datum.shown_of_obstacle? h.1, ih h.2]
    rfl

/-- The part about settings of a document that can be shown can be shown. -/
lemma Table.isShown_of_settingsPart {document : Table}
    (h : (Datum.table document).obstacle? room = none)
    (hpart : document.settingsPart = .ok part) : part.IsShown room := by
  have hentries := (Datum.obstacle?_table.mp h).2
  unfold Table.settingsPart at hpart
  split at hpart
  · obtain rfl := Except.ok.inj hpart
    exact List.forall_mem_nil _
  · next value hvalue =>
    split at hpart
    · obtain rfl := Except.ok.inj hpart
      exact List.forall_mem_nil _
    · split at hpart
      · next entries _ _ =>
        obtain rfl := Except.ok.inj hpart
        have htable := hentries _ (Table.mem_of_value? hvalue)
        intro entry hentry
        exact Datum.obstacle?_mono (Nat.sub_le _ 2)
          ((Datum.obstacle?_table.mp htable).2 entry hentry)
      · exact nomatch hpart

lemma Table.tells_settingsPart (document : Table) : Settings.Tells document.settingsPart := by
  intro failure
  unfold Table.settingsPart
  repeat' split
  all_goals simp

lemma Table.IsShown.tells_headerLines (h : part.IsShown room) :
    Settings.Tells (part.headerLines room) := by
  intro failure
  unfold Table.headerLines
  split
  · simp
  · simp
  · next items hvalue =>
    have hitems := (Datum.obstacle?_list.mp (h.obstacle?_of_value? hvalue)).2
    have hshown := fun d hd => Datum.obstacle?_mono (Nat.sub_le _ 1) (hitems d hd)
    rw [Datum.mapM_shown hshown]
    simp
  · simp

lemma Table.IsShown.tells_logLevel (h : part.IsShown room) :
    Settings.Tells (part.logLevel room) := by
  intro failure
  have hname : ∃ name, part.levelName room = .ok name := by
    unfold Table.levelName
    split
    · exact ⟨_, rfl⟩
    · next value hvalue =>
      rw [Datum.shown_of_obstacle? (h.obstacle?_of_value? hvalue)]
      split <;> exact ⟨_, rfl⟩
  obtain ⟨name, hname⟩ := hname
  simp only [Table.logLevel, hname]
  split <;> simp

lemma Table.IsShown.tells_width (h : part.IsShown room) (standard : Int) :
    Settings.Tells (part.width room key standard) := by
  intro failure
  unfold Table.width
  split
  · simp
  · next n hvalue =>
    rw [SettingsFault.showing_of_obstacle? (h.obstacle?_of_value? hvalue)]
    split <;> simp
  · next value _ hvalue =>
    rw [SettingsFault.showing_of_obstacle? (h.obstacle?_of_value? hvalue)]
    simp

lemma Table.IsShown.tells_flag (h : part.IsShown room) (standard : Bool) :
    Settings.Tells (part.flag room key standard) := by
  intro failure
  unfold Table.flag
  split
  · simp
  · simp
  · next value _ hvalue =>
    rw [SettingsFault.showing_of_obstacle? (h.obstacle?_of_value? hvalue)]
    simp

/-- Where a document can be shown, its first fault can be told. -/
theorem Settings.tells_ofDocument {document : Table}
    (h : (Datum.table document).obstacle? room = none) :
    Settings.Tells (Settings.ofDocument room document) := by
  unfold Settings.ofDocument
  refine document.tells_settingsPart.bind fun part hpart => ?_
  have hshown := Table.isShown_of_settingsPart h hpart
  refine hshown.tells_headerLines.bind fun _ _ => ?_
  refine hshown.tells_logLevel.bind fun _ _ => ?_
  refine (hshown.tells_width _).bind fun _ _ => ?_
  refine (hshown.tells_width _).bind fun _ _ => ?_
  refine (hshown.tells_flag _).bind fun _ _ => ?_
  exact fun failure heq => nomatch heq

end

end PlainEnglish
