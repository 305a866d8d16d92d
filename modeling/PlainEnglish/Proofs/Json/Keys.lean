import Mathlib.Tactic
import PlainEnglish.Json.Read

/-!
# Keys of documents

A later entry takes the place of an earlier one with the same key, so the objects of a document
that is read have distinct keys.

Main statement: `Json.hasDistinctKeys_of_readWithin`.
-/

namespace PlainEnglish

/-- No key of an object is used twice. -/
def Json.HasDistinctKeys (value : Json) : Prop :=
  ∀ entries, value = .object entries → (entries.map Prod.fst).Nodup

lemma Json.map_fst_insert (key : Text) (value : Json) (entries : List (Text × Json)) :
    (Json.insert key value entries).map Prod.fst =
      if key ∈ entries.map Prod.fst then entries.map Prod.fst
        else entries.map Prod.fst ++ [key] := by
  induction entries with
  | nil => rfl
  | cons entry entries ih =>
    obtain ⟨k, v⟩ := entry
    by_cases hk : k = key
    · simp [Json.insert, hk]
    · have hmem : key ∈ ((k, v) :: entries).map Prod.fst ↔ key ∈ entries.map Prod.fst := by
        rw [List.map_cons, List.mem_cons, or_iff_right (Ne.symm hk)]
      simp only [Json.insert, if_neg hk, hmem]
      rw [List.map_cons, List.map_cons, ih]
      split <;> rfl

lemma Json.nodup_insert {key : Text} {value : Json} {entries : List (Text × Json)}
    (h : (entries.map Prod.fst).Nodup) :
    ((Json.insert key value entries).map Prod.fst).Nodup := by
  rw [Json.map_fst_insert]
  split
  · exact h
  · next hnone => exact List.Nodup.append h (List.nodup_singleton key) (by simpa using hnone)

lemma Json.exists_items_of_readItems {fuel room : Nat} {items : List Json} {t rest : Text}
    {value : Json} (h : Json.readItems fuel room items t = .ok (value, rest)) :
    ∃ read, value = .array read := by
  induction fuel generalizing items t with
  | zero => simp [Json.readItems] at h
  | succ fuel ih =>
    unfold Json.readItems at h
    split at h
    · simp at h
    · split at h
      · obtain ⟨rfl, -⟩ := by simpa using h
        exact ⟨_, rfl⟩
      · exact ih h
      · simp at h

lemma Json.exists_entries_of_readEntries {fuel room : Nat} {entries : List (Text × Json)}
    {t rest : Text} {value : Json} (hkeys : (entries.map Prod.fst).Nodup)
    (h : Json.readEntries fuel room entries t = .ok (value, rest)) :
    ∃ read, value = .object read ∧ (read.map Prod.fst).Nodup := by
  induction fuel generalizing entries t with
  | zero => simp [Json.readEntries] at h
  | succ fuel ih =>
    unfold Json.readEntries at h
    split at h
    · split at h
      · simp at h
      split at h
      · split at h
        · simp at h
        split at h
        · obtain ⟨rfl, -⟩ := by simpa using h
          exact ⟨_, rfl, Json.nodup_insert hkeys⟩
        · exact ih (Json.nodup_insert hkeys) h
        · simp at h
      · simp at h
    · simp at h

lemma Json.hasDistinctKeys_of_readWord? {t rest : Text} {value : Json}
    (h : Json.readWord? t = some (value, rest)) : value.HasDistinctKeys := by
  have hwords : ∀ entry ∈ Json.wordValues, ∀ entries, entry.2 ≠ .object entries := by
    simp [Json.wordValues]
  obtain ⟨entry, hfind, heq⟩ := Option.map_eq_some_iff.mp h
  obtain ⟨rfl, -⟩ := Prod.mk.inj heq
  exact fun entries hobject =>
    absurd hobject (hwords entry (List.mem_of_find?_eq_some hfind) entries)

lemma Json.hasDistinctKeys_of_readNumber {t rest : Text} {value : Json}
    (h : Json.readNumber t = .ok (value, rest)) : value.HasDistinctKeys := by
  unfold Json.readNumber at h
  simp only at h
  split at h
  · simp at h
  split at h
  · split at h
    · simp at h
    · obtain ⟨rfl, -⟩ := by simpa using h
      exact fun entries hobject => nomatch hobject
  · split at h
    · obtain ⟨rfl, -⟩ := by simpa using h
      exact fun entries hobject => nomatch hobject
    · simp at h

/-- The objects that are read have distinct keys. -/
theorem Json.hasDistinctKeys_of_readValue {fuel room : Nat} {t rest : Text} {value : Json}
    (h : Json.readValue fuel room t = .ok (value, rest)) : value.HasDistinctKeys := by
  intro entries hobject
  subst hobject
  cases fuel with
  | zero => simp [Json.readValue] at h
  | succ fuel =>
    unfold Json.readValue at h
    split at h
    · unfold Except.map at h
      split at h <;> simp at h
    · split at h
      · simp at h
      split at h
      · simp at h
      · obtain ⟨items, hitems⟩ := Json.exists_items_of_readItems h
        exact nomatch hitems
    · split at h
      · simp at h
      split at h
      · obtain ⟨rfl, -⟩ : [] = entries ∧ _ := by simpa using h
        exact List.nodup_nil
      · have hnone : (([] : List (Text × Json)).map Prod.fst).Nodup := List.nodup_nil
        obtain ⟨read, hread, hkeys⟩ := Json.exists_entries_of_readEntries hnone h
        obtain rfl : entries = read := by simpa using hread
        exact hkeys
    · split at h
      · next result hword =>
        obtain rfl : result = (.object entries, rest) := by simpa using h
        exact Json.hasDistinctKeys_of_readWord? hword entries rfl
      · exact Json.hasDistinctKeys_of_readNumber h entries rfl

/-- The value of a document is read behind the blanks that it begins with. -/
lemma Json.exists_readValue_of_readWithin {room : Nat} {t : Text} {value : Json}
    (h : Json.readWithin room t = .ok value) : ∃ rest,
      Json.readValue (2 * t.length + 2) room (Json.skipSpace t) = .ok (value, rest) := by
  have hall : Json.readAll room t = .ok value := by
    unfold Json.readWithin at h
    split at h
    · next value' hall => rw [hall, Except.ok.inj h]
    · exact nomatch h
  unfold Json.readAll at hall
  split at hall
  · exact nomatch hall
  split at hall
  · exact nomatch hall
  · next rest hread =>
    split at hall
    · obtain rfl := Except.ok.inj hall
      exact ⟨rest, hread⟩
    · exact nomatch hall

theorem Json.hasDistinctKeys_of_readWithin {room : Nat} {t : Text} {value : Json}
    (h : Json.readWithin room t = .ok value) : value.HasDistinctKeys := by
  obtain ⟨rest, hread⟩ := Json.exists_readValue_of_readWithin h
  exact Json.hasDistinctKeys_of_readValue hread

end PlainEnglish
