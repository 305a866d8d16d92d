import Mathlib.Data.List.Chain
import PlainEnglish.Proofs.Text.Split

/-!
# Parts of a text

The parts of a text are the pieces between its separators that are not empty, so a row of
separators counts for one, and separators at the ends count for nothing.

Main statements: `Text.parts_join`, `Text.IsTight.join_parts`.
-/

namespace PlainEnglish

/-- The pieces between the occurrences of `separator`, without the empty ones. -/
def Text.parts (separator : Char) (t : Text) : List Text := (t.splitAt separator).filter (· ≠ [])

section

variable {separator : Char} {t part gap : Text}

@[simp] lemma Text.parts_nil : Text.parts separator [] = [] := rfl

lemma Text.of_mem_parts (h : part ∈ t.parts separator) :
    part ≠ [] ∧ separator ∉ part ∧ ∀ c ∈ part, c ∈ t := by
  obtain ⟨hpart, hne⟩ := List.mem_filter.mp h
  refine ⟨of_decide_eq_true hne, ?_, fun c => Text.mem_of_mem_splitAt hpart⟩
  obtain ⟨first, rest, heq, hfirst, -, hrest⟩ := Text.splitAt_eq_cons separator t
  rw [heq] at hpart
  rcases List.mem_cons.mp hpart with rfl | hpart
  · exact hfirst
  · exact (hrest part hpart).1

/-! ### Separators -/

lemma Text.parts_append_cons (s t : Text) :
    Text.parts separator (s ++ separator :: t) = s.parts separator ++ t.parts separator := by
  rw [Text.parts, Text.splitAt_append_cons, List.filter_append]
  rfl

@[simp] lemma Text.parts_cons (t : Text) :
    Text.parts separator (separator :: t) = t.parts separator :=
  Text.parts_append_cons [] t

/-- Separators at the beginning count for nothing. -/
lemma Text.parts_separators_append (h : ∀ c ∈ gap, c = separator) (t : Text) :
    Text.parts separator (gap ++ t) = t.parts separator := by
  induction gap with
  | nil => rfl
  | cons c gap ih =>
    rw [List.forall_mem_cons] at h
    rw [h.1, List.cons_append, Text.parts_cons, ih h.2]

/-- A row of separators counts for one. -/
lemma Text.parts_append_separators (h : ∀ c ∈ gap, c = separator) (hne : gap ≠ []) (s t : Text) :
    Text.parts separator (s ++ (gap ++ t)) = s.parts separator ++ t.parts separator := by
  obtain ⟨c, rest, rfl⟩ := List.exists_cons_of_ne_nil hne
  rw [List.forall_mem_cons] at h
  rw [h.1, List.cons_append, Text.parts_append_cons, Text.parts_separators_append h.2]

/-- Separators at both ends count for nothing. -/
lemma Text.parts_between {before after : Text} (hbefore : ∀ c ∈ before, c = separator)
    (hafter : ∀ c ∈ after, c = separator) (t : Text) :
    Text.parts separator (before ++ t ++ after) = t.parts separator := by
  rw [List.append_assoc, Text.parts_separators_append hbefore]
  cases after with
  | nil => rw [List.append_nil]
  | cons c after =>
    have hparts := Text.parts_append_separators hafter (List.cons_ne_nil c after) t []
    rwa [List.append_nil, Text.parts_nil, List.append_nil] at hparts

/-! ### Joining -/

/-- Joined parts are found again. -/
lemma Text.parts_join {pieces : List Text}
    (h : ∀ piece ∈ pieces, piece ≠ [] ∧ separator ∉ piece) :
    Text.parts separator (Text.join [separator] pieces) = pieces := by
  by_cases hpieces : pieces = []
  · rw [hpieces]
    rfl
  · rw [Text.parts, Text.splitAt_join hpieces fun piece hpiece => (h piece hpiece).2,
      List.filter_eq_self]
    exact fun piece hpiece => decide_eq_true (h piece hpiece).1

lemma Text.eq_of_join_eq {pieces pieces' : List Text}
    (h : ∀ piece ∈ pieces, piece ≠ [] ∧ separator ∉ piece)
    (h' : ∀ piece ∈ pieces', piece ≠ [] ∧ separator ∉ piece)
    (heq : Text.join [separator] pieces = Text.join [separator] pieces') : pieces = pieces' := by
  rw [← Text.parts_join h, heq, Text.parts_join h']

/-- A text without separators at its ends or side by side. -/
structure Text.IsTight (separator : Char) (t : Text) : Prop where
  head : t.head? ≠ some separator
  last : t.getLast? ≠ some separator
  chain : t.IsChain fun a b => ¬(a = separator ∧ b = separator)

/-- Between the separators of a tight text no piece is empty. -/
lemma Text.IsTight.ne_nil_of_mem_splitAt (h : t.IsTight separator) (hne : t ≠ [])
    (hpart : part ∈ t.splitAt separator) : part ≠ [] := by
  rintro rfl
  obtain ⟨first, rest, heq, -, ⟨after, hfirst, hafter⟩, hrest⟩ :=
    Text.splitAt_eq_cons separator t
  rw [heq] at hpart
  rcases List.mem_cons.mp hpart with rfl | hpart
  · obtain ⟨c, u, hc⟩ := List.exists_cons_of_ne_nil hne
    rw [List.nil_append] at hfirst
    apply h.head
    rw [hc]
    exact congrArg some (hafter c (by rw [← hfirst, hc]; rfl))
  · obtain ⟨-, before, after, ht, hafter⟩ := hrest [] hpart
    cases after with
    | nil =>
      apply h.last
      simp [ht]
    | cons c after =>
      obtain rfl := hafter c rfl
      have hchain := h.chain
      rw [ht, List.isChain_append] at hchain
      exact (List.isChain_cons_cons.mp hchain.2.1).1 ⟨rfl, rfl⟩

/-- A tight text is its parts with single separators between them. -/
lemma Text.IsTight.join_parts (h : t.IsTight separator) :
    Text.join [separator] (t.parts separator) = t := by
  by_cases hne : t = []
  · rw [hne]
    rfl
  · have hall : (t.splitAt separator).filter (· ≠ []) = t.splitAt separator := by
      rw [List.filter_eq_self]
      exact fun part hpart => decide_eq_true (h.ne_nil_of_mem_splitAt hne hpart)
    rw [Text.parts, hall, Text.join_splitAt]

end

end PlainEnglish
