import Mathlib.Tactic
import Mathlib.Data.List.DropRight
import PlainEnglish.Text.Blank
import PlainEnglish.Text.Lines

/-!
# Blanks and trimming
-/

namespace PlainEnglish

/-! ### Code points -/

lemma Char.le_iff_toNat_le {a b : Char} : a ≤ b ↔ a.toNat ≤ b.toNat := by
  rw [Char.le_def, UInt32.le_iff_toNat_le]
  rfl

lemma Char.isUpper_iff {c : Char} : c.isUpper = true ↔ 0x41 ≤ c.toNat ∧ c.toNat ≤ 0x5a :=
  decide_eq_true_iff

lemma isBlank_iff {c : Char} : isBlank c = true ↔
    (9 ≤ c.toNat ∧ c.toNat ≤ 13) ∨ (28 ≤ c.toNat ∧ c.toNat ≤ 32) ∨ c.toNat = 0x85 ∨
    c.toNat = 0xa0 ∨ c.toNat = 0x1680 ∨ (0x2000 ≤ c.toNat ∧ c.toNat ≤ 0x200a) ∨
    c.toNat = 0x2028 ∨ c.toNat = 0x2029 ∨ c.toNat = 0x202f ∨ c.toNat = 0x205f ∨
    c.toNat = 0x3000 := by
  simp only [isBlank, Bool.or_eq_true, Bool.and_eq_true, decide_eq_true_eq, beq_iff_eq,
    Char.le_iff_toNat_le, ← Char.toNat_inj, Char.reduceToNat, or_assoc]

lemma isLineBreak_iff {c : Char} : isLineBreak c = true ↔
    (10 ≤ c.toNat ∧ c.toNat ≤ 13) ∨ (28 ≤ c.toNat ∧ c.toNat ≤ 30) ∨ c.toNat = 0x85 ∨
    c.toNat = 0x2028 ∨ c.toNat = 0x2029 := by
  simp only [isLineBreak, Bool.or_eq_true, Bool.and_eq_true, decide_eq_true_eq, beq_iff_eq,
    Char.le_iff_toNat_le, ← Char.toNat_inj, Char.reduceToNat, or_assoc]

lemma isBlank_of_isLineBreak {c : Char} (h : isLineBreak c = true) : isBlank c = true := by
  rw [isLineBreak_iff] at h
  rw [isBlank_iff]
  omega

lemma isBlank_of_mem_space : ∀ c ∈ [' '], isBlank c = true := by
  rw [List.forall_mem_singleton]
  rfl

/-- A text in which no character passes a test, which can be evaluated. -/
lemma Text.forall_eq_false_of_any {p : Char → Bool} {t : Text} (h : t.any p = false) :
    ∀ c ∈ t, p c = false := by
  simpa using h

/-! ### Trimming -/

lemma dropWhile_eq_self {p : Char → Bool} {t : Text} (h : ∀ c ∈ t.head?, p c = false) :
    t.dropWhile p = t := by
  cases t with
  | nil => rfl
  | cons c t =>
    have hc : p c = false := h c rfl
    simp [hc]

lemma Text.trimStart_append_of_blank {b : Text} (h : ∀ c ∈ b, isBlank c = true) (t : Text) :
    Text.trimStart (b ++ t) = t.trimStart := List.dropWhile_append_of_pos h

lemma Text.trimStart_eq_self {t : Text} (h : ∀ c ∈ t.head?, isBlank c = false) :
    t.trimStart = t := dropWhile_eq_self h

lemma Text.trimEnd_append_of_blank {b : Text} (h : ∀ c ∈ b, isBlank c = true) (t : Text) :
    Text.trimEnd (t ++ b) = t.trimEnd := by
  rw [Text.trimEnd, Text.trimEnd, List.reverse_append,
    List.dropWhile_append_of_pos (by simpa using h)]

lemma Text.trimEnd_eq_self {t : Text} (h : ∀ c ∈ t.getLast?, isBlank c = false) :
    t.trimEnd = t := by
  have hhead : Text.trimStart t.reverse = t.reverse :=
    Text.trimStart_eq_self (by simpa [List.head?_reverse] using h)
  rw [Text.trimEnd, ← Text.trimStart, hhead, List.reverse_reverse]

/-- A text without blanks at its ends. -/
def Text.IsTrimmed (t : Text) : Prop :=
  (∀ c ∈ t.head?, isBlank c = false) ∧ ∀ c ∈ t.getLast?, isBlank c = false

lemma Text.IsTrimmed.trim_eq {t : Text} (h : t.IsTrimmed) : t.trim = t := by
  rw [Text.trim, Text.trimStart_eq_self h.1, Text.trimEnd_eq_self h.2]

lemma Text.IsTrimmed.trim_append {t b : Text} (h : t.IsTrimmed)
    (hb : ∀ c ∈ b, isBlank c = true) : Text.trim (t ++ b) = t := by
  cases t with
  | nil =>
    have hdrop := Text.trimStart_append_of_blank hb []
    rw [List.append_nil] at hdrop
    rw [List.nil_append, Text.trim, hdrop]
    rfl
  | cons c t =>
    have hstart : Text.trimStart (c :: t ++ b) = c :: t ++ b :=
      Text.trimStart_eq_self (by simpa using h.1)
    rw [Text.trim, hstart, Text.trimEnd_append_of_blank hb, Text.trimEnd_eq_self h.2]

lemma Text.IsTrimmed.trim_append_left {t b : Text} (h : t.IsTrimmed)
    (hb : ∀ c ∈ b, isBlank c = true) : Text.trim (b ++ t) = t := by
  rw [Text.trim, Text.trimStart_append_of_blank hb, ← Text.trim, h.trim_eq]

/-- What stands between two characters that are not blank is trimmed. -/
lemma Text.isTrimmed_cons_append {a b : Char} (ha : isBlank a = false) (hb : isBlank b = false)
    (t : Text) : Text.IsTrimmed (a :: t ++ [b]) := by
  constructor
  · simpa using ha
  · rw [List.getLast?_concat]
    simpa using hb

lemma Text.isTrimmed_of_not_blank {t : Text} (h : ∀ c ∈ t, isBlank c = false) : t.IsTrimmed :=
  ⟨fun c hc => h c (List.mem_of_mem_head? hc), fun c hc => h c (List.mem_of_getLast? hc)⟩

lemma Text.isTrimmed_append {s t : Text} (hs : s.IsTrimmed) (hsne : s ≠ []) (ht : t.IsTrimmed)
    (htne : t ≠ []) (between : Text) : Text.IsTrimmed (s ++ between ++ t) := by
  constructor
  · rw [List.append_assoc, List.head?_append_of_ne_nil s hsne]
    exact hs.1
  · rw [List.getLast?_append_of_ne_nil _ htne]
    exact ht.2

/-! ### What trimming leaves -/

lemma Text.trimEnd_append {s : Text} (hlast : ∀ c ∈ s.getLast?, isBlank c = false) (t : Text) :
    Text.trimEnd (s ++ t) = s ++ t.trimEnd := by
  have hself := Text.trimEnd_eq_self hlast
  simp only [Text.trimEnd, List.reverse_append, List.dropWhile_append] at *
  split
  · next h =>
    rw [List.isEmpty_iff.mp h, hself]
    simp
  · simp

/-- A trimmed text that another one begins with is kept when that one is trimmed. -/
lemma Text.trim_append {s : Text} (h : s.IsTrimmed) (hs : s ≠ []) (t : Text) :
    Text.trim (s ++ t) = s ++ t.trimEnd := by
  obtain ⟨c, rest, rfl⟩ := List.exists_cons_of_ne_nil hs
  have hstart : Text.trimStart (c :: rest ++ t) = c :: rest ++ t :=
    Text.trimStart_eq_self (by simpa using h.1)
  rw [Text.trim, hstart, Text.trimEnd_append h.2]

lemma Text.trim_append_of_blank {b : Text} (h : ∀ c ∈ b, isBlank c = true) (t : Text) :
    Text.trim (t ++ b) = t.trim := by
  rw [Text.trim, Text.trim, Text.trimStart, Text.trimStart, List.dropWhile_append]
  split
  · next hnil =>
    rw [List.isEmpty_iff.mp hnil, List.dropWhile_eq_nil_iff.mpr h]
  · exact Text.trimEnd_append_of_blank h _

/-! ### What is taken away from the ends -/

section

variable (p : Char → Bool) (t : Text)

/-- What is dropped from the two ends of a text passes the test by which it is dropped. -/
lemma exists_append_rdropWhile_dropWhile : ∃ before after,
    t = before ++ (t.dropWhile p).rdropWhile p ++ after ∧ (∀ c ∈ before, p c = true) ∧
      ∀ c ∈ after, p c = true := by
  refine ⟨t.takeWhile p, (t.dropWhile p).rtakeWhile p, ?_, fun c => List.mem_takeWhile_imp,
    fun c => List.mem_rtakeWhile_imp⟩
  rw [List.append_assoc, List.rdropWhile_append_rtakeWhile, List.takeWhile_append_dropWhile]

lemma head?_dropWhile : ∀ c ∈ (t.dropWhile p).head?, p c = false := by
  intro c hc
  have hnot := List.head?_dropWhile_not p t
  rw [Option.mem_def] at hc
  simpa [hc] using hnot

/-- Nothing that is left at either end passes the test. -/
lemma ends_rdropWhile_dropWhile : (∀ c ∈ ((t.dropWhile p).rdropWhile p).head?, p c = false) ∧
    ∀ c ∈ ((t.dropWhile p).rdropWhile p).getLast?, p c = false := by
  constructor
  · intro c hc
    obtain ⟨after, hafter⟩ := List.rdropWhile_prefix p (t.dropWhile p)
    apply head?_dropWhile p t
    rw [← hafter, List.head?_append, Option.mem_def.mp hc]
    rfl
  · intro c hc
    rw [List.rdropWhile, List.getLast?_reverse] at hc
    exact head?_dropWhile p _ c hc

end

section

variable {t : Text} {c : Char}

lemma Text.exists_append_trim (t : Text) : ∃ before after, t = before ++ t.trim ++ after ∧
    (∀ c ∈ before, isBlank c = true) ∧ ∀ c ∈ after, isBlank c = true :=
  exists_append_rdropWhile_dropWhile isBlank t

lemma Text.isTrimmed_trim (t : Text) : t.trim.IsTrimmed := ends_rdropWhile_dropWhile isBlank t

lemma Text.isInfix_trim (t : Text) : t.trim <:+: t := by
  obtain ⟨before, after, heq, -, -⟩ := t.exists_append_trim
  exact ⟨before, after, heq.symm⟩

lemma Text.mem_of_mem_trim (h : c ∈ t.trim) : c ∈ t := t.isInfix_trim.subset h

/-- Trimming takes away blanks only. -/
lemma Text.mem_trim (hc : c ∈ t) (h : isBlank c = false) : c ∈ t.trim := by
  obtain ⟨before, after, heq, hbefore, hafter⟩ := t.exists_append_trim
  rw [heq, List.mem_append, List.mem_append] at hc
  rcases hc with (hc | hc) | hc
  · rw [hbefore c hc] at h
    exact Bool.noConfusion h
  · exact hc
  · rw [hafter c hc] at h
    exact Bool.noConfusion h

lemma Text.filter_trim (t : Text) :
    t.trim.filter (fun c => !isBlank c) = t.filter fun c => !isBlank c := by
  obtain ⟨before, after, heq, hbefore, hafter⟩ := t.exists_append_trim
  have hblank {b : Text} (hb : ∀ c ∈ b, isBlank c = true) :
      b.filter (fun c => !isBlank c) = [] := by
    simpa using hb
  conv_rhs => rw [heq, List.filter_append, List.filter_append, hblank hbefore, hblank hafter,
    List.nil_append, List.append_nil]

end

end PlainEnglish
