import PlainEnglish.Proofs.Number.Literal
import PlainEnglish.Proofs.Preview.Alike

/-!
# Plain notation is canonical

A finite number in plain notation has no digit that could be left out: its whole part has no
zeros in front unless it is a single zero, its fraction does not end with zero, and zero has no
sign. It is read back as the number, so numbers that are not equal are never written alike.

Main statement: `Number.plain_canonical`.
-/

namespace PlainEnglish

/-! ### Canonical texts -/

/-- Digits in front of a point, or without one, that begin with zero only if zero is all of
them. -/
structure Text.IsWhole (t : Text) : Prop where
  ne_nil : t ≠ []
  isDigit : ∀ c ∈ t, c.isDigit = true
  eq_zero : t.head? = some '0' → t = ['0']

/-- Digits behind a point, or none, of which the last one is not zero. -/
structure Text.IsFraction (t : Text) : Prop where
  isDigit : ∀ c ∈ t, c.isDigit = true
  last : ∀ c ∈ t.getLast?, c ≠ '0'

/-- A minus sign or none, a whole part and a fraction, which has its point with it. Zero has no
sign. -/
inductive Text.IsCanonical : Text → Prop where
  | parts (negative : Bool) {whole fraction : Text} (hwhole : whole.IsWhole)
      (hfraction : fraction.IsFraction)
      (hzero : whole = ['0'] → fraction = [] → negative = false) :
      Text.IsCanonical (Text.sign negative ++ (whole ++ fraction.pointed))

lemma Text.isFraction_nil : Text.IsFraction [] := ⟨by simp, by simp⟩

/-! ### Digits of natural numbers -/

lemma Text.head?_ofNat_ne {n : Nat} (h : 0 < n) : (Text.ofNat n).head? ≠ some '0' := by
  induction n using Nat.strong_induction_on with
  | _ n ih =>
    rw [Text.ofNat, Nat.toDigits_eq_if (by decide)]
    split
    · next hlt => interval_cases n <;> decide
    · next hge =>
      rw [List.head?_append_of_ne_nil _ Nat.toDigits_ne_nil]
      exact ih (n / 10) (Nat.div_lt_self h (by decide)) (by omega)

/-- Zeros may be added behind the digits of a natural number other than zero. -/
lemma Text.isWhole_ofNat_append {n : Nat} (h : 0 < n) (k : Nat) :
    Text.IsWhole (Text.ofNat n ++ List.replicate k '0') where
  ne_nil := List.append_ne_nil_of_left_ne_nil (Text.ofNat_ne_nil n) _
  isDigit := by
    rw [List.forall_mem_append]
    exact ⟨fun c => Text.isDigit_of_mem_ofNat, fun c => Text.isDigit_of_mem_zeros⟩
  eq_zero hhead := by
    rw [List.head?_append_of_ne_nil _ (Text.ofNat_ne_nil n)] at hhead
    exact absurd hhead (Text.head?_ofNat_ne h)

lemma Text.isWhole_ofNat (n : Nat) : Text.IsWhole (Text.ofNat n) := by
  rcases Nat.eq_zero_or_pos n with rfl | hpos
  · exact ⟨Text.ofNat_ne_nil 0, fun c => Text.isDigit_of_mem_ofNat, fun _ => rfl⟩
  · simpa using Text.isWhole_ofNat_append hpos 0

/-! ### Decimals -/

/-- A decimal other than zero has canonical parts once the zeros are cut off that end its
fraction. -/
lemma Decimal.exists_parts {d : Decimal} (h : 0 < d.coefficient) : ∃ whole fraction : Text,
    Text.trimFraction d.plain = whole ++ fraction.pointed ∧ whole.IsWhole ∧
      fraction.IsFraction := by
  obtain ⟨coefficient, exponent⟩ := d
  cases exponent with
  | ofNat k =>
    have hwhole := Text.isWhole_ofNat_append h k
    refine ⟨_, [], ?_, hwhole, Text.isFraction_nil⟩
    exact (Text.trimFraction_of_not_mem (Text.not_mem_point hwhole.isDigit)).trans
      (List.append_nil _).symm
  | negSucc k =>
    obtain ⟨whole, fraction, hplain, hne, -, -, hall, hdigits⟩ :=
      Decimal.exists_plain_negSucc coefficient k
    rw [List.forall_mem_append] at hall
    obtain ⟨u, j, rfl, hlast⟩ := exists_append_zeros fraction
    have hu : ∀ c ∈ u, c.isDigit = true := fun c hc => hall.2 c (List.mem_append_left _ hc)
    refine ⟨whole, u, ?_, ⟨hne, hall.1, fun hhead => ?_⟩, ⟨hu, hlast⟩⟩
    · rw [hplain, Text.trimFraction_point j hall.1 hu hlast, Text.pointed]
      split
      · exact (List.append_nil _).symm
      · rfl
    · rcases hdigits with hzero | hdigits
      · exact hzero
      · -- the digits of the coefficient begin with the whole part
        rw [← List.head?_append_of_ne_nil _ hne, hdigits] at hhead
        exact absurd hhead (Text.head?_ofNat_ne h)

/-! ### Numbers -/

lemma Magnitude.exists_parts (m : Magnitude) : ∃ whole fraction : Text,
    Number.plain (.finite false m) = whole ++ fraction.pointed ∧ whole.IsWhole ∧
      fraction.IsFraction := by
  simp only [Number.plain, Bool.false_and, Text.sign_false, List.nil_append]
  split
  · exact ⟨_, [], (List.append_nil _).symm, Text.isWhole_ofNat _, Text.isFraction_nil⟩
  · next hfraction =>
    apply Decimal.exists_parts
    apply Magnitude.coefficient_shortest_pos
    intro hzero
    rw [Magnitude.units_eq_zero_iff.mpr hzero] at hfraction
    exact hfraction ⟨Nat.zero_mod _, by rw [Nat.zero_div]; exact Nat.pow_pos (by decide)⟩

/-- Numbers that are written alike are equal, or both are zero. -/
lemma Number.alike_of_plain_eq {negative negative' : Bool} {m m' : Magnitude}
    (h : Number.plain (.finite negative m) = Number.plain (.finite negative' m')) :
    Number.Alike (.finite negative m) (.finite negative' m') := by
  have hread := congrArg Number.ofText? h
  rw [Number.ofText?_plain, Number.ofText?_plain, Option.some_inj, Number.finite.injEq] at hread
  obtain ⟨hsign, rfl⟩ := hread
  by_cases hm : m.val = 0
  · obtain rfl : m = ⟨0, by decide⟩ := Fin.ext hm
    exact .zero _ _
  · have hne : (m.val != 0) = true := by simpa using hm
    rw [hne, Bool.and_true, Bool.and_true] at hsign
    rw [hsign]
    exact .refl _

lemma Number.isCanonical_plain (negative : Bool) (m : Magnitude) :
    (Number.plain (.finite negative m)).IsCanonical := by
  obtain ⟨whole, fraction, hplain, hwhole, hfraction⟩ := m.exists_parts
  rw [Number.plain_finite, hplain]
  refine .parts _ hwhole hfraction ?_
  rintro rfl rfl
  -- what is written as zero is zero
  have hzero : Number.plain (.finite false m) = Number.plain (.signedZero false) := by
    rw [hplain]
    decide +kernel
  cases Number.alike_of_plain_eq hzero with
  | refl => simp
  | zero a b => simp

/-- A finite number is written in canonical form, which is a numeral that is read back as an
equal number. Two finite numbers are written alike exactly if they are equal, where zero equals
minus zero. -/
theorem Number.plain_canonical (negative : Bool) (m : Magnitude) :
    (Number.plain (.finite negative m)).IsCanonical ∧
    (Number.plain (.finite negative m)).isNumeral = true ∧
    (∃ x, Number.ofText? (Number.plain (.finite negative m)) = some x ∧
      Number.Alike x (.finite negative m)) ∧
    ∀ (negative' : Bool) (m' : Magnitude),
      Number.plain (.finite negative m) = Number.plain (.finite negative' m') ↔
        Number.Alike (.finite negative m) (.finite negative' m') := by
  refine ⟨Number.isCanonical_plain negative m, Number.isNumeral_plain negative m, ?_, ?_⟩
  · exact Number.exists_ofText?_plain negative m
  · exact fun negative' m' => ⟨Number.alike_of_plain_eq, Number.Alike.plain_eq⟩

end PlainEnglish
