import Mathlib.Tactic
import PlainEnglish.Number.Decimal

/-!
# Rounding

The nearest number depends on a quotient only, not on how it is written as a fraction, and every
magnitude is the number nearest to itself. So the shortest decimal of a magnitude leads back to
it.

Main statement: `Magnitude.toNumber_shortest`.
-/

namespace PlainEnglish

/-- The number of units in one as a power of which only the exponent is ever looked at. -/
lemma exists_unitsPerOne_eq : ∃ k, k = 1074 ∧ unitsPerOne = 2 ^ k := by
  obtain ⟨k, hk⟩ : ∃ k, k = 1074 := ⟨_, rfl⟩
  refine ⟨k, hk, ?_⟩
  unfold unitsPerOne
  rw [← hk, Nat.pow_eq]

lemma unitsPerOne_pos : 0 < unitsPerOne := by
  obtain ⟨k, -, hk⟩ := exists_unitsPerOne_eq
  rw [hk]
  positivity

/-! ### Fractions -/

lemma divNearest_mul_left {k : Nat} (hk : 0 < k) (a b : Nat) :
    divNearest (k * a) (k * b) = divNearest a b := by
  simp only [divNearest, Nat.mul_div_mul_left _ _ hk, Nat.mul_mod_mul_left]
  have hgt : 2 * (k * (a % b)) > k * b ↔ 2 * (a % b) > b := by
    rw [mul_left_comm, gt_iff_lt, Nat.mul_lt_mul_left hk]
  have heq : 2 * (k * (a % b)) = k * b ↔ 2 * (a % b) = b := by
    rw [mul_left_comm, Nat.mul_right_inj hk.ne']
  simp only [hgt, heq]

lemma divNearest_mul_self {b : Nat} (hb : 0 < b) (q : Nat) : divNearest (q * b) b = q := by
  simp [divNearest, Nat.mul_div_cancel q hb, hb.ne]

lemma divNearest_eq_zero {a b : Nat} (h : 2 * a < b) : divNearest a b = 0 := by
  have hlt : a < b := by omega
  rw [divNearest, Nat.div_eq_of_lt hlt, Nat.mod_eq_of_lt hlt]
  exact if_neg (by omega)

lemma nearestRank_mul_left {k : Nat} (hk : 0 < k) (a b : Nat) :
    nearestRank (k * a) (k * b) = nearestRank a b := by
  simp only [nearestRank, Nat.mul_div_mul_left _ _ hk, mul_assoc, divNearest_mul_left hk]

lemma nearestRank_eq_zero {a b : Nat} (h : 2 * a < b) : nearestRank a b = 0 := by
  have hlt : a < b := by omega
  simp [nearestRank, Nat.div_eq_of_lt hlt, divNearest_eq_zero h]

lemma nearestRank_congr {a b c d : Nat} (hb : 0 < b) (hd : 0 < d) (h : a * d = c * b) :
    nearestRank a b = nearestRank c d :=
  calc nearestRank a b
      = nearestRank (d * a) (d * b) := (nearestRank_mul_left hd a b).symm
    _ = nearestRank (b * c) (b * d) := by rw [mul_comm d a, h, mul_comm c b, mul_comm d b]
    _ = nearestRank c d := nearestRank_mul_left hb c d

/-- Equal quotients have the same nearest number. -/
lemma Number.ofUnits_congr {negative : Bool} {a b c d : Nat} (hb : 0 < b) (hd : 0 < d)
    (h : a * d = c * b) : Number.ofUnits negative a b = Number.ofUnits negative c d := by
  simp only [Number.ofUnits, nearestRank_congr hb hd h]

lemma Number.ofUnits_eq_signedZero {a b : Nat} (h : 2 * a < b) (negative : Bool) :
    Number.ofUnits negative a b = .signedZero negative := by
  simp [Number.ofUnits, nearestRank_eq_zero h, Number.signedZero, magnitudeCount, ranksPerStep]

/-! ### Magnitudes -/

lemma log2_mul_pow (r k : Nat) (h : r < ranksPerStep) :
    ((ranksPerStep + r) * 2 ^ k).log2 = 52 + k := by
  have hlow : 2 ^ 52 * 2 ^ k ≤ (ranksPerStep + r) * 2 ^ k :=
    Nat.mul_le_mul_right _ (by simp [ranksPerStep])
  have hhigh : (ranksPerStep + r) * 2 ^ k < 2 ^ 53 * 2 ^ k :=
    Nat.mul_lt_mul_of_pos_right (by simp only [ranksPerStep] at *; omega) (Nat.two_pow_pos k)
  rw [← Nat.pow_add] at hlow hhigh
  have hpos := Nat.two_pow_pos (52 + k)
  rw [Nat.log2_eq_iff (by omega)]
  exact ⟨hlow, by rwa [show 52 + k + 1 = 53 + k by omega]⟩

/-- A magnitude is the nearest one to its own value. -/
lemma Magnitude.nearestRank_units (m : Magnitude) : nearestRank m.units 1 = m.val := by
  by_cases h : m.val < 2 * ranksPerStep
  · have hlog : m.val.log2 - 52 = 0 := by
      by_cases h0 : m.val = 0
      · simp [h0]
      · have : m.val.log2 < 53 := (Nat.log2_lt h0).mpr (by simpa [ranksPerStep] using h)
        omega
    simp only [nearestRank, Magnitude.units, if_pos h, Nat.div_one, hlog]
    simpa using divNearest_mul_self Nat.one_pos m.val
  · have hge : 2 * ranksPerStep ≤ m.val := by omega
    have hunits : m.units =
        (ranksPerStep + m.val % ranksPerStep) * 2 ^ (m.val / ranksPerStep - 1) := by
      rw [Magnitude.units, if_neg h, Nat.pow_eq]
    have hmod : m.val % ranksPerStep < ranksPerStep := Nat.mod_lt _ (by simp [ranksPerStep])
    rw [nearestRank, Nat.div_one, one_mul, hunits, log2_mul_pow _ _ hmod,
      Nat.add_sub_cancel_left, Nat.pow_eq, divNearest_mul_self (Nat.two_pow_pos _)]
    have hdiv := Nat.div_add_mod m.val ranksPerStep
    have hle : 2 ≤ m.val / ranksPerStep :=
      (Nat.le_div_iff_mul_le (by simp [ranksPerStep])).mpr hge
    simp only [ranksPerStep] at *
    omega

lemma Number.ofUnits_units (negative : Bool) (m : Magnitude) :
    Number.ofUnits negative m.units 1 = .finite negative m := by
  simp [Number.ofUnits, m.nearestRank_units]

/-! ### Decimals -/

lemma three_mul_log2_lt (k c : Nat) (h : c.log2 + 1200 < 3 * (k + 1)) :
    2 * (c * unitsPerOne) < 10 ^ (k + 1) := by
  obtain ⟨u, hu, hunits⟩ := exists_unitsPerOne_eq
  have hc : c < 2 ^ (c.log2 + 1) := Nat.lt_log2_self
  calc 2 * (c * unitsPerOne)
      < 2 * (2 ^ (c.log2 + 1) * unitsPerOne) := by
        have := Nat.mul_lt_mul_of_pos_right hc unitsPerOne_pos
        omega
    _ = 2 ^ (c.log2 + 1 + u + 1) := by rw [hunits, ← Nat.pow_add, ← Nat.pow_succ']
    _ ≤ 2 ^ (3 * (k + 1)) := Nat.pow_le_pow_right (by decide) (by omega)
    _ = 8 ^ (k + 1) := by rw [Nat.pow_mul]
    _ ≤ 10 ^ (k + 1) := Nat.pow_le_pow_left (by decide) _

lemma magnitudeCount_le_nearestRank {c k : Nat} (hc : c ≠ 0) (hk : 400 < k) :
    magnitudeCount ≤ nearestRank (c * 10 ^ k * unitsPerOne) 1 := by
  obtain ⟨u, hu, hunits⟩ := exists_unitsPerOne_eq
  have hle : 2 ^ (3 * k + u) ≤ c * 10 ^ k * unitsPerOne :=
    calc 2 ^ (3 * k + u) = 8 ^ k * 2 ^ u := by rw [Nat.pow_add, Nat.pow_mul]
      _ ≤ 10 ^ k * 2 ^ u := Nat.mul_le_mul_right _ (Nat.pow_le_pow_left (by decide) k)
      _ ≤ c * (10 ^ k * 2 ^ u) := Nat.le_mul_of_pos_left _ (Nat.pos_of_ne_zero hc)
      _ = c * 10 ^ k * unitsPerOne := by rw [hunits, mul_assoc]
  have hne : c * 10 ^ k * unitsPerOne ≠ 0 :=
    (Nat.lt_of_lt_of_le (Nat.two_pow_pos (3 * k + u)) hle).ne'
  have hlog : 3 * k + u ≤ (c * 10 ^ k * unitsPerOne).log2 := (Nat.le_log2 hne).mpr hle
  calc magnitudeCount
      ≤ ((c * 10 ^ k * unitsPerOne).log2 - 52) * ranksPerStep :=
        Nat.mul_le_mul_right _ (by omega)
    _ ≤ nearestRank (c * 10 ^ k * unitsPerOne) 1 := by
        rw [nearestRank, Nat.div_one]
        exact Nat.le_add_right _ _

/-- The number nearest to a decimal, without the cases that only save computing a power. -/
lemma Decimal.toNumber_eq_ofUnits (negative : Bool) (d : Decimal) :
    d.toNumber negative = .ofUnits negative
      (d.coefficient * 10 ^ d.exponent.toNat * unitsPerOne) (10 ^ (-d.exponent).toNat) := by
  obtain ⟨c, e⟩ := d
  by_cases hc : c = 0
  · have h : 2 * 0 < 10 ^ (-e).toNat := by positivity
    simp [Decimal.toNumber, hc, Number.ofUnits_eq_signedZero h]
  · rw [Decimal.toNumber, if_neg hc]
    cases e with
    | ofNat k =>
      by_cases hk : 400 < k
      · have := magnitudeCount_le_nearestRank hc hk
        simp [hk, Number.ofUnits, this]
      · simp [hk, Nat.pow_eq]
    | negSucc k =>
      have hexp : (-(Int.negSucc k)).toNat = k + 1 := by simp
      simp only [Int.toNat_negSucc, pow_zero, mul_one, hexp, Nat.pow_eq]
      split
      · next hsmall => rw [Number.ofUnits_eq_signedZero (three_mul_log2_lt k c hsmall)]
      · rfl

/-- Equal decimals have the same nearest number. -/
lemma Decimal.toNumber_congr {negative : Bool} {d e : Decimal}
    (h : d.coefficient * 10 ^ d.exponent.toNat * 10 ^ (-e.exponent).toNat =
      e.coefficient * 10 ^ e.exponent.toNat * 10 ^ (-d.exponent).toNat) :
    d.toNumber negative = e.toNumber negative := by
  rw [Decimal.toNumber_eq_ofUnits, Decimal.toNumber_eq_ofUnits]
  apply Number.ofUnits_congr (by positivity) (by positivity)
  rw [mul_right_comm, h, mul_right_comm]

lemma Decimal.isNegative_toNumber (negative : Bool) (d : Decimal) :
    (∃ m, d.toNumber negative = .finite negative m) ∨
      d.toNumber negative = .infinite negative := by
  rw [Decimal.toNumber_eq_ofUnits, Number.ofUnits]
  split
  · exact Or.inl ⟨_, rfl⟩
  · exact Or.inr rfl

lemma Magnitude.toNumber_exactDecimal (m : Magnitude) :
    m.exactDecimal.toNumber false = .finite false m := by
  obtain ⟨u, hu, hunits⟩ := exists_unitsPerOne_eq
  have hexact : m.exactDecimal = ⟨m.units * 5 ^ u, -u⟩ := by
    have hcast : (u : Int) = 1074 := congrArg Nat.cast hu
    rw [Magnitude.exactDecimal, ← hu, hcast, Nat.pow_eq]
  rw [Decimal.toNumber_eq_ofUnits, ← Number.ofUnits_units, hexact]
  apply Number.ofUnits_congr (by positivity) Nat.one_pos
  simp only [neg_neg, Int.toNat_natCast, Int.toNat_neg_natCast, pow_zero, mul_one, hunits]
  rw [mul_assoc, ← Nat.mul_pow]

lemma divNearest_eq_or (a b : Nat) : divNearest a b = a / b ∨ divNearest a b = a / b + 1 := by
  rw [divNearest]
  split
  · exact Or.inr rfl
  · exact Or.inl rfl

lemma Magnitude.toNumber_of_onGrid? {m : Magnitude} {exponent : Int} {d : Decimal}
    (h : m.onGrid? exponent = some d) : d.toNumber false = .finite false m := by
  simp only [Magnitude.onGrid?, Magnitude.readsBack] at h
  split at h
  · next hbelow habove =>
    -- both neighbours lead back, so the nearer one does
    obtain rfl := Option.some.inj h
    rcases divNearest_eq_or (m.units * Nat.pow 10 (-exponent).toNat)
      (unitsPerOne * Nat.pow 10 exponent.toNat) with heq | heq
    · rw [heq]
      exact of_decide_eq_true hbelow
    · rw [heq]
      exact of_decide_eq_true habove
  · next hbelow habove =>
    obtain rfl := Option.some.inj h
    exact of_decide_eq_true hbelow
  · next hbelow habove =>
    obtain rfl := Option.some.inj h
    exact of_decide_eq_true habove
  · simp at h

/-- A magnitude is the number nearest to its shortest decimal. -/
theorem Magnitude.toNumber_shortest (m : Magnitude) :
    m.shortest.toNumber false = .finite false m := by
  rw [Magnitude.shortest]
  cases hfind :
    (List.range 24).findSome? fun (step : Nat) => m.onGrid? (m.exponentAbove - step) with
  | none => exact m.toNumber_exactDecimal
  | some d =>
    obtain ⟨step, -, hgrid⟩ := List.exists_of_findSome?_eq_some hfind
    exact Magnitude.toNumber_of_onGrid? hgrid

end PlainEnglish
