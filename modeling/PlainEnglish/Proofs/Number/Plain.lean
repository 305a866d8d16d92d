import Mathlib.Tactic
import PlainEnglish.Number.Written
import PlainEnglish.Proofs.Number.Numeral

/-!
# Plain notation leads back

A finite number in plain notation is a minus sign or none, and then digits with at most one point
between them. The digits are a numeral that names the number without its sign.

Main statements: `Magnitude.names_plain`, `Number.plain_finite`, `Number.read?_plain`.
-/

namespace PlainEnglish

@[simp] lemma Text.sign_false : Text.sign false = [] := rfl

@[simp] lemma Text.sign_true : Text.sign true = ['-'] := rfl

/-! ### Digits with at most one point between them -/

/-- The form of a number in plain notation, without its sign. -/
inductive Text.IsPlain : Text → Prop where
  | whole {digits : Text} (ne_nil : digits ≠ []) (isDigit : ∀ c ∈ digits, c.isDigit = true) :
      Text.IsPlain digits
  | point {whole fraction : Text} (whole_ne_nil : whole ≠ []) (fraction_ne_nil : fraction ≠ [])
      (whole_isDigit : ∀ c ∈ whole, c.isDigit = true)
      (fraction_isDigit : ∀ c ∈ fraction, c.isDigit = true) :
      Text.IsPlain (whole ++ '.' :: fraction)

lemma Text.IsPlain.isDigit_or_point {t : Text} (h : t.IsPlain) {c : Char} (hc : c ∈ t) :
    c.isDigit = true ∨ c = '.' := by
  cases h with
  | whole _ hdigits => exact Or.inl (hdigits c hc)
  | point _ _ hwhole hfraction =>
    rcases List.mem_append.mp hc with hc | hc
    · exact Or.inl (hwhole c hc)
    · rcases List.mem_cons.mp hc with hc | hc
      · exact Or.inr hc
      · exact Or.inl (hfraction c hc)

lemma Text.IsPlain.exists_cons {t : Text} (h : t.IsPlain) :
    ∃ c rest, t = c :: rest ∧ c.isDigit = true := by
  cases h with
  | whole hne hdigits =>
    obtain ⟨c, rest, rfl⟩ := List.exists_cons_of_ne_nil hne
    exact ⟨c, rest, rfl, hdigits c List.mem_cons_self⟩
  | point hne _ hwhole _ =>
    obtain ⟨c, rest, rfl⟩ := List.exists_cons_of_ne_nil hne
    exact ⟨c, _, rfl, hwhole c List.mem_cons_self⟩

/-! ### Fractions without their last zeros -/

lemma exists_append_zeros (t : Text) :
    ∃ (u : Text) (k : Nat), t = u ++ List.replicate k '0' ∧ ∀ c ∈ u.getLast?, c ≠ '0' := by
  induction t using List.reverseRecOn with
  | nil => exact ⟨[], 0, rfl, by simp⟩
  | append_singleton t c ih =>
    obtain ⟨u, k, rfl, hu⟩ := ih
    by_cases hc : c = '0'
    · exact ⟨u, k + 1, by rw [hc, List.append_assoc, ← List.replicate_succ'], hu⟩
    · exact ⟨u ++ List.replicate k '0' ++ [c], 0, by simp, by simpa using hc⟩

lemma Text.trimFraction_of_not_mem {t : Text} (h : '.' ∉ t) : Text.trimFraction t = t := if_neg h

/-- A fraction keeps its digits up to the last one that is not zero, and the point goes with the
last digit of the fraction. -/
lemma Text.trimFraction_point {whole u : Text} (k : Nat)
    (hwhole : ∀ c ∈ whole, c.isDigit = true) (hu : ∀ c ∈ u, c.isDigit = true)
    (hlast : ∀ c ∈ u.getLast?, c ≠ '0') :
    Text.trimFraction (whole ++ '.' :: (u ++ List.replicate k '0')) =
      if u = [] then whole else whole ++ '.' :: u := by
  have hdigit {c : Char} (h : c.isDigit = true) : c ≠ '.' := by
    rintro rfl
    exact absurd h (by decide)
  have hreverse : (whole ++ '.' :: (u ++ List.replicate k '0')).reverse =
      List.replicate k '0' ++ (u.reverse ++ '.' :: whole.reverse) := by simp
  have hzeros : (u.reverse ++ '.' :: whole.reverse).dropWhile (· = '0') =
      u.reverse ++ '.' :: whole.reverse := by
    apply dropWhile_eq_self
    intro c hc
    cases hrev : u.reverse with
    | nil =>
      rw [hrev, List.nil_append, List.head?_cons, Option.mem_some_iff] at hc
      simp [← hc]
    | cons d v =>
      have hd := hlast d (by rw [← List.head?_reverse, hrev]; rfl)
      rw [hrev, List.cons_append, List.head?_cons, Option.mem_some_iff] at hc
      simpa [← hc] using hd
  rw [Text.trimFraction, if_pos (by simp), hreverse,
    List.dropWhile_append_of_pos (by simp), hzeros]
  split
  · next hnil =>
    subst hnil
    have hhead : ∀ c ∈ whole.reverse.head?, decide (c = '.') = false := by
      intro c hc
      rw [List.head?_reverse] at hc
      simpa using hdigit (hwhole c (List.mem_of_getLast? hc))
    simp [dropWhile_eq_self hhead]
  · next hnil =>
    rw [dropWhile_eq_self, List.reverse_append, List.reverse_cons, List.reverse_reverse,
      List.reverse_reverse, List.append_assoc, List.singleton_append]
    intro c hc
    obtain ⟨d, v, hrev⟩ := List.exists_cons_of_ne_nil (mt List.reverse_eq_nil_iff.mp hnil)
    have hd : d ∈ u := List.mem_reverse.mp (hrev ▸ List.mem_cons_self)
    rw [hrev, List.cons_append, List.head?_cons, Option.mem_some_iff] at hc
    simpa [← hc] using hdigit (hu d hd)

/-! ### Texts that name a magnitude -/

/-- A text in plain form that is read as the given magnitude. -/
def Text.Names (t : Text) (m : Magnitude) : Prop :=
  t.IsPlain ∧ ∃ n, Numeral.read? t = some n ∧ n.toNumber = .finite false m

lemma Text.names_whole {digits : Text} {m : Magnitude} (hne : digits ≠ [])
    (hdigits : ∀ c ∈ digits, c.isDigit = true)
    (hvalue : Decimal.toNumber false ⟨Text.digitsValue digits, 0⟩ = .finite false m) :
    Text.Names digits m :=
  ⟨.whole hne hdigits, _,
    Numeral.read?_whole (fun c hc => isDigit_of_isDigit (hdigits c hc)) hne,
    by simpa [Numeral.toNumber] using hvalue⟩

lemma Text.names_point {whole fraction : Text} {m : Magnitude} (hne : whole ≠ [])
    (hfraction : fraction ≠ []) (hwhole : ∀ c ∈ whole, c.isDigit = true)
    (hdigits : ∀ c ∈ fraction, c.isDigit = true)
    (hvalue : Decimal.toNumber false ⟨Text.digitsValue (whole ++ fraction), -fraction.length⟩ =
      .finite false m) :
    Text.Names (whole ++ '.' :: fraction) m :=
  ⟨.point hne hfraction hwhole hdigits, _,
    Numeral.read?_point (fun c hc => isDigit_of_isDigit (hwhole c hc)) hne
      (fun c hc => isDigit_of_isDigit (hdigits c hc)),
    by simpa [Numeral.toNumber] using hvalue⟩

lemma Text.isDigit_of_mem_zeros {k : Nat} {c : Char} (h : c ∈ List.replicate k '0') :
    c.isDigit = true := by
  obtain rfl := List.eq_of_mem_replicate h
  rfl

lemma Text.not_mem_point {t : Text} (h : ∀ c ∈ t, c.isDigit = true) : '.' ∉ t :=
  fun hmem => absurd (h _ hmem) (by decide)

/-- A decimal with a negative exponent has digits in front of its point, and as many behind it as
the exponent tells. Zeros are added in front only if there is nothing but a single one before the
point. -/
lemma Decimal.exists_plain_negSucc (coefficient k : Nat) : ∃ whole fraction : Text,
    Decimal.plain ⟨coefficient, .negSucc k⟩ = whole ++ '.' :: fraction ∧ whole ≠ [] ∧
      fraction.length = k + 1 ∧ Text.digitsValue (whole ++ fraction) = coefficient ∧
      (∀ c ∈ whole ++ fraction, c.isDigit = true) ∧
      (whole = ['0'] ∨ whole ++ fraction = Text.ofNat coefficient) := by
  simp only [Decimal.plain]
  generalize hf : List.replicate (k + 2 - (Text.ofNat coefficient).length) '0' ++
    Text.ofNat coefficient = filled
  have hlength : k + 2 ≤ filled.length := by
    rw [← hf, List.length_append, List.length_replicate]
    omega
  refine ⟨_, _, rfl, ?_, ?_, ?_, ?_, ?_⟩
  · rw [ne_eq, List.take_eq_nil_iff, not_or]
    exact ⟨by omega, List.ne_nil_of_length_pos (by omega)⟩
  · rw [List.length_drop]
    omega
  · rw [List.take_append_drop, ← hf, Text.digitsValue_zeros_append, Text.digitsValue_ofNat]
  · rw [List.take_append_drop, ← hf, List.forall_mem_append]
    exact ⟨fun c => Text.isDigit_of_mem_zeros, fun c => Text.isDigit_of_mem_ofNat⟩
  · rw [List.take_append_drop, ← hf]
    rcases Nat.lt_or_ge (Text.ofNat coefficient).length (k + 2) with hlt | hge
    · -- the filled digits have one place in front of the point, and a zero stands there
      obtain ⟨zeros, hzeros⟩ := Nat.exists_eq_add_of_lt hlt
      have hone : (List.replicate (k + 2 - (Text.ofNat coefficient).length) '0' ++
          Text.ofNat coefficient).length - (k + 1) = 1 := by
        rw [List.length_append, List.length_replicate]
        omega
      have hfill : k + 2 - (Text.ofNat coefficient).length = zeros + 1 := by omega
      left
      rw [hone, hfill, List.replicate_succ]
      rfl
    · right
      rw [Nat.sub_eq_zero_of_le hge]
      rfl

/-- A decimal in plain notation, cut behind its last digit that counts, names what is nearest to
the decimal. -/
lemma Decimal.names_plain {d : Decimal} {m : Magnitude}
    (h : d.toNumber false = .finite false m) :
    Text.Names (Text.trimFraction d.plain) m := by
  obtain ⟨coefficient, exponent⟩ := d
  cases exponent with
  | ofNat k =>
    have hall : ∀ c ∈ Text.ofNat coefficient ++ List.replicate k '0', c.isDigit = true := by
      rw [List.forall_mem_append]
      exact ⟨fun c => Text.isDigit_of_mem_ofNat, fun c => Text.isDigit_of_mem_zeros⟩
    simp only [Decimal.plain]
    rw [Text.trimFraction_of_not_mem (Text.not_mem_point hall)]
    refine Text.names_whole (by simp [Text.ofNat_ne_nil]) hall (Eq.trans ?_ h)
    apply Decimal.toNumber_congr
    simp [Text.digitsValue_append_zeros, Text.digitsValue_ofNat]
  | negSucc k =>
    obtain ⟨whole, fraction, hplain, hne, hlength, hvalue, hall, -⟩ :=
      Decimal.exists_plain_negSucc coefficient k
    -- the zeros that end the fraction are cut off
    obtain ⟨u, j, rfl, hlast⟩ := exists_append_zeros fraction
    have hwhole (c : Char) (hc : c ∈ whole) : c.isDigit = true := hall c (by simp [hc])
    have hu (c : Char) (hc : c ∈ u) : c.isDigit = true := hall c (by simp [hc])
    rw [← List.append_assoc, Text.digitsValue_append_zeros] at hvalue
    rw [List.length_append, List.length_replicate] at hlength
    have hexp : (-(Int.negSucc k)).toNat = k + 1 := by simp
    rw [hplain, Text.trimFraction_point j hwhole hu hlast]
    split
    · next hnil =>
      subst hnil
      rw [List.append_nil] at hvalue
      refine Text.names_whole hne hwhole (Eq.trans ?_ h)
      apply Decimal.toNumber_congr
      simp only [List.length_nil, zero_add] at hlength
      simp [← hvalue, hlength]
    · next hnil =>
      refine Text.names_point hne hnil hwhole hu (Eq.trans ?_ h)
      apply Decimal.toNumber_congr
      simp only [neg_neg, Int.toNat_natCast, Int.toNat_neg_natCast, pow_zero, mul_one, hexp,
        Int.toNat_negSucc, ← hvalue, ← hlength]
      ring

/-- A magnitude in plain notation names it. -/
lemma Magnitude.names_plain (m : Magnitude) : Text.Names (Number.plain (.finite false m)) m := by
  simp only [Number.plain, Bool.false_and, Text.sign_false, List.nil_append]
  split
  · next h =>
    refine Text.names_whole (Text.ofNat_ne_nil _) (fun c => Text.isDigit_of_mem_ofNat) ?_
    rw [Decimal.toNumber_eq_ofUnits, Text.digitsValue_ofNat, ← Number.ofUnits_units]
    simp [Nat.div_mul_cancel (Nat.dvd_of_mod_eq_zero h.1)]
  · exact Decimal.names_plain m.toNumber_shortest

/-! ### Signs -/

lemma Magnitude.units_eq_zero_iff {m : Magnitude} : m.units = 0 ↔ m.val = 0 := by
  rw [Magnitude.units]
  split
  · rfl
  · next h =>
    have : m.val ≠ 0 := by
      rintro h0
      rw [h0] at h
      simp at h
    simp [this]

/-- A number has the digits of its magnitude, behind a minus sign if it is less than zero. -/
lemma Number.plain_finite (negative : Bool) (m : Magnitude) :
    Number.plain (.finite negative m) =
      Text.sign (negative && m.val != 0) ++ Number.plain (.finite false m) := by
  have hunits : (m.units != 0) = (m.val != 0) := by
    rw [Bool.eq_iff_iff]
    simp [Magnitude.units_eq_zero_iff]
  simp only [Number.plain]
  split
  · simp [hunits]
  · next h =>
    have hne : (m.val != 0) = true := by
      rw [bne_iff_ne]
      intro h0
      refine h ⟨?_, ?_⟩ <;> rw [Magnitude.units_eq_zero_iff.mpr h0]
      · exact Nat.zero_mod _
      · rw [Nat.zero_div]
        exact Nat.pow_pos (by decide)
    rw [hne, Bool.and_true, Text.sign_false, List.nil_append]

lemma Decimal.toNumber_negative {negative negative' : Bool} {d : Decimal} {m : Magnitude}
    (h : d.toNumber negative = .finite negative' m) : d.toNumber true = .finite true m := by
  rw [Decimal.toNumber_eq_ofUnits, Number.ofUnits] at h ⊢
  split at h
  · next hrank =>
    rw [dif_pos hrank, (Number.finite.inj h).2]
  · cases h

lemma Numeral.read?_minus {t : Text} (h : Text.takeSign t = (false, t)) :
    Numeral.read? ('-' :: t) = (Numeral.read? t).map fun n => { n with negative := true } := by
  have hminus : Text.takeSign ('-' :: t) = (true, t) := rfl
  simp only [Numeral.read?, h, hminus]
  split
  · rfl
  · rw [Option.map_map]
    rfl

/-- A numeral without a minus sign names a number without a sign. -/
lemma Number.exists_ofText?_of_not_mem {t : Text} (h : t.isNumeral = true) (hminus : '-' ∉ t) :
    ∃ x, Number.ofText? t = some x ∧ ((∃ m, x = .finite false m) ∨ x = .infinite false) := by
  obtain ⟨n, hn⟩ := Option.isSome_iff_exists.mp h
  refine ⟨_, Number.ofText?_of_read? hn, ?_⟩
  rw [Numeral.toNumber, Numeral.negative_eq_false hn hminus]
  exact Decimal.isNegative_toNumber false _

/-- A finite number in plain notation is a numeral that names it, but for the sign of zero. -/
theorem Number.read?_plain (negative : Bool) (m : Magnitude) :
    ∃ n, Numeral.read? (Number.plain (.finite negative m)) = some n ∧
      n.toNumber = .finite (negative && m.val != 0) m := by
  obtain ⟨hplain, n, hread, hnumber⟩ := m.names_plain
  rw [Number.plain_finite]
  cases negative && m.val != 0 with
  | false => exact ⟨n, hread, hnumber⟩
  | true =>
    obtain ⟨c, rest, heq, hc⟩ := hplain.exists_cons
    have hsign : Text.takeSign (Number.plain (.finite false m)) =
        (false, Number.plain (.finite false m)) := by
      rw [heq]
      apply Text.takeSign_cons
      · rintro rfl
        exact absurd hc (by decide)
      · rintro rfl
        exact absurd hc (by decide)
    rw [Text.sign_true, List.singleton_append, Numeral.read?_minus hsign, hread]
    exact ⟨_, rfl, Decimal.toNumber_negative hnumber⟩

lemma Number.isNumeral_plain (negative : Bool) (m : Magnitude) :
    (Number.plain (.finite negative m)).isNumeral = true := by
  obtain ⟨n, hn, -⟩ := Number.read?_plain negative m
  rw [Text.isNumeral, hn]
  rfl

lemma Number.ofText?_plain (negative : Bool) (m : Magnitude) :
    Number.ofText? (Number.plain (.finite negative m)) =
      some (.finite (negative && m.val != 0) m) := by
  obtain ⟨n, hn, hnumber⟩ := Number.read?_plain negative m
  rw [Number.ofText?_of_read? hn, hnumber]

end PlainEnglish
