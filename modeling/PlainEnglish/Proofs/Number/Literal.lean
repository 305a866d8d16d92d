import PlainEnglish.Proofs.Number.Plain

/-!
# Literals lead back

A finite number as a document has it is a numeral. It spells the shortest decimal that tells the
number apart, but for a zero behind the point of a whole number.

Main statement: `Number.read?_literal`.
-/

namespace PlainEnglish

/-- The decimal that a numeral spells, without any rounding. -/
def Numeral.toDecimal (n : Numeral) : Decimal :=
  ⟨Text.digitsValue (n.whole ++ n.fraction), n.exponent - n.fraction.length⟩

/-- A text without a sign that is read as a decimal with the same plain notation, but for zeros
that end its fraction. -/
def Text.Spells (t : Text) (d : Decimal) : Prop :=
  Text.takeSign t = (false, t) ∧ ∃ n, Numeral.read? t = some n ∧ n.negative = false ∧
    Text.trimFraction n.toDecimal.plain = Text.trimFraction d.plain

/-! ### Digits with an exponent behind them -/

section

variable {whole fraction : Text}

lemma Numeral.read?_digits_append (h : ∀ c ∈ whole, isDigit c = true) (hne : whole ≠ [])
    {rest : Text} (hrest : ∀ c ∈ rest.head?, isDigit c = false) :
    Numeral.read? (whole ++ rest) = (Text.exponent? (Text.takeFraction rest).2).map
        fun exponent => ⟨false, whole, (Text.takeFraction rest).1, exponent⟩ := by
  simp [Numeral.read?, Text.takeSign_digits_append h hne, Text.takeDigits_append h rest hrest,
    hne]

/-- The power of ten of a number in scientific notation. -/
def Text.power (exponent : Int) : Text :=
  'e' :: (if exponent < 0 then '-' else '+') ::
    (List.replicate (2 - (Text.ofNat exponent.natAbs).length) '0' ++ Text.ofNat exponent.natAbs)

lemma Text.exponent?_power (exponent : Int) :
    Text.exponent? (Text.power exponent) = some exponent := by
  rw [Text.power]
  generalize hpower : List.replicate (2 - (Text.ofNat exponent.natAbs).length) '0' ++
    Text.ofNat exponent.natAbs = power
  have hdigits : ∀ c ∈ power, isDigit c = true := by
    rw [← hpower, List.forall_mem_append]
    exact ⟨fun c hc => isDigit_of_isDigit (Text.isDigit_of_mem_zeros hc),
      fun c hc => isDigit_of_isDigit (Text.isDigit_of_mem_ofNat hc)⟩
  have hvalue : Text.digitsValue power = exponent.natAbs := by
    rw [← hpower, Text.digitsValue_zeros_append, Text.digitsValue_ofNat]
  have hne : power ≠ [] := by
    rw [← hpower]
    exact List.append_ne_nil_of_right_ne_nil _ (Text.ofNat_ne_nil _)
  by_cases hnegative : exponent < 0
  · have hsign : Text.takeSign ('-' :: power) = (true, power) := rfl
    simp [Text.exponent?, hnegative, hsign, hne, List.all_eq_true.mpr hdigits, hvalue,
      abs_of_neg hnegative]
  · have hsign : Text.takeSign ('+' :: power) = (false, power) := rfl
    simp [Text.exponent?, hnegative, hsign, hne, List.all_eq_true.mpr hdigits, hvalue,
      abs_of_nonneg (not_lt.mp hnegative)]

end

/-- Digits behind a point, and neither if there are no digits. -/
def Text.pointed (fraction : Text) : Text := if fraction = [] then [] else '.' :: fraction

lemma Text.takeFraction_pointed {fraction : Text} (h : ∀ c ∈ fraction, isDigit c = true)
    (exponent : Int) :
    Text.takeFraction (fraction.pointed ++ Text.power exponent) =
      (fraction, Text.power exponent) := by
  have hletter : ∀ c ∈ (Text.power exponent).head?, isDigit c = false := by
    rintro c ⟨⟩
    decide
  cases fraction with
  | nil => exact Text.takeFraction_cons (by decide)
  | cons c fraction => exact Text.takeDigits_append h _ hletter

/-- A decimal in scientific notation is read as this very decimal. -/
lemma Decimal.spells_scientific (d : Decimal) : Text.Spells d.scientific d := by
  obtain ⟨first, rest, hdigits⟩ := List.exists_cons_of_ne_nil (Text.ofNat_ne_nil d.coefficient)
  have hall : ∀ c ∈ first :: rest, isDigit c = true := by
    rw [← hdigits]
    exact fun c hc => isDigit_of_isDigit (Text.isDigit_of_mem_ofNat hc)
  rw [List.forall_mem_cons] at hall
  have hvalue : Text.digitsValue (first :: rest) = d.coefficient := by
    rw [← hdigits, Text.digitsValue_ofNat]
  have hexponent : d.exponent + (first :: rest).length - 1 = d.exponent + rest.length := by
    rw [List.length_cons]
    push_cast
    ring
  have hscientific : d.scientific =
      [first] ++ (Text.pointed rest ++ Text.power (d.exponent + rest.length)) := by
    simp only [Decimal.scientific, hdigits, hexponent]
    cases rest <;> rfl
  have hhead : ∀ c ∈ (Text.pointed rest ++ Text.power (d.exponent + rest.length)).head?,
      isDigit c = false := by
    cases rest <;> rintro c ⟨⟩ <;> decide
  have hfirst : ∀ c ∈ [first], isDigit c = true := by simpa using hall.1
  have hread := Numeral.read?_digits_append hfirst (List.cons_ne_nil _ _) hhead
  rw [Text.takeFraction_pointed hall.2, Text.exponent?_power, Option.map_some] at hread
  rw [hscientific]
  refine ⟨Text.takeSign_digits_append hfirst (List.cons_ne_nil _ _) _, _, hread, rfl, ?_⟩
  rw [Numeral.toDecimal, List.singleton_append, hvalue, add_sub_cancel_right]

/-! ### Whole numbers with a zero behind the point -/

lemma Text.ofNat_mul_ten {n : Nat} (h : 0 < n) :
    Text.ofNat (n * 10) = Text.ofNat n ++ ['0'] := by
  have hdigits := Nat.toDigits_append_toDigits (b := 10) (d := 0) (by decide) h (by decide)
  rw [Nat.add_zero, Nat.mul_comm] at hdigits
  exact hdigits.symm

lemma Text.ofNat_mul_pow {n : Nat} (h : 0 < n) (k : Nat) :
    Text.ofNat (n * 10 ^ k) = Text.ofNat n ++ List.replicate k '0' := by
  induction k with
  | zero => simp
  | succ k ih =>
    rw [pow_succ, ← Nat.mul_assoc, Text.ofNat_mul_ten (by positivity), ih, List.append_assoc,
      ← List.replicate_succ']

/-- Digits of which the last one is behind the point. -/
lemma Decimal.plain_tenth {n : Nat} {whole : Text} (h : Text.ofNat n = whole ++ ['0'])
    (hne : whole ≠ []) : Decimal.plain ⟨n, -1⟩ = whole ++ '.' :: ['0'] := by
  have hpos := List.length_pos_of_ne_nil hne
  have hlength : 0 + 2 - (whole ++ ['0']).length = 0 := by
    rw [List.length_append, List.length_singleton]
    omega
  have hpoint : (whole ++ ['0']).length - (0 + 1) = whole.length := by simp
  change Decimal.plain ⟨n, Int.negSucc 0⟩ = _
  simp only [Decimal.plain, h, hlength, List.replicate_zero, List.nil_append, hpoint]
  rw [List.take_left, List.drop_left]

/-- A whole number with a zero behind its point has the digits of the whole number. -/
lemma Decimal.trimFraction_tenfold {n : Nat} (h : 0 < n) (k : Nat) :
    Text.trimFraction (Decimal.plain ⟨n * 10 ^ (k + 1), -1⟩) =
      Text.trimFraction (Decimal.plain ⟨n, k⟩) := by
  have hall : ∀ c ∈ Text.ofNat n ++ List.replicate k '0', c.isDigit = true := by
    rw [List.forall_mem_append]
    exact ⟨fun c => Text.isDigit_of_mem_ofNat, fun c => Text.isDigit_of_mem_zeros⟩
  have hne : Text.ofNat n ++ List.replicate k '0' ≠ [] :=
    List.append_ne_nil_of_left_ne_nil (Text.ofNat_ne_nil n) _
  have hdigits : Text.ofNat (n * 10 ^ (k + 1)) =
      Text.ofNat n ++ List.replicate k '0' ++ ['0'] := by
    rw [Text.ofNat_mul_pow h, List.replicate_succ', List.append_assoc]
  have hcut := Text.trimFraction_point (u := []) 1 hall (by simp) (by simp)
  rw [if_pos rfl, List.nil_append] at hcut
  have hwhole : Decimal.plain ⟨n, k⟩ = Text.ofNat n ++ List.replicate k '0' := rfl
  rw [Decimal.plain_tenth hdigits hne, hwhole,
    Text.trimFraction_of_not_mem (Text.not_mem_point hall)]
  exact hcut

/-! ### Numbers -/

lemma Magnitude.coefficient_shortest_pos {m : Magnitude} (hm : m.val ≠ 0) :
    0 < m.shortest.coefficient := by
  rw [Nat.pos_iff_ne_zero]
  intro hzero
  have hback := m.toNumber_shortest
  rw [Decimal.toNumber, if_pos hzero, Number.signedZero] at hback
  exact hm (congrArg Fin.val (Number.finite.inj hback).2).symm

/-- A decimal with a point, and with a zero behind the point if it is whole. -/
lemma Decimal.spells_pointed {d : Decimal} (h : 0 < d.coefficient) :
    Text.Spells (if 0 ≤ d.exponent then d.plain ++ (".0" : Text) else d.plain) d := by
  obtain ⟨coefficient, exponent⟩ := d
  cases exponent with
  | ofNat k =>
    have hall : ∀ c ∈ Text.ofNat coefficient ++ List.replicate k '0', isDigit c = true := by
      rw [List.forall_mem_append]
      exact ⟨fun c hc => isDigit_of_isDigit (Text.isDigit_of_mem_ofNat hc),
        fun c hc => isDigit_of_isDigit (Text.isDigit_of_mem_zeros hc)⟩
    have hne : Text.ofNat coefficient ++ List.replicate k '0' ≠ [] :=
      List.append_ne_nil_of_left_ne_nil (Text.ofNat_ne_nil coefficient) _
    have hzero : ∀ c ∈ ['0'], isDigit c = true := List.forall_mem_singleton.mpr (by decide)
    have hread := Numeral.read?_point hall hne hzero
    have hwhole : (0 : Int) ≤ (Decimal.mk coefficient (.ofNat k)).exponent :=
      Int.natCast_nonneg k
    rw [if_pos hwhole]
    refine ⟨Text.takeSign_digits_append hall hne _, _, hread, rfl, ?_⟩
    have hvalue : Text.digitsValue (Text.ofNat coefficient ++ List.replicate k '0' ++ ['0']) =
        coefficient * 10 ^ (k + 1) := by
      rw [List.append_assoc, ← List.replicate_succ', Text.digitsValue_append_zeros,
        Text.digitsValue_ofNat]
    rw [Numeral.toDecimal, hvalue]
    exact Decimal.trimFraction_tenfold h k
  | negSucc k =>
    obtain ⟨whole, fraction, hplain, hne, hlength, hvalue, hall, -⟩ :=
      Decimal.exists_plain_negSucc coefficient k
    rw [List.forall_mem_append] at hall
    have hwhole : ∀ c ∈ whole, isDigit c = true := fun c hc => isDigit_of_isDigit (hall.1 c hc)
    have hread := Numeral.read?_point hwhole hne (fun c hc => isDigit_of_isDigit (hall.2 c hc))
    have hfraction : ¬(0 : Int) ≤ (Decimal.mk coefficient (.negSucc k)).exponent := by simp
    rw [if_neg hfraction, hplain]
    refine ⟨Text.takeSign_digits_append hwhole hne _, _, hread, rfl, ?_⟩
    have hexponent : (0 : Int) - (k + 1 : Nat) = .negSucc k := by rw [Int.zero_sub]; rfl
    rw [Numeral.toDecimal, hvalue, hlength, hexponent]

lemma Magnitude.spells_literal {m : Magnitude} (hm : m.val ≠ 0) :
    Text.Spells (Number.literal (.finite false m)) m.shortest := by
  simp only [Number.literal, if_neg hm, Text.sign_false, List.nil_append]
  split
  · exact Decimal.spells_pointed (Magnitude.coefficient_shortest_pos hm)
  · exact m.shortest.spells_scientific

/-- A number other than zero is read without any rounding as the shortest decimal that tells it
apart. -/
theorem Number.read?_literal (negative : Bool) {m : Magnitude} (hm : m.val ≠ 0) : ∃ n,
    Numeral.read? (Number.literal (.finite negative m)) = some n ∧ n.negative = negative ∧
      Text.trimFraction n.toDecimal.plain = Text.trimFraction m.shortest.plain := by
  obtain ⟨hunsigned, n, hread, hsign, hdecimal⟩ := Magnitude.spells_literal hm
  cases negative with
  | false => exact ⟨n, hread, hsign, hdecimal⟩
  | true =>
    have hliteral : Number.literal (.finite true m) =
        '-' :: Number.literal (.finite false m) := by
      simp [Number.literal, hm]
    rw [hliteral, Numeral.read?_minus hunsigned, hread]
    exact ⟨_, rfl, rfl, hdecimal⟩

/-! ### Signs -/

/-- No sign is cut off with the end of a fraction. -/
lemma Text.trimFraction_sign (negative : Bool) (t : Text) :
    Text.trimFraction (Text.sign negative ++ t) = Text.sign negative ++ Text.trimFraction t := by
  have hdrop {p : Char → Bool} (hp : p '-' = false) (u : Text) :
      (u ++ ['-']).dropWhile p = u.dropWhile p ++ ['-'] := by
    induction u with
    | nil => simp [hp]
    | cons c u ih =>
      by_cases hc : p c = true
      · simpa [hc] using ih
      · simp [hc]
  cases negative with
  | false => rfl
  | true =>
    rw [Text.sign_true, List.singleton_append, Text.trimFraction, Text.trimFraction]
    by_cases hpoint : '.' ∈ t
    · rw [if_pos hpoint, if_pos (List.mem_cons_of_mem _ hpoint), List.reverse_cons,
        hdrop (by decide), hdrop (by decide), List.reverse_append]
      rfl
    · rw [if_neg hpoint, if_neg (by simpa using hpoint)]
      rfl

lemma Text.ofInt_neg (n : Nat) : Text.ofInt (-n) = Text.sign (n != 0) ++ Text.ofNat n := by
  cases n with
  | zero => rfl
  | succ n => rfl

end PlainEnglish
