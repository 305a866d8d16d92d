import Mathlib.Tactic
import Mathlib.Data.List.TakeWhile
import PlainEnglish.Number.Numeral
import PlainEnglish.Proofs.Number.Rounding
import PlainEnglish.Proofs.Text.Blank

/-!
# Reading numerals

Which characters and which parts a numeral is made of, how digits with a point among them are
read, and that every numeral names a number.

Main statements: `Numeral.parts_of_read?`, `Number.ofText?_of_read?`.
-/

namespace PlainEnglish

/-! ### Digits -/

lemma isDigit_iff {c : Char} :
    isDigit c = true ↔ ∃ first ∈ digitZeros, first ≤ c.toNat ∧ c.toNat < first + 10 := by
  simp [isDigit, digitValue?]

/-- No digit lies in a gap between the rows of digits. -/
lemma isDigit_gap {c : Char} (h : isDigit c = true) (low high : Nat)
    (hgap : ∀ first ∈ digitZeros, first + 10 ≤ low ∨ high < first) :
    c.toNat < low ∨ high < c.toNat := by
  obtain ⟨first, hmem, hle, hlt⟩ := isDigit_iff.mp h
  rcases hgap first hmem with h | h
  · exact Or.inl (by omega)
  · exact Or.inr (by omega)

lemma isDigit_ascii {c : Char} (h : isDigit c = true) :
    (48 ≤ c.toNat ∧ c.toNat ≤ 57) ∨ 0x660 ≤ c.toNat := by
  have hlow := isDigit_gap h 0 47 (by decide)
  have hhigh := isDigit_gap h 58 0x65f (by decide)
  omega

lemma toNat_of_isDigit {c : Char} (h : c.isDigit = true) : 48 ≤ c.toNat ∧ c.toNat ≤ 57 := by
  have hbounds := Bool.and_eq_true_iff.mp h
  exact ⟨of_decide_eq_true hbounds.1, of_decide_eq_true hbounds.2⟩

lemma digitValue?_of_isDigit {c : Char} (h : c.isDigit = true) :
    digitValue? c = some (c.toNat - 48) := by
  have hrange : 48 ≤ c.toNat ∧ c.toNat < 58 :=
    ⟨(toNat_of_isDigit h).1, Nat.lt_succ_of_le (toNat_of_isDigit h).2⟩
  simp [digitValue?, digitZeros, hrange]

lemma isDigit_of_isDigit {c : Char} (h : c.isDigit = true) : isDigit c = true := by
  simp [isDigit, digitValue?_of_isDigit h]

/-! ### Values of digits -/

lemma foldl_digits_append (digits rest : Text) :
    Text.digitsValue (digits ++ rest) =
      rest.foldl (fun n c => 10 * n + (digitValue? c).getD 0) (Text.digitsValue digits) :=
  List.foldl_append

lemma Text.digitsValue_append_zeros (digits : Text) (k : Nat) :
    Text.digitsValue (digits ++ List.replicate k '0') = Text.digitsValue digits * 10 ^ k := by
  induction k with
  | zero => simp
  | succ k ih =>
    have hzero : digitValue? '0' = some 0 := by decide
    rw [List.replicate_succ', ← List.append_assoc, foldl_digits_append, ih]
    simp only [List.foldl_cons, List.foldl_nil, hzero, Option.getD_some]
    ring

lemma Text.digitsValue_zeros_append (digits : Text) (k : Nat) :
    Text.digitsValue (List.replicate k '0' ++ digits) = Text.digitsValue digits := by
  have hzeros := Text.digitsValue_append_zeros [] k
  rw [List.nil_append] at hzeros
  rw [foldl_digits_append, hzeros]
  simp [Text.digitsValue]

/-- The decimal digits of a natural number spell it. -/
lemma Text.digitsValue_ofNat (n : Nat) : Text.digitsValue (Text.ofNat n) = n := by
  have hfold (digits : Text) (hdigits : ∀ c ∈ digits, c.isDigit = true) (init : Nat) :
      digits.foldl (fun n c => 10 * n + (digitValue? c).getD 0) init =
        Nat.ofDigitChars 10 digits init := by
    induction digits generalizing init with
    | nil => rfl
    | cons c digits ih =>
      rw [List.forall_mem_cons] at hdigits
      rw [List.foldl_cons, digitValue?_of_isDigit hdigits.1, ih hdigits.2]
      rfl
  calc Text.digitsValue (Text.ofNat n)
      = Nat.ofDigitChars 10 (Nat.toDigits 10 n) 0 :=
        hfold _ (fun c => Nat.isDigit_of_mem_toDigits (by decide) (by decide)) 0
    _ = n := Nat.ofDigitChars_ten_toDigits

lemma Text.isDigit_of_mem_ofNat {n : Nat} {c : Char} (h : c ∈ Text.ofNat n) : c.isDigit = true :=
  Nat.isDigit_of_mem_toDigits (by decide) (by decide) h

lemma Text.ofNat_ne_nil (n : Nat) : Text.ofNat n ≠ [] := Nat.toDigits_ne_nil

lemma Text.ofNat_injective : Function.Injective Text.ofNat :=
  Function.LeftInverse.injective Text.digitsValue_ofNat

/-! ### Integers -/

/-- An integer is written with digits and a minus sign. -/
lemma Text.not_mem_ofInt {n : Int} {c : Char} (hminus : c ≠ '-') (hdigit : c.isDigit = false) :
    c ∉ Text.ofInt n := by
  have hdigits (k : Nat) : c ∉ Text.ofNat k := by
    intro h
    rw [Text.isDigit_of_mem_ofNat h] at hdigit
    exact Bool.noConfusion hdigit
  cases n with
  | ofNat k => exact hdigits k
  | negSucc k => exact List.not_mem_cons_of_ne_of_not_mem hminus (hdigits (k + 1))

lemma Text.ofInt_injective : Function.Injective Text.ofInt := by
  have hminus (n : Nat) (t : Text) : Text.ofNat n ≠ '-' :: t := by
    intro h
    have hmem : '-' ∈ Text.ofNat n := by
      rw [h]
      exact List.mem_cons_self
    exact absurd (Text.isDigit_of_mem_ofNat hmem) (by decide)
  intro m n h
  cases m with
  | ofNat m =>
    cases n with
    | ofNat n => exact congrArg Int.ofNat (Text.ofNat_injective h)
    | negSucc n => exact absurd h (hminus m _)
  | negSucc m =>
    cases n with
    | ofNat n => exact absurd h.symm (hminus n _)
    | negSucc n =>
      have hsucc := Text.ofNat_injective (List.cons.inj h).2
      rw [Nat.succ.inj hsucc]

/-! ### The characters of a numeral -/

/-- Whether a character may be a part of a numeral. -/
def isNumeralChar (c : Char) : Bool :=
  isDigit c || c == '+' || c == '-' || c == '.' || c == 'e' || c == 'E'

lemma isNumeralChar_of_isDigit {c : Char} (h : isDigit c = true) : isNumeralChar c = true := by
  simp [isNumeralChar, h]

lemma Text.takeSign_cons {c : Char} {rest : Text} (hplus : c ≠ '+') (hminus : c ≠ '-') :
    Text.takeSign (c :: rest) = (false, c :: rest) := by
  unfold Text.takeSign
  split <;> simp_all

lemma Text.takeFraction_cons {c : Char} {rest : Text} (h : c ≠ '.') :
    Text.takeFraction (c :: rest) = ([], c :: rest) := by
  unfold Text.takeFraction
  split <;> simp_all

lemma Text.mem_takeSign {t : Text} {c : Char} (h : c ∈ t) :
    c = '+' ∨ c = '-' ∨ c ∈ (Text.takeSign t).2 := by
  unfold Text.takeSign
  split
  · exact (List.mem_cons.mp h).imp_right Or.inr
  · exact Or.inr (List.mem_cons.mp h)
  · exact Or.inr (Or.inr h)

lemma Text.mem_takeDigits {t : Text} {c : Char} (h : c ∈ t) :
    isDigit c = true ∨ c ∈ (Text.takeDigits t).2 := by
  rw [← List.takeWhile_append_dropWhile (p := isDigit) (l := t), List.mem_append] at h
  rcases h with h | h
  · exact Or.inl (List.mem_takeWhile_imp h)
  · exact Or.inr h

lemma Text.mem_takeFraction {t : Text} {c : Char} (h : c ∈ t) :
    c = '.' ∨ isDigit c = true ∨ c ∈ (Text.takeFraction t).2 := by
  unfold Text.takeFraction
  split
  · rcases List.mem_cons.mp h with h | h
    · exact Or.inl h
    · exact Or.inr (Text.mem_takeDigits h)
  · exact Or.inr (Or.inr h)

lemma Text.isNumeralChar_of_exponent? {t : Text} {e : Int} (h : Text.exponent? t = some e)
    {c : Char} (hc : c ∈ t) : isNumeralChar c = true := by
  cases t with
  | nil => simp at hc
  | cons first rest =>
    rw [Text.exponent?] at h
    split at h
    · next hfirst =>
      simp only [Option.ite_none_right_eq_some] at h
      have hdigits := List.all_eq_true.mp h.1.2
      rcases List.mem_cons.mp hc with rfl | hc
      · rcases hfirst with rfl | rfl <;> decide
      · rcases Text.mem_takeSign hc with rfl | rfl | hc
        · decide
        · decide
        · exact isNumeralChar_of_isDigit (hdigits c hc)
    · simp at h

lemma Numeral.isNumeralChar_of_read? {t : Text} {n : Numeral} (h : Numeral.read? t = some n)
    {c : Char} (hc : c ∈ t) : isNumeralChar c = true := by
  simp only [Numeral.read?, Option.ite_none_left_eq_some, Option.map_eq_some_iff] at h
  obtain ⟨-, e, he, -⟩ := h
  rcases Text.mem_takeSign hc with rfl | rfl | hc
  · decide
  · decide
  rcases Text.mem_takeDigits hc with hc | hc
  · exact isNumeralChar_of_isDigit hc
  rcases Text.mem_takeFraction hc with rfl | hc | hc
  · decide
  · exact isNumeralChar_of_isDigit hc
  · exact Text.isNumeralChar_of_exponent? he hc

/-- What stands at the beginning of a numeral. -/
lemma Numeral.head_of_read? {t : Text} {n : Numeral} (h : Numeral.read? t = some n) :
    ∃ c rest, (Text.takeSign t).2 = c :: rest ∧ (isDigit c = true ∨ c = '.') := by
  simp only [Numeral.read?, Option.ite_none_left_eq_some, Option.map_eq_some_iff] at h
  obtain ⟨hne, -⟩ := h
  cases hu : (Text.takeSign t).2 with
  | nil => simp [hu, Text.takeDigits, Text.takeFraction] at hne
  | cons c rest =>
    refine ⟨c, rest, rfl, ?_⟩
    by_cases hc : isDigit c = true
    · exact Or.inl hc
    · refine Or.inr (by_contra fun hdot => hne ?_)
      simp [hu, Text.takeDigits, hc, Text.takeFraction_cons hdot]

/-- No numeral is read where a text begins with a character of another kind. -/
lemma Numeral.read?_cons_eq_none {c : Char} {rest : Text} (hdigit : isDigit c = false)
    (hplus : c ≠ '+') (hminus : c ≠ '-') (hdot : c ≠ '.') :
    Numeral.read? (c :: rest) = none := by
  by_contra h
  obtain ⟨n, hn⟩ := Option.ne_none_iff_exists'.mp h
  obtain ⟨c', rest', heq, hc⟩ := Numeral.head_of_read? hn
  rw [Text.takeSign_cons hplus hminus] at heq
  obtain ⟨rfl, -⟩ := List.cons.inj heq
  simp [hdigit, hdot] at hc

/-- The sign of a numeral is a minus that it begins with. -/
lemma Numeral.negative_eq_false {t : Text} {n : Numeral} (h : Numeral.read? t = some n)
    (hminus : '-' ∉ t) : n.negative = false := by
  simp only [Numeral.read?, Option.ite_none_left_eq_some, Option.map_eq_some_iff] at h
  obtain ⟨-, e, -, rfl⟩ := h
  simp only
  unfold Text.takeSign
  split <;> simp_all

/-! ### Digits with a point among them -/

section

variable {whole fraction : Text}

lemma Text.takeDigits_append (h : ∀ c ∈ whole, isDigit c = true) (rest : Text)
    (hrest : ∀ c ∈ rest.head?, isDigit c = false) :
    Text.takeDigits (whole ++ rest) = (whole, rest) := by
  rw [Text.takeDigits, List.takeWhile_append_of_pos h, List.dropWhile_append_of_pos h]
  cases rest with
  | nil => simp
  | cons c rest =>
    have hc : isDigit c = false := hrest c (by simp)
    simp [hc]

lemma Text.takeDigits_self (h : ∀ c ∈ whole, isDigit c = true) :
    Text.takeDigits whole = (whole, []) := by
  simpa using Text.takeDigits_append h []

lemma Text.takeSign_digits_append (h : ∀ c ∈ whole, isDigit c = true) (hne : whole ≠ [])
    (rest : Text) : Text.takeSign (whole ++ rest) = (false, whole ++ rest) := by
  obtain ⟨c, tail, rfl⟩ := List.exists_cons_of_ne_nil hne
  have hc := h c List.mem_cons_self
  apply Text.takeSign_cons
  · rintro rfl
    exact absurd hc (by decide)
  · rintro rfl
    exact absurd hc (by decide)

lemma Numeral.read?_whole (h : ∀ c ∈ whole, isDigit c = true) (hne : whole ≠ []) :
    Numeral.read? whole = some ⟨false, whole, [], 0⟩ := by
  have hsign := Text.takeSign_digits_append h hne []
  rw [List.append_nil] at hsign
  simp [Numeral.read?, hsign, Text.takeDigits_self h, Text.takeFraction, hne, Text.exponent?]

lemma Numeral.read?_point (h : ∀ c ∈ whole, isDigit c = true) (hne : whole ≠ [])
    (hfraction : ∀ c ∈ fraction, isDigit c = true) :
    Numeral.read? (whole ++ '.' :: fraction) = some ⟨false, whole, fraction, 0⟩ := by
  have hdot : ∀ c ∈ ('.' :: fraction).head?, isDigit c = false := by
    simp only [List.head?_cons, Option.mem_def, Option.some.injEq, forall_eq']
    decide
  simp [Numeral.read?, Text.takeSign_digits_append h hne, Text.takeDigits_append h _ hdot,
    Text.takeFraction, Text.takeDigits_self hfraction, hne, Text.exponent?]

end

/-! ### The parts of a numeral -/

/-- A sign, or nothing in its place. -/
def Text.IsSign (s : Text) : Prop := s = [] ∨ s = ['+'] ∨ s = ['-']

/-- An exponent with its letter, or nothing in its place. -/
def Text.IsExponent (u : Text) : Prop :=
  u = [] ∨ ∃ (e : Char) (sign digits : Text), u = e :: (sign ++ digits) ∧ (e = 'e' ∨ e = 'E') ∧
    sign.IsSign ∧ digits ≠ [] ∧ ∀ c ∈ digits, isDigit c = true

lemma Text.exists_sign (t : Text) : ∃ sign : Text, sign.IsSign ∧
    t = sign ++ (Text.takeSign t).2 := by
  unfold Text.takeSign
  split
  · exact ⟨['+'], Or.inr (Or.inl rfl), rfl⟩
  · exact ⟨['-'], Or.inr (Or.inr rfl), rfl⟩
  · exact ⟨[], Or.inl rfl, rfl⟩

lemma Text.isExponent_of_exponent? {u : Text} {e : Int} (h : Text.exponent? u = some e) :
    u.IsExponent := by
  cases u with
  | nil => exact Or.inl rfl
  | cons c rest =>
    rw [Text.exponent?, Option.ite_none_right_eq_some] at h
    obtain ⟨hletter, h⟩ := h
    obtain ⟨sign, hsign, hrest⟩ := Text.exists_sign rest
    simp only [Option.ite_none_right_eq_some] at h
    obtain ⟨⟨hne, hdigits⟩, -⟩ := h
    exact Or.inr ⟨c, sign, (Text.takeSign rest).2, congrArg (c :: ·) hrest, hletter, hsign, hne,
      List.all_eq_true.mp hdigits⟩

lemma Text.exists_fraction (t : Text) : ∃ point : Text, t = point ++ (Text.takeFraction t).2 ∧
    (∀ c ∈ point, isDigit c = true ∨ c = '.') ∧ ((Text.takeFraction t).1 ≠ [] → point ≠ []) := by
  unfold Text.takeFraction
  split
  · next rest =>
    refine ⟨'.' :: rest.takeWhile isDigit, ?_, ?_, fun _ => List.cons_ne_nil _ _⟩
    · exact congrArg ('.' :: ·) List.takeWhile_append_dropWhile.symm
    · intro c hc
      rcases List.mem_cons.mp hc with rfl | hc
      · exact Or.inr rfl
      · exact Or.inl (List.mem_takeWhile_imp hc)
  · exact ⟨[], rfl, by simp, fun h => absurd rfl h⟩

/-- A numeral is a sign, digits and points, and an exponent. -/
lemma Numeral.parts_of_read? {t : Text} {n : Numeral} (h : Numeral.read? t = some n) :
    ∃ sign mantissa exponent : Text, t = sign ++ (mantissa ++ exponent) ∧ sign.IsSign ∧
      mantissa ≠ [] ∧ (∀ c ∈ mantissa, isDigit c = true ∨ c = '.') ∧ exponent.IsExponent := by
  simp only [Numeral.read?, Option.ite_none_left_eq_some, Option.map_eq_some_iff] at h
  obtain ⟨hne, e, he, -⟩ := h
  obtain ⟨sign, hsign, ht⟩ := Text.exists_sign t
  have hwhole := List.takeWhile_append_dropWhile (p := isDigit) (l := (Text.takeSign t).2)
  obtain ⟨point, hpoint, hchars, hfraction⟩ :=
    Text.exists_fraction (Text.takeDigits (Text.takeSign t).2).2
  refine ⟨sign, (Text.takeDigits (Text.takeSign t).2).1 ++ point, _, ?_, hsign, ?_, ?_,
    Text.isExponent_of_exponent? he⟩
  · rw [List.append_assoc, ← hpoint, Text.takeDigits, hwhole, ← ht]
  · intro hnil
    obtain ⟨hnone, rfl⟩ := List.append_eq_nil_iff.mp hnil
    exact hne ⟨hnone, by_contra fun h => hfraction h rfl⟩
  · intro c hc
    rcases List.mem_append.mp hc with hc | hc
    · exact Or.inl (List.mem_takeWhile_imp hc)
    · exact hchars c hc

/-- A numeral ends with a digit or a point. -/
lemma Numeral.getLast?_of_read? {t : Text} {n : Numeral} (h : Numeral.read? t = some n) :
    ∀ c ∈ t.getLast?, isDigit c = true ∨ c = '.' := by
  obtain ⟨sign, mantissa, exponent, rfl, -, hne, hmantissa, hexponent⟩ :=
    Numeral.parts_of_read? h
  intro c hc
  rw [List.getLast?_append_of_ne_nil _ (List.append_ne_nil_of_left_ne_nil hne _)] at hc
  rcases hexponent with rfl | ⟨e, sign', digits, rfl, -, -, hne', hdigits⟩
  · rw [List.append_nil] at hc
    exact hmantissa c (List.mem_of_mem_getLast? hc)
  · have hend : mantissa ++ e :: (sign' ++ digits) = (mantissa ++ e :: sign') ++ digits := by
      simp
    rw [hend, List.getLast?_append_of_ne_nil _ hne'] at hc
    exact Or.inl (hdigits c (List.mem_of_mem_getLast? hc))

/-! ### Every numeral names a number -/

lemma isDigit_eq_false_of_isBlank {c : Char} (h : isBlank c = true) : isDigit c = false := by
  by_contra hc
  rw [Bool.not_eq_false] at hc
  have h₁ := isDigit_ascii hc
  have h₂ := isDigit_gap hc 0x1680 0x1680 (by decide)
  have h₃ := isDigit_gap hc 0x2000 0x205f (by decide)
  have h₄ := isDigit_gap hc 0x3000 0x3000 (by decide)
  rw [isBlank_iff] at h
  omega

lemma isBlank_eq_false_of_isNumeralChar {c : Char} (h : isNumeralChar c = true) :
    isBlank c = false := by
  by_contra hblank
  rw [Bool.not_eq_false] at hblank
  have hdigit := isDigit_eq_false_of_isBlank hblank
  simp only [isNumeralChar, hdigit, Bool.false_or, Bool.or_eq_true, beq_iff_eq] at h
  rcases h with (((rfl | rfl) | rfl) | rfl) | rfl <;> exact absurd hblank (by decide)

lemma Text.underscoresOk_of_not_mem {t : Text} (h : '_' ∉ t) (afterDigit : Bool) :
    Text.underscoresOk afterDigit t = true := by
  induction t generalizing afterDigit with
  | nil => rfl
  | cons c t ih =>
    rw [List.mem_cons, not_or] at h
    have hstep : Text.underscoresOk afterDigit (c :: t) = Text.underscoresOk (isDigit c) t := by
      rw [Text.underscoresOk]
      exact Ne.symm h.1
    rw [hstep, ih h.2]

lemma Text.trimPadding_of_not_blank {t : Text} (h : ∀ c ∈ t, isBlank c = false) :
    Text.trimPadding t = t := by
  have hpadding : ∀ c ∈ t, isPadding c = false := fun c hc => by simp [isPadding, h c hc]
  have hdrop {u : Text} (hu : ∀ c ∈ u, isPadding c = false) : u.dropWhile isPadding = u :=
    dropWhile_eq_self fun c hc => hu c (List.mem_of_mem_head? hc)
  rw [Text.trimPadding, hdrop hpadding, hdrop (by simpa using hpadding), List.reverse_reverse]

lemma toLower_of_isDigit {c : Char} (h : isDigit c = true) : c.toLower = c := by
  have hrange := isDigit_ascii h
  have hupper : ¬(65 ≤ c.toNat ∧ c.toNat ≤ 90) := by omega
  exact dif_neg hupper

lemma toLower_ne_of_isDigit {c : Char} (h : isDigit c = true ∨ c = '.') :
    c.toLower ≠ 'i' ∧ c.toLower ≠ 'n' := by
  rcases h with h | rfl
  · rw [toLower_of_isDigit h]
    constructor <;> rintro rfl <;> exact absurd h (by decide)
  · decide

/-- A numeral names the number nearest to it. -/
theorem Number.ofText?_of_read? {t : Text} {n : Numeral} (h : Numeral.read? t = some n) :
    Number.ofText? t = some n.toNumber := by
  have hchars (c : Char) (hc : c ∈ t) : isNumeralChar c = true :=
    Numeral.isNumeralChar_of_read? h hc
  have htrim : Text.trimPadding t = t :=
    Text.trimPadding_of_not_blank fun c hc => isBlank_eq_false_of_isNumeralChar (hchars c hc)
  have hunderscore : '_' ∉ t := fun hmem => absurd (hchars _ hmem) (by decide)
  have hfilter : t.filter (· ≠ '_') = t := by
    rw [List.filter_eq_self]
    rintro c hc
    simpa using fun heq : c = '_' => hunderscore (heq ▸ hc)
  obtain ⟨c, rest, hu, hc⟩ := Numeral.head_of_read? h
  obtain ⟨hi, hn⟩ := toLower_ne_of_isDigit hc
  have hinf : ¬((Text.takeSign t).2.map Char.toLower = "inf".toList ∨
      (Text.takeSign t).2.map Char.toLower = "infinity".toList) := by
    simp [hu, hi]
  have hnan : ¬(Text.takeSign t).2.map Char.toLower = "nan".toList := by
    simp [hu, hn]
  simp only [Number.ofText?, htrim, if_neg hinf, if_neg hnan, Text.dropUnderscores?,
    Text.underscoresOk_of_not_mem hunderscore, if_true, hfilter, Option.bind_some, h,
    Option.map_some]

end PlainEnglish
