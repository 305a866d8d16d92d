import Mathlib.Tactic
import PlainEnglish.Json.Read
import PlainEnglish.Json.Write

/-!
# Texts in documents

A text that is written into a document is read back from it. Escapes are undone one by one, and a
character beyond the first plane is put together again from its two code units.

Main statement: `Json.readText_writeText`.
-/

namespace PlainEnglish

/-! ### Hexadecimal digits -/

/-- The last of several digits. -/
lemma Text.hex_succ {width : Nat} (h : width ≠ 0) (n : Nat) :
    Text.hex (width + 1) n = Text.hex width (n / 16) ++ [Nat.digitChar (n % 16)] := by
  by_cases hn : n < 16
  · have hdiv : n / 16 = 0 := Nat.div_eq_of_lt hn
    have hzero : Nat.toDigits 16 0 = ['0'] := rfl
    have hone := List.replicate_succ' (n := width - 1) (a := '0')
    rw [Nat.sub_add_cancel (Nat.one_le_iff_ne_zero.mpr h)] at hone
    simp [Text.hex, Nat.toDigits_of_lt_base hn, hdiv, hzero, Nat.mod_eq_of_lt hn, hone]
  · have hpos : 0 < n / 16 := Nat.div_pos (Nat.le_of_not_lt hn) (by decide)
    have hdigits : Nat.toDigits 16 n = Nat.toDigits 16 (n / 16) ++ [Nat.digitChar (n % 16)] := by
      have hlast := Nat.toDigits_of_lt_base (Nat.mod_lt n (show 0 < 16 by decide))
      rw [← hlast, Nat.toDigits_append_toDigits (by decide) hpos (Nat.mod_lt n (by decide)),
        Nat.div_add_mod]
    simp [Text.hex, hdigits]

lemma Text.hex_four {n : Nat} (h : n < 0x10000) : Text.hex 4 n =
    [Nat.digitChar (n / 16 / 16 / 16), Nat.digitChar (n / 16 / 16 % 16),
      Nat.digitChar (n / 16 % 16), Nat.digitChar (n % 16)] := by
  have hfirst : Nat.toDigits 16 (n / 16 / 16 / 16) = [Nat.digitChar (n / 16 / 16 / 16)] :=
    Nat.toDigits_of_lt_base (by omega)
  have hone : Text.hex 1 (n / 16 / 16 / 16) = [Nat.digitChar (n / 16 / 16 / 16)] := by
    simp [Text.hex, hfirst]
  rw [Text.hex_succ (by decide), Text.hex_succ (by decide), Text.hex_succ (by decide), hone]
  rfl

lemma hexDigit?_digitChar : ∀ d < 16, hexDigit? (Nat.digitChar d) = some d := by
  decide

/-- An escape spells its code unit. -/
lemma Json.exists_unitEscape {unit : Nat} (h : unit < 0x10000) : ∃ a b c d,
    Json.unitEscape unit = ['\\', 'u', a, b, c, d] ∧ Json.hexValue4? a b c d = some unit := by
  refine ⟨_, _, _, _, by rw [Json.unitEscape, Text.hex_four h], ?_⟩
  have hfirst := hexDigit?_digitChar (unit / 16 / 16 / 16) (by omega)
  have hother (n : Nat) := hexDigit?_digitChar (n % 16) (Nat.mod_lt n (by decide))
  simp only [Json.hexValue4?, hfirst, hother, Option.bind_eq_bind, Option.bind_some,
    Option.pure_def, Option.some.injEq]
  omega

/-! ### Code units -/

/-- The code units of a character: one, or a pair. -/
def Text.unitsOfChar (c : Char) : List Nat :=
  if c.toNat < 0x10000 then [c.toNat]
  else [0xd800 + (c.toNat - 0x10000) / 0x400, 0xdc00 + (c.toNat - 0x10000) % 0x400]

/-- No character is half a pair. -/
lemma toNat_valid (c : Char) : c.toNat < 0xd800 ∨ (0xe000 ≤ c.toNat ∧ c.toNat < 0x110000) := by
  have h : c.toNat < 0xd800 ∨ (0xdfff < c.toNat ∧ c.toNat < 0x110000) := c.valid
  omega

lemma isHalf_toNat (c : Char) : isHalf c.toNat = false := by
  have h := toNat_valid c
  rw [isHalf, Bool.and_eq_false_iff, decide_eq_false_iff_not, decide_eq_false_iff_not]
  omega

/-- Characters are told by their code points. -/
lemma Text.ofCodePoints?_map_toNat (t : Text) :
    Text.ofCodePoints? (t.map Char.toNat) = some t := by
  have hnone : (t.map Char.toNat).any isHalf = false := by
    simp [isHalf_toNat]
  have hsame : Char.ofNat ∘ Char.toNat = id := funext Char.ofNat_toNat
  rw [Text.ofCodePoints?, hnone, List.map_map, hsame, List.map_id]
  rfl

lemma Text.joinPair_of_not_high (unit : Nat) (h : unit < 0xd800 ∨ 0xdc00 ≤ unit)
    (rest : List Nat) :
    Text.joinPair unit rest = unit :: rest := by
  cases rest with
  | nil => rfl
  | cons low more => exact if_neg (by omega)

/-- The code units of a character are joined to its code point. -/
lemma Text.foldr_joinPair_unitsOfChar (c : Char) (points : List Nat) :
    (Text.unitsOfChar c).foldr Text.joinPair points = c.toNat :: points := by
  have hvalid := toNat_valid c
  unfold Text.unitsOfChar
  split
  · exact Text.joinPair_of_not_high c.toNat (by omega) points
  · have hlow := Text.joinPair_of_not_high (0xdc00 + (c.toNat - 0x10000) % 0x400)
      (by omega) points
    have hpair : 0x10000 + (0xd800 + (c.toNat - 0x10000) / 0x400 - 0xd800) * 0x400 +
        (0xdc00 + (c.toNat - 0x10000) % 0x400 - 0xdc00) = c.toNat := by omega
    rw [List.foldr_cons, List.foldr_cons, List.foldr_nil, hlow, Text.joinPair, if_pos (by omega),
      hpair]

/-- A text is told by its code units. -/
lemma Text.ofUnits?_flatMap_unitsOfChar (t : Text) :
    Text.ofUnits? (t.flatMap Text.unitsOfChar) = some t := by
  have hpoints : (t.flatMap Text.unitsOfChar).foldr Text.joinPair [] = t.map Char.toNat := by
    induction t with
    | nil => rfl
    | cons c t ih =>
      rw [List.flatMap_cons, List.foldr_append, ih, Text.foldr_joinPair_unitsOfChar,
        List.map_cons]
  rw [Text.ofUnits?, hpoints, Text.ofCodePoints?_map_toNat]

/-! ### Reading back -/

section

variable {opening more : Text} {units : List Nat}

lemma Json.readUnits_unitEscape {unit : Nat} (h : unit < 0x10000) (hmore : more ≠ []) :
    Json.readUnits opening units (Json.unitEscape unit ++ more) =
      Json.readUnits opening (unit :: units) more := by
  obtain ⟨a, b, c, d, hescape, hvalue⟩ := Json.exists_unitEscape h
  obtain ⟨e, rest, rfl⟩ := List.exists_cons_of_ne_nil hmore
  rw [hescape]
  simp only [List.cons_append, List.nil_append, Json.readUnits, hvalue]

/-- No short escape needs a pair. -/
lemma Json.unitsOfChar_escaped {c d : Char} (h : Json.escaped? d = some c) :
    Text.unitsOfChar c = [c.toNat] := by
  refine if_pos ?_
  unfold Json.escaped? at h
  split at h <;> simp at h <;> subst h <;> decide

lemma Json.readUnits_escaped {c d : Char} (h : Json.escaped? d = some c) :
    Json.readUnits opening units ('\\' :: d :: more) =
      Json.readUnits opening ((Text.unitsOfChar c).reverse ++ units) more := by
  have hu : d ≠ 'u' := by
    rintro rfl
    exact nomatch h
  rw [Json.unitsOfChar_escaped h, Json.readUnits]
  · rw [h]
    rfl
  · exact hu

lemma Json.readUnits_cons {c : Char} (hquote : c ≠ '"') (hescape : c ≠ '\\') (h : ' ' ≤ c) :
    Json.readUnits opening units (c :: more) =
      Json.readUnits opening (c.toNat :: units) more := by
  have hcontrol : ¬c < ' ' := Char.not_lt.mpr h
  rw [Json.readUnits.eq_def]
  simp [hescape, hcontrol]

/-- A written character is read as its code units. -/
lemma Json.readUnits_writeChar (c : Char) (hmore : more ≠ []) :
    Json.readUnits opening units (Json.writeChar c ++ more) =
      Json.readUnits opening ((Text.unitsOfChar c).reverse ++ units) more := by
  have short {d : Char} (h : Json.escaped? d = some c) :
      Json.readUnits opening units (['\\', d] ++ more) =
        Json.readUnits opening ((Text.unitsOfChar c).reverse ++ units) more :=
    Json.readUnits_escaped h
  have hvalid := toNat_valid c
  unfold Json.writeChar
  split_ifs with hquote hescape hnewline hreturn htab hback hfeed hplain hunit
  · exact short (by rw [hquote]; rfl)
  · exact short (by rw [hescape]; rfl)
  · exact short (by rw [hnewline]; rfl)
  · exact short (by rw [hreturn]; rfl)
  · exact short (by rw [htab]; rfl)
  · exact short (by rw [hback]; rfl)
  · exact short (by rw [hfeed]; rfl)
  · have hascii : c.toNat ≤ 0x7e := hplain.2
    rw [List.singleton_append, Json.readUnits_cons hquote hescape hplain.1, Text.unitsOfChar,
      if_pos (by omega), List.reverse_singleton, List.singleton_append]
  · rw [Json.readUnits_unitEscape hunit hmore, Text.unitsOfChar, if_pos hunit,
      List.reverse_singleton, List.singleton_append]
  · -- the escape of the second half follows that of the first one
    have hhigh : 0xd800 + (c.toNat - 0x10000) / 0x400 < 0x10000 := by omega
    have hlow : 0xdc00 + (c.toNat - 0x10000) % 0x400 < 0x10000 := by omega
    have hnext : Json.unitEscape (0xdc00 + (c.toNat - 0x10000) % 0x400) ++ more ≠ [] :=
      List.append_ne_nil_of_right_ne_nil _ hmore
    rw [List.append_assoc, Json.readUnits_unitEscape hhigh hnext,
      Json.readUnits_unitEscape hlow hmore, Text.unitsOfChar, if_neg hunit]
    simp only [List.reverse_cons, List.reverse_nil, List.nil_append, List.cons_append]

/-- So is a whole text, up to its closing quote. -/
lemma Json.readUnits_flatMap_writeChar (t : Text) (rest : Text) :
    Json.readUnits opening units (t.flatMap Json.writeChar ++ '"' :: rest) =
      .ok (units.reverse ++ t.flatMap Text.unitsOfChar, rest) := by
  induction t generalizing units with
  | nil => simp [Json.readUnits]
  | cons c t ih =>
    have hmore : t.flatMap Json.writeChar ++ '"' :: rest ≠ [] := by simp
    rw [List.flatMap_cons, List.append_assoc, Json.readUnits_writeChar c hmore, ih,
      List.reverse_append, List.reverse_reverse, List.append_assoc, List.flatMap_cons]

end

/-- A written text is read back, whatever stands behind it. -/
theorem Json.readText_writeText (t rest : Text) :
    Json.readText (Json.writeText t ++ rest) = .ok (t, rest) := by
  have hunits : Json.readUnits (Json.writeText t ++ rest) [] (Json.writeText t ++ rest).tail =
      .ok (t.flatMap Text.unitsOfChar, rest) := by
    have htail : (Json.writeText t ++ rest).tail = t.flatMap Json.writeChar ++ '"' :: rest := by
      simp [Json.writeText]
    rw [htail, Json.readUnits_flatMap_writeChar]
    rfl
  simp only [Json.readText, hunits, Text.ofUnits?_flatMap_unitsOfChar]

end PlainEnglish
