import Mathlib.Tactic
import PlainEnglish.Text.Encoding

/-!
# Texts as bytes

The bytes of a text are read as that text again, and a text that begins with two plain characters
tells its encoding.

Main statements: `Text.ofBytes?_bytes`, `Text.decode_bytes`.
-/

namespace PlainEnglish

/-- The bytes of a text, one to four for each character. -/
def Text.bytes (t : Text) : List UInt8 := t.flatMap String.utf8EncodeChar

lemma Text.toByteArray_bytes (t : Text) : ⟨t.bytes.toArray⟩ = (String.ofList t).toByteArray := by
  rw [String.toByteArray_ofList]
  exact ByteArray.ext List.data_toByteArray.symm

lemma Text.ofBytes?_bytes (t : Text) : Text.ofBytes? ⟨t.bytes.toArray⟩ = some t := by
  have hvalid := (String.ofList t).isValidUTF8
  have hread : String.fromUTF8? (String.ofList t).toByteArray = some (String.ofList t) :=
    dif_pos hvalid
  rw [Text.toByteArray_bytes, Text.ofBytes?, hread, Option.map_some, String.toList_ofList]

/-- Bytes are read as a text only if they are the bytes of that text. -/
lemma Text.ofBytes?_eq_some_iff {bytes : ByteArray} {t : Text} :
    Text.ofBytes? bytes = some t ↔ bytes = ⟨t.bytes.toArray⟩ := by
  constructor
  · intro h
    obtain ⟨s, hs, rfl⟩ := Option.map_eq_some_iff.mp h
    rw [Text.toByteArray_bytes, String.ofList_toList]
    unfold String.fromUTF8? at hs
    split at hs
    · obtain rfl := Option.some.inj hs
      rfl
    · exact nomatch hs
  · rintro rfl
    exact Text.ofBytes?_bytes t

/-! ### Telling the encoding -/

/-- Bytes tell nothing but the usual encoding if a plain byte comes first and no zero second. -/
lemma Encoding.tell_of_plain {a b : UInt8} (ha : a ≠ 0) (hplain : a < 0x80) (hb : b ≠ 0)
    (rest : List UInt8) : Encoding.tell (a :: b :: rest) = (.utf8, a :: b :: rest) := by
  have hmarks :
      (Encoding.marks.find? fun entry => decide (entry.1 <+: a :: b :: rest)) = none := by
    have hbig {m : UInt8} (hm : ¬m < 0x80) : m ≠ a := by
      rintro rfl
      exact hm hplain
    have hff : 0xff ≠ a := hbig (by decide)
    have hfe : 0xfe ≠ a := hbig (by decide)
    have hef : 0xef ≠ a := hbig (by decide)
    simp [Encoding.marks, List.cons_prefix_cons, Ne.symm ha, hff, hfe, hef]
  have hzeros : Encoding.ofZeros (a :: b :: rest) = .utf8 := by
    match rest with
    | [] => simp [Encoding.ofZeros, ha, hb]
    | [c] => rfl
    | c :: d :: rest => simp [Encoding.ofZeros, ha, hb]
  rw [Encoding.tell, hmarks, hzeros]

/-- A plain character that is not the null character. -/
def IsPlainChar (c : Char) : Prop := c ≠ '\x00' ∧ c.toNat < 0x80

lemma IsPlainChar.exists_byte {c : Char} (h : IsPlainChar c) : ∃ b : UInt8, b ≠ 0 ∧ b < 0x80 ∧
    ∀ t : Text, Text.bytes (c :: t) = b :: t.bytes := by
  have hsize : c.utf8Size = 1 := by
    rw [Char.utf8Size_eq_one_iff, UInt32.le_iff_toNat_le]
    exact Nat.le_of_lt_succ h.2
  have hbyte : c.val.toUInt8.toNat = c.toNat := by
    rw [UInt32.toNat_toUInt8]
    exact Nat.mod_eq_of_lt (lt_trans h.2 (by decide))
  refine ⟨c.val.toUInt8, ?_, ?_, fun t => ?_⟩
  · intro hzero
    refine h.1 (Char.ext (UInt32.toNat_inj.mp ?_))
    exact hbyte.symm.trans (by rw [hzero]; rfl)
  · rw [UInt8.lt_iff_toNat_lt, hbyte]
    exact h.2
  · rw [Text.bytes, List.flatMap_cons, String.utf8EncodeChar_eq_singleton hsize,
      List.singleton_append, Text.bytes]

/-- A text that begins with two plain characters is read from its bytes. -/
lemma Text.decode_bytes {c d : Char} (hc : IsPlainChar c) (hd : IsPlainChar d) (t : Text) :
    Text.decode (Text.bytes (c :: d :: t)) = .ok (c :: d :: t) := by
  obtain ⟨a, hazero, haplain, ha⟩ := hc.exists_byte
  obtain ⟨b, hbzero, -, hb⟩ := hd.exists_byte
  have hread := Text.ofBytes?_bytes (c :: d :: t)
  rw [ha, hb] at hread ⊢
  simp only [Text.decode, Encoding.tell_of_plain hazero haplain hbzero, Encoding.decode, hread]

end PlainEnglish
