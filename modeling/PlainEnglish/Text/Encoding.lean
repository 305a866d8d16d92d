import PlainEnglish.Text.Utf16
import PlainEnglish.Text.Utf8

/-!
# Encodings

A document in bytes has one of five encodings. It tells which one by a mark in front of it or
else, since it begins with two plain ASCII characters, by the places of the zeros among its first
bytes.
-/

namespace PlainEnglish

/-- Which byte of several comes first: the one that counts most, or the one that counts least. -/
inductive ByteOrder where
  | big
  | little
deriving DecidableEq, Repr

/-- An encoding of characters: in one to four bytes, in units of two bytes, or in four bytes. -/
inductive Encoding where
  | utf8
  | utf16 (order : ByteOrder)
  | utf32 (order : ByteOrder)
deriving DecidableEq, Repr

/-! ### Telling the encoding -/

/-- The marks in front of documents. The longer ones come before the shorter ones. -/
def Encoding.marks : List (List UInt8 × Encoding) :=
  [([0, 0, 0xfe, 0xff], .utf32 .big), ([0xff, 0xfe, 0, 0], .utf32 .little),
    ([0xfe, 0xff], .utf16 .big), ([0xff, 0xfe], .utf16 .little), ([0xef, 0xbb, 0xbf], .utf8)]

/-- The encoding of bytes without a mark. Three bytes and fewer than two do not tell. -/
def Encoding.ofZeros (bytes : List UInt8) : Encoding :=
  match bytes with
  | [a, b] => if a = 0 then .utf16 .big else if b = 0 then .utf16 .little else .utf8
  | a :: b :: c :: d :: _ =>
    if a = 0 then if b = 0 then .utf32 .big else .utf16 .big
    else if b = 0 then if c = 0 ∧ d = 0 then .utf32 .little else .utf16 .little
    else .utf8
  | _ => .utf8

/-- The encoding of bytes, and the bytes without the mark in front of them. -/
def Encoding.tell (bytes : List UInt8) : Encoding × List UInt8 :=
  match Encoding.marks.find? fun entry => decide (entry.1 <+: bytes) with
  | some (mark, encoding) => (encoding, bytes.drop mark.length)
  | none => (Encoding.ofZeros bytes, bytes)

/-! ### Decoding -/

/-- The number that bytes make. -/
def ByteOrder.value (order : ByteOrder) (bytes : List UInt8) : Nat :=
  let ordered :=
    match order with
    | .big => bytes
    | .little => bytes.reverse
  ordered.foldl (fun n b => n * 0x100 + b.toNat) 0

/-- The numbers that every two bytes make; none if one byte is left over. -/
def ByteOrder.pairs? (order : ByteOrder) : List UInt8 → Option (List Nat)
  | [] => some []
  | a :: b :: rest => (order.pairs? rest).map (order.value [a, b] :: ·)
  | _ => none

/-- The numbers that every four bytes make; none if bytes are left over. -/
def ByteOrder.fours? (order : ByteOrder) : List UInt8 → Option (List Nat)
  | [] => some []
  | a :: b :: c :: d :: rest => (order.fours? rest).map (order.value [a, b, c, d] :: ·)
  | _ => none

/-- Why bytes have no text: they are no characters, or half of a pair is among these. -/
inductive DecodeFailure where
  | noCharacters
  | halfPair
deriving DecidableEq, Repr

/-- Bytes with a plain character in the place of every three that spell half of a pair. -/
def maskHalves : List UInt8 → List UInt8
  | 0xed :: b :: c :: rest =>
    if 0xa0 ≤ b ∧ b < 0xc0 ∧ 0x80 ≤ c ∧ c < 0xc0 then '?'.toUInt8 :: maskHalves rest
    else 0xed :: maskHalves (b :: c :: rest)
  | b :: rest => b :: maskHalves rest
  | [] => []

/-- The characters of bytes in an encoding. -/
def Encoding.decode (encoding : Encoding) (bytes : List UInt8) : Except DecodeFailure Text :=
  match encoding with
  | .utf8 =>
    match Text.ofBytes? ⟨bytes.toArray⟩ with
    | some t => .ok t
    | none =>
      .error (if (Text.ofBytes? ⟨(maskHalves bytes).toArray⟩).isSome then .halfPair
        else .noCharacters)
  | .utf16 order =>
    match order.pairs? bytes with
    | some units => (Text.ofUnits? units).elim (.error .halfPair) .ok
    | none => .error .noCharacters
  | .utf32 order =>
    match order.fours? bytes with
    | some points =>
      if points.all (· < 0x110000) then (Text.ofCodePoints? points).elim (.error .halfPair) .ok
      else .error .noCharacters
    | none => .error .noCharacters

/-- The characters of a document in bytes that tells its encoding. -/
def Text.decode (bytes : List UInt8) : Except DecodeFailure Text :=
  let (encoding, bytes) := Encoding.tell bytes
  encoding.decode bytes

end PlainEnglish
