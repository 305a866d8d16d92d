import PlainEnglish.Text.Basic

/-!
# Characters of bytes

Bytes are read as characters in the encoding of Unicode in one to four bytes. Where bytes that
are no character are not given up, each longest row of them that begins like a character, or else
each single one, stands for the replacement character.
-/

namespace PlainEnglish

/-- What is missing of a character: how many bytes, the range of the next one, and the value of
the bytes so far. -/
structure Unfinished where
  missing : Nat
  least : Nat
  greatest : Nat
  value : Nat
deriving DecidableEq, Repr

/-- The character that stands for bytes that are none. -/
def replacement : Char := '\ufffd'

/-- What the first byte of a character of more than one byte leaves to come. The narrower ranges
rule out characters that fewer bytes would do for, halves of pairs, and values beyond the last
character. -/
def Unfinished.ofLead? (b : Nat) : Option Unfinished :=
  if b < 0xc2 then none
  else if b < 0xe0 then some ⟨1, 0x80, 0xbf, b - 0xc0⟩
  else if b < 0xf0 then
    some ⟨2, if b = 0xe0 then 0xa0 else 0x80, if b = 0xed then 0x9f else 0xbf, b - 0xe0⟩
  else if b < 0xf5 then
    some ⟨3, if b = 0xf0 then 0x90 else 0x80, if b = 0xf4 then 0x8f else 0xbf, b - 0xf0⟩
  else none

/-- What a byte is where a character begins: a character by itself, or the beginning of one. -/
def Unfinished.start (b : Nat) : Text × Option Unfinished :=
  if b < 0x80 then ([Char.ofNat b], none)
  else
    match Unfinished.ofLead? b with
    | some u => ([], some u)
    | none => ([replacement], none)

/-- What a byte is behind the beginning of a character. -/
def Unfinished.next (u : Unfinished) (b : Nat) : Text × Option Unfinished :=
  if u.least ≤ b ∧ b ≤ u.greatest then
    let value := u.value * 0x40 + (b - 0x80)
    if u.missing = 1 then ([Char.ofNat value], none)
    else ([], some ⟨u.missing - 1, 0x80, 0xbf, value⟩)
  else
    let (characters, state) := Unfinished.start b
    (replacement :: characters, state)

/-- The characters of bytes, behind the beginning of a character or none. -/
def Text.ofUtf8After : Option Unfinished → List UInt8 → Text
  | none, [] => []
  | some _, [] => [replacement]
  | state, b :: bytes =>
    let (characters, state) :=
      match state with
      | none => Unfinished.start b.toNat
      | some u => u.next b.toNat
    characters ++ Text.ofUtf8After state bytes

/-- The characters of bytes, none of which is given up. -/
def Text.ofUtf8 (bytes : List UInt8) : Text := Text.ofUtf8After none bytes

/-- The characters of bytes, unless there are bytes that are no character. -/
def Text.ofBytes? (bytes : ByteArray) : Option Text := (String.fromUTF8? bytes).map String.toList

/-- How many bytes a text takes. -/
def Text.utf8Size : Text → Nat
  | [] => 0
  | c :: t => c.utf8Size + Text.utf8Size t

end PlainEnglish
