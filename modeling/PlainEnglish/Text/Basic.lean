/-!
# Text

A text is the list of its characters, so lengths and columns count characters.
-/

namespace PlainEnglish

/-- A text, character by character. -/
abbrev Text := List Char

/-- A literal stands for the list of its characters. -/
instance : Coe String Text := ⟨String.toList⟩

/-- Texts are compared character by character. -/
instance Text.instLawfulBEq : LawfulBEq Text := inferInstance

/-! ### Numbers in decimal -/

/-- A natural number in decimal digits. -/
def Text.ofNat (n : Nat) : Text := Nat.toDigits 10 n

/-- An integer in decimal digits, with a minus sign when it is negative. -/
def Text.ofInt : Int → Text
  | .ofNat n => Text.ofNat n
  | .negSucc n => '-' :: Text.ofNat (n + 1)

/-! ### Joining and padding -/

/-- The texts one after the other, with `separator` between neighbours. -/
def Text.join (separator : Text) (parts : List Text) : Text := separator.intercalate parts

/-- Spaces are added at the end up to the given width; a longer text stays as it is. Whether
there is room for them is told by `Text.canPad`. -/
def Text.padEnd (width : Int) (t : Text) : Text :=
  t ++ List.replicate (width.toNat - t.length) ' '

/-- Whether a text can be filled up to the given width: this has at most 64 bits, and it is not
greater than `widest` unless the text is that long by itself. -/
def Text.canPad (widest : Nat) (width : Int) (t : Text) : Bool :=
  -0x8000000000000000 ≤ width && (width ≤ widest || width ≤ t.length)

/-- The text between single quotes, unchanged. -/
def Text.inQuotes (t : Text) : Text := '\'' :: t ++ ['\'']

/-! ### Beginnings and endings -/

/-- Whether the text begins with the given one. -/
def Text.startsWith (t beginning : Text) : Bool := beginning.isPrefixOf t

/-- Whether the text ends with the given one. -/
def Text.endsWith (t ending : Text) : Bool := ending.isSuffixOf t

/-! ### Splitting -/

/-- One character put in front of the first of the pieces. -/
def Text.consToFirst (c : Char) : List Text → List Text
  | [] => [[c]]
  | piece :: pieces => (c :: piece) :: pieces

/-- The pieces between the occurrences of `separator`: one more than there are occurrences. -/
def Text.splitAt (separator : Char) (t : Text) : List Text :=
  t.foldr (fun c pieces => if c = separator then [] :: pieces else Text.consToFirst c pieces)
    [[]]

end PlainEnglish
