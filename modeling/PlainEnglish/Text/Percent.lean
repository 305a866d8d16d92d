import PlainEnglish.Text.Hex
import PlainEnglish.Text.Utf8

/-!
# Percent encoding

In the target of a request a byte can be written as a percent sign with two hexadecimal digits. A
percent sign without them stands for itself.
-/

namespace PlainEnglish

/-- The bytes of a percent-encoded text. -/
def Text.percentBytes : Text → List UInt8
  | [] => []
  | '%' :: a :: b :: rest =>
    match hexDigit? a, hexDigit? b with
    | some high, some low => (high * 16 + low).toUInt8 :: Text.percentBytes rest
    | _, _ => String.utf8EncodeChar '%' ++ Text.percentBytes (a :: b :: rest)
  | c :: rest => String.utf8EncodeChar c ++ Text.percentBytes rest

/-- What a percent-encoded text stands for. -/
def Text.percentDecoded (t : Text) : Text := Text.ofUtf8 (Text.percentBytes t)

end PlainEnglish
