import PlainEnglish.Json.Read
import PlainEnglish.Service.Flaw
import PlainEnglish.Text.Encoding

/-!
# Bodies of requests

The body of a request comes in bytes and tells its encoding.
-/

namespace PlainEnglish

/-- Why a body has no value: it has a flaw, it is given up, or it holds half of a pair of code
units, which no answer can repeat. -/
inductive BodyFault where
  | flawed (flaw : BodyFlaw)
  | unreadable
  | halfPair
deriving Repr

/-- The value of a body in characters, nested no deeper than `room` allows. -/
def Text.bodyValue (room : Nat) (body : Text) : Except BodyFault Json :=
  match Json.readWithin room body with
  | .ok value => .ok value
  | .error e =>
    match e.fault with
    | .hugeInteger _ | .tooDeep => .error .unreadable
    | .halfPair => .error .halfPair
    | _ => .error (.flawed (.malformed e.offset))

/-- The value of a body. -/
def bodyValue (room : Nat) (body : List UInt8) : Except BodyFault Json :=
  if body = [] then .error (.flawed .missing)
  else
    match Text.decode body with
    | .ok t => t.bodyValue room
    | .error .halfPair => .error .halfPair
    | .error .noCharacters => .error .unreadable

end PlainEnglish
