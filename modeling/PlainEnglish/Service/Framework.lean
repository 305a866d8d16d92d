import PlainEnglish.Compile.Run
import PlainEnglish.Document.Datum
import PlainEnglish.Service.Flaw

/-!
# The framework of the service

The service declares what the bodies of requests and the answers look like, and what is made of a
body. A framework does the rest: it looks at bodies, hands them on or refuses them, and writes
the answers. It is a parameter here, and what the service relies on is said by
`Framework.Enforces`.
-/

namespace PlainEnglish

/-- An answer to a request: a document with a status, or the flaws of the body, unless the answer
cannot be written. -/
inductive Response where
  | document (status : Nat) (content : Json)
  | refused (flaws : List BodyFlaw)
  | unwritable
deriving Repr

/-- The status of an answer. -/
def Response.status : Response → Nat
  | .document status _ => status
  | .refused _ => 422
  | .unwritable => 500

/-- What the service declares for a route: the schemas of bodies and of answers, and what is made
of a body, if it comes to an end. -/
structure Operation where
  takes : BodySchema
  gives : Schema
  run : Json → Option Json

/-- The source text of the body of a request. -/
def Json.source? : Json → Option Text
  | .object entries =>
    match Json.find? sourceKey entries with
    | some (.text source) => some source
    | _ => none
  | _ => none

/-- Source texts are compiled, and the outcome is the answer. -/
def Operation.compilation (limits : Limits) (settings : Settings) : Operation where
  takes := .compilation
  gives := .compilation
  run body :=
    body.source?.bind fun source =>
      (compileWithin limits settings source).map fun c => c.outcome.toJson

/-- A framework: the answer to a body, by what is declared for its route, and how many levels of
a body an answer can repeat. -/
structure Framework where
  answer : Operation → Json → Response
  levels : Nat

/-- Whether an answer can repeat a value: all its numbers are finite, and it is neither nested
too deep nor holds an integer with too many digits. -/
def Json.isRepeatable (levels : Nat) (value : Json) : Bool :=
  value.isFinite && ((Datum.ofJson value).obstacle? levels).isNone

/-- What is documented of a framework. A body under the schema is handed on, and what is made of
it is answered under the schema of answers. No other body is handed on, and the flaws of one that
an answer can repeat are told with it. -/
structure Framework.Enforces (f : Framework) : Prop where
  answers : ∀ (o : Operation) (body content : Json), o.takes.admits body = true →
    o.run body = some content → o.gives.admits content = true →
    f.answer o body = .document 200 (o.gives.told content)
  refuses : ∀ (o o' : Operation) (body : Json), o.takes = o'.takes →
    o.takes.admits body = false → f.answer o body = f.answer o' body
  tells : ∀ (o : Operation) (body : Json), o.takes.admits body = false →
    body.isRepeatable f.levels = true → (f.answer o body).status = 422

end PlainEnglish
