import PlainEnglish.Service.Schema

/-!
# Flaws of bodies

The body of a request may be no document, and it may have entries that its schema does not admit.
-/

namespace PlainEnglish

/-- What is wrong with the body of a request: it is no document from a place on, there is none,
it is no object, a field is missing, no text or too long, or it has a needless entry. A value
that is at fault comes with the flaw. -/
inductive BodyFlaw where
  | malformed (offset : Nat)
  | missing
  | notObject (body : Json)
  | missingField (name : Text) (entries : List (Text × Json))
  | notText (name : Text) (value : Json)
  | tooLong (name : Text)
  | needless (key : Text) (value : Json)
deriving Repr

/-- The name of a kind of flaw. -/
def BodyFlaw.kind : BodyFlaw → Text
  | .malformed _ => "json_invalid"
  | .missing => "missing"
  | .notObject _ => "model_attributes_type"
  | .missingField _ _ => "missing"
  | .notText _ _ => "string_type"
  | .tooLong _ => "string_too_long"
  | .needless _ _ => "extra_forbidden"

/-- The part of a request that a flaw is in. -/
def BodyFlaw.place : BodyFlaw → List Json
  | .malformed offset => [.ofText "body", .integer offset]
  | .missing | .notObject _ => [.ofText "body"]
  | .missingField key _ | .notText key _ | .tooLong key | .needless key _ =>
    [.ofText "body", .text key]

/-- The value that is told with a flaw. -/
def BodyFlaw.value? : BodyFlaw → Option Json
  | .notObject body => some body
  | .missingField _ entries => some (.object entries)
  | .notText _ value => some value
  | .needless _ value => some value
  | _ => none

/-- A flaw as it is told. -/
def BodyFlaw.toJson (f : BodyFlaw) : Json :=
  .object [("type", .text f.kind), ("loc", .array f.place)]

/-- The flaw of a field among the entries of an object. -/
def TextField.flaw? (f : TextField) (entries : List (Text × Json)) : Option BodyFlaw :=
  match Json.find? f.name entries with
  | none => some (.missingField f.name entries)
  | some (.text t) => if t.length ≤ f.longest then none else some (.tooLong f.name)
  | some value => some (.notText f.name value)

/-- The flaws of a value under a schema: first those of its fields, then one for each needless
entry. -/
def BodySchema.flaws (schema : BodySchema) : Json → List BodyFlaw
  | .object entries =>
    schema.filterMap (·.flaw? entries) ++
      (entries.filter fun entry => !schema.hasField entry.1).map fun (key, value) =>
        .needless key value
  | value => [.notObject value]

end PlainEnglish
