import PlainEnglish.Json.Basic

/-!
# Schemas

The body of a request is an object with the fields of a schema and no others. An answer has the
fields of a schema, in their order. What it is made from may hold more entries, which are
dropped, and it may lack those of fields that need not be there.
-/

namespace PlainEnglish

/-! ### Bodies -/

/-- A field of a body: a text that is not too long. -/
structure TextField where
  name : Text
  longest : Nat
deriving DecidableEq, Repr

/-- The fields of a body. -/
abbrev BodySchema := List TextField

/-- Whether entries have a text under the name of a field that is not too long. -/
def TextField.admits (f : TextField) (entries : List (Text × Json)) : Bool :=
  match Json.find? f.name entries with
  | some (.text t) => t.length ≤ f.longest
  | _ => false

/-- Whether a key is the name of a field. -/
def BodySchema.hasField (schema : BodySchema) (key : Text) : Bool :=
  schema.any fun f => f.name = key

/-- Whether a value is an object with the fields of a schema and no others. -/
def BodySchema.admits (schema : BodySchema) : Json → Bool
  | .object entries =>
    schema.all (·.admits entries) && entries.all fun entry => schema.hasField entry.1
  | _ => false

/-! ### Answers -/

/-- The kinds of values of fields. An optional field may hold no value. -/
inductive Field.Kind where
  | flag
  | text
  | texts
  | optional (kind : Field.Kind)
deriving DecidableEq, Repr

/-- A field of a schema. Without a default it has to be there. -/
structure Field where
  name : Text
  kind : Field.Kind
  default : Option Json := none
deriving Repr

/-- The fields of a document, in their order. -/
abbrev Schema := List Field

/-- Whether a value is a text. -/
def Json.isText : Json → Bool
  | .text _ => true
  | _ => false

/-- Whether a value is missing. -/
def Json.isNull : Json → Bool
  | .null => true
  | _ => false

/-- Whether a value is of a kind. -/
def Field.Kind.admits : Field.Kind → Json → Bool
  | .flag, .bool _ => true
  | .text, value => value.isText
  | .texts, .array items => items.all Json.isText
  | .optional kind, value => value.isNull || kind.admits value
  | _, _ => false

/-- The value that a field has among entries, or its default. -/
def Field.value? (f : Field) (entries : List (Text × Json)) : Option Json :=
  (Json.find? f.name entries).or f.default

/-- Whether a value is an object with the fields of a schema, each with a value of its kind. -/
def Schema.admits (schema : Schema) : Json → Bool
  | .object entries => schema.all fun f => (f.value? entries).any f.kind.admits
  | _ => false

/-- What is told of a value under a schema: its fields, in order, but for those that hold no
value. -/
def Schema.told (schema : Schema) : Json → Json
  | .object entries =>
    .object (schema.filterMap fun f =>
      ((f.value? entries).filter fun value => !value.isNull).map (f.name, ·))
  | value => value

/-! ### The schemas of the service -/

/-- The greatest length of a source text. -/
def longestSource : Nat := 100000

/-- The key of the source text. -/
def sourceKey : Text := "source"

/-- The schema of requests to compile. -/
def BodySchema.compilation : BodySchema := [⟨sourceKey, longestSource⟩]

/-- A field that may be missing. -/
def Field.optional (name : Text) (kind : Field.Kind) : Field :=
  ⟨name, .optional kind, some .null⟩

/-- The schema of the results of compilations. -/
def Schema.compilation : Schema := [
  ⟨"success", .flag, none⟩, .optional "tokens" .texts, .optional "generatedCode" .text,
  .optional "executionOutput" .text, .optional "executionError" .text, .optional "error" .text,
  .optional "errors" .texts]

/-- The schema of examples. -/
def Schema.example : Schema :=
  (["slug", "name", "category", "description", "source"] : List Text).map (⟨·, .text, none⟩)

/-- The schema of the answer that tells that the service is well. -/
def Schema.health : Schema := [
  ⟨"status", .text, some (.ofText "ok")⟩, ⟨"version", .text, none⟩,
  ⟨"language_version", .text, none⟩]

end PlainEnglish
