import PlainEnglish.Catalogue
import PlainEnglish.Service.Framework
import PlainEnglish.Service.Request
import PlainEnglish.Text.Percent
import PlainEnglish.Version

/-!
# Answering requests

The service tells that it is well, shows the examples, and compiles programs. To run it, a
framework is put together that answers as it should on what it has been tried with.
-/

namespace PlainEnglish

/-- A request. Its target is the percent-encoded path of what it is about; a request without a
body has an empty one. -/
structure Request where
  method : Text
  target : Text
  body : List UInt8 := []
deriving DecidableEq, Repr

/-- Why an answer cannot be written. -/
def unwritableMessage : Text := "Out of range float values are not JSON compliant"

/-! ### Routes -/

/-- What a request is about. -/
inductive Route where
  | health
  | compile
  | examples
  | example (name : Text)
deriving DecidableEq, Repr

/-- The method of the requests for a route. -/
def Route.method : Route → Text
  | .compile => "POST"
  | _ => "GET"

/-- The paths of the routes without a name in them. -/
def Route.fixed : List (Text × Route) :=
  [("/health", .health), ("/api/compile", .compile), ("/api/examples", .examples)]

/-- The beginning of the paths of single examples. -/
def examplePath : Text := "/api/examples/"

/-- The text without the newline at its end, if it has one there. -/
def Text.dropNewline (t : Text) : Text := if t.getLast? = some '\n' then t.dropLast else t

/-- The route of a path. A newline at the end of a path that is fixed does not count. -/
def Route.ofPath? (path : Text) : Option Route :=
  match Route.fixed.lookup path.dropNewline with
  | some route => some route
  | none =>
    let name := path.drop examplePath.length
    if Text.startsWith path examplePath ∧ name ≠ [] ∧ '/' ∉ name then some (.example name)
    else none

/-! ### Answers -/

/-- An answer that only says why there is no other. -/
def Response.detail (status : Nat) (message : Text) : Response :=
  .document status (.object [("detail", .text message)])

/-- An example as a document. -/
def Example.toJson (e : Example) : Json :=
  .object [("slug", .text e.slug), ("name", .text e.name), ("category", .text e.category),
    ("description", .text e.description), ("source", .text e.source)]

/-- What is told when the service is well. -/
def healthFacts : Json :=
  .object [("version", .text programVersion), ("language_version", .text languageVersion)]

/-- The answer with a document under a schema, which cannot be written if the schema does not
admit it. -/
def Response.ofContent (schema : Schema) (content : Json) : Response :=
  if schema.admits content then .document 200 (schema.told content) else .unwritable

/-- The answer that tells flaws, which cannot be written if a value that is told cannot be
repeated. -/
def Response.ofFlaws (levels : Nat) (flaws : List BodyFlaw) : Response :=
  if flaws.all fun flaw => flaw.value?.all (·.isRepeatable levels) then .refused flaws
  else .unwritable

/-- A framework that answers what it is handed, or tells all flaws at once. -/
def Framework.plain (levels : Nat) : Framework where
  answer o body :=
    if o.takes.admits body then
      match o.run body with
      | some content => .ofContent o.gives content
      | none => .unwritable
    else .ofFlaws levels (o.takes.flaws body)
  levels := levels

/-- The answer to a request to compile. -/
def Response.ofBody (limits : Limits) (settings : Settings) (body : List UInt8) : Response :=
  match bodyValue limits.json body with
  | .ok value => (Framework.plain limits.shown).answer (.compilation limits settings) value
  | .error (.flawed flaw) => .refused [flaw]
  | .error .unreadable => .detail 400 "There was an error parsing the body"
  | .error .halfPair => .unwritable

/-- The answer with all examples. -/
def Response.ofExamples (examples : List Example) : Response :=
  if examples.all fun e => Schema.example.admits e.toJson then
    .document 200 (.array (examples.map fun e => Schema.example.told e.toJson))
  else .unwritable

/-- The answer to a request that has the method of its route. -/
def Route.answer (limits : Limits) (settings : Settings) (body : List UInt8) : Route → Response
  | .health => .ofContent .health healthFacts
  | .examples => .ofExamples (Example.list none)
  | .example name =>
    match Example.find? name with
    | some e => .ofContent .example e.toJson
    | none => .detail 404 (Example.unknown name)
  | .compile => .ofBody limits settings body

/-- The answer to a request. -/
def respond (settings : Settings) (r : Request) (limits : Limits := .standard) : Response :=
  match Route.ofPath? r.target.percentDecoded with
  | none => .detail 404 "Not Found"
  | some route =>
    if r.method = route.method then route.answer limits settings r.body
    else .detail 405 "Method Not Allowed"

end PlainEnglish
