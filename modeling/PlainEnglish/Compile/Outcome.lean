import PlainEnglish.Json.Basic

/-!
# Outcomes of compilations
-/

namespace PlainEnglish

/-- What users get from a compilation: the message of an error, or the listing of the tokens, the
script, what the preview prints, and the report of a fault of the preview, empty if there is
none. -/
inductive Outcome where
  | failed (message : Text)
  | compiled (listing : List Text) (script output report : Text)
deriving DecidableEq, Repr

/-- Whether the program was compiled. -/
def Outcome.isSuccess : Outcome → Bool
  | .failed _ => false
  | .compiled _ _ _ _ => true

/-- An outcome as a document. -/
def Outcome.toJson : Outcome → Json
  | .failed message =>
    .object [("success", .bool false), ("error", .text message),
      ("errors", .array [.text message])]
  | .compiled listing script output report =>
    .object [("success", .bool true), ("tokens", Json.ofTexts listing),
      ("generatedCode", .text script), ("executionOutput", .text output),
      ("executionError", .text report)]

end PlainEnglish
