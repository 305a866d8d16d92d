import PlainEnglish.Text.Basic

/-!
# Versions
-/

namespace PlainEnglish

/-- The name of the program. -/
def programName : Text := "ebpl"

/-- The version of the program. -/
def programVersion : Text := "0.1.0"

/-- The version of the language. -/
def languageVersion : Text := "1.0"

/-- The title of the service. -/
def serviceTitle : Text := "EBPL Compiler"

/-- The versions as they are printed. -/
def versionLine : Text :=
  programName ++ ' ' :: programVersion ++ " (language " ++ languageVersion ++ ")"

end PlainEnglish
