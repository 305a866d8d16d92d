import PlainEnglish.Journal.Level

/-!
# Settings

The settings that a compilation goes by.
-/

namespace PlainEnglish

/-- Settings: the lines above every script, the spaces for each step of indentation, the width of
the first column of token listings, whether scripts are previewed, and the name of a log
level. -/
structure Settings where
  headerLines : List Text := ["#!/usr/bin/env python3", "# Generated from EBPL"]
  indentWidth : Int := 4
  tokenPadWidth : Int := 20
  simulate : Bool := true
  logLevel : Text := "info"
deriving DecidableEq, Repr

/-- Settings that a document may lay down: no width is negative, and the level has a known
name. -/
structure Settings.Valid (s : Settings) : Prop where
  indentWidth_nonneg : 0 ≤ s.indentWidth
  tokenPadWidth_nonneg : 0 ≤ s.tokenPadWidth
  logLevel_known : s.logLevel.isLevelName = true

/-- The settings when there is no document. -/
def Settings.standard : Settings := {}

/-! ### The environment -/

/-- The environment variable that names a log level. -/
def logLevelVariable : Text := "EBPL_LOG_LEVEL"

/-- The settings with the log level of the environment, if that names one in any letter case. -/
def Settings.inEnvironment (environment : List (Text × Text)) (s : Settings) : Settings :=
  match environment.lookup logLevelVariable with
  | some level =>
    if level.lowercase.isLevelName then { s with logLevel := level.lowercase } else s
  | none => s

end PlainEnglish
