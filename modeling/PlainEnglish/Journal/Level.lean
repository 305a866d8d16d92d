import PlainEnglish.Text.Lowercase

/-!
# Log levels

How important a record is, as a number, and the names of the levels.
-/

namespace PlainEnglish

/-- The importance of a record; the larger the number, the more important. -/
abbrev Level := Int

/-- The words for a level that is given as a number with a fraction or an exponent. -/
def Level.notInteger : Text := "level must be an integer"

/-- The level of records that help to find faults. -/
def Level.debug : Level := 10

/-- The level of records of normal work. -/
def Level.info : Level := 20

/-- The level of records of something unexpected. -/
def Level.warning : Level := 30

/-- The level of records of failures. -/
def Level.error : Level := 40

/-- The names of the levels, in ascending order; one level has two names. -/
def Level.names : List (Text × Level) :=
  [("debug", .debug), ("info", .info), ("warn", .warning), ("warning", .warning),
    ("error", .error)]

/-- Whether a text is the name of a level. -/
def Text.isLevelName (t : Text) : Bool := Level.names.any fun entry => entry.1 = t

/-- The level with the given name. -/
def Level.ofName? (name : Text) : Option Level := Level.names.lookup name

/-- The level with the given name in any letter case; any other name stands for normal work. -/
def Level.ofAnyName (name : Text) : Level := (Level.ofName? name.lowercase).getD .info

/-- The label of a level in the lines of a log. -/
def Level.label (level : Level) : Text :=
  if level = .debug then "DEBUG"
  else if level = .info then "INFO"
  else if level = .warning then "WARNING"
  else if level = .error then "ERROR"
  else if level = 50 then "CRITICAL"
  else if level = 0 then "NOTSET"
  else "Level " ++ Text.ofInt level

end PlainEnglish
