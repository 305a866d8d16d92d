import PlainEnglish.Journal.Level
import PlainEnglish.Json.Basic

/-!
# Log records

A record has the name of its logger, a level and a message. The record of an event also has the
name of the event and its data.
-/

namespace PlainEnglish

/-- An event with its data, in the order in which they were given. -/
structure Event where
  name : Text
  data : List (Text × Json)
deriving Repr

/-- A record of a log. -/
structure Record where
  logger : Text
  level : Level
  message : Text
  event : Option Event := none
deriving Repr

/-- A record as a line of a log. -/
def Record.line (clock : Text) (r : Record) : Text :=
  Text.join " - " [clock, r.logger, r.level.label, r.message]

/-- The lines of a log that shows records from a level on. -/
def Record.log (clock : Text) (level : Level) (records : List Record) : List Text :=
  (records.filter fun r => level ≤ r.level).map (Record.line clock)

end PlainEnglish
