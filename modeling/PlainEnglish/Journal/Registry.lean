import PlainEnglish.Journal.Record

/-!
# The state of the log

Loggers are known by their names, and each one is made when it is first asked for. Dots in a name
tell which loggers it is below, and all loggers are below the root. The main logger and those
below it share a level, which is set by configuring the log; until then, and for all other
loggers, records count from the level of warnings on.
-/

namespace PlainEnglish

/-- The name of the main logger. -/
def mainLogger : Text := "ebpl"

/-- The name of the logger that all others are below. -/
def rootLogger : Text := "root"

/-- The name of the logger that is asked for by a name: without a name it is the root. -/
def Text.loggerName (name : Text) : Text := if name = [] then rootLogger else name

/-- The state of the log: the loggers that were asked for, in order, the level of the main
logger, how many handlers it has, and whether it hands its records on. -/
structure Registry where
  loggers : List Text
  level : Option Level
  handlers : Nat
  propagates : Bool
deriving DecidableEq, Repr

/-- The state before anything has happened. -/
def Registry.start : Registry := ⟨[], none, 0, true⟩

/-- The place of the logger that is asked for by a name, which is made if there is none yet. -/
def Registry.logger (r : Registry) (name : Text) : Nat × Registry :=
  match r.loggers.idxOf? name.loggerName with
  | some i => (i, r)
  | none => (r.loggers.length, { r with loggers := r.loggers ++ [name.loggerName] })

/-- The log is configured with the name of a level, in any letter case. The first time it gets a
handler, and from then on it keeps its records to itself. -/
def Registry.configure (r : Registry) (level : Text) : Registry :=
  let r := (r.logger mainLogger).2
  let r := { r with level := some (Level.ofAnyName level) }
  if r.handlers = 0 then { r with handlers := 1, propagates := false } else r

/-- Whether the logger whose name is spelled backwards is below the main one. What stands in
front of a dot is the name of a logger above, if it is that of the main logger or of one that was
asked for. A dot at the beginning of the name does not count, and neither does one next to a dot
that has counted without such a logger. -/
def Registry.isBelowMain (r : Registry) : Text → Bool
  | '.' :: c :: front =>
    let above := (c :: front).reverse
    if above = mainLogger then true
    else if above ∈ r.loggers then r.isBelowMain (c :: front)
    else r.isBelowMain front
  | _ :: front => r.isBelowMain front
  | [] => false

/-- Whether a logger is the main one or below it. -/
def Registry.isMain (r : Registry) (logger : Text) : Bool :=
  logger = mainLogger || r.isBelowMain logger.reverse

/-- The level from which on the records of a logger count. -/
def Registry.threshold (r : Registry) (logger : Text) : Level :=
  if r.isMain logger then r.level.getD .warning else .warning

/-- A record is logged: it is kept, under the name of its logger, if its level counts. -/
def Registry.log (r : Registry) (record : Record) : List Record × Registry :=
  let record := { record with logger := record.logger.loggerName }
  let r := (r.logger record.logger).2
  (if r.threshold record.logger ≤ record.level then [record] else [], r)

end PlainEnglish
