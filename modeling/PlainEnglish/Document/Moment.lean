import PlainEnglish.Text.Basic

/-!
# Moments

Days of the calendar, times of day, and both together with or without a distance from universal
time.
-/

namespace PlainEnglish

/-- A day of the calendar. -/
structure Day where
  year : Nat
  month : Nat
  day : Nat
deriving DecidableEq, Repr

/-- A time of day. -/
structure TimeOfDay where
  hour : Nat
  minute : Nat
  second : Nat
  microsecond : Nat
deriving DecidableEq, Repr

/-- A day, a time of day, or both; the distance from universal time is counted in minutes. -/
inductive Moment where
  | day (d : Day)
  | time (t : TimeOfDay)
  | both (d : Day) (t : TimeOfDay) (offset : Option Int)
deriving DecidableEq, Repr

/-- How many days a month has. -/
def daysInMonth (year month : Nat) : Nat :=
  if month = 2 then
    if year % 4 = 0 ∧ (year % 100 ≠ 0 ∨ year % 400 = 0) then 29 else 28
  else if month ∈ [4, 6, 9, 11] then 30
  else 31

/-- Whether the calendar has a day; it begins with year one. -/
def Day.exists (d : Day) : Bool :=
  1 ≤ d.year && 1 ≤ d.month && d.month ≤ 12 && 1 ≤ d.day && d.day ≤ daysInMonth d.year d.month

/-! ### As text -/

/-- A number filled up with zeros on the left. -/
def Text.filled (width n : Nat) : Text :=
  let digits := Text.ofNat n
  List.replicate (width - digits.length) '0' ++ digits

/-- A day as year, month and day with hyphens. -/
def Day.show (d : Day) : Text :=
  Text.join ['-'] [Text.filled 4 d.year, Text.filled 2 d.month, Text.filled 2 d.day]

/-- A time of day with colons, and with microseconds if there are any. -/
def TimeOfDay.show (t : TimeOfDay) : Text :=
  Text.join [':'] [Text.filled 2 t.hour, Text.filled 2 t.minute, Text.filled 2 t.second] ++
    if t.microsecond = 0 then [] else '.' :: Text.filled 6 t.microsecond

/-- A distance from universal time with its sign, hours and minutes. -/
def showOffset (offset : Int) : Text :=
  (if offset < 0 then '-' else '+') ::
    Text.join [':'] [Text.filled 2 (offset.natAbs / 60), Text.filled 2 (offset.natAbs % 60)]

/-- A moment as text. -/
def Moment.show : Moment → Text
  | .day d => d.show
  | .time t => t.show
  | .both d t offset =>
    d.show ++ ' ' :: t.show ++
      match offset with
      | some offset => showOffset offset
      | none => []

/-! ### As a constructor call -/

/-- A name with arguments in parentheses. -/
def Text.applied (name : Text) (arguments : List Text) : Text :=
  name ++ '(' :: Text.join ", " arguments ++ [')']

/-- The arguments that make a day. -/
def Day.arguments (d : Day) : List Text := [d.year, d.month, d.day].map Text.ofNat

/-- The arguments that make a time of day, without the zeros at the end. -/
def TimeOfDay.arguments (t : TimeOfDay) : List Text :=
  ([t.hour, t.minute] ++
    if t.microsecond ≠ 0 then [t.second, t.microsecond]
    else if t.second ≠ 0 then [t.second]
    else []).map Text.ofNat

/-- A distance from universal time, in days and seconds. -/
def inspectOffset (offset : Int) : Text :=
  if offset = 0 then "datetime.timezone.utc"
  else
    let days := if offset < 0 then [("days=-1" : Text)] else []
    let seconds := if offset < 0 then 86400 + offset * 60 else offset * 60
    Text.applied "datetime.timezone"
      [Text.applied "datetime.timedelta" (days ++ ["seconds=" ++ Text.ofInt seconds])]

/-- A moment as the call that makes it. -/
def Moment.inspect : Moment → Text
  | .day d => Text.applied "datetime.date" d.arguments
  | .time t => Text.applied "datetime.time" t.arguments
  | .both d t offset =>
    Text.applied "datetime.datetime"
      (d.arguments ++ t.arguments ++
        match offset with
        | some offset => ["tzinfo=" ++ inspectOffset offset]
        | none => [])

end PlainEnglish
