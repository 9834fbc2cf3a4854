-- Calendar days and points in time, as a settings file can hold them.

namespace CrossBuild

/-- A number in decimal digits, filled up with zeros to the width. -/
def padded (width n : Nat) : String :=
  let digits := (toString n).toList
  String.ofList (List.replicate (width - digits.length) '0' ++ digits)

/-- A calendar day. -/
structure Date where
  year : Nat
  month : Nat
  day : Nat
  deriving DecidableEq, Repr

namespace Date

def isLeapYear (year : Nat) : Bool :=
  year % 4 = 0 && (year % 100 ≠ 0 || year % 400 = 0)

def daysIn (year month : Nat) : Nat :=
  if month = 2 then if isLeapYear year then 29 else 28
  else if month = 4 ∨ month = 6 ∨ month = 9 ∨ month = 11 then 30
  else 31

/-- Whether there is such a day, in the years from 1 to 9999. -/
def isValid (d : Date) : Bool :=
  1 ≤ d.year && d.year ≤ 9999 && 1 ≤ d.month && d.month ≤ 12 && 1 ≤ d.day &&
    d.day ≤ daysIn d.year d.month

/-- The days before the first day of a year, counted from the first day of the year 1. -/
def daysBeforeYear (year : Nat) : Nat :=
  let years := year - 1
  years * 365 + years / 4 - years / 100 + years / 400

/-- The number of a day, counted from the first day of the year 1. -/
def ordinal (d : Date) : Nat :=
  let months := (List.range' 1 (d.month - 1)).map (daysIn d.year)
  daysBeforeYear d.year + months.foldl (· + ·) 0 + (d.day - 1)

def text (d : Date) : String :=
  padded 4 d.year ++ "-" ++ padded 2 d.month ++ "-" ++ padded 2 d.day

/-- The parts of the date as a list of arguments. -/
def arguments (d : Date) : List String :=
  [toString d.year, toString d.month, toString d.day]

end Date

/-- A point in time. -/
structure Moment where
  date : Date
  hour : Nat
  minute : Nat
  second : Nat
  microsecond : Nat
  /-- The distance of the local clock from universal time, in minutes. -/
  offset : Option Int
  deriving DecidableEq, Repr

namespace Moment

/-- Whether there is such a point in time; a local clock is less than a day off. -/
def isValid (m : Moment) : Bool :=
  m.date.isValid && m.hour < 24 && m.minute < 60 && m.second < 60 &&
    m.offset.all fun minutes => minutes.natAbs < 24 * 60

/-- The microseconds from the start of the year 1 to a point in time, by its local clock. -/
def localTime (m : Moment) : Nat :=
  (((m.date.ordinal * 24 + m.hour) * 60 + m.minute) * 60 + m.second) * 1000000 + m.microsecond

/-- Whether two points in time are the same. By clocks whose distance from universal time is
known they are the same whenever universal time is, and a clock without that distance shows
the same point only as another one without it. -/
def same (a b : Moment) : Bool :=
  let universal (m : Moment) (offset : Int) : Int := m.localTime - offset * (60 * 1000000)
  match a.offset, b.offset with
  | none, none => a.localTime = b.localTime
  | some offset, some offset' => universal a offset = universal b offset'
  | _, _ => false

/-- An offset as a sign, hours and minutes. -/
def offsetText (minutes : Int) : String :=
  (if minutes < 0 then "-" else "+") ++ padded 2 (minutes.natAbs / 60) ++ ":" ++
    padded 2 (minutes.natAbs % 60)

def text (m : Moment) : String :=
  m.date.text ++ " " ++ padded 2 m.hour ++ ":" ++ padded 2 m.minute ++ ":" ++ padded 2 m.second ++
    (if m.microsecond = 0 then "" else "." ++ padded 6 m.microsecond) ++
    (m.offset.map offsetText).getD ""

/-- The days of an offset and the seconds that go on top of them. -/
def offsetArguments (minutes : Int) : List String :=
  let days := minutes.fdiv (24 * 60)
  let seconds := minutes.fmod (24 * 60) * 60
  (if days = 0 then [] else ["days=" ++ toString days]) ++
    (if seconds = 0 then [] else ["seconds=" ++ toString seconds])

/-- The parts of the point in time as a list of arguments. Seconds are left out when they
and the microseconds are zero, and so are microseconds that are zero. -/
def arguments (m : Moment) : List String :=
  let clock :=
    if m.microsecond ≠ 0 then [m.second, m.microsecond]
    else if m.second ≠ 0 then [m.second]
    else []
  m.date.arguments ++ ([m.hour, m.minute] ++ clock).map toString

end Moment

end CrossBuild
