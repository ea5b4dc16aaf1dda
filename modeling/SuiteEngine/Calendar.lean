/-!
# The calendar

Years, months and days are counted from one. `isDay` says which days there are, `dayNumber` counts
them from the first day of the year 1, and `epochSeconds` counts the seconds from the start of 1970. A
`Moment` is a time of a day, to the microsecond.
-/

namespace SuiteEngine

namespace Calendar

/-- Whether the year has a 29th of February. -/
def isLeap (year : Nat) : Bool := year % 4 == 0 && (year % 100 != 0 || year % 400 == 0)

/-- How many days a month has. -/
def daysIn (year month : Nat) : Nat :=
  match month with
  | 2 => if isLeap year then 29 else 28
  | 4 | 6 | 9 | 11 => 30
  | _ => 31

/-- Whether there is such a month. -/
def isMonth (month : Nat) : Bool := 1 ≤ month && month ≤ 12

/-- Whether there is such a day. -/
def isDay (year month day : Nat) : Bool :=
  decide (1 ≤ year) && isMonth month && 1 ≤ day && day ≤ daysIn year month

/-- How many days of the year come before a month. -/
def daysBefore (year month : Nat) : Nat :=
  (List.range (month - 1)).foldl (fun n i => n + daysIn year (i + 1)) 0

/-- The number of a day; the first day of the year 1 is day 1. -/
def dayNumber (year month day : Nat) : Nat :=
  let before := year - 1
  before * 365 + before / 4 - before / 100 + before / 400 + daysBefore year month + day

/-- The seconds from the start of 1970 to a time of a day, which may lie before it. -/
def epochSeconds (year month day hour minute second : Nat) : Int :=
  ((dayNumber year month day : Int) - dayNumber 1970 1 1) * 86400 +
    (hour * 3600 + minute * 60 + second : Nat)

example : epochSeconds 1970 1 1 0 0 0 = 0 := by decide

example : epochSeconds 2000 3 1 0 0 1 = 951868801 := by decide

end Calendar

/-!
## Moments

The moment at which a run begins, in universal time. Reports show it to the microsecond; the name of a
file has it to the second.
-/

/-- A moment. -/
structure Moment where
  year : Nat
  month : Nat
  day : Nat
  hour : Nat
  minute : Nat
  second : Nat
  microsecond : Nat
deriving DecidableEq, Repr

namespace Moment

/-- A number with zeros in front, up to a count of digits. -/
def padded (count n : Nat) : String :=
  let digits := toString n
  String.ofList (List.replicate (count - digits.length) '0') ++ digits

/-- The moment as reports show it. -/
def text (m : Moment) : String :=
  padded 4 m.year ++ "-" ++ padded 2 m.month ++ "-" ++ padded 2 m.day ++ "T" ++ padded 2 m.hour ++
    ":" ++ padded 2 m.minute ++ ":" ++ padded 2 m.second ++
    (if m.microsecond = 0 then "" else "." ++ padded 6 m.microsecond) ++ "+00:00"

/-- The moment as names of files have it. -/
def stamp (m : Moment) : String :=
  padded 4 m.year ++ padded 2 m.month ++ padded 2 m.day ++ "-" ++ padded 2 m.hour ++
    padded 2 m.minute ++ padded 2 m.second

/-- The whole seconds from the start of 1970. -/
def seconds (m : Moment) : Int :=
  Calendar.epochSeconds m.year m.month m.day m.hour m.minute m.second

end Moment

end SuiteEngine
