import SuiteEngine.Calendar
import SuiteEngine.Text.Numeral
import SuiteEngine.Text.Quoted
import SuiteEngine.Yaml.Fault

/-!
# Dates and times

A timestamp is a date, or a date with a time of day and perhaps the distance of its clock from the
universal one. `Timestamp.read?` reads both forms; the parts of it are checked only when it is made a
value, with the cause named that is found first.
-/

namespace SuiteEngine.Yaml

open Text (after? digits? numberOf shortNumber?)

/-- A day of the calendar. -/
structure Date where
  year : Nat
  month : Nat
  day : Nat
deriving DecidableEq, Repr

/-- A time of day on a day, with the distance of its clock from the universal one in seconds. -/
structure Moment where
  date : Date
  hour : Nat
  minute : Nat
  second : Nat
  microsecond : Nat
  offset : Option Int
deriving DecidableEq, Repr

/-- A timestamp. -/
inductive Timestamp where
  | date (d : Date)
  | moment (m : Moment)
deriving DecidableEq, Repr

namespace Timestamp

/-- What follows the mark between a date and a time. -/
def afterJoint? : List Char → Option (List Char)
  | c :: rest =>
    if c == 'T' || c == 't' then some rest
    else if c == ' ' || c == '\t' then some (rest.dropWhile fun d => d == ' ' || d == '\t')
    else none
  | [] => none

/-- The fraction of a second in millionths, and what follows. -/
def fraction : List Char → Nat × List Char
  | '.' :: rest =>
    let ds := (rest.takeWhile Char.isDigit).take 6
    (numberOf (ds ++ List.replicate (6 - ds.length) '0'), rest.dropWhile Char.isDigit)
  | cs => (0, cs)

/-- The minutes in the distance of a clock, which end the text. -/
def offsetMinutes? : List Char → Option Nat
  | [] => some 0
  | c :: rest => do
    let (minutes, tail) ← digits? 2 rest
    guard (c == ':' && tail.isEmpty)
    return minutes

/-- The distance of the clock from the universal one, which ends the text. -/
def offset? (cs : List Char) : Option (Option Int) :=
  if cs.isEmpty then some none
  else match cs.dropWhile fun c => c == ' ' || c == '\t' with
    | ['Z'] => some (some 0)
    | sign :: rest => do
      guard (sign == '+' || sign == '-')
      let (hours, rest) ← shortNumber? rest
      let seconds : Int := (hours * 3600 + (← offsetMinutes? rest) * 60 : Nat)
      return some (if sign == '-' then -seconds else seconds)
    | [] => none

/-- The timestamp that a text is, its parts unchecked. A date without a time has two digits for the
month and the day unless `loose`. -/
def read? (loose : Bool) (text : String) : Option Timestamp := do
  let (year, rest) ← digits? 4 text.toList
  let (month, rest') ← shortNumber? (← after? '-' rest)
  let (day, rest'') ← shortNumber? (← after? '-' rest')
  let date : Date := ⟨year, month, day⟩
  if rest''.isEmpty then
    guard (loose || text.length == 10)
    return .date date
  let (hour, rest) ← shortNumber? (← afterJoint? rest'')
  let (minute, rest) ← digits? 2 (← after? ':' rest)
  let (second, rest) ← digits? 2 (← after? ':' rest)
  let (microsecond, rest) := fraction rest
  return .moment { date, hour, minute, second, microsecond, offset := ← offset? rest }

/-! ## Checking the parts -/

/-- The fault of a part that is out of its range. -/
def outOfRange (message : String) : ScalarFault := ⟨.value, message⟩

/-- Checks a date. -/
def checkDate (d : Date) : Except ScalarFault Unit :=
  if d.year < 1 then throw (outOfRange ("year " ++ toString d.year ++ " is out of range"))
  else if !Calendar.isMonth d.month then throw (outOfRange "month must be in 1..12")
  else if d.day < 1 || d.day > Calendar.daysIn d.year d.month then
    throw (outOfRange "day is out of range for month")
  else return ()

/-- A span of time in days and seconds, as messages show it. -/
def inspectSpan (seconds : Int) : String :=
  let days := seconds / 86400
  let rest := seconds % 86400
  let parts :=
    (if days == 0 then [] else ["days=" ++ toString days]) ++
      (if rest == 0 then [] else ["seconds=" ++ toString rest])
  "datetime.timedelta(" ++ (if parts.isEmpty then "0" else ", ".intercalate parts) ++ ")"

/-- Checks the distance of a clock, which is less than a day. -/
def checkOffset : Option Int → Except ScalarFault Unit
  | some seconds =>
    if seconds ≤ -86400 || seconds ≥ 86400 then
      throw (outOfRange ("offset must be a timedelta strictly between -timedelta(hours=24) and " ++
        "timedelta(hours=24), not " ++ inspectSpan seconds ++ "."))
    else return ()
  | none => return ()

/-- Checks a timestamp; the clock comes first, then the date, then the time of day. -/
def check : Timestamp → Except ScalarFault Unit
  | .date d => checkDate d
  | .moment m => do
    checkOffset m.offset
    checkDate m.date
    if m.hour > 23 then throw (outOfRange "hour must be in 0..23")
    if m.minute > 59 then throw (outOfRange "minute must be in 0..59")
    if m.second > 59 then throw (outOfRange "second must be in 0..59")

/-! ## Writing -/

/-- A number with at least `width` digits. -/
def padded (width n : Nat) : String :=
  let digits := toString n
  "".pushn '0' (width - digits.length) ++ digits

/-- The date as text. -/
def dateText (d : Date) : String :=
  padded 4 d.year ++ "-" ++ padded 2 d.month ++ "-" ++ padded 2 d.day

/-- The distance of a clock as text. -/
def offsetText (seconds : Int) : String :=
  let n := seconds.natAbs
  let tail := if n % 60 == 0 then "" else ":" ++ padded 2 (n % 60)
  (if seconds < 0 then "-" else "+") ++ padded 2 (n / 3600) ++ ":" ++ padded 2 (n / 60 % 60) ++ tail

/-- The timestamp as text, `joint` standing between date and time. -/
def write (joint : String) : Timestamp → String
  | .date d => dateText d
  | .moment m =>
    dateText m.date ++ joint ++ padded 2 m.hour ++ ":" ++ padded 2 m.minute ++ ":" ++
      padded 2 m.second ++ (if m.microsecond == 0 then "" else "." ++ padded 6 m.microsecond) ++
      (m.offset.map offsetText).getD ""

/-- The numbers of a timestamp as messages show them: zero seconds and millionths are left out. -/
def shownParts (m : Moment) : List Nat :=
  [m.date.year, m.date.month, m.date.day, m.hour, m.minute] ++
    (if m.microsecond != 0 then [m.second, m.microsecond]
     else if m.second != 0 then [m.second] else [])

/-- A clock as messages show it. -/
def inspectOffset (seconds : Int) : String :=
  if seconds == 0 then "datetime.timezone.utc"
  else "datetime.timezone(" ++ inspectSpan seconds ++ ")"

/-- The timestamp as messages show it. -/
def inspect : Timestamp → String
  | .date d =>
    "datetime.date(" ++ ", ".intercalate ([d.year, d.month, d.day].map toString) ++ ")"
  | .moment m =>
    "datetime.datetime(" ++ ", ".intercalate ((shownParts m).map toString) ++
      ((m.offset.map fun o => ", tzinfo=" ++ inspectOffset o).getD "") ++ ")"

end Timestamp

end SuiteEngine.Yaml
