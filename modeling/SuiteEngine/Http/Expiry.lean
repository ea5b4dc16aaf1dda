import SuiteEngine.Calendar
import SuiteEngine.Text.Blank
import SuiteEngine.Text.Case
import SuiteEngine.Text.Numeral

/-!
# When cookies expire

A cookie may name the date from which it is kept no more: perhaps a day of the week, then the day, the
month and the year, then perhaps a time of day and a zone. Blanks, dashes and slashes stand between the
parts of the day. Only zones that are universal time or say how far they are from it are known.

* `Expiry.seconds?`: the seconds from the start of 1970 to a date.
-/

namespace SuiteEngine.Http.Expiry

open Text (after? digits? number? shortNumber?)

/-- The months, by the letters they begin with. -/
def months : List String :=
  ["jan", "feb", "mar", "apr", "may", "jun", "jul", "aug", "sep", "oct", "nov", "dec"]

/-- The days of the week, by the letters they begin with. -/
def weekdays : List String := ["sun", "mon", "tue", "wed", "thu", "fri", "sat"]

/-- Whether a character is a gap between words. -/
def isGap (c : Char) : Bool := c == ' ' || (9 ≤ c.toNat && c.toNat ≤ 13)

/-- Whether a character is of a word. -/
def inWord (c : Char) : Bool := c.isAlphanum || c == '_'

/-- A date without the day of the week in front. -/
def dropWeekday (cs : List Char) : List Char :=
  if weekdays.contains (Text.lower (String.ofList (cs.take 3))) then
    let rest := (cs.drop 3).dropWhile Char.isAlpha
    ((after? ',' rest).getD rest).dropWhile isGap
  else cs

/-- What follows the mark between two parts of a day: a dash, a slash or blanks. -/
def afterMark? : List Char → Option (List Char)
  | c :: rest =>
    if c == '-' || c == '/' then some rest
    else if isGap c then some (rest.dropWhile isGap)
    else none
  | [] => none

/-- What follows the mark before a time of day: a colon or blanks. -/
def beforeClock? : List Char → Option (List Char)
  | c :: rest =>
    if c == ':' then some rest
    else if isGap c then some (rest.dropWhile isGap)
    else none
  | [] => none

/-- The hour, the minute and the second, which may be left out, and what follows. -/
def clock? (cs : List Char) : Option ((Nat × Nat × Nat) × List Char) := do
  let (hour, rest) ← shortNumber? (← beforeClock? cs)
  let (minute, rest) ← digits? 2 (← after? ':' rest)
  match (after? ':' rest).bind (digits? 2) with
  | some (second, rest) => return ((hour, minute, second), rest)
  | none => return ((hour, minute, 0), rest)

/-- The seconds by which the clock of a zone of digits is ahead: hours, or hours and minutes. -/
def offsetOf (ds : List Char) : Int :=
  let hours := if ds.length == 3 then 1 else 2
  (Text.numberOf (ds.take hours) * 3600 + Text.numberOf (ds.drop hours) * 60 : Nat)

/-- Whether letters name a half of the day. -/
def isHalfDay (cs : List Char) : Bool := ["am", "pm"].contains (Text.lower (String.ofList cs))

/-- The seconds by which the clock of the zone here is ahead, unknown for names of other zones, and
what follows; universal time if there is no zone here. -/
def zone (cs : List Char) : Option Int × List Char :=
  let (signed, ahead, body) : Bool × Bool × List Char := match cs with
    | '-' :: rest => (true, false, rest)
    | '+' :: rest => (true, true, rest)
    | _ => (false, true, cs)
  let ds := (body.takeWhile Char.isDigit).take 4
  if 2 ≤ ds.length then
    (some (if ahead then offsetOf ds else -offsetOf ds), body.drop ds.length)
  else
    let name := cs.takeWhile Char.isAlpha
    let rest := cs.dropWhile Char.isAlpha
    if signed || name.isEmpty || (isHalfDay name && !(rest.head?.any inWord)) then (some 0, cs)
    else if ["GMT", "UTC", "UT", "Z"].contains (String.ofList (name.map Char.toUpper)) then
      (some 0, rest)
    else (none, rest)

/-- What follows the name of a zone in parentheses, if it is here. -/
def afterNote (cs : List Char) : List Char :=
  match cs with
  | '(' :: rest =>
    match rest.span inWord with
    | (_ :: _, ')' :: rest) => rest.dropWhile isGap
    | _ => cs
  | _ => cs

/-- The number of a month that is named or numbered. -/
def monthOf? (word : String) : Option Nat :=
  match months.idxOf? (Text.lower word) with
  | some i => some (i + 1)
  | none => do
    let n ← Text.parseInt? word
    guard (1 ≤ n && n ≤ 12)
    return n.toNat

/-- The year that is meant; one below 1000 lacks its century, which is the nearest one. -/
def yearOf (thisYear year : Nat) : Nat :=
  if 1000 ≤ year then year
  else
    let inCentury := thisYear % 100
    let guess := year + thisYear - inCentury
    if year + 50 < inCentury then guess + 100
    else if inCentury + 50 < year then guess - 100
    else guess

/-- Whether a date and a time are in range; a day that its month does not have counts on into the
next month. -/
def inRange (year day hour minute second : Nat) : Bool :=
  1970 ≤ year && 1 ≤ day && day ≤ 31 && hour ≤ 24 && minute ≤ 59 && second ≤ 61

/-- The seconds from the start of 1970 to a date; `thisYear` decides the century of a short year. -/
def seconds? (thisYear : Nat) (text : String) : Option Int := do
  let (day, rest) ← shortNumber? (dropWeekday (text.toList.dropWhile isGap))
  let rest ← afterMark? rest
  let month := String.ofList (rest.takeWhile inWord)
  let (shortYear, rest) ← number? (← afterMark? (rest.dropWhile inWord))
  let ((hour, minute, second), rest) := (clock? rest).getD ((0, 0, 0), rest)
  let (offset, rest) := zone (rest.dropWhile isGap)
  guard (afterNote (rest.dropWhile isGap)).isEmpty
  guard (shortYear ≤ 9999)
  let month ← monthOf? month
  let year := yearOf thisYear shortYear
  guard (inRange year day hour minute second)
  return Calendar.epochSeconds year month day hour minute second - (← offset)

end SuiteEngine.Http.Expiry
