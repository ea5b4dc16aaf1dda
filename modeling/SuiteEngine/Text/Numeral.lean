import SuiteEngine.Decimal.Rounded
import SuiteEngine.Text.Blank

/-!
# Numbers written in text

A whole number is an optional sign and digits of any script, with single underscores between digits
and blanks around it, of which the field separators are none. A decimal may also have a fraction and an
exponent, or name an infinity or the value that is no number.
-/

namespace SuiteEngine.Text

/-!
## Digits at the start of a text

Readers for runs of the digits 0 to 9. Each gives the number they write and what follows them.

* `shortNumber?`: one or two digits, two where there are two.
* `digits?`: a fixed count of digits.
* `number?`: all the digits there are.
-/

/-- The number with these digits. -/
def numberOf (cs : List Char) : Nat := cs.foldl (fun n c => n * 10 + (c.toNat - 48)) 0

/-- The one or two digits here, and what follows. -/
def shortNumber? : List Char → Option (Nat × List Char)
  | a :: b :: rest =>
    if a.isDigit && b.isDigit then some (numberOf [a, b], rest)
    else if a.isDigit then some (numberOf [a], b :: rest)
    else none
  | [a] => if a.isDigit then some (numberOf [a], []) else none
  | [] => none

/-- The `n` digits here, and what follows. -/
def digits? (n : Nat) (cs : List Char) : Option (Nat × List Char) := do
  let ds := cs.take n
  guard (ds.length == n && ds.all Char.isDigit)
  return (numberOf ds, cs.drop n)

/-- The digits here, of which there has to be one, and what follows. -/
def number? (cs : List Char) : Option (Nat × List Char) := do
  let ds := cs.takeWhile Char.isDigit
  guard !ds.isEmpty
  return (numberOf ds, cs.dropWhile Char.isDigit)

/-- What follows the character, which has to be here. -/
def after? (c : Char) : List Char → Option (List Char)
  | d :: rest => if c == d then some rest else none
  | [] => none

/-! ## Numerals -/

/-- The code points of the digit zero in every script; the other nine digits follow each. -/
def zeroDigits : Array Nat := #[
  48, 1632, 1776, 1984, 2406, 2534, 2662, 2790, 2918, 3046, 3174, 3302, 3430, 3558, 3664, 3792,
  3872, 4160, 4240, 6112, 6160, 6470, 6608, 6784, 6800, 6992, 7088, 7232, 7248, 42528, 43216,
  43264, 43472, 43504, 43600, 44016, 65296, 66720, 68912, 69734, 69872, 69942, 70096, 70384,
  70736, 70864, 71248, 71360, 71472, 71904, 72016, 72784, 73040, 73120, 92768, 92864, 93008,
  120782, 120792, 120802, 120812, 120822, 123200, 123632, 125264, 130032]

/-- The value of a decimal digit of any script. -/
def digitValue? (c : Char) : Option Nat :=
  let n := c.toNat
  if n < 128 then (if c.isDigit then some (n - 48) else none)
  else (zeroDigits.find? fun z => z ≤ n && n < z + 10).map (n - ·)

/-- The digits of a number with single underscores between them, as values; `none` when a
character is no digit or an underscore is not between two digits. -/
def groupedDigits : List Char → Option (List Nat)
  | [] => none
  | [c] => (digitValue? c).map ([·])
  | c :: '_' :: rest => do
    let d ← digitValue? c
    let ds ← groupedDigits rest
    return d :: ds
  | c :: rest => do
    let d ← digitValue? c
    let ds ← groupedDigits rest
    return d :: ds

/-- The number with these decimal digits. -/
def ofDigits (ds : List Nat) : Nat := ds.foldl (fun n d => n * 10 + d) 0

/-- An optional sign and what follows it. -/
def splitSign : List Char → Bool × List Char
  | '-' :: rest => (true, rest)
  | '+' :: rest => (false, rest)
  | cs => (false, cs)

/-- Whether `c` may stand around a number. -/
def isNumberBlank (c : Char) : Bool := isBlank c && !(28 ≤ c.toNat && c.toNat ≤ 31)

/-- The most digits that a whole number may be written with. -/
def digitLimit : Nat := 4300

/-- What is said of a text with so many digits, which are too many for a whole number. -/
def tooManyDigits (count : Nat) : String :=
  "Exceeds the limit (4300 digits) for integer string conversion: value has " ++ toString count ++
    " digits; use sys.set_int_max_str_digits() to increase the limit"

/-- What is said of a whole number that has too many digits to be written. -/
def tooLongToWrite : String :=
  "Exceeds the limit (4300 digits) for integer string conversion; " ++
    "use sys.set_int_max_str_digits() to increase the limit"

/-- The whole number a text denotes. -/
def parseInt? (s : String) : Option Int := do
  let (neg, cs) := splitSign (trimList isNumberBlank s.toList)
  let ds ← groupedDigits cs
  guard (ds.length ≤ digitLimit)
  let n := ofDigits ds
  return if neg then -(n : Int) else n

/-- The digits before the first character that satisfies `p`, and what follows. -/
def splitAtFirst (p : Char → Bool) (cs : List Char) : List Char × List Char :=
  (cs.takeWhile fun c => !p c, cs.dropWhile fun c => !p c)

/-- The exponent after its mark. -/
def parseExponent? (cs : List Char) : Option Int := do
  let (neg, cs) := splitSign cs
  let ds ← groupedDigits cs
  let n := ofDigits ds
  return if neg then -(n : Int) else n

/-- The digits of one side of the decimal point, which may have none when the other has some. -/
def parseSide? (cs : List Char) : Option (List Nat) :=
  if cs.isEmpty then some [] else groupedDigits cs

/-- The unsigned decimal a text denotes. -/
def parseMagnitude? (neg : Bool) (cs : List Char) : Option Float := do
  let (mantissa, tail) := splitAtFirst (fun c => c == 'e' || c == 'E') cs
  let (whole, frac) := splitAtFirst (· == '.') mantissa
  let wholeDigits ← parseSide? whole
  let fracDigits ← parseSide? (frac.drop 1)
  guard (!(wholeDigits.isEmpty && fracDigits.isEmpty))
  let exponent ← if tail.isEmpty then some 0 else parseExponent? (tail.drop 1)
  return Decimal.toFloat neg (ofDigits (wholeDigits ++ fracDigits)) (exponent - fracDigits.length)

/-- The float a text denotes. -/
def parseFloat? (s : String) : Option Float :=
  let (neg, cs) := splitSign (trimList isNumberBlank s.toList)
  let word := String.ofList (cs.map Char.toLower)
  let signed (x : Float) : Float := if neg then -x else x
  if word == "inf" || word == "infinity" then some (signed (1.0 / 0.0))
  else if word == "nan" then some (0.0 / 0.0)
  else parseMagnitude? neg cs

end SuiteEngine.Text
