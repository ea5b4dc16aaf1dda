import SuiteEngine.Decimal.Exact

/-!
# The shortest decimal that reads back

A float is the nearest float to every real number of an interval around it. `shortest` gives the
decimal with the fewest digits in that interval, and of those the one nearest to the float. All of
it is exact arithmetic on natural numbers: for one digit, two digits and so on up to seventeen, the
two neighbours of the float on the grid of decimals with that many digits are tested.
-/

namespace SuiteEngine.Decimal

/-- The decimal `0.d₁d₂…dₖ · 10^point`, where `digits` is the number written `d₁d₂…dₖ`. -/
structure Digits where
  digits : Nat
  point : Int
deriving DecidableEq, Repr

/-- The decimal digits of `n`, most significant first. -/
def digitChars (n : Nat) : List Char := Nat.toDigits 10 n

/-- How many decimal digits `n` has; zero has one. -/
def digitCount (n : Nat) : Nat := (digitChars n).length

/-- The largest `k` below `fuel` steps with `10^k ≤ num / den`, for a quotient of at least one. -/
def log10Floor (num den : Nat) : Nat :=
  digitCount (num / den) - 1

/-- The `point` with `10^(point-1) ≤ num / den < 10^point`, for a positive quotient. -/
def pointOf (num den : Nat) : Int :=
  if den ≤ num then (log10Floor num den : Int) + 1
  else
    -- The quotient is below one: count how far `den / num` lies above it.
    let k := log10Floor den num
    if Nat.pow 10 k * num = den then 1 - (k : Int) else -(k : Int)

/-- The interval of reals that round to a float, over the denominator `den`. -/
structure Interval where
  low : Nat
  high : Nat
  den : Nat
  closed : Bool

/-- Whether `num / den` lies in the interval. -/
def Interval.holds (i : Interval) (num den : Nat) : Bool :=
  let below := i.low * den
  let above := i.high * den
  let here := num * i.den
  (below < here || (i.closed && below == here)) && (here < above || (i.closed && here == above))

/-- The interval of the reals that round to `m · 2^e`, a positive float of 53 bits at most. -/
def Interval.around (m : Nat) (e : Int) : Interval :=
  -- Everything over `4 · 2^(-e)`: the float is `4m`, a gap of its own exponent is `4`.
  let lowGap := if m == Nat.pow 2 52 && e > -1074 then 1 else 2
  let scale := if 0 ≤ e then Nat.pow 2 e.toNat else 1
  let den := if 0 ≤ e then 4 else 4 * Nat.pow 2 e.natAbs
  { low := (4 * m - lowGap) * scale, high := (4 * m + 2) * scale, den, closed := m % 2 == 0 }

/-- The better neighbour of `num / den` on the grid of multiples of `10^(point-n)`, if one of the
two lies in the interval; of two the nearer, and of two equally near the even one. -/
def neighbour? (i : Interval) (num den : Nat) (point : Int) (n : Nat) : Option Nat :=
  let unit := point - n
  let up := if 0 ≤ unit then Nat.pow 10 unit.toNat else 1
  let down := if 0 ≤ unit then 1 else Nat.pow 10 unit.natAbs
  -- The quotient counted in units of the grid is `(num * down) / (den * up)`.
  let q := (num * down) / (den * up)
  let r := (num * down) % (den * up)
  let lowOk := i.holds (q * up) down
  let highOk := i.holds ((q + 1) * up) down
  if r == 0 then some q
  else if lowOk && highOk then
    let twice := 2 * r
    if twice < den * up || (twice == den * up && q % 2 == 0) then some q else some (q + 1)
  else if lowOk then some q
  else if highOk then some (q + 1)
  else none

/-- The first grid with a hit, from `n` digits on. -/
def firstHit (i : Interval) (num den : Nat) (point : Int) : (fuel n : Nat) → Digits
  | 0, n => ⟨num * Nat.pow 10 n / den, point⟩
  | fuel + 1, n =>
    match neighbour? i num den point n with
    | some d =>
      if d = Nat.pow 10 n then ⟨1, point + 1⟩ else ⟨d, point⟩
    | none => firstHit i num den point fuel (n + 1)

/-- The number without the zeros at the end of its decimal digits. -/
def stripZeros : (fuel n : Nat) → Nat
  | 0, n => n
  | fuel + 1, n => if n != 0 && n % 10 == 0 then stripZeros fuel (n / 10) else n

/-- The shortest decimal that reads back as the positive float `m · 2^e`. -/
def shortest (m : Nat) (e : Int) : Digits :=
  let num := if 0 ≤ e then m * Nat.pow 2 e.toNat else m
  let den := if 0 ≤ e then 1 else Nat.pow 2 e.natAbs
  let found := firstHit (Interval.around m e) num den (pointOf num den) 17 1
  { found with digits := stripZeros 20 found.digits }

/-- How a format writes a decimal. -/
structure Style where
  /-- The least decimal exponent that is written positionally. -/
  leastPositional : Int
  /-- The greatest decimal exponent that is written positionally. -/
  greatestPositional : Int
  /-- Whether a whole number ends in `.0`. -/
  wholeMark : Bool

/-- A whole exponent with its sign and at least two digits. -/
def exponentText (e : Int) : String :=
  let digits := digitChars e.natAbs
  let padded := if digits.length < 2 then '0' :: digits else digits
  (if e < 0 then "-" else "+") ++ String.ofList padded

/-- Writes a positive decimal by the rules of `style`. -/
def Style.write (style : Style) (d : Digits) : String :=
  let ds := digitChars d.digits
  let e := d.point - 1
  if style.leastPositional ≤ e && e ≤ style.greatestPositional then
    if d.point ≤ 0 then
      "0." ++ String.ofList (List.replicate d.point.natAbs '0' ++ ds)
    else
      let p := d.point.toNat
      let whole := ds.take p ++ List.replicate (p - ds.length) '0'
      let frac := ds.drop p
      String.ofList whole
        ++ (if frac.isEmpty then (if style.wholeMark then ".0" else "") else "." ++ String.ofList frac)
  else
    let head := ds.take 1
    let tail := ds.drop 1
    String.ofList head ++ (if tail.isEmpty then "" else "." ++ String.ofList tail)
      ++ "e" ++ exponentText e

end SuiteEngine.Decimal

namespace SuiteEngine

/-- Floats are shown positionally from a ten-thousandth up to 16 digits, and whole ones with `.0`. -/
def floatStyle : Decimal.Style :=
  { leastPositional := -4, greatestPositional := 15, wholeMark := true }

/-- The text of a float: its shortest decimal that reads back. -/
def floatText (x : Float) : String :=
  match floatParts x with
  | none => if x.isNaN then "nan" else if floatIsNegative x then "-inf" else "inf"
  | some (neg, m, e) =>
    (if neg then "-" else "") ++
      (if m == 0 then "0.0" else floatStyle.write (Decimal.shortest m e))

end SuiteEngine
