import SuiteEngine.Decimal.Shortest

/-!
# Rounding to decimal places and to significant digits

The exact value of a float is rounded to a decimal grid, a tie going to the even neighbour.
`floatRound` gives the float nearest to the value rounded to places, `floatSignificant` that nearest to
the value rounded to significant digits; `floatFixed` writes a given number of places, and
`floatGeneral` writes six significant digits.
-/

namespace SuiteEngine.Decimal

/-- The quotient rounded to the nearest natural number, a tie to the even one. -/
def roundDiv (num den : Nat) : Nat :=
  let q := num / den
  let r := num % den
  if 2 * r < den || (2 * r == den && q % 2 == 0) then q else q + 1

/-- The float nearest to `± digits · 10^exponent`. -/
def toFloat (neg : Bool) (digits : Nat) (exponent : Int) : Float :=
  let magnitude : Float :=
    if digits == 0 then 0.0
    else
      let size := (digitCount digits : Int) + exponent
      if size > 400 then 1.0 / 0.0
      else if size < -400 then 0.0
      else Float.ofScientific digits (exponent < 0) exponent.natAbs
  if neg then -magnitude else magnitude

/-- `digits` written with `places` digits after the point. -/
def placed (digits places : Nat) : String :=
  let ds := digitChars digits
  let ds := List.replicate (places + 1 - ds.length) '0' ++ ds
  let cut := ds.length - places
  String.ofList (ds.take cut) ++ (if places == 0 then "" else "." ++ String.ofList (ds.drop cut))

/-- A quotient above zero, rounded to `count` significant digits. -/
def leading (count num den : Nat) : Digits :=
  let point := pointOf num den
  let unit := point - count
  let d := if 0 ≤ unit then roundDiv num (den * Nat.pow 10 unit.toNat)
    else roundDiv (num * Nat.pow 10 unit.natAbs) den
  if d == Nat.pow 10 count then ⟨1, point + 1⟩ else ⟨stripZeros count d, point⟩

end SuiteEngine.Decimal

namespace SuiteEngine

open Decimal

/-- The float nearest to `x` rounded to `places` decimal places. -/
def floatRound (x : Float) (places : Nat) : Float :=
  match floatRatio x with
  | none => x
  | some (num, den) => toFloat (floatIsNegative x) (roundDiv (num * Nat.pow 10 places) den) (-places)

/-- `x` written with `places` digits after the point. -/
def floatFixed (x : Float) (places : Nat) : String :=
  match floatRatio x with
  | none => floatText x
  | some (num, den) =>
    (if floatIsNegative x then "-" else "") ++ placed (roundDiv (num * Nat.pow 10 places) den) places

/-- A share as a percentage with `places` digits after the point. -/
def floatPercent (x : Float) (places : Nat) : String := floatFixed (x * 100) places ++ "%"

/-- Six significant digits are written positionally from a ten-thousandth up to a million. -/
def generalStyle : Style :=
  { leastPositional := -4, greatestPositional := 5, wholeMark := false }

/-- `x` written with at most six significant digits. -/
def floatGeneral (x : Float) : String :=
  match floatRatio x with
  | none => floatText x
  | some (num, den) =>
    (if floatIsNegative x then "-" else "") ++
      if num == 0 then "0" else generalStyle.write (leading 6 num den)

/-- The float nearest to `x` rounded to `count` significant digits. -/
def floatSignificant (x : Float) (count : Nat) : Float :=
  match floatRatio x with
  | none => x
  | some (num, den) =>
    if num == 0 then x
    else
      let d := leading count num den
      toFloat (floatIsNegative x) d.digits (d.point - digitCount d.digits)

end SuiteEngine
