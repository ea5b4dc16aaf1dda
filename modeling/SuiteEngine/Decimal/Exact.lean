/-!
# The exact value of a binary floating-point number

A finite float is a dyadic fraction `± m · 2^e`. `exact` gives that fraction; two numbers are compared
by their exact values, so an integer and a float are equal only when they denote the same number.
-/

namespace SuiteEngine

/-- What a number denotes: a dyadic fraction, an infinity, or nothing. -/
inductive Exact where
  | nan
  | negInf
  | finite (d : Dyadic)
  | posInf
deriving DecidableEq

namespace Exact

/-- Numeric equality; a value that is no number equals nothing. -/
def eq : Exact → Exact → Bool
  | nan, _ => false
  | _, nan => false
  | a, b => a == b

/-- `a ≤ b` as numbers; false when either side is no number. -/
def le : Exact → Exact → Bool
  | nan, _ => false
  | _, nan => false
  | negInf, _ => true
  | _, posInf => true
  | finite a, finite b => decide (a ≤ b)
  | _, _ => false

/-- `a < b` as numbers; false when either side is no number. -/
def lt (a b : Exact) : Bool := le a b && !eq a b

end Exact

open Float.Model (UnpackedFloat)

/-- The sign of a float's bits, also of a zero. -/
def floatIsNegative (x : Float) : Bool := x.toBits >>> 63 == 1 && !x.isNaN

/-- Sign, numerator and power of two of a finite float; `none` for the infinities and for no number. -/
def floatParts (x : Float) : Option (Bool × Nat × Int) :=
  let sign : UnpackedFloat.Sign → Bool
    | .positive => false
    | .negative => true
  match x.toModel.unpack with
  | .finite s m e _ => some (sign s, m, e)
  | .zero s => some (sign s, 0, 0)
  | _ => none

/-- The exact value of a float. -/
def floatExact (x : Float) : Exact :=
  match floatParts x with
  | some (neg, m, e) => .finite (Dyadic.ofIntWithPrec (if neg then -(m : Int) else m) (-e))
  | none => if x.isNaN then .nan else if floatIsNegative x then .negInf else .posInf

/-- The exact value of an integer. -/
def intExact (n : Int) : Exact := .finite (Dyadic.ofInt n)

/-- Whether the float is finite and without a fractional part. -/
def floatIsIntegral (x : Float) : Bool :=
  match floatParts x with
  | some (_, m, e) => 0 ≤ e || m % Nat.pow 2 e.natAbs == 0
  | none => false

/-- The integer part of a finite float, towards zero. -/
def floatTruncate (x : Float) : Option Int :=
  (floatParts x).map fun (neg, m, e) =>
    let n : Nat := if 0 ≤ e then m * Nat.pow 2 e.toNat else m / Nat.pow 2 e.natAbs
    if neg then -(n : Int) else n

/-- The float nearest to a quotient of natural numbers; zero if one of them is. -/
def floatQuotient (num den : Nat) : Float :=
  if h : 0 < num ∧ 0 < den then
    .ofModel (.pack (.div .binary64 (.finite .positive num 0 h.1) (.finite .positive den 0 h.2)))
  else 0.0

/-- A finite float's magnitude as a quotient of natural numbers. -/
def floatRatio (x : Float) : Option (Nat × Nat) :=
  (floatParts x).map fun (_, m, e) =>
    if 0 ≤ e then (m * Nat.pow 2 e.toNat, 1) else (m, Nat.pow 2 e.natAbs)

end SuiteEngine
