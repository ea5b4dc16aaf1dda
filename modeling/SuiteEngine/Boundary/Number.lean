import SuiteEngine.Decimal.Exact
import SuiteEngine.Decimal.Shortest
import SuiteEngine.Document.Value

/-!
# Numbers that bound a range

A bound is an integer or a float. It is moved by one in its own arithmetic, and two bounds are compared
by what they denote.
-/

namespace SuiteEngine.Boundary

/-- A bound of a range. -/
inductive Bound where
  | int (n : Int)
  | float (x : Float)

namespace Bound

/-- The bound as a document value. -/
def value : Bound → Value
  | int n => .int n
  | float x => .float x

/-- What the bound denotes. -/
def denotes : Bound → Exact
  | int n => intExact n
  | float x => floatExact x

/-- Whether `a` is at most `b`. -/
def le (a b : Bound) : Bool := Exact.le a.denotes b.denotes

/-- The bound moved by an integer. -/
def shift (b : Bound) (by_ : Int) : Bound :=
  match b with
  | int n => int (n + by_)
  | float x => float (x + Float.ofInt by_)

/-- The largest integer that is at most half of a finite float; a zero keeps its sign. -/
def halfFloor (x : Float) : Float :=
  match floatParts x with
  | none => 0.0 / 0.0
  | some (neg, m, e) =>
    let num : Int := (if neg then -(m : Int) else m) * Int.pow 2 e.toNat
    let n := num.fdiv (Int.pow 2 ((-e).toNat + 1))
    if n == 0 && neg then -0.0 else Float.ofInt n

/-- The bound as a float. -/
def toFloat : Bound → Float
  | int n => Float.ofInt n
  | float x => x

/-- The point halfway between two bounds, rounded down. -/
def middle : Bound → Bound → Bound
  | int m, int n => int ((m + n).fdiv 2)
  | a, b => float (halfFloor (a.toFloat + b.toFloat))

/-- The bound in a label: a float without a fraction as an integer. -/
def label : Bound → String
  | int n => toString n
  | float x =>
    if floatIsIntegral x then ((floatTruncate x).map toString).getD "" else floatText x

end Bound

end SuiteEngine.Boundary
