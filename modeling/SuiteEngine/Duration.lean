import SuiteEngine.Decimal.Rounded
import SuiteEngine.Document.Value
import SuiteEngine.Failure

/-!
# Milliseconds and seconds

Limits are declared in milliseconds, as whole numbers of any size; clocks count seconds.
-/

namespace SuiteEngine

/-- Milliseconds in seconds. -/
def secondsOf (milliseconds : Value) : Except Failure Float :=
  match milliseconds with
  | .int n =>
    let x := Decimal.toFloat (n < 0) n.natAbs (-3)
    if x.isInf then
      .error ⟨.other "OverflowError", "integer division result too large for a float"⟩
    else .ok x
  | v => .ok (v.toFloat?.getD 0.0 / 1000.0)

/-- The milliseconds from one moment to another, which a clock gives in seconds. -/
def elapsed (start stop : Float) : Float := (stop - start) * 1000.0

end SuiteEngine
