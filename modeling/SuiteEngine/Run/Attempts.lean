import SuiteEngine.Duration
import SuiteEngine.Host.Program
import SuiteEngine.Report.Result

/-!
# Attempts at a case

A case is tried until it passes, until it fails in a way that trying again cannot change, or until no
attempt is left. What the last attempt recorded is kept. Several cases may be under way at a time.

* `runAttempts`: one case, with its attempts.
* `runSideBySide`: the cases of a suite.
-/

namespace SuiteEngine.Run

open Host (Program)
open Report (Attachment CaseResult FailureKind Status)

/-- How one attempt at a case ended. -/
structure AttemptOutcome where
  passed : Bool
  failureKind : Option FailureKind
  message : String
  attachments : List Attachment

/-- What a failure tells about a case. -/
def classify (f : Failure) : FailureKind :=
  match f.kind with
  | .contract => .contract
  | .assertion => .assertion
  | .timeout => .timeout
  | _ => .host

namespace AttemptOutcome

/-- The attempt passed. -/
def success (attachments : List Attachment) : AttemptOutcome :=
  { passed := true, failureKind := none, message := "", attachments }

/-- The attempt failed; `lead` says in what part of it. -/
def failure (f : Failure) (attachments : List Attachment) (lead : String) : AttemptOutcome :=
  { passed := false, failureKind := some (classify f)
    message := if lead == "" then f.describe else lead ++ ": " ++ f.describe
    attachments }

/-- The case could not be tried. -/
def blocked (reason : String) : AttemptOutcome :=
  { passed := false, failureKind := some .setup, message := reason, attachments := [] }

/-- Whether another attempt may end otherwise. -/
def retryable (o : AttemptOutcome) : Bool := !o.passed && o.failureKind != some .contract

/-- How the case ends when this was its last attempt. -/
def status (o : AttemptOutcome) : Status :=
  if o.passed then .passed else if o.failureKind == some .setup then .blocked else .failed

end AttemptOutcome

/-- The warning before the attempt with this number. -/
def retryWarning (suite name : String) (o : AttemptOutcome) (number allowed : Nat) : String :=
  "Retrying " ++ suite ++ " / " ++ name ++ " after " ++
    ((o.failureKind.map FailureKind.word).getD "unknown") ++ " failure (attempt " ++
    toString number ++ " of " ++ toString allowed ++ ")"

/-- Goes on with the attempt after `made` attempts, of which `left` are left, and gives the last outcome
and the number of attempts. -/
def attemptsFrom (suite name : String) (allowed : Nat) (attempt : Nat → Program AttemptOutcome)
    (made : Nat) : (left : Nat) → Program (AttemptOutcome × Nat)
  | 0 => do return (← attempt (made + 1), made + 1)
  | left + 1 => do
    let o ← attempt (made + 1)
    if o.retryable then
      Program.warn (retryWarning suite name o (made + 2) allowed)
      attemptsFrom suite name allowed attempt (made + 1) left
    else return (o, made + 1)

/-- Tries a case once and again up to `retries` times. -/
def runAttempts (suite name : String) (tags : List String) (retries : Nat)
    (attempt : Nat → Program AttemptOutcome) : Program CaseResult := do
  let start ← Program.clock
  let (o, attempts) ← attemptsFrom suite name (retries + 1) attempt 0 retries
  let stop ← Program.clock
  return {
    suite, name, status := o.status, tags, failureKind := o.failureKind, message := o.message
    attempts, duration := elapsed start stop, attachments := o.attachments }

/-- How many further attempts a number allows; none when it is no number or below zero. -/
def retriesOf (v : Value) : Nat :=
  match v with
  | .int n => n.toNat
  | .float x => ((floatTruncate x).getD 0).toNat
  | .bool b => if b then 1 else 0
  | _ => 0

/-- How many of some cases are under way at a time. -/
def placesFor (workers : Int) (count : Nat) : Nat := (max 1 (min workers count)).toNat

/-- Runs cases side by side, as their turns come, and gives the results in the order of the cases. -/
def runSideBySide (workers : Int) (turns : List Nat) (cases : List (Program CaseResult)) :
    Program (List CaseResult) :=
  Program.pool (placesFor workers cases.length) turns cases

end SuiteEngine.Run
