import SuiteEngine.Files.Path
import SuiteEngine.Report.Attachment
import SuiteEngine.Suite.Kind

/-!
# Results

How the cases and suites of a run ended. Durations are in milliseconds.
-/

namespace SuiteEngine.Report

/-- How a case ended. -/
inductive Status where
  | passed
  | failed
  | skipped
  | blocked
deriving DecidableEq, Repr

namespace Status

/-- All statuses. -/
def all : List Status := [passed, failed, skipped, blocked]

/-- The word for a status. -/
def word : Status → String
  | passed => "PASSED"
  | failed => "FAILED"
  | skipped => "SKIPPED"
  | blocked => "BLOCKED"

/-- The status with this word. -/
def ofWord? (w : String) : Option Status := all.find? fun s => s.word == w

end Status

/-- Why a case did not pass. -/
inductive FailureKind where
  | assertion
  | timeout
  | host
  | contract
  | setup
deriving DecidableEq, Repr

namespace FailureKind

/-- All reasons. -/
def all : List FailureKind := [assertion, timeout, host, contract, setup]

/-- The word for a reason. -/
def word : FailureKind → String
  | assertion => "ASSERTION"
  | timeout => "TIMEOUT"
  | host => "HOST_ERROR"
  | contract => "CONTRACT"
  | setup => "SETUP"

/-- The reason with this word. -/
def ofWord? (w : String) : Option FailureKind := all.find? fun k => k.word == w

end FailureKind

/-- How a case ended after its last attempt. -/
structure CaseResult where
  suite : String
  name : String
  status : Status
  tags : List String
  failureKind : Option FailureKind
  message : String
  attempts : Nat
  duration : Float
  attachments : List Attachment

/-- The result of a case that was not run. -/
def CaseResult.untried (suite name : String) (tags : List String) (status : Status) : CaseResult :=
  { suite, name, status, tags, failureKind := none, message := "", attempts := 0, duration := 0.0
    attachments := [] }

/-- The result of a case that is declared to be skipped. -/
def CaseResult.skipped (suite name : String) (tags : List String) : CaseResult :=
  .untried suite name tags .skipped

/-- The result of a case that could not be run. -/
def CaseResult.blocked (suite name : String) (tags : List String) (reason : String) : CaseResult :=
  { CaseResult.untried suite name tags .blocked with failureKind := some .setup, message := reason }

/-- Whether the case passed. -/
def CaseResult.passed (c : CaseResult) : Bool := c.status == .passed

/-- Whether the case tells against what is tested, or could not be run. -/
def CaseResult.isFailure (c : CaseResult) : Bool := c.status == .failed || c.status == .blocked

/-- How the selected cases of a suite ended, in the order of their declaration. -/
structure SuiteResult where
  suite : String
  kind : Suite.Kind
  cases : List CaseResult
  source : Option Files.Path
  duration : Float
  setupError : Option String

/-- How many cases ended in a way. -/
def SuiteResult.count (s : SuiteResult) (status : Status) : Nat :=
  s.cases.countP fun c => c.status == status

/-- Whether a case failed or was blocked. -/
def SuiteResult.hasFailures (s : SuiteResult) : Bool := s.cases.any CaseResult.isFailure

/-- How many cases of some suites ended in each way. -/
structure Totals where
  passed : Nat
  failed : Nat
  skipped : Nat
  blocked : Nat
deriving DecidableEq, Repr

namespace Totals

/-- No case at all. -/
def none : Totals := { passed := 0, failed := 0, skipped := 0, blocked := 0 }

/-- One more case that ended in a way. -/
def add (t : Totals) : Status → Totals
  | .passed => { t with passed := t.passed + 1 }
  | .failed => { t with failed := t.failed + 1 }
  | .skipped => { t with skipped := t.skipped + 1 }
  | .blocked => { t with blocked := t.blocked + 1 }

/-- Counts the cases of a suite after those counted so far. -/
def addSuite (t : Totals) (s : SuiteResult) : Totals :=
  (s.cases.map CaseResult.status).foldl add t

/-- Counts the cases of some suites, one after the other. -/
def of (suites : List SuiteResult) : Totals := suites.foldl addSuite none

/-- The number for a status. -/
def get (t : Totals) : Status → Nat
  | .passed => t.passed
  | .failed => t.failed
  | .skipped => t.skipped
  | .blocked => t.blocked

/-- How many cases there are. -/
def total (t : Totals) : Nat := t.passed + t.failed + t.skipped + t.blocked

end Totals

end SuiteEngine.Report
