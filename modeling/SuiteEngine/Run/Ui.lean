import SuiteEngine.Config.Settings
import SuiteEngine.Document.Interpolate
import SuiteEngine.Duration
import SuiteEngine.Run.Attempts
import SuiteEngine.Suite.Selection
import SuiteEngine.Ui.Step

/-!
# Running UI suites

Every attempt at a case opens a page of its own. On it come, in this order, the suite's setup action, the
size of the window, the address, the steps, the comparison with a stored picture, a picture of what was
seen if something failed, and the suite's teardown action. Then the page is closed.

* `driveCase`: a case on an open page.
* `runUiCase`: one case, with its attempts.
* `runUiSuite`: a suite.
-/

namespace SuiteEngine.Run

open Host (Program SessionContext Trial)
open Report (CaseResult SuiteResult)
open Suite (UiAction UiCase UiSuite)
open Ui (Setting)

/-- A failure of an attempt, and how the attempt is reported for it; what was recorded is added later. -/
abbrev Verdict := Option AttemptOutcome

/-- What a trial comes to: nothing if it succeeds, else what is made of the failure. -/
def verdictOf (report : Failure → AttemptOutcome) (t : Trial Unit) : Trial Verdict := do
  match ← t.outcome with
  | .ok () => return none
  | .error f => return some (report f)

/-- Goes on unless there is a failure already. -/
def unlessFailed (first next : Trial Verdict) : Trial Verdict := do
  match ← first with
  | some o => return some o
  | none => next

/-- Performs the suite's setup action. -/
def setUpPage (c : Setting) (setup : Option UiAction) : Trial Verdict :=
  match setup with
  | none => return none
  | some action =>
    verdictOf (fun f => .blocked ("Setup action failed: " ++ f.describe)) (c.perform action)

/-- Sets the size of the window and goes to the address of a case, where it has them. -/
def openAddress (c : Setting) (basePath : String) (case : UiCase) : Trial Unit := do
  if let some v := case.viewport then c.act (.setViewport v.width v.height)
  if let some url := case.url.filter (· != "") then c.act (.goto (basePath ++ url) [])

/-- Takes the steps of a case. -/
def takeSteps (c : Setting) (steps : List UiAction) : Trial Verdict := do
  let results ← c.runSteps steps
  return results.findSome? fun r => r.failure.map fun f => .failure f [] r.description

/-- Compares the page with a stored picture, where the case asks for it. -/
def compareSnapshot (config : Config) (c : Setting) (case : UiCase) : Trial Verdict :=
  match case.snapshot with
  | none => return none
  | some s =>
    if config.features.snapshots then
      verdictOf (fun f => .failure f [] ("Snapshot " ++ s.name)) (c.verifySnapshot s)
    else return none

/-- Runs a case on an open page. -/
def driveCase (config : Config) (suite : UiSuite) (c : Setting) (case : UiCase) : Trial Verdict :=
  unlessFailed (setUpPage c suite.setup) <|
    unlessFailed (verdictOf (.failure · [] "Navigation") (openAddress c suite.basePath case)) <|
      unlessFailed (takeSteps c case.steps) (compareSnapshot config c case)

/-- The name of the picture of a failure. -/
def failurePicture : String := "failure-screenshot"

/-- Does something that may fail; then the failure is only noted. -/
def noting (lead : String) (t : Trial Unit) : Trial Unit := do
  match ← t.outcome with
  | .ok () => return ()
  | .error f => Trial.ofProgram (Program.warn (lead ++ f.message))

/-- Records what the page shows after a failure. -/
def recordFailure (c : Setting) : Trial Unit :=
  noting "Could not capture failure screenshot: " do
    Trial.attach (.picture failurePicture (← c.shoot .fullPage))

/-- Performs the suite's teardown action. -/
def tearDownPage (c : Setting) (suite : UiSuite) : Trial Unit :=
  match suite.teardown with
  | none => return ()
  | some action => noting ("Teardown of UI suite " ++ suite.name ++ " failed: ") (c.perform action)

/-- What pages are opened with. -/
def sessionContext (config : Config) : SessionContext :=
  { baseUrl := config.environment.uiBaseUrl, headers := config.headers }

/-- Opens a page for a computation, and closes it afterwards. -/
def withSession {α : Type} (context : SessionContext) (body : Nat → Trial α) : Trial α := do
  let session ← Trial.ofAnswer (Program.question (.openSession context))
  let result ← (body session).outcome
  Trial.ofProgram (Program.question (.closeSession session))
  Trial.ofExcept result

/-- The milliseconds allowed for a case. -/
def caseTimeout (config : Config) (case : UiCase) : Value :=
  (case.timeout.filter Value.truthy).getD (.int config.execution.timeout)

/-- One attempt at a case, from its declaration on. -/
def tryUiCase (config : Config) (shots : Files.Path) (suite : UiSuite) (case : UiCase) :
    Trial Verdict := do
  let document := case.document.interpolate (Variables.merge [] case.dataInjection)
  let filled ← Trial.ofExcept ((UiCase.ofDocument document).mapError Suite.ReadFault.failure)
  let timeout := caseTimeout config filled
  let now ← Trial.clock
  let seconds ← Trial.ofExcept (secondsOf timeout)
  withSession (sessionContext config) fun session => do
    let c : Setting := {
      session, screenshotsDir := shots, snapshotDir := config.features.snapshotDir
      limit := config.features.maxDiffPixelRatio, deadline := some (now + seconds), timeout }
    let verdict ← driveCase config suite c filled
    if verdict.isSome && config.features.screenshots then recordFailure c
    tearDownPage c suite
    return verdict

/-- One attempt at a case. -/
def attemptUiCase (config : Config) (shots : Files.Path) (suite : UiSuite) (case : UiCase) :
    Program AttemptOutcome := do
  match ← (tryUiCase config shots suite case).perform with
  | (.ok none, attachments) => return .success attachments
  | (.ok (some o), attachments) => return { o with attachments }
  | (.error f, attachments) => return .failure f attachments ""

/-- Runs a case. -/
def runUiCase (config : Config) (shots : Files.Path) (suite : UiSuite) (case : UiCase) :
    Program CaseResult :=
  if case.skip then return .skipped suite.name case.name case.tags
  else
    let retries := retriesOf (case.retries.getD (.int config.execution.retries))
    runAttempts suite.name case.name case.tags retries fun _ =>
      attemptUiCase config shots suite case

/-- Runs the cases of a suite that have one of the tags asked for; they take the given turns. -/
def runUiSuite (config : Config) (shots : Files.Path) (turns : List Nat) (tags : List String)
    (suite : UiSuite) : Program SuiteResult := do
  let start ← Program.clock
  let cases ← runSideBySide config.execution.workers turns
    ((Suite.select tags suite.tests).map (runUiCase config shots suite))
  let stop ← Program.clock
  return { suite := suite.name, kind := .ui, cases, source := suite.source
           duration := elapsed start stop, setupError := none }

end SuiteEngine.Run
