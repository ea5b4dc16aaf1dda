import SuiteEngine.Duration
import SuiteEngine.Host.Trial
import SuiteEngine.Ui.Action

/-!
# Steps on a page

Steps are taken in order until one fails. A step fails when its action does, or when the time allowed
for the case has run out before it or during it.

* `perform`: one action.
* `runSteps`: steps in order.
* `verifySnapshot`: the comparison with a stored picture.
-/

namespace SuiteEngine.Ui

open Host (Program Trial)
open Report (Attachment)
open Suite (SnapshotRequest UiAction)

/-- What the steps of one attempt have in common. -/
structure Setting where
  /-- The open page. -/
  session : Nat
  screenshotsDir : Files.Path
  snapshotDir : Files.Path
  /-- The largest part of the pixels of a picture that may have changed. -/
  limit : Float
  /-- The seconds on the clock at which the time is over. -/
  deadline : Option Float
  /-- The milliseconds allowed, as messages show them. -/
  timeout : Value

/-- The failure of a case whose time is over. -/
def Setting.timeIsOver (c : Setting) (moment : String) : Failure :=
  ⟨.timeout, "Test case exceeded its " ++ c.timeout.text ++ " ms timeout " ++ moment⟩

/-- Fails if the time is over. -/
def Setting.checkDeadline (c : Setting) (moment : String) : Trial Unit := do
  match c.deadline with
  | none => pure ()
  | some deadline =>
    if (← Trial.clock) > deadline then throw (c.timeIsOver moment) else pure ()

/-- Does something on the page. -/
def Setting.act (c : Setting) (call : Host.PageCall) : Trial Unit :=
  Trial.ofAnswer (Program.question (.onPage c.session call))

/-- Takes a picture of the page. -/
def Setting.shoot (c : Setting) (shot : Host.Shot) : Trial Files.Content :=
  Trial.ofAnswer (Program.question (.screenshot c.session shot))

/-- Stores a picture. -/
def store (path : Files.Path) (picture : Files.Content) : Trial Unit :=
  Trial.ofAnswer (Program.question (.store path picture))

/-- The name of a picture's file. -/
def pictureFile (name : String) : Files.Path := .ofText (name ++ ".png")

/-- The milliseconds from a moment to a deadline; none when it has passed. -/
def remaining (deadline now : Float) : Float :=
  let left := (deadline - now) * 1000.0
  if left > 0.0 then left else 0.0

/-- Waits, but not beyond the deadline. -/
def Setting.wait (c : Setting) (milliseconds : Float) : Trial Unit := do
  match c.deadline with
  | none => c.act (.waitForTimeout (.float milliseconds))
  | some deadline =>
    let left := remaining deadline (← Trial.clock)
    if milliseconds ≤ left then c.act (.waitForTimeout (.float milliseconds))
    else do
      c.act (.waitForTimeout (.float left))
      throw (c.timeIsOver ("waiting " ++ floatGeneral milliseconds ++ " ms"))

/-- Carries out a plan. -/
def Setting.carryOut (c : Setting) : Plan → Trial Unit
  | .call call => c.act call
  | .wait milliseconds => c.wait milliseconds
  | .capture name shot => do
    let picture ← c.shoot shot
    store (c.screenshotsDir.join (pictureFile name)) picture
    Trial.attach (.picture ("screenshot-" ++ name) picture)

/-- Performs an action, if it is declared well. -/
def Setting.perform (c : Setting) (a : UiAction) : Trial Unit := do
  c.carryOut (← Trial.ofExcept (Plan.of a))

/-- How a step ended. -/
structure StepResult where
  action : UiAction
  description : String
  failure : Option Failure
  /-- The milliseconds it took. -/
  duration : Float

/-- Whether the step was taken without a failure. -/
def StepResult.passed (r : StepResult) : Bool := r.failure.isNone

/-- What messages call the step with this number. -/
def describeStep (number : Nat) (a : UiAction) : String :=
  (a.description.filter (· != "")).getD ("Step " ++ toString number ++ ": " ++ a.action)

/-- Takes a step, within the time allowed. -/
def Setting.takeStep (c : Setting) (description : String) (a : UiAction) : Trial Unit := do
  c.checkDeadline ("before " ++ description)
  c.perform a
  c.checkDeadline ("during " ++ description)

/-- Takes the step with this number and says how it ended. -/
def Setting.step (c : Setting) (number : Nat) (a : UiAction) : Trial StepResult := do
  let description := describeStep number a
  let start ← Trial.clock
  let ended ← (c.takeStep description a).outcome
  let stop ← Trial.clock
  let failure := match ended with
    | .ok () => none
    | .error f => some f
  return { action := a, description, failure, duration := elapsed start stop }

/-- Takes steps in order, of which the first has this number, up to the first that fails. -/
def Setting.stepsFrom (c : Setting) (number : Nat) : List UiAction → Trial (List StepResult)
  | [] => return []
  | a :: rest => do
    let r ← c.step number a
    if r.passed then return r :: (← c.stepsFrom (number + 1) rest) else return [r]

/-- Takes steps in order, up to the first that fails. -/
def Setting.runSteps (c : Setting) (steps : List UiAction) : Trial (List StepResult) :=
  c.stepsFrom 1 steps

/-- The picture that is compared. -/
def snapshotShot (s : SnapshotRequest) : Host.Shot :=
  match s.selector.filter (· != "") with
  | some selector => .element selector
  | none => if s.fullPage then .fullPage else .view

/-- Fails unless the page looks as its baseline does, and then records the pictures. -/
def Setting.verifySnapshot (c : Setting) (s : SnapshotRequest) : Trial Unit := do
  c.checkDeadline ("before snapshot " ++ s.name)
  let actual ← c.shoot (snapshotShot s)
  let baseline := c.snapshotDir.join (pictureFile s.name)
  let comparison ← Trial.ofAnswer (Program.question (.compare actual baseline c.limit))
  if comparison.passed then return ()
  Trial.attach (.picture (s.name ++ "-actual") actual)
  if let some marked := comparison.marked then
    Trial.attach (.picture (s.name ++ "-diff") (.picture marked))
  throw ⟨.assertion, comparison.message⟩

end SuiteEngine.Ui
