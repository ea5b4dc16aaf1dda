import SuiteEngine.Document.Display
import SuiteEngine.Document.Value
import SuiteEngine.Failure
import SuiteEngine.Host.Page
import SuiteEngine.Suite.Ui
import SuiteEngine.Text.Numeral

/-!
# What the declared actions mean

There is a closed set of actions. An action may need a selector and may need a value; `ActionKind.of?`
tells which action is declared and whether it has what it needs. `Plan.of` tells what is to be done on
the page for it. Both look at the declaration alone.
-/

namespace SuiteEngine.Ui

open Host (PageCall Shot)
open Suite (UiAction)

/-- An action on a page. -/
inductive ActionKind where
  | goto
  | click
  | fill
  | select
  | check
  | uncheck
  | hover
  | press
  | scroll
  | upload
  | evaluate
  | wait
  | waitForSelector
  | waitForUrl
  | assertVisible
  | assertHidden
  | assertText
  | assertValue
  | assertUrl
  | assertTitle
  | assertCount
  | screenshot
deriving DecidableEq, Repr

namespace ActionKind

/-- All actions. -/
def all : List ActionKind :=
  [goto, click, fill, select, check, uncheck, hover, press, scroll, upload, evaluate, wait,
    waitForSelector, waitForUrl, assertVisible, assertHidden, assertText, assertValue, assertUrl,
    assertTitle, assertCount, screenshot]

/-- The word by which suites name an action. -/
def word : ActionKind → String
  | goto => "goto"
  | click => "click"
  | fill => "fill"
  | select => "select"
  | check => "check"
  | uncheck => "uncheck"
  | hover => "hover"
  | press => "press"
  | scroll => "scroll"
  | upload => "upload"
  | evaluate => "evaluate"
  | wait => "wait"
  | waitForSelector => "waitForSelector"
  | waitForUrl => "waitForURL"
  | assertVisible => "assertVisible"
  | assertHidden => "assertHidden"
  | assertText => "assertText"
  | assertValue => "assertValue"
  | assertUrl => "assertURL"
  | assertTitle => "assertTitle"
  | assertCount => "assertCount"
  | screenshot => "screenshot"

/-- The action with this name. -/
def ofWord? (w : String) : Option ActionKind := all.find? fun k => k.word == w

/-- Whether the action is about an element of the page. -/
def needsSelector : ActionKind → Bool
  | click | fill | select | check | uncheck | hover | press | upload => true
  | waitForSelector | assertVisible | assertHidden | assertText | assertValue | assertCount => true
  | _ => false

/-- Whether the action cannot do without a value. -/
def needsValue : ActionKind → Bool
  | fill | select | press | upload | evaluate | waitForUrl => true
  | assertText | assertValue | assertUrl | assertTitle | assertCount => true
  | _ => false

end ActionKind

/-- The failure that a wrong declaration is. -/
def contractFailure (message : String) : Failure := ⟨.contract, message⟩

/-- What messages call the action of this name. -/
def actionTitle (name : String) : String := "UI action \"" ++ name ++ "\""

/-- The selector of an action; an empty one is none. -/
def selector? (a : UiAction) : Option String := a.selector.filter (· != "")

/-- Which action is declared, if it has what it needs. -/
def ActionKind.of? (a : UiAction) : Except Failure ActionKind :=
  match ActionKind.ofWord? a.action with
  | none => .error (contractFailure ("Unknown UI action: \"" ++ a.action ++ "\""))
  | some kind =>
    if kind.needsSelector && (selector? a).isNone then
      .error (contractFailure (actionTitle kind.word ++ " requires a selector"))
    else if kind.needsValue && a.value.isNull then
      .error (contractFailure (actionTitle kind.word ++ " requires a value"))
    else .ok kind

/-- What is to be done for an action. -/
inductive Plan where
  | call (call : PageCall)
  /-- Lets some milliseconds pass. -/
  | wait (milliseconds : Float)
  /-- Takes a picture and stores it under a name. -/
  | capture (name : String) (shot : Shot)

/-- The failure of a value that holds a whole number with too many digits to be written. -/
def unwritten : Failure := ⟨.other "ValueError", Text.tooLongToWrite⟩

/-- What is made of the text of a value, if that can be written. -/
def written {α : Type} (v : Value) (made : α) : Except Failure α :=
  if Json.writable v then .ok made else .error unwritten

/-- The number that a text is written for, in bytes of which each is a character. -/
def bytesNumber? (bytes : List UInt8) : Option Float :=
  if bytes.all (· < 128) then
    Text.parseFloat? (String.ofList (bytes.map fun b => Char.ofNat b.toNat))
  else none

/-- The number that an action's value is or is written for. -/
def numberOf (a : UiAction) (v : Value) : Except Failure Float :=
  let refused := do
    let message ← written v (actionTitle a.action ++ " needs a numeric value, got " ++ v.inspect)
    throw (contractFailure message)
  match v with
  | .bool _ => .error (contractFailure (actionTitle a.action ++ " needs a numeric value"))
  | .int n =>
    match Value.intToFloat? n with
    | some x => .ok x
    | none => .error ⟨.other "OverflowError", "int too large to convert to float"⟩
  | .float x => .ok x
  | .str s => ((Text.parseFloat? s).map .ok).getD refused
  | .bytes b => ((bytesNumber? b).map .ok).getD refused
  | _ => refused

/-- How many elements an action counts: its number without the fraction. -/
def countOf (a : UiAction) : Except Failure Int := do
  let x ← numberOf a a.value
  match floatTruncate x with
  | some n => .ok n
  | none =>
    if x.isNaN then .error ⟨.other "ValueError", "cannot convert float NaN to integer"⟩
    else .error ⟨.other "OverflowError", "cannot convert float infinity to integer"⟩

/-- The milliseconds of a wait that does not say how long. -/
def usualWait : Value := .int 1000

/-- Where a page is scrolled to that is not told where. -/
def usualPosition : Value := .tuple [.int 0, .int 500]

/-- The address of a page that is not told which. -/
def startAddress : String := "/"

/-- The name of a picture that is not named. -/
def unnamedPicture : String := "inline"

/-- The value of an action, or another one where it has none. -/
def valueOr (a : UiAction) (usual : Value) : Value := if a.value.isNull then usual else a.value

/-- Where a page is scrolled to: a pair of numbers. -/
def scrollPosition (a : UiAction) : Except Failure PageCall :=
  let refused := .error (contractFailure
    (actionTitle "scroll" ++ " without selector needs value [x, y]"))
  match (valueOr a usualPosition).items? with
  | some [x, y] => if x.isNumber && y.isNumber then .ok (.scrollTo x y) else refused
  | _ => refused

/-- The files that are chosen in an element: one, or those of a list. -/
def uploadCall (selector : String) (a : UiAction) : PageCall :=
  match a.value.items? with
  | some files => .setInputFiles selector (files.map Value.text) a.options
  | none => .setInputFile selector a.value.display a.options

/-- The picture that an action asks for. -/
def shotOf (a : UiAction) : Shot :=
  if ((Value.lookup "fullPage" a.options).getD .null).truthy then .fullPage else .view

/-- What is to be done for an action of a kind that has what it needs. -/
def planOf (kind : ActionKind) (a : UiAction) : Except Failure Plan :=
  let selector := (selector? a).getD ""
  let text := a.value.display
  let o := a.options
  match kind with
  | .goto =>
    let address := valueOr a (.str ((selector? a).getD startAddress))
    written address (.call (.goto address.display o))
  | .click => .ok (.call (.click selector o))
  | .fill => written a.value (.call (.fill selector text o))
  | .select => written a.value (.call (.selectOption selector text o))
  | .check => .ok (.call (.check selector o))
  | .uncheck => .ok (.call (.uncheck selector o))
  | .hover => .ok (.call (.hover selector o))
  | .press => written a.value (.call (.press selector text o))
  | .scroll =>
    match selector? a with
    | some s => .ok (.call (.scrollIntoView s o))
    | none => (scrollPosition a).map .call
  | .upload => written a.value (.call (uploadCall selector a))
  | .evaluate => written a.value (.call (.evaluate text))
  | .wait => (numberOf a (valueOr a usualWait)).map .wait
  | .waitForSelector => .ok (.call (.waitForSelector selector o))
  | .waitForUrl => written a.value (.call (.waitForUrl text o))
  | .assertVisible => .ok (.call (.expectVisible selector o))
  | .assertHidden => .ok (.call (.expectHidden selector o))
  | .assertText => written a.value (.call (.expectText selector text o))
  | .assertValue => written a.value (.call (.expectValue selector text o))
  | .assertUrl => written a.value (.call (.expectUrl text o))
  | .assertTitle => written a.value (.call (.expectTitle text o))
  | .assertCount => (countOf a).map fun n => .call (.expectCount selector n o)
  | .screenshot =>
    let name := valueOr a (.str unnamedPicture)
    written name (.capture name.display (shotOf a))

/-- What is to be done for an action. -/
def Plan.of (a : UiAction) : Except Failure Plan := do planOf (← ActionKind.of? a) a

end SuiteEngine.Ui
