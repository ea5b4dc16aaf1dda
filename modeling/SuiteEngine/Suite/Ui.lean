import SuiteEngine.Files.Path
import SuiteEngine.Suite.Fields

/-!
# UI suites

A UI suite takes steps on a page of its own for each test, and may compare a picture of the page with
one that was stored before.
-/

namespace SuiteEngine.Suite

/-- A declared step on a page. -/
structure UiAction where
  action : String
  selector : Option String
  value : Value
  options : List (String × Value)
  description : Option String

/-- The size of the window. -/
structure Viewport where
  width : Value
  height : Value

/-- A picture of the page to compare. -/
structure SnapshotRequest where
  name : String
  fullPage : Bool
  selector : Option String

/-- Steps on a page of their own. -/
structure UiCase where
  name : String
  steps : List UiAction
  tags : List String
  url : Option String
  viewport : Option Viewport
  snapshot : Option SnapshotRequest
  /-- Variables of this test alone. -/
  dataInjection : List (String × Value)
  skip : Bool
  only : Bool
  timeout : Option Value
  retries : Option Value
  /-- The test as declared, with its placeholders. -/
  document : Value

/-- A UI suite. -/
structure UiSuite where
  name : String
  tests : List UiCase
  tags : List String
  basePath : String
  setup : Option UiAction
  teardown : Option UiAction
  /-- The file that the suite was read from. -/
  source : Option Files.Path

/-- The step of a document. -/
def UiAction.ofDocument (document : Value) : Except ReadFault UiAction := do
  return {
    action := ← needText document "action"
    selector := text? document "selector"
    value := (field? document "value").getD .null
    options := ← fields document "options"
    description := text? document "description" }

/-- The window size of a document. -/
def Viewport.ofDocument (document : Value) : Except ReadFault Viewport := do
  return ⟨← need document "width", ← need document "height"⟩

/-- The picture of a document; the whole page where it does not say. -/
def SnapshotRequest.ofDocument (document : Value) : Except ReadFault SnapshotRequest := do
  return ⟨← needText document "name", flag document "fullPage" true, text? document "selector"⟩

/-- The test of a document. -/
def UiCase.ofDocument (document : Value) : Except ReadFault UiCase := do
  mayHaveFields document
  return {
    name := ← needText document "name"
    steps := ← (← items document "steps").mapM UiAction.ofDocument
    tags := ← texts document "tags"
    url := text? document "url"
    viewport := ← (filled? document "viewport").mapM Viewport.ofDocument
    snapshot := ← (filled? document "snapshot").mapM SnapshotRequest.ofDocument
    dataInjection := ← fields document "dataInjection"
    skip := flag document "skip" false
    only := flag document "only" false
    timeout := field? document "timeout"
    retries := field? document "retries"
    document := document }

/-- The suite of a document. -/
def UiSuite.ofDocument (document : Value) : Except ReadFault UiSuite := do
  mayHaveFields document
  return {
    name := ← needText document "suite"
    tests := ← (← itemsOf (← need document "tests")).mapM UiCase.ofDocument
    tags := ← texts document "tags"
    basePath := ((filled? document "basePath").map Value.text).getD ""
    setup := ← (filled? document "setup").mapM UiAction.ofDocument
    teardown := ← (filled? document "teardown").mapM UiAction.ofDocument
    source := none }

end SuiteEngine.Suite
