import SuiteEngine.Files.Path
import SuiteEngine.Suite.Expectation

/-!
# API suites

An API suite makes requests and says what each response has to be. A call before the tests may leave a
token in a variable for them; a call after the tests clears up.
-/

namespace SuiteEngine.Suite

/-- Where a response holds a token, and the variable that receives it. -/
structure TokenExtraction where
  fromPath : String
  variableName : String

/-- A request made once before or after the tests. -/
structure SideCall where
  method : String
  endpoint : String
  body : Value
  headers : List (String × String)
  extractToken : Option TokenExtraction

/-- A request and what its response has to be. -/
structure ApiCase where
  name : String
  method : String
  endpoint : String
  expect : Expectation
  tags : List String
  headers : List (String × String)
  query : List (String × Value)
  body : Value
  auth : Option String
  /-- Variables of this test alone. -/
  dataInjection : List (String × Value)
  skip : Bool
  only : Bool
  timeout : Option Value
  retries : Option Value
  /-- The test as declared, with its placeholders. -/
  document : Value

/-- An API suite. -/
structure ApiSuite where
  name : String
  tests : List ApiCase
  tags : List String
  baseEndpoint : String
  setup : Option SideCall
  teardown : Option SideCall
  /-- The file that the suite was read from. -/
  source : Option Files.Path

/-- The extraction of a document. -/
def TokenExtraction.ofDocument (document : Value) : Except ReadFault TokenExtraction := do
  return ⟨← needText document "fromPath", ← needText document "as"⟩

/-- The call of a document. -/
def SideCall.ofDocument (document : Value) : Except ReadFault SideCall := do
  mayHaveFields document
  return {
    method := ← needText document "method"
    endpoint := ← needText document "endpoint"
    body := (field? document "body").getD .null
    headers := ← textFields document "headers"
    extractToken := ← (filled? document "extractToken").mapM TokenExtraction.ofDocument }

/-- The test of a document. -/
def ApiCase.ofDocument (document : Value) : Except ReadFault ApiCase := do
  return {
    name := ← needText document "name"
    method := ← needText document "method"
    endpoint := ← needText document "endpoint"
    expect := ← Expectation.ofDocument ((filled? document "expect").getD (.obj []))
    tags := ← texts document "tags"
    headers := ← textFields document "headers"
    query := ← fields document "query"
    body := (field? document "body").getD .null
    auth := text? document "auth"
    dataInjection := ← fields document "dataInjection"
    skip := flag document "skip" false
    only := flag document "only" false
    timeout := field? document "timeout"
    retries := field? document "retries"
    document := document }

/-- The suite of a document. -/
def ApiSuite.ofDocument (document : Value) : Except ReadFault ApiSuite := do
  mayHaveFields document
  return {
    name := ← needText document "suite"
    tests := ← (← itemsOf (← need document "tests")).mapM ApiCase.ofDocument
    tags := ← texts document "tags"
    baseEndpoint := ((filled? document "baseEndpoint").map Value.text).getD ""
    setup := ← (filled? document "setup").mapM SideCall.ofDocument
    teardown := ← (filled? document "teardown").mapM SideCall.ofDocument
    source := none }

end SuiteEngine.Suite
