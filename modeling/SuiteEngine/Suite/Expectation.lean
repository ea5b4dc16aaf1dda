import SuiteEngine.Suite.Fields

/-!
# Expectations

What a test declares about the response it waits for. Each part may be left out; a part that is left
out is not checked. Limits are numbers of either kind, as the document gives them.
-/

namespace SuiteEngine.Suite

/-- The first and the last of the status codes that are accepted. -/
structure StatusRange where
  min : Value
  max : Value

/-- What the part of the body under a dotted path has to be. -/
structure PathExpectation where
  path : String
  equals : Value
  contains : Value
  type : Option String
  minLength : Option Value
  maxLength : Option Value
  regex : Option String

/-- What a response has to be. -/
structure Expectation where
  status : Option Value
  statusRange : Option StatusRange
  bodyContains : Value
  bodyExact : Value
  bodySchema : Option Value
  bodyPath : List PathExpectation
  headers : List (String × String)
  responseTime : Option Value

/-- The range of a document. -/
def StatusRange.ofDocument (document : Value) : Except ReadFault StatusRange := do
  return ⟨← need document "min", ← need document "max"⟩

/-- The expectation of a document for one path. -/
def PathExpectation.ofDocument (document : Value) : Except ReadFault PathExpectation := do
  return {
    path := ← needText document "path"
    equals := orMissing document "equals"
    contains := orMissing document "contains"
    type := text? document "type"
    minLength := field? document "minLength"
    maxLength := field? document "maxLength"
    regex := text? document "regex" }

/-- The expectation of a document. -/
def Expectation.ofDocument (document : Value) : Except ReadFault Expectation := do
  mayHaveFields document
  return {
    status := field? document "status"
    statusRange := ← (filled? document "statusRange").mapM StatusRange.ofDocument
    bodyContains := orMissing document "bodyContains"
    bodyExact := orMissing document "bodyExact"
    bodySchema := field? document "bodySchema"
    bodyPath := ← (← items document "bodyPath").mapM PathExpectation.ofDocument
    headers := ← textFields document "headers"
    responseTime := field? document "responseTime" }

end SuiteEngine.Suite
