import SuiteEngine.Decimal.Rounded
import SuiteEngine.Document.Compare
import SuiteEngine.Document.Path
import SuiteEngine.Http.Message
import SuiteEngine.Schema.Check
import SuiteEngine.Schema.Finding
import SuiteEngine.Suite.Expectation

/-!
# Putting a response to an expectation

`evaluate` makes every check that an expectation declares, one after the other, whatever the outcome of
the others. A check fails by its outcome; only a schema or a pattern that cannot be followed at all
keeps a report from being made.
-/

namespace SuiteEngine.Matching

/-!
## Outcomes of checks

Every check of an expectation has an outcome of its own; a report is all of them, in the order of the
checks.
-/

/-- The outcome of one check. -/
structure Outcome where
  check : String
  passed : Bool
  /-- What was expected and what was found. -/
  message : String
deriving DecidableEq, Repr

/-- The outcomes of all checks of an expectation. -/
abbrev Report := List Outcome

namespace Report

/-- Whether every check passed. -/
def passed (r : Report) : Bool := r.all Outcome.passed

/-- The outcomes of the checks that failed. -/
def failures (r : Report) : List Outcome := r.filter fun o => !o.passed

/-- What the failed checks say, a line each. -/
def failureMessage (r : Report) : String := "\n".intercalate (r.failures.map Outcome.message)

end Report

open Suite (Expectation PathExpectation StatusRange)

/-! ## Single checks -/

/-- Whether two values are the same number or otherwise equal, a truth value counting as a number. -/
def sameNumber (a b : Value) : Bool :=
  match a.asNumber?, b.asNumber? with
  | some x, some y => Exact.eq x y
  | _, _ => a.deepEqual b

/-- Whether the first number is at most the second, a truth value counting as a number. -/
def atMost (a b : Value) : Bool :=
  match a.asNumber?, b.asNumber? with
  | some x, some y => Exact.le x y
  | _, _ => false

/-- The status is the one expected. -/
def checkStatus (expected actual : Value) : Outcome :=
  ⟨"status", sameNumber actual expected,
    "Expected status " ++ expected.text ++ ", got " ++ actual.text⟩

/-- The status lies in the range. -/
def checkStatusRange (range : StatusRange) (actual : Value) : Outcome :=
  ⟨"statusRange", atMost range.min actual && atMost actual range.max,
    "Expected status in [" ++ range.min.text ++ ", " ++ range.max.text ++ "], got " ++ actual.text⟩

/-- The body contains the value. -/
def checkBodyContains (expected body : Value) : Outcome :=
  ⟨"bodyContains", body.deepContains expected,
    "Response body should contain " ++ expected.display ++ ", got " ++ body.display⟩

/-- The body is the value. -/
def checkBodyExact (expected body : Value) : Outcome :=
  ⟨"bodyExact", body.deepEqual expected,
    "Response body should exactly match " ++ expected.display ++ ", got " ++ body.display⟩

/-- The outcome of a check against a schema with these issues. -/
def schemaOutcome (issues : List Issue) : Outcome :=
  ⟨"bodySchema", issues.isEmpty,
    if issues.isEmpty then "Response body matches the declared schema"
    else "Schema validation failed:\n" ++ "\n".intercalate (issues.map Issue.render)⟩

/-- The body meets the schema. -/
def checkBodySchema (schema body : Value) : Except Failure Outcome :=
  match Schema.check schema body with
  | .ok issues => .ok (schemaOutcome issues)
  | .error f => .error f.failure

/-! ## Parts of the body -/

/-- The outcome of a check of one part. -/
def pathOutcome (path check : String) (passed : Bool) (message : String) : Outcome :=
  ⟨"bodyPath[" ++ path ++ "]." ++ check, passed, message⟩

/-- The part is the value. -/
def checkPathEquals (path : String) (expected actual : Value) : Outcome :=
  pathOutcome path "equals" (actual.deepEqual expected)
    (path ++ " should equal " ++ expected.display ++ ", got " ++ actual.display)

/-- The part contains the value. -/
def checkPathContains (path : String) (expected actual : Value) : Outcome :=
  pathOutcome path "contains" (actual.deepContains expected)
    (path ++ " should contain " ++ expected.display ++ ", got " ++ actual.display)

/-- The part has the type. -/
def checkPathType (path type : String) (actual : Value) : Outcome :=
  pathOutcome path "type" (actual.typeTags.contains type)
    (path ++ " should be type " ++ type ++ ", got " ++ actual.primaryType)

/-- The length of a text or an array. -/
def lengthOf? : Value → Option Nat
  | .str s => some s.length
  | v => v.items?.map List.length

/-- The part has a length, and one within the bound. -/
def checkPathLength (check relation : String) (holds : Value → Value → Bool) (path : String)
    (bound actual : Value) : Outcome :=
  let wanted := path ++ " length should be " ++ relation ++ " " ++ bound.text
  match lengthOf? actual with
  | some n => pathOutcome path check (holds (.int n) bound) (wanted ++ ", got " ++ toString n)
  | none =>
    pathOutcome path check false
      (wanted ++ ", but a value of type " ++ actual.primaryType ++ " has no length")

/-- The part as text has a stretch that matches the pattern. -/
def checkPathRegex (path pattern : String) (actual : Value) : Except Failure Outcome :=
  match Pattern.parse pattern with
  | .ok p =>
    .ok (pathOutcome path "regex" (p.search actual.display)
      (path ++ " should match /" ++ pattern ++ "/, got " ++ Text.quoted actual.display))
  | .error e =>
    if e.isSyntax then
      .ok (pathOutcome path "regex" false
        (path ++ " regex " ++ Text.quoted pattern ++ " is invalid: " ++ e.message pattern))
    else .error (e.failure pattern)

/-- A check of a value that may be absent. -/
def whenPresent (v : Value) (check : Value → Outcome) : Report :=
  if v.isMissing then [] else [check v]

/-- The checks of one part of the body. -/
def checkPath (e : PathExpectation) (body : Value) : Except Failure Report := do
  let actual := body.deepGet e.path
  let regex ← e.regex.toList.mapM fun pattern => checkPathRegex e.path pattern actual
  return whenPresent e.equals (checkPathEquals e.path · actual)
    ++ whenPresent e.contains (checkPathContains e.path · actual)
    ++ e.type.toList.map (checkPathType e.path · actual)
    ++ e.minLength.toList.map
      (checkPathLength "minLength" ">=" (fun n bound => atMost bound n) e.path · actual)
    ++ e.maxLength.toList.map (checkPathLength "maxLength" "<=" atMost e.path · actual)
    ++ regex

/-! ## The response as a whole -/

/-- The header has the text. -/
def checkHeader (name expected : String) (observed : Http.Response) : Outcome :=
  let actual := observed.header name
  ⟨"headers[" ++ Text.lower name ++ "]", actual == some expected,
    "Header " ++ name ++ " should be " ++ Text.quoted expected ++ ", got "
      ++ (match actual with
        | some s => Text.quoted s
        | none => "undefined")⟩

/-- A number of milliseconds in a message. -/
def shownMilliseconds (v : Value) : Except Failure String :=
  match v.toFloat? with
  | some x => .ok (floatGeneral x)
  | none => .error ⟨.other "OverflowError", "int too large to convert to float"⟩

/-- The response did not take longer than allowed. -/
def checkResponseTime (maximum elapsed : Value) : Except Failure Outcome := do
  let took ← shownMilliseconds elapsed
  let allowed ← shownMilliseconds maximum
  return ⟨"responseTime", atMost elapsed maximum,
    "Response took " ++ took ++ "ms (max " ++ allowed ++ "ms)"⟩

/-- Makes every check of the expectation. -/
def evaluate (e : Expectation) (observed : Http.Response) : Except Failure Report := do
  let body := observed.body
  let schema ← e.bodySchema.toList.mapM fun s => checkBodySchema s body
  let paths ← e.bodyPath.mapM fun p => checkPath p body
  let time ← e.responseTime.toList.mapM fun limit => checkResponseTime limit observed.elapsed
  return e.status.toList.map (checkStatus · observed.status)
    ++ e.statusRange.toList.map (checkStatusRange · observed.status)
    ++ whenPresent e.bodyContains (checkBodyContains · body)
    ++ whenPresent e.bodyExact (checkBodyExact · body)
    ++ schema
    ++ paths.flatten
    ++ e.headers.map (fun (name, expected) => checkHeader name expected observed)
    ++ time

end SuiteEngine.Matching
