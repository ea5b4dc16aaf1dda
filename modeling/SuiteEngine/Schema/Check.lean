import SuiteEngine.Json.Print
import SuiteEngine.Schema.Compile
import SuiteEngine.Schema.Finding

/-!
# Checking a value against a schema

`check` puts a value to a schema that comes with a document: first the schema has to be one, then the
value has to meet it. The answer is every issue, in the order of their places.
-/

/-!
## Issues

An issue says what is wrong with a part of a document: the place of the part, a message, and what
belongs to the message.
-/

namespace SuiteEngine

/-- One thing that is wrong with a document. -/
structure Issue where
  /-- The place of the part, empty for the whole document. -/
  path : String
  message : String
  /-- What belongs to the message, as named values. -/
  params : List (String × Value)

namespace Issue

/-- An issue of the whole document. -/
def whole (message : String) : Issue := ⟨"", message, []⟩

/-- The issue on one line. -/
def render (i : Issue) : String :=
  (if i.path = "" then "/" else i.path) ++ " " ++ i.message ++ " "
    ++ Json.render .sortedLine (.obj i.params)

/-- A place as text: every step after a slash. -/
def placeOf (path : List Schema.Step) : String := String.join (path.map fun s => "/" ++ s.text)

/-- The issue for a violation of a schema. -/
def ofViolation (v : Schema.Violation) : Issue :=
  ⟨placeOf v.path, v.message,
    [("keyword", (v.keyword.map Value.str).getD .null), ("schema", v.value)]⟩

/-- The issues in the order of their places. -/
def sorted (issues : List Issue) : List Issue := issues.mergeSort fun a b => decide (a.path ≤ b.path)

end Issue

end SuiteEngine

namespace SuiteEngine.Schema

/-- The issue of a schema that is none. -/
def invalid (v : Violation) : Issue :=
  ⟨"", "invalid schema: " ++ v.message, [("keyword", (v.keyword.map Value.str).getD .null)]⟩

/-- The issues of the value under a schema of the given dialect, without a look at the schema. -/
def issues (d : Dialect) (schema data : Value) : Except Fault (List Issue) := do
  let found ← Finding.collect (validate .known d schema data)
  return Issue.sorted (found.map Issue.ofViolation)

/-- The issues of the value under a compiled schema, or the one issue that the schema is none. -/
def answer (data : Value) : Except Refusal Compiled → Except Fault (List Issue)
  | .ok c => issues c.dialect c.schema data
  | .error (.invalid v) => .ok [invalid v]
  | .error (.fault f) => .error f

/-- The issues of the value under a schema, and what is kept after they were asked for. -/
def Kept.check (kept : Kept) (schema data : Value) : Except Fault (List Issue) × Kept :=
  if Json.writable schema then
    let (compiled, kept) := kept.compile (canonical schema)
    (answer data compiled, kept)
  else (.error .unwritable, kept)

/-- The issues of the value under a schema, or the one issue that the schema is none. -/
def check (schema data : Value) : Except Fault (List Issue) := (Kept.check [] schema data).1

end SuiteEngine.Schema
