import SuiteEngine.Schema.Check
import SuiteEngine.Suite.ApiSchema
import SuiteEngine.Suite.UiSchema

/-!
# Kinds of suites

A suite tests an API or a user interface. Each kind has a schema that its documents have to meet.
-/

namespace SuiteEngine.Suite

/-- A kind of suite. -/
inductive Kind where
  | api
  | ui
deriving DecidableEq, Repr

namespace Kind

/-- The kind's name. -/
def text : Kind → String
  | api => "api"
  | ui => "ui"

/-- The kind with this name. -/
def ofText? : String → Option Kind
  | "api" => some api
  | "ui" => some ui
  | _ => none

/-- The schema of the kind's documents. -/
def schema : Kind → Value
  | api => ApiSchema.document
  | ui => UiSchema.document

/-- The issues of a document of this kind. -/
def issues (k : Kind) (document : Value) : Except Schema.Fault (List Issue) :=
  Schema.issues .draft7 k.schema document

end Kind

/-- The message for a kind that has no schema. -/
def noSchemaMessage (kind : String) : String :=
  "No bundled schema for suite kind " ++ Text.quoted kind ++ "."

/-- The issues of a document of the named kind. -/
def issuesOf (kind : String) (document : Value) : Except Schema.Fault (List Issue) :=
  match Kind.ofText? kind with
  | some k => k.issues document
  | none => .ok [.whole ("Unknown test type: \"" ++ kind ++ "\"")]

end SuiteEngine.Suite
