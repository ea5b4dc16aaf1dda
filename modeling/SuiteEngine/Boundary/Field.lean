import SuiteEngine.Boundary.Number
import SuiteEngine.Failure
import SuiteEngine.Files.Tree
import SuiteEngine.Text.Blank
import SuiteEngine.Yaml.Datum
import SuiteEngine.Yaml.Read

/-!
# The domain of a payload field

A `Field` says what values one field of a payload may have. It is read from a mapping, whose keys may
be spelled in either of two ways; `Field.ofDatum` names the first thing that is wrong with it.
-/

namespace SuiteEngine.Boundary

open Yaml (Datum)

/-- The kind of values a field has. -/
inductive FieldType where
  | string
  | number
  | integer
  | email
  | boolean
deriving DecidableEq, Repr

namespace FieldType

/-- All kinds, in the order in which messages list them. -/
def all : List FieldType := [string, number, integer, email, boolean]

/-- The word for a kind. -/
def word : FieldType → String
  | string => "string"
  | number => "number"
  | integer => "integer"
  | email => "email"
  | boolean => "boolean"

/-- The kind with this word. -/
def ofWord? (w : String) : Option FieldType := all.find? fun t => t.word == w

end FieldType

/-- What values a field of a payload may have. -/
structure Field where
  name : String
  type : FieldType
  minLength : Option Nat
  maxLength : Option Nat
  min : Option Bound
  max : Option Bound
  required : Bool

/-- Why a mapping describes no field. -/
inductive FieldError where
  | noName
  | unknownType (field : String) (type : Datum)
  | badLength (field key : String)
  | badBound (field key : String)

/-- The wording of what is wrong with a field. -/
def FieldError.message : FieldError → String
  | noName => "Field spec requires a non-empty 'name'."
  | unknownType field type =>
    "Field '" ++ field ++ "' has unsupported type " ++ type.inspect ++ "; expected one of " ++
      ", ".intercalate (FieldType.all.map FieldType.word) ++ "."
  | badLength field key =>
    "Field '" ++ field ++ "': '" ++ key ++ "' must be a non-negative integer."
  | badBound field key => "Field '" ++ field ++ "': '" ++ key ++ "' must be a number."

/-- The kind of failure that a description of fields without meaning is. -/
def specKind : Failure.Kind := .other "FieldSpecError"

/-- A description of fields without meaning, as a failure. -/
def specError (message : String) : Failure := { kind := specKind, message }

/-- The failure that a faulty field is. -/
def FieldError.failure (e : FieldError) : Failure := specError e.message

namespace Field

/-- The length under `key`, or under its other spelling when there is nothing under `key`. -/
def length? (d : Datum) (field key otherKey : String) : Except FieldError (Option Nat) :=
  match (d.get? key).or (d.get? otherKey) with
  | none => .ok none
  | some (.plain .null) => .ok none
  | some (.plain (.int n)) => if n < 0 then .error (.badLength field key) else .ok (some n.toNat)
  | some _ => .error (.badLength field key)

/-- The bound under `key`. -/
def bound? (d : Datum) (field key : String) : Except FieldError (Option Bound) :=
  match d.get? key with
  | none => .ok none
  | some (.plain .null) => .ok none
  | some (.plain (.int n)) => .ok (some (.int n))
  | some (.plain (.float x)) => .ok (some (.float x))
  | some _ => .error (.badBound field key)

/-- The name of the field, which is not blank. -/
def name? (d : Datum) : Except FieldError String :=
  match (d.get? "name").bind Datum.str? with
  | some name => if Text.trim name == "" then .error .noName else .ok name
  | none => .error .noName

/-- The kind of the field. -/
def type? (d : Datum) (field : String) : Except FieldError FieldType :=
  let given := (d.get? "type").getD (.plain .null)
  match given.str?.bind FieldType.ofWord? with
  | some t => .ok t
  | none => .error (.unknownType field given)

/-- The field that a mapping describes. -/
def ofDatum (d : Datum) : Except FieldError Field := do
  let name ← name? d
  return {
    name
    type := ← type? d name
    minLength := ← length? d name "minLength" "min_length"
    maxLength := ← length? d name "maxLength" "max_length"
    min := ← bound? d name "min"
    max := ← bound? d name "max"
    required := ((d.get? "required").map Datum.truthy).getD false }

/-- The field that an entry of a list describes. -/
def ofEntry (d : Datum) : Except Failure Field :=
  match d.entries? with
  | none => .error (specError "Each field spec must be a mapping.")
  | some _ => (ofDatum d).mapError FieldError.failure

/-- The fields that a document lists, itself or under `fields`. -/
def listOfDatum (d : Datum) : Except Failure (List Field) :=
  let listed := if d.entries?.isSome then (d.get? "fields").getD (.plain .null) else d
  match listed with
  | .list (e :: es) => (e :: es).mapM ofEntry
  | .loop false => .error (specError "Each field spec must be a mapping.")
  | _ => .error (specError "Field spec file must contain a non-empty list of fields.")

end Field

/-! ## Files that describe fields -/

/-- Reads the fields that a file describes. -/
def Field.load (files : Files.Tree) (path : Files.Path) : Except Failure (List Field) := do
  if !files.holds path then throw (specError ("Field spec file not found: " ++ path.text))
  let text ← (files.readText path).mapError Files.Fault.failure
  match Yaml.read text with
  | .ok d => Field.listOfDatum d
  | .error (.scalar f) => throw f.failure
  | .error .malformed => throw (specError ("Unable to parse field spec file " ++ path.text))

end SuiteEngine.Boundary
