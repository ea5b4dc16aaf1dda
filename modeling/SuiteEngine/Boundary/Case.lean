import SuiteEngine.Boundary.Catalogue
import SuiteEngine.Boundary.Field
import SuiteEngine.Json.Print

/-!
# Cases at the edges of a field's domain

`Field.cases` lists values for a field, each with whether the field may have it; a required field
starts with being absent and being null. `negativePayloads` puts each value that a field may not have
into a valid payload, one at a time. The order of cases is fixed, and ranges are taken as they are: a
range whose end lies before its start gives what the rules say.

Some cases are named after a bound. `casesOf` and `payloadsOf` fail where a bound is too long for that.
-/

namespace SuiteEngine.Boundary

/-- A value for a field and whether the field may have it. -/
structure Case where
  description : String
  field : String
  value : Value
  valid : Bool

/-- A case of a field, with a label of its own. -/
def Field.case (f : Field) (label : String) (value : Value) (valid : Bool) : Case :=
  { description := f.name ++ ": " ++ label, field := f.name, value, valid }

/-- The longest text that a field without a limit of its own may have. -/
def defaultMaxLength : Nat := 255

/-- The cases of a text. -/
def Field.stringCases (f : Field) : List Case :=
  let min := f.minLength.getD 0
  let max := f.maxLength.getD defaultMaxLength
  [f.case "empty string" (.str "") (min == 0),
    f.case ("at minLength (" ++ toString min ++ ")") (.str (filler min)) true,
    f.case "below minLength" (.str (filler (min - 1))) (min ≤ 1),
    f.case ("at maxLength (" ++ toString max ++ ")") (.str (filler max)) true,
    f.case "above maxLength" (.str (filler (max + 1))) false,
    f.case "unicode" (.str unicodeSample) true,
    f.case "XSS attempt" (.str markupSample) false,
    f.case "SQL injection" (.str querySample) false]

/-- The cases of an address for electronic mail. -/
def Field.emailCases (f : Field) : List Case :=
  emailSamples.map fun s => f.case s.label (.str s.address) s.valid

/-- The cases of a number; an integer may also not have a fraction. -/
def Field.numericCases (f : Field) (integral : Bool) : List Case :=
  let min := f.min.getD (.int (-maxSafeInteger))
  let max := f.max.getD (.int maxSafeInteger)
  [f.case "zero" (.int 0) (min.le (.int 0) && (Bound.int 0).le max),
    f.case ("at min (" ++ min.label ++ ")") min.value true,
    f.case "below min" (min.shift (-1)).value false,
    f.case ("at max (" ++ max.label ++ ")") max.value true,
    f.case "above max" (max.shift 1).value false,
    f.case "negative" (.int (-1)) (min.le (.int (-1))),
    f.case "NaN" (.float (0.0 / 0.0)) false,
    f.case "string instead" (.str "not-a-number") false] ++
  (if integral then [f.case "float" (.float 1.5) false] else [])

/-- The cases of a truth value. -/
def Field.booleanCases (f : Field) : List Case :=
  [f.case "true" (.bool true) true,
    f.case "false" (.bool false) true,
    f.case "string \"true\"" (.str "true") false,
    f.case "number 1" (.int 1) false,
    f.case "number 0" (.int 0) false]

/-- The cases of the kind of the field. -/
def Field.typeCases (f : Field) : List Case :=
  match f.type with
  | .string => f.stringCases
  | .email => f.emailCases
  | .number => f.numericCases false
  | .integer => f.numericCases true
  | .boolean => f.booleanCases

/-- The cases of a field, in order. -/
def Field.cases (f : Field) : List Case :=
  (if f.required then
    [f.case "missing (undefined)" .missing false, f.case "null" .null false]
   else []) ++ f.typeCases

/-- A payload in which one field has a value that it may not have. -/
structure NegativePayload where
  description : String
  field : String
  payload : List (String × Value)

/-- The payload with the value of the case in its field; without the field when the value is absence. -/
def Case.applyTo (c : Case) (payload : List (String × Value)) : List (String × Value) :=
  match c.value with
  | .missing => Value.erase c.field payload
  | v => Value.insert c.field v payload

/-- One payload for every case whose value is not allowed, in the order of the fields and cases. -/
def negativePayloads (payload : List (String × Value)) (fields : List Field) :
    List NegativePayload :=
  fields.flatMap fun f =>
    (f.cases.filter fun c => !c.valid).map fun c =>
      { description := c.description, field := c.field, payload := c.applyTo payload }

/-! ## Names of cases -/

/-- Whether the bound can be written into the name of a case. -/
def Bound.nameable : Bound → Bool
  | .int n => Json.intFits n
  | .float _ => true

/-- Whether all cases of the field can be named. -/
def Field.nameable (f : Field) : Bool :=
  match f.type with
  | .string => (f.minLength.toList ++ f.maxLength.toList).all fun n => Json.intFits n
  | .number => (f.min.toList ++ f.max.toList).all Bound.nameable
  | .integer => (f.min.toList ++ f.max.toList).all Bound.nameable
  | .email => true
  | .boolean => true

/-- The failure that a case is which cannot be named. -/
def unnameable : Failure := ⟨.other "ValueError", Text.tooLongToWrite⟩

/-- The cases of some fields, in order. -/
def casesOf (fields : List Field) : Except Failure (List Case) :=
  if fields.all Field.nameable then .ok (fields.flatMap Field.cases) else .error unnameable

/-- The negative payloads for some fields, in order. -/
def payloadsOf (payload : List (String × Value)) (fields : List Field) :
    Except Failure (List NegativePayload) :=
  if fields.all Field.nameable then .ok (negativePayloads payload fields) else .error unnameable

/-! ## Ranges -/

/-- Seven values at and between the edges of a range. -/
def rangeProbes (min max : Bound) : List Bound :=
  [min.shift (-1), min, min.shift 1, min.middle max, max.shift (-1), max, max.shift 1]

/-- Eight texts with lengths at and between the edges of a range; none is shorter than empty. -/
def lengthProbes (min max : Int) : List String :=
  [0, min - 1, min, min + 1, (min + max).fdiv 2, max - 1, max, max + 1].map fun n =>
    filler n.toNat

end SuiteEngine.Boundary
