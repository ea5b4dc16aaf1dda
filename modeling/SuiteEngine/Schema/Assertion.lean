import SuiteEngine.Document.Compare
import SuiteEngine.Schema.Dialect
import SuiteEngine.Schema.Finding
import SuiteEngine.Schema.Format

/-!
# Demands on a value alone

The keywords that can be decided without looking at another schema: types, limits, texts and the names
of properties. Each gives the findings for one value; `name` is the key as written.
-/

/-!
## Equality of values under a schema

Schemas compare numbers by what they denote and never take a truth value for a number.
-/

namespace SuiteEngine.Schema

/-- Whether the list has two equal items. -/
def hasDuplicate : List Value → Bool
  | [] => false
  | x :: xs => xs.any (fun y => x.deepEqual y) || hasDuplicate xs

end SuiteEngine.Schema

namespace SuiteEngine.Schema.Assertion

/-- Values in a message, one after the other. -/
def listed (vs : List Value) : String := ", ".intercalate (vs.map Value.inspect)

/-- The values in a message and the verb that goes with their number. -/
def listedWithVerb (vs : List Value) : String :=
  listed vs ++ (if vs.length = 1 then " was" else " were")

/-- The value itself where it is an array, else an array of it alone. -/
def asList : Value → List Value
  | .list xs => xs
  | v => [v]

/-- Whether the value has the type that `name` names; an unknown type is a fault. -/
def hasType (d : Dialect) (schema data name : Value) : Except Fault Bool :=
  match name with
  | .str s =>
    match d.hasType? data s with
    | some b => .ok b
    | none => .error (.unknownType name schema data)
  | _ => .error (.unknownType name schema data)

/-- Whether the value has one of the types. -/
def hasSomeType (d : Dialect) (schema data : Value) : List Value → Except Fault Bool
  | [] => .ok false
  | name :: rest => do
    let b ← hasType d schema data name
    if b then return true else hasSomeType d schema data rest

/-- To have one of the named types. -/
def type (d : Dialect) (schema : Value) (name : String) (value data : Value) : List Finding :=
  let types := asList value
  Finding.deciding (hasSomeType d schema data types) fun b =>
    if b then [] else Finding.of name value (data.inspect ++ " is not of type " ++ listed types)

/-- To be one of the listed values. -/
def enum (name : String) (value data : Value) : List Finding :=
  if (asList value).any (fun v => v.deepEqual data) then []
  else Finding.of name value (data.inspect ++ " is not one of " ++ value.inspect)

/-- To be the given value. -/
def const (name : String) (value data : Value) : List Finding :=
  if data.deepEqual value then [] else Finding.of name value (value.inspect ++ " was expected")

/-- Compares a number with a limit. -/
def compares (test : Exact → Exact → Bool) (data limit : Value) : Bool :=
  match data.denoted?, limit.denoted? with
  | some x, some y => test x y
  | _, _ => false

/-- A limit that a number must not pass. -/
def limit (fails : Exact → Exact → Bool) (relation kind : String) (name : String)
    (value data : Value) : List Finding :=
  if compares fails data value then
    Finding.of name value (data.inspect ++ " is " ++ relation ++ " the " ++ kind ++ " of "
      ++ value.inspect)
  else []

/-- The other direction of a comparison. -/
def flipped (test : Exact → Exact → Bool) (x y : Exact) : Bool := test y x

/-- Not to lie below the limit. -/
def minimum : String → Value → Value → List Finding := limit Exact.lt "less than" "minimum"

/-- Not to lie above the limit. -/
def maximum : String → Value → Value → List Finding :=
  limit (flipped Exact.lt) "greater than" "maximum"

/-- To lie above the limit. -/
def exclusiveMinimum : String → Value → Value → List Finding :=
  limit Exact.le "less than or equal to" "minimum"

/-- To lie below the limit. -/
def exclusiveMaximum : String → Value → Value → List Finding :=
  limit (flipped Exact.le) "greater than or equal to" "maximum"

/-- Whether the first fraction is no multiple of the second. -/
def remains (x y : Nat × Nat) : Bool := x.1 * y.2 % (y.1 * x.2) != 0

/-- Whether a float is no multiple of a float, going by their quotient as far as it is finite. -/
def floatRemains (x y : Float) : Except Fault Bool :=
  let quotient := x / y
  if quotient.isNaN then .error .notANumber
  else if quotient.isInf then
    match floatRatio x, floatRatio y with
    | some a, some b => .ok (remains a b)
    | _, _ => .error .infiniteRatio
  else .ok (!floatIsIntegral quotient)

/-- Whether a number is no multiple of another. -/
def isNoMultiple (data divisor : Value) : Except Fault Bool :=
  match data, divisor with
  | .int n, .int m => .ok (n % m != 0)
  | .float x, .int m =>
    match Value.intToFloat? m with
    | none => .error .integerTooLarge
    | some _ =>
      match floatRatio x with
      | some a => .ok (remains a (m.natAbs, 1))
      | none => .ok true
  | .int n, .float y =>
    match Value.intToFloat? n with
    | some x => floatRemains x y
    | none => .error .integerTooLarge
  | .float x, .float y => floatRemains x y
  | _, _ => .ok false

/-- To be a multiple. -/
def multipleOf (name : String) (value data : Value) : List Finding :=
  Finding.deciding (isNoMultiple data value) fun b =>
    if b then Finding.of name value (data.inspect ++ " is not a multiple of " ++ value.inspect)
    else []

/-- Whether a limit is a given small number. -/
def isLimit (value : Value) (n : Int) : Bool := compares Exact.eq value (.int n)

/-- Not to be shorter than a limit; `short` says so where the limit is more than one. -/
def notShorter (short : String) (length : Nat) (name : String) (value data : Value) : List Finding :=
  if compares Exact.lt (.int length) value then
    Finding.of name value
      (data.inspect ++ " " ++ (if isLimit value 1 then "should be non-empty" else short))
  else []

/-- Not to be longer than a limit; `long` says so where the limit is not zero. -/
def notLonger (long : String) (length : Nat) (name : String) (value data : Value) : List Finding :=
  if compares (flipped Exact.lt) (.int length) value then
    Finding.of name value
      (data.inspect ++ " " ++ (if isLimit value 0 then "is expected to be empty" else long))
  else []

/-- A demand on texts. -/
def onText (demand : String → List Finding) : Value → List Finding
  | .str s => demand s
  | _ => []

/-- A demand on arrays. -/
def onArray (demand : List Value → List Finding) : Value → List Finding
  | .list xs => demand xs
  | _ => []

/-- A demand on objects. -/
def onObject (demand : List (String × Value) → List Finding) : Value → List Finding
  | .obj fs => demand fs
  | _ => []

/-- To have no two equal items. -/
def uniqueItems (name : String) (value data : Value) : List Finding :=
  onArray (fun xs =>
    if value.truthy && hasDuplicate xs then
      Finding.of name value (data.inspect ++ " has non-unique elements")
    else []) data

/-- Whether the pattern occurs in the text; a pattern that cannot be read is a fault. -/
def occurs (pattern text : String) : Except Fault Bool :=
  match Pattern.parse pattern with
  | .ok p => .ok (p.search text)
  | .error e => .error (.pattern e pattern)

/-- To have a stretch that matches the pattern. -/
def pattern (name : String) (value data : Value) : List Finding :=
  onText (fun s =>
    Finding.deciding (occurs value.text s) fun b =>
      if b then [] else Finding.of name value (data.inspect ++ " does not match " ++ value.inspect))
    data

/-- To have the named format. -/
def format (name : String) (value data : Value) : List Finding :=
  onText (fun s =>
    Finding.deciding (Format.admits value.text s) fun b =>
      if b then [] else Finding.of name value (data.inspect ++ " is not a " ++ value.inspect))
    data

/-- Whether an object has the key. -/
def hasKey (fs : List (String × Value)) : Value → Bool
  | .str k => (Value.lookup k fs).isSome
  | _ => false

/-- To have each of the listed properties. -/
def required (name : String) (value data : Value) : List Finding :=
  onObject (fun fs =>
    (asList value).flatMap fun key =>
      if hasKey fs key then [] else Finding.of name value (key.inspect ++ " is a required property"))
    data

/-- To have the listed properties wherever the property they depend on is there. -/
def needed (name : String) (value : Value) (fs : List (String × Value)) (property : String)
    (others : List Value) : List Finding :=
  others.flatMap fun key =>
    if hasKey fs key then []
    else Finding.of name value (key.inspect ++ " is a dependency of " ++ Text.quoted property)

/-- To have the properties that those present depend on. -/
def dependentRequired (name : String) (value data : Value) : List Finding :=
  onObject (fun fs =>
    value.fields.flatMap fun (property, others) =>
      if hasKey fs (.str property) then needed name value fs property (asList others) else []) data

end SuiteEngine.Schema.Assertion
