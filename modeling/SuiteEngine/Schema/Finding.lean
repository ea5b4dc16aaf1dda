import SuiteEngine.Document.Inspect
import SuiteEngine.Failure
import SuiteEngine.Pattern.Syntax
import SuiteEngine.Text.Numeral

/-!
# What a validation finds

A validation gives a sequence of findings: violations of the schema, each with its place in the value,
and faults, which end the validation because the schema itself cannot be followed.

* `Finding.collect`: all violations, or the first fault.
* `Finding.passes`: whether there is no violation, decided by the first finding alone.
-/

namespace SuiteEngine.Schema

/-- A step from a value to one of its parts. -/
inductive Step where
  | key (k : String)
  | index (i : Nat)
deriving DecidableEq, Repr

/-- The step as text. -/
def Step.text : Step → String
  | key k => k
  | index i => toString i

/-- One violation of a schema. -/
structure Violation where
  /-- The way to the part that violates the schema. -/
  path : List Step
  message : String
  /-- The keyword that is violated; none for the schema that allows nothing. -/
  keyword : Option String
  /-- What the keyword is bound to. -/
  value : Value

/-- A violation of a keyword at the value itself. -/
def Violation.at (keyword : String) (value : Value) (message : String) : Violation :=
  ⟨[], message, some keyword, value⟩

/-- What ends a validation. -/
inductive Fault where
  /-- The schema leads deeper than any validation goes. -/
  | tooDeep
  /-- A reference leads nowhere: the kind of failure and its description. -/
  | unresolved (kind description : String)
  /-- A reference goes into an array by something that is no number. -/
  | badIndex (text : String)
  /-- A pattern cannot be read. -/
  | pattern (e : Pattern.Error) (text : String)
  /-- Something that is no schema stands where one is needed. -/
  | notASchema (v : Value)
  /-- A value that no dialect address can be read from. -/
  | badDialect (v : Value)
  /-- The value bound to a keyword has no length. -/
  | noLength (v : Value)
  /-- A type name that the dialect does not know. -/
  | unknownType (name schema data : Value)
  /-- A quotient that is no number. -/
  | notANumber
  /-- An infinite number where a fraction is needed. -/
  | infiniteRatio
  /-- An integer beyond all floats. -/
  | integerTooLarge
  /-- The schema has an integer with too many digits to be written. -/
  | unwritable
  /-- The text of a schema is no JSON. -/
  | unreadable (message : String)

/-- The wording of a fault. -/
def Fault.message : Fault → String
  | tooDeep => "maximum recursion depth exceeded"
  | unresolved kind description => kind ++ ": " ++ description
  | badIndex text => "invalid literal for int() with base 10: " ++ Text.quoted text
  | pattern e text => e.message text
  | notASchema v =>
    match v with
    | .str _ => "'str' object has no attribute 'get'"
    | .list _ => "'list' object has no attribute 'get'"
    | v => "argument of type '" ++ v.kindName ++ "' is not iterable"
  | badDialect v =>
    match v with
    | .list _ => "unhashable type: 'list'"
    | .obj _ => "unhashable type: 'dict'"
    | v => "'" ++ v.kindName ++ "' object has no attribute 'decode'"
  | noLength v => "object of type '" ++ v.kindName ++ "' has no len()"
  | unknownType name schema data =>
    "Unknown type " ++ name.inspect ++ " for validator with schema:\n    " ++ schema.inspect
      ++ "\n\nWhile checking instance:\n    " ++ data.inspect
  | notANumber => "cannot convert float NaN to integer"
  | infiniteRatio => "cannot convert Infinity to integer ratio"
  | integerTooLarge => "int too large to convert to float"
  | unwritable => Text.tooLongToWrite
  | unreadable message => message

/-- One finding of a validation. -/
inductive Finding where
  | violation (v : Violation)
  | fault (f : Fault)

namespace Finding

/-- The findings seen from one step further out. -/
def under (s : Step) (findings : List Finding) : List Finding :=
  findings.map fun
    | violation v => violation { v with path := s :: v.path }
    | fault f => fault f

/-- A violation of a keyword. -/
def of (keyword : String) (value : Value) (message : String) : List Finding :=
  [violation (Violation.at keyword value message)]

/-- The first fault, where there is one. -/
def fault? : List Finding → Option Fault
  | [] => none
  | violation _ :: rest => fault? rest
  | fault f :: _ => some f

/-- The violations before the first fault. -/
def violations : List Finding → List Violation
  | [] => []
  | violation v :: rest => v :: violations rest
  | fault _ :: _ => []

/-- All violations, or the first fault. -/
def collect (findings : List Finding) : Except Fault (List Violation) :=
  match fault? findings with
  | some f => .error f
  | none => .ok (violations findings)

/-- Whether there is no violation; a fault that comes first is the answer instead. -/
def passes : List Finding → Except Fault Bool
  | [] => .ok true
  | violation _ :: _ => .ok false
  | fault f :: _ => .error f

/-- Goes on with the verdict, or ends with the fault. -/
def deciding (verdict : Except Fault Bool) (next : Bool → List Finding) : List Finding :=
  match verdict with
  | .ok b => next b
  | .error f => [fault f]

/-- Those of the items for which the verdict is positive. -/
def selecting {α : Type} (p : α → Except Fault Bool) : List α → Except Fault (List α)
  | [] => .ok []
  | x :: xs => do
    let keep ← p x
    let rest ← selecting p xs
    return if keep then x :: rest else rest

end Finding

end SuiteEngine.Schema

/-! ## Faults of schemas and patterns as failures -/

namespace SuiteEngine

/-- The name of a kind of fault in a pattern. -/
def Pattern.Error.name (e : Pattern.Error) : String :=
  match e.fault with
  | .repetitionTooLarge => "OverflowError"
  | .incompatibleModes => "ValueError"
  | _ => "error"

/-- A pattern that cannot be read, as a failure. -/
def Pattern.Error.failure (e : Pattern.Error) (pattern : String) : Failure :=
  ⟨.other e.name, e.message pattern⟩

namespace Schema.Fault

/-- The name of a kind of fault. -/
def name : Fault → String
  | tooDeep => "RecursionError"
  | unresolved _ _ => "_WrappedReferencingError"
  | badIndex _ => "ValueError"
  | pattern e _ => e.name
  | notASchema v =>
    match v with
    | .str _ => "AttributeError"
    | .list _ => "AttributeError"
    | _ => "TypeError"
  | badDialect v =>
    match v with
    | .list _ => "TypeError"
    | .obj _ => "TypeError"
    | _ => "AttributeError"
  | noLength _ => "TypeError"
  | unknownType _ _ _ => "UnknownType"
  | notANumber => "ValueError"
  | infiniteRatio => "OverflowError"
  | integerTooLarge => "OverflowError"
  | unwritable => "ValueError"
  | unreadable _ => "JSONDecodeError"

/-- A fault as a failure. -/
def failure (f : Fault) : Failure := ⟨.other f.name, f.message⟩

end Schema.Fault

end SuiteEngine
