import SuiteEngine.Failure
import SuiteEngine.Document.Inspect

/-!
# Fields of a suite document

A document that meets its schema has every field that reading asks for, and each of the kind that
reading takes it for. Reading one that was not checked fails on a field that is missing and on a value
that cannot be read as what it stands for; a field that is null counts as left out.
-/

namespace SuiteEngine.Suite

/-- Why a document cannot be read. -/
inductive ReadFault where
  | missingField (name : String)
  /-- A field has to be in something that is no object. -/
  | noObject (v : Value)
  /-- A field may be in something that is no object. -/
  | noFields (v : Value)
  /-- Something that has no items stands where items are read. -/
  | noItems (v : Value)
  /-- Something else stands where an object is copied. -/
  | noPairs (v : Value)

/-- The wording of the reason. -/
def ReadFault.message : ReadFault → String
  | missingField name => Text.quoted name
  | noObject v =>
    match v with
    | .list _ => "list indices must be integers or slices, not str"
    | .tuple _ => "tuple indices must be integers or slices, not str"
    | .bytes _ => "byte indices must be integers or slices, not str"
    | .str _ => "string indices must be integers, not 'str'"
    | v => "'" ++ v.kindName ++ "' object is not subscriptable"
  | noFields v => "'" ++ v.kindName ++ "' object has no attribute 'get'"
  | noItems v => "'" ++ v.kindName ++ "' object is not iterable"
  | noPairs v =>
    match v with
    | .str _ => "dictionary update sequence element #0 has length 1; 2 is required"
    | .list _ => "cannot convert dictionary update sequence element #0 to a sequence"
    | .tuple _ => "cannot convert dictionary update sequence element #0 to a sequence"
    | .bytes _ => "cannot convert dictionary update sequence element #0 to a sequence"
    | v => "'" ++ v.kindName ++ "' object is not iterable"

/-- The name of the kind of the reason. -/
def ReadFault.kindName : ReadFault → String
  | missingField _ => "KeyError"
  | noObject _ => "TypeError"
  | noFields _ => "AttributeError"
  | noItems _ => "TypeError"
  | noPairs v =>
    match v with
    | .str _ => "ValueError"
    | _ => "TypeError"

/-- The failure that a fault in a document is. -/
def ReadFault.failure (f : ReadFault) : Failure := ⟨.other f.kindName, f.message⟩

/-- A field that has to be there. -/
def need (document : Value) (name : String) : Except ReadFault Value :=
  match document with
  | .obj fs =>
    match Value.lookup name fs with
    | some v => .ok v
    | none => .error (.missingField name)
  | v => .error (.noObject v)

/-- A text that has to be there. -/
def needText (document : Value) (name : String) : Except ReadFault String :=
  (need document name).map Value.text

/-- Makes sure that there may be fields. -/
def mayHaveFields (document : Value) : Except ReadFault Unit :=
  match document with
  | .obj _ => .ok ()
  | v => .error (.noFields v)

/-- A field that may be left out. -/
def field? (document : Value) (name : String) : Option Value :=
  match document.get? name with
  | some .null => none
  | some v => some v
  | none => none

/-- A text that may be left out. -/
def text? (document : Value) (name : String) : Option String := (field? document name).map Value.text

/-- A field that is an object or an array and has something in it. -/
def filled? (document : Value) (name : String) : Option Value :=
  (field? document name).filter Value.truthy

/-- A field, absent when it is left out; an explicit null is not absent. -/
def orMissing (document : Value) (name : String) : Value := (document.get? name).getD .missing

/-- The items of a value: of a text its characters, of an object its keys. -/
def itemsOf : Value → Except ReadFault (List Value)
  | .list xs => .ok xs
  | .tuple xs => .ok xs
  | .str s => .ok (s.toList.map fun c => .str (String.ofList [c]))
  | .bytes b => .ok (b.map fun n => .int n.toNat)
  | .obj fs => .ok (fs.map fun (k, _) => .str k)
  | v => .error (.noItems v)

/-- The items of an array that may be left out. -/
def items (document : Value) (name : String) : Except ReadFault (List Value) :=
  match filled? document name with
  | some v => itemsOf v
  | none => .ok []

/-- The texts of an array that may be left out. -/
def texts (document : Value) (name : String) : Except ReadFault (List String) :=
  (items document name).map (List.map Value.text)

/-- The fields of an object that may be left out. -/
def fields (document : Value) (name : String) : Except ReadFault (List (String × Value)) :=
  match filled? document name with
  | some (.obj fs) => .ok fs
  | some v => .error (.noPairs v)
  | none => .ok []

/-- Values as texts, under the same names. -/
def asTexts (fs : List (String × Value)) : List (String × String) :=
  fs.map fun (k, v) => (k, v.text)

/-- The texts of an object of texts that may be left out. -/
def textFields (document : Value) (name : String) : Except ReadFault (List (String × String)) :=
  (fields document name).map asTexts

/-- Whether a flag is set; one that is left out is as given. -/
def flag (document : Value) (name : String) (otherwise : Bool) : Bool :=
  match document.get? name with
  | some v => v.truthy
  | none => otherwise

end SuiteEngine.Suite
