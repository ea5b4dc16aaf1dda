import SuiteEngine.Decimal.Exact

/-!
# Document values

The values that suite documents, requests and responses are made of. An object keeps its keys in the
order they were written; `missing` is the value that is absent, which is not the same as `null`.
-/

namespace SuiteEngine

/-- A document value. -/
inductive Value where
  | missing
  | null
  | bool (b : Bool)
  | int (n : Int)
  | float (x : Float)
  | str (s : String)
  | bytes (b : List UInt8)
  | list (items : List Value)
  | tuple (items : List Value)
  | obj (fields : List (String × Value))

namespace Value

instance : Inhabited Value := ⟨null⟩

/-- The value bound to `key`, if any. -/
def lookup (key : String) : List (String × Value) → Option Value
  | [] => none
  | (k, v) :: rest => if k = key then some v else lookup key rest

/-- Binds `key` to `v`: in place when the key is there already, else at the end. -/
def insert (key : String) (v : Value) : List (String × Value) → List (String × Value)
  | [] => [(key, v)]
  | (k, w) :: rest => if k = key then (k, v) :: rest else (k, w) :: insert key v rest

/-- The fields without `key`. -/
def erase (key : String) (fields : List (String × Value)) : List (String × Value) :=
  fields.filter fun (k, _) => k != key

/-- The fields of an object, none for any other value. -/
def fields : Value → List (String × Value)
  | obj fs => fs
  | _ => []

/-- The field `key` of an object. -/
def get? (v : Value) (key : String) : Option Value := lookup key v.fields

/-- The items of an array. -/
def items? : Value → Option (List Value)
  | list xs => some xs
  | tuple xs => some xs
  | _ => none

/-- Whether the value is an array. -/
def isSequence (v : Value) : Bool := v.items?.isSome

/-- Whether the value is a number; a truth value is none. -/
def isNumber : Value → Bool
  | int _ => true
  | float _ => true
  | _ => false

/-- Whether the value is absent. -/
def isMissing : Value → Bool
  | missing => true
  | _ => false

/-- Whether the value is the explicit null. -/
def isNull : Value → Bool
  | null => true
  | _ => false

/-- Whether a condition on the value holds: empty and zero values, null and absence do not. -/
def truthy : Value → Bool
  | missing => false
  | null => false
  | bool b => b
  | int n => n != 0
  | float x => x != 0.0
  | str s => s != ""
  | bytes b => !b.isEmpty
  | list xs => !xs.isEmpty
  | tuple xs => !xs.isEmpty
  | obj fs => !fs.isEmpty

/-- What values of this kind are called. -/
def kindName : Value → String
  | missing => "_Missing"
  | null => "NoneType"
  | bool _ => "bool"
  | int _ => "int"
  | float _ => "float"
  | str _ => "str"
  | bytes _ => "bytes"
  | list _ => "list"
  | tuple _ => "tuple"
  | obj _ => "dict"

/-- The text of a string value. -/
def str? : Value → Option String
  | str s => some s
  | _ => none

/-- The truth value or `none`. -/
def bool? : Value → Option Bool
  | bool b => some b
  | _ => none

mutual
/-- Whether a condition holds of a value and of all its parts. -/
def holdsEverywhere (p : Value → Bool) : Value → Bool
  | list xs => p (list xs) && holdsOfItems p xs
  | tuple xs => p (tuple xs) && holdsOfItems p xs
  | obj fs => p (obj fs) && holdsOfFields p fs
  | v => p v
/-- Whether it holds of all parts of the items. -/
def holdsOfItems (p : Value → Bool) : List Value → Bool
  | [] => true
  | x :: xs => holdsEverywhere p x && holdsOfItems p xs
/-- Whether it holds of all parts of the fields. -/
def holdsOfFields (p : Value → Bool) : List (String × Value) → Bool
  | [] => true
  | (_, v) :: fs => holdsEverywhere p v && holdsOfFields p fs
end

/-!
## Numbers among the document values

An integer and a float are compared by what they denote. `asNumber?` also takes a truth value for one
or zero, for the places where a condition on numbers is put to any value.
-/

/-- What a number denotes; `none` for a value that is no number. -/
def denoted? : Value → Option Exact
  | int n => some (intExact n)
  | float x => some (floatExact x)
  | _ => none

/-- As `denoted?`, a truth value counting as one or zero. -/
def asNumber? : Value → Option Exact
  | bool b => some (intExact (if b then 1 else 0))
  | v => v.denoted?

/-- The float nearest to an integer, unless it lies beyond all floats. -/
def intToFloat? (n : Int) : Option Float :=
  let x := Float.ofInt n
  if x.isInf then none else some x

/-- The number as a float. -/
def toFloat? : Value → Option Float
  | int n => intToFloat? n
  | float x => some x
  | bool b => some (if b then 1.0 else 0.0)
  | _ => none

end Value

end SuiteEngine
