import SuiteEngine.Json.Print
import SuiteEngine.Text.Utf8

/-!
# Values for people and for JSON

`jsonable` is the nearest value that JSON has a form for: absent fields are dropped, absent items and
floats without a JSON form become null, bytes become text. `display` is the value as checks name it.
`typeTags` are the names that a check may call the type of a value by.
-/

namespace SuiteEngine.Value

mutual
/-- The nearest value that JSON has a form for. -/
def jsonable : Value → Value
  | missing => null
  | bytes b => str (Text.decodeLossy b)
  | float x => if x.isNaN || x.isInf then null else float x
  | list xs => list (jsonableItems xs)
  | tuple xs => list (jsonableItems xs)
  | obj fs => obj (jsonableFields fs)
  | v => v
/-- `jsonable` on every item. -/
def jsonableItems : List Value → List Value
  | [] => []
  | x :: xs => jsonable x :: jsonableItems xs
/-- `jsonable` on every field that is not absent. -/
def jsonableFields : List (String × Value) → List (String × Value)
  | [] => []
  | (k, v) :: fs => if v.isMissing then jsonableFields fs else (k, jsonable v) :: jsonableFields fs
end

/-- The value as checks name it. -/
def display : Value → String
  | missing => "undefined"
  | null => "null"
  | bool b => if b then "true" else "false"
  | str s => s
  | v =>
    match v with
    | list _ | tuple _ | obj _ => Json.render .sortedLine v.jsonable
    | _ => v.text

/-- Every name a check may call the type of the value by. -/
def typeTags : Value → List String
  | missing => ["undefined"]
  | null => ["null", "object"]
  | bool _ => ["boolean"]
  | int _ => ["integer", "number"]
  | float x => if floatIsIntegral x then ["integer", "number"] else ["number"]
  | str _ => ["string"]
  | bytes _ => ["bytes"]
  | list _ => ["array", "object"]
  | tuple _ => ["array", "object"]
  | obj _ => ["object"]

/-- The most telling of the names: the first of these that the value has. -/
def primaryType (v : Value) : String :=
  let tags := v.typeTags
  let names :=
    ["undefined", "null", "array", "integer", "number", "string", "boolean", "object"]
  (names.find? tags.contains).getD (tags.headD "unknown")

end SuiteEngine.Value
