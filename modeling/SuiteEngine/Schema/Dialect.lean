import SuiteEngine.Document.Value

/-!
# Schema dialects

A schema is written in one of six dialects, which differ in their keywords and in what they call an
integer. A schema names its dialect by an address under `$schema`.
-/

namespace SuiteEngine.Schema

/-- A revision of the schema language. -/
inductive Dialect where
  | draft3
  | draft4
  | draft6
  | draft7
  | draft2019
  | draft2020
deriving DecidableEq, Repr

namespace Dialect

/-- Every dialect. -/
def all : List Dialect := [draft3, draft4, draft6, draft7, draft2019, draft2020]

/-- The address that names the dialect, without a fragment. -/
def address : Dialect → String
  | draft3 => "http://json-schema.org/draft-03/schema"
  | draft4 => "http://json-schema.org/draft-04/schema"
  | draft6 => "http://json-schema.org/draft-06/schema"
  | draft7 => "http://json-schema.org/draft-07/schema"
  | draft2019 => "https://json-schema.org/draft/2019-09/schema"
  | draft2020 => "https://json-schema.org/draft/2020-12/schema"

/-- Drops one trailing `mark` that nothing follows. -/
def dropTrailing (mark : Char) (s : String) : String :=
  match s.toList.reverse with
  | c :: rest => if c = mark then String.ofList rest.reverse else s
  | [] => s

/-- The dialect that an address names; an empty fragment or query makes no difference. -/
def ofAddress? (s : String) : Option Dialect :=
  let bare := dropTrailing '?' (dropTrailing '#' s)
  all.find? fun d => d.address == bare

/-- The dialect a schema declares, or the given one where it declares none that is known. -/
def declaredBy (schema : Value) (otherwise : Dialect) : Dialect :=
  match schema.get? "$schema" with
  | some (.str s) => (ofAddress? s).getD otherwise
  | _ => otherwise

/-- Whether a `$ref` hides the keywords beside it. -/
def refStandsAlone : Dialect → Bool
  | draft2019 => false
  | draft2020 => false
  | _ => true

/-- Whether a float without a fractional part is an integer. -/
def integralFloats : Dialect → Bool
  | draft3 => false
  | draft4 => false
  | _ => true

/-- The key of a schema's own address. -/
def identifierKey : Dialect → String
  | draft3 => "id"
  | draft4 => "id"
  | _ => "$id"

/-- Whether the value has the named type; `none` when the dialect has no type of that name. -/
def hasType? (d : Dialect) (v : Value) (name : String) : Option Bool :=
  match name with
  | "array" => some (match v with
    | .list _ => true
    | _ => false)
  | "boolean" => some v.bool?.isSome
  | "integer" => some (match v with
    | .int _ => true
    | .float x => d.integralFloats && floatIsIntegral x
    | _ => false)
  | "null" => some v.isNull
  | "number" => some v.isNumber
  | "object" => some (match v with
    | .obj _ => true
    | _ => false)
  | "string" => some v.str?.isSome
  | "any" => if d = draft3 then some true else none
  | _ => none

end Dialect

end SuiteEngine.Schema
