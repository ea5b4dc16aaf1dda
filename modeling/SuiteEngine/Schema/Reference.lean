import SuiteEngine.Schema.Address
import SuiteEngine.Schema.Dialect
import SuiteEngine.Schema.Finding

/-!
# References between schemas

A schema may have an address, and names inside it that references can use. `Library` holds the schemas
that references may lead to; `Scope` says where a validation stands, which relative references start
from.

* `Library.ofSchema`: the schemas found in a document.
* `Library.follow`: the schema that a reference means and the scope it is read in.
-/

namespace SuiteEngine.Schema

/-- A schema and what references call it. -/
structure Entry where
  address : String
  /-- The name within the address; the whole schema when there is none. -/
  name : Option String
  /-- Whether references may bind the name to an outer schema of the same name. -/
  dynamic : Bool
  schema : Value

/-- The schemas that references may lead to. -/
abbrev Library := List Entry

/-- Where a validation stands: the address around it and those it came through, nearest first. -/
structure Scope where
  base : String
  outer : List String

/-- Moves on to another address. -/
def Scope.enter (s : Scope) (address : String) : Scope :=
  if s.base != "" && (s.outer.isEmpty || address != s.base) then ⟨address, s.base :: s.outer⟩
  else ⟨address, s.outer⟩

/-- The address without the marks of an empty fragment. -/
def bareAddress (s : String) : String :=
  String.ofList (s.toList.reverse.dropWhile (· == '#')).reverse

/-- The address that a schema gives itself, without the marks of an empty fragment. -/
def ownAddress? (d : Dialect) (schema : Value) : Option String :=
  match schema.get? d.identifierKey with
  | some (.str s) =>
    if d.refStandsAlone && ((schema.get? "$ref").isSome || s.startsWith "#") then none
    else some (bareAddress s)
  | _ => none

/-- Goes into a schema, which may have an address of its own. -/
def Scope.into (s : Scope) (d : Dialect) (schema : Value) : Scope :=
  match ownAddress? d schema with
  | some own => s.enter (Address.resolve s.base own)
  | none => s

/-- The keywords whose value is a schema or an array of schemas. -/
def schemaKeywords : List String :=
  ["additionalItems", "additionalProperties", "contains", "contentSchema", "else", "if", "items",
    "not", "propertyNames", "then", "unevaluatedItems", "unevaluatedProperties", "allOf", "anyOf",
    "oneOf", "prefixItems", "extends", "disallow", "type"]

/-- The keywords whose value is an object of schemas. -/
def schemaMapKeywords : List String :=
  ["$defs", "definitions", "dependencies", "dependentSchemas", "patternProperties", "properties"]

/-- The names that a schema gives itself. -/
def ownNames (d : Dialect) (schema : Value) : List (String × Bool) :=
  let named (key : String) (dynamic : Bool) : List (String × Bool) :=
    match schema.get? key with
    | some (.str s) => [(s, dynamic)]
    | _ => []
  match d with
  | .draft2019 => named "$anchor" false
  | .draft2020 => named "$anchor" false ++ named "$dynamicAnchor" true
  | d =>
    match schema.get? d.identifierKey with
    | some (.str s) => if s.startsWith "#" then [(String.ofList (s.toList.drop 1), false)] else []
    | _ => []

/-- The entries for a schema itself, which stands at `base`. -/
def ownEntries (d : Dialect) (base : String) (schema : Value) : List Entry :=
  ((ownAddress? d schema).toList.map fun _ => ⟨base, none, false, schema⟩)
    ++ (ownNames d schema).map fun (name, dynamic) => ⟨base, some name, dynamic, schema⟩

mutual
/-- The entries for a schema and all schemas inside it. -/
def entriesOf (d : Dialect) (base : String) : Value → List Entry
  | .obj fs =>
    let here :=
      match ownAddress? d (.obj fs) with
      | some own => Address.resolve base own
      | none => base
    ownEntries d here (.obj fs) ++ entriesOfFields d here fs
  | _ => []
/-- The entries for the schemas under the keywords of a schema. -/
def entriesOfFields (d : Dialect) (base : String) : List (String × Value) → List Entry
  | [] => []
  | (k, v) :: fs =>
    (if schemaKeywords.contains k then
      (match v with
        | .list xs => entriesOfItems d base xs
        | .obj gs => entriesOf d base (.obj gs)
        | _ => [])
    else if schemaMapKeywords.contains k then
      (match v with
        | .obj gs => entriesOfValues d base gs
        | _ => [])
    else []) ++ entriesOfFields d base fs
/-- The entries for an array of schemas. -/
def entriesOfItems (d : Dialect) (base : String) : List Value → List Entry
  | [] => []
  | x :: xs => entriesOf d base x ++ entriesOfItems d base xs
/-- The entries for an object of schemas. -/
def entriesOfValues (d : Dialect) (base : String) : List (String × Value) → List Entry
  | [] => []
  | (_, v) :: fs => entriesOf d base v ++ entriesOfValues d base fs
end

/-- The address of a whole document, empty when it has none. -/
def rootAddress (d : Dialect) (schema : Value) : String := (ownAddress? d schema).getD ""

/-- The schemas found in a document. -/
def Library.ofSchema (d : Dialect) (schema : Value) : Library :=
  ⟨rootAddress d schema, none, false, schema⟩ :: entriesOf d "" schema

namespace Library

/-- The schema at an address. -/
def atAddress? (lib : Library) (address : String) : Option Value :=
  (lib.find? fun e => e.name.isNone && e.address == bareAddress address).map (·.schema)

/-- The entry of a name at an address. -/
def named? (lib : Library) (address name : String) : Option Entry :=
  lib.find? fun e => e.name == some name && e.address == address

/-- One segment of a pointer with its escapes put back. -/
def unescapeSegment (s : String) : String :=
  let rec go : List Char → List Char
    | '~' :: '1' :: rest => '/' :: go rest
    | '~' :: '0' :: rest => '~' :: go rest
    | c :: rest => c :: go rest
    | [] => []
  String.ofList (go s.toList)

/-- The part of an array or object that a segment names. -/
def child (v : Value) (segment : String) : Except Fault (Option Value) :=
  match v with
  | .list xs =>
    match Text.parseInt? segment with
    | some i =>
      let i := if i < 0 then i + xs.length else i
      .ok (if i < 0 then none else xs[i.toNat]?)
    | none => .error (.badIndex segment)
  | v => .ok (v.get? (unescapeSegment segment))

/-- Follows the segments of a pointer. -/
def descend (d : Dialect) (lost : Fault) : List String → Value → Scope →
    Except Fault (Value × Scope)
  | [], v, scope => .ok (v, scope)
  | segment :: rest, v, scope => do
    let part ← child v segment
    match part with
    | some w => descend d lost rest w (scope.into d w)
    | none => .error lost

/-- The fault of a name that does not occur in a schema. -/
def nowhere (kind name : String) (whole : Value) : Fault :=
  .unresolved kind (Text.quoted name ++ " does not exist within " ++ whole.inspect
    ++ (if name = "/" then
      ". The pointer '/' is a valid JSON Pointer but it points to an empty string property ''. "
        ++ "If you intended to point to the entire resource, you should use '#'."
    else ""))

/-- The fault of a name with a slash in it that starts with none. -/
def invalidName (name : String) : Fault :=
  .unresolved "InvalidAnchor" ("'#" ++ name ++ "' is not a valid anchor, neither as a plain name "
    ++ "anchor nor as a JSON Pointer. You may have intended to use '#/" ++ name ++ "', as the slash "
    ++ "is required *before each segment* of a JSON pointer.")

/-- The outermost schema that binds a dynamic name, starting from the nearest. -/
def outermost (lib : Library) (name : String) (schema : Value) : List String → Value
  | [] => schema
  | address :: rest =>
    match lib.named? address name with
    | some e => outermost lib name (if e.dynamic then e.schema else schema) rest
    | none => outermost lib name schema rest

/-- The schema that a reference means, and the scope it is read in. -/
def follow (lib : Library) (d : Dialect) (scope : Scope) (reference : String) :
    Except Fault (Value × Scope) :=
  let whole :=
    if reference.startsWith "#" then reference.toList
    else (Address.resolve scope.base reference).toList
  let (address, fragment) := Address.cut '#' whole
  let address := if reference.startsWith "#" then scope.base else String.ofList address
  let fragment := String.ofList (fragment.getD [])
  match lib.atAddress? address with
  | none => .error (.unresolved "Unresolvable" reference)
  | some schema =>
    let there := scope.enter address
    if fragment.startsWith "/" then
      let segments := Text.split '/' (Text.unescape (String.ofList (fragment.toList.drop 1)))
      descend d (nowhere "PointerToNowhere" fragment schema) segments schema there
    else if fragment = "" then .ok (schema, there)
    else
      match lib.named? (bareAddress address) fragment with
      | some e =>
        if e.dynamic then
          let found := lib.outermost fragment e.schema there.outer
          .ok (found, there.into d found)
        else .ok (e.schema, there)
      | none =>
        if fragment.contains '/' then .error (invalidName fragment)
        else .error (nowhere "NoSuchAnchor" fragment schema)

/-- The addresses that a recursive reference passes on its way outwards. -/
def outerRecursive (lib : Library) (d : Dialect) (found : Value × Scope) :
    List String → Value × Scope
  | [] => found
  | address :: rest =>
    match lib.follow d found.2 address with
    | .ok next =>
      if ((next.1.get? "$recursiveAnchor").getD .missing).truthy then
        outerRecursive lib d next rest
      else found
    | .error _ => found

/-- The schema that a recursive reference means. -/
def followRecursive (lib : Library) (d : Dialect) (scope : Scope) :
    Except Fault (Value × Scope) := do
  let found ← lib.follow d scope "#"
  return if ((found.1.get? "$recursiveAnchor").getD .missing).truthy then
      outerRecursive lib d found scope.outer
    else found

end Library

end SuiteEngine.Schema
