import SuiteEngine.Schema.Assertion
import SuiteEngine.Schema.Keyword
import SuiteEngine.Schema.Reference

/-!
# Validation

A value is put to a schema key by key, in the order of the keys. Some keys put the value, or parts of
it, to further schemas; `Visit` is that step, and `findings` closes the loop with a bound on how deep
schemas may lead into one another.
-/

namespace SuiteEngine.Schema

open Assertion (listed listedWithVerb asList hasKey onArray onObject)

/-- What a validation needs to know beside schema and value. -/
structure Setting where
  library : Library
  dialect : Dialect
  scope : Scope

/-- The setting for a schema that is part of the one at hand. -/
def Setting.into (st : Setting) (schema : Value) : Setting :=
  { st with
    dialect := Dialect.declaredBy schema st.dialect
    scope := st.scope.into st.dialect schema }

/-- The findings for a value under a schema that is an object. -/
abbrev Visit := Setting → Value → Value → List Finding

/-- The finding for the schema that allows nothing. -/
def nothingAllowed (data : Value) : List Finding :=
  [.violation ⟨[], "False schema does not allow " ++ data.inspect, none, .null⟩]

/-- Puts a value to a schema in a given setting. -/
def putIn (visit : Visit) (st : Setting) (schema data : Value) : List Finding :=
  match schema with
  | .bool true => []
  | .bool false => nothingAllowed data
  | schema => visit st schema data

/-- Puts a value to a part of the schema at hand. -/
def put (visit : Visit) (st : Setting) (schema data : Value) : List Finding :=
  putIn visit (st.into schema) schema data

/-- Puts a part of the value to a part of the schema; the schema that allows nothing is found
violated at the whole value. -/
def putPart (visit : Visit) (st : Setting) (step : Step) (schema data : Value) : List Finding :=
  match schema with
  | .bool _ => put visit st schema data
  | _ => Finding.under step (put visit st schema data)

/-- Whether a value meets a part of the schema at hand. -/
def meets (visit : Visit) (st : Setting) (schema data : Value) : Except Fault Bool :=
  Finding.passes
    (putIn visit { st with dialect := Dialect.declaredBy schema st.dialect } schema data)

/-- The items with their positions, counted from `start`. -/
def numbered (start : Nat) : List Value → List (Nat × Value)
  | [] => []
  | x :: xs => (start, x) :: numbered (start + 1) xs

/-- The items of an array under a key of the schema, none where the key is missing. -/
def itemsUnder (schema : Value) (key : String) : List Value :=
  match schema.get? key with
  | some (.list xs) => xs
  | _ => []

namespace Applicator

/-- To meet the schema referred to. -/
def followed (visit : Visit) (st : Setting) (found : Except Fault (Value × Scope)) (data : Value) :
    List Finding :=
  match found with
  | .error f => [.fault f]
  | .ok (schema, scope) =>
    putIn visit { st with
      dialect := Dialect.declaredBy schema st.dialect
      scope := scope } schema data

/-- Every property with a schema of its own to meet it. -/
def properties (visit : Visit) (st : Setting) (value data : Value) : List Finding :=
  onObject (fun fs =>
    value.fields.flatMap fun (property, schema) =>
      match Value.lookup property fs with
      | some v => putPart visit st (.key property) schema v
      | none => []) data

/-- As `properties`; a property that is not there may be required by its schema. -/
def propertiesWithFlag (visit : Visit) (st : Setting) (value data : Value) : List Finding :=
  onObject (fun fs =>
    value.fields.flatMap fun (property, schema) =>
      match Value.lookup property fs with
      | some v => putPart visit st (.key property) schema v
      | none =>
        let flag := (schema.get? "required").getD (.bool false)
        if flag.truthy then
          Finding.under (.key "required")
            (Finding.of "required" flag (Text.quoted property ++ " is a required property"))
        else []) data

/-- Every property whose name matches a pattern to meet the schema of the pattern. -/
def patternProperties (visit : Visit) (st : Setting) (value data : Value) : List Finding :=
  onObject (fun fs =>
    value.fields.flatMap fun (pattern, schema) =>
      fs.flatMap fun (k, v) =>
        Finding.deciding (Assertion.occurs pattern k) fun b =>
          if b then putPart visit st (.key k) schema v else []) data

/-- The properties that have neither a schema of their own nor one for their name. -/
def additional (schema : Value) (fs : List (String × Value)) :
    Except Fault (List (String × Value)) :=
  let named := ((schema.get? "properties").getD .null).fields
  let patterns := "|".intercalate
    ((((schema.get? "patternProperties").getD .null).fields).map (·.1))
  Finding.selecting (fun (k, _) =>
    if (Value.lookup k named).isSome then .ok false
    else if patterns = "" then .ok true
    else (Assertion.occurs patterns k).map (!·)) fs

/-- Names in their order as texts. -/
def sortedNames (names : List String) : List String := names.mergeSort fun a b => decide (a ≤ b)

/-- Names in a message. -/
def namesListed (names : List String) : String := listed (names.map .str)

/-- The message for properties that are not allowed. -/
def unexpected (schema : Value) (names : List String) : String :=
  let names := sortedNames names
  match schema.get? "patternProperties" with
  | some patterns =>
    namesListed names ++ (if names.length = 1 then " does" else " do")
      ++ " not match any of the regexes: "
      ++ namesListed (sortedNames (patterns.fields.map (·.1)))
  | none =>
    "Additional properties are not allowed (" ++ listedWithVerb (names.map .str) ++ " unexpected)"

/-- The properties without a schema of their own to meet one schema, or not to occur. -/
def additionalProperties (visit : Visit) (st : Setting) (schema : Value) (name : String)
    (value data : Value) : List Finding :=
  onObject (fun fs =>
    match additional schema fs with
    | .error f => [.fault f]
    | .ok extras =>
      match value with
      | .obj _ => extras.flatMap fun (k, v) => putPart visit st (.key k) value v
      | value =>
        if !value.truthy && !extras.isEmpty then
          Finding.of name value (unexpected schema (extras.map (·.1)))
        else []) data

/-- Every property's name to meet the schema. -/
def propertyNames (visit : Visit) (st : Setting) (value data : Value) : List Finding :=
  onObject (fun fs => fs.flatMap fun (k, _) => put visit st value (.str k)) data

/-- Every item to meet the schema. -/
def each (visit : Visit) (st : Setting) (schema : Value) (xs : List (Nat × Value)) : List Finding :=
  xs.flatMap fun (i, x) => putPart visit st (.index i) schema x

/-- Each of the first items to meet the schema at its place. -/
def positional (visit : Visit) (st : Setting) (schemas : List Value) (xs : List Value) :
    List Finding :=
  ((numbered 0 xs).zip schemas).flatMap fun ((i, x), schema) => putPart visit st (.index i) schema x

/-- One schema for every item, or one for each of the first items. -/
def items (visit : Visit) (st : Setting) (value data : Value) : List Finding :=
  onArray (fun xs =>
    match value with
    | .list schemas => positional visit st schemas xs
    | value => each visit st value (numbered 0 xs)) data

/-- One schema for every item after those with a schema of their own. -/
def itemsAfterPrefix (visit : Visit) (st : Setting) (schema : Value) (name : String)
    (value data : Value) : List Finding :=
  onArray (fun xs =>
    let before := (itemsUnder schema "prefixItems").length
    let rest := xs.drop before
    if rest.isEmpty then []
    else
      match value with
      | .bool false =>
        let shown := match rest with
          | [x] => x
          | rest => .list rest
        Finding.of name value
          ("Expected at most " ++ toString before ++ (if before = 1 then " item" else " items")
            ++ " but found " ++ toString rest.length ++ " extra: " ++ shown.inspect)
      | value => each visit st value (numbered before rest)) data

/-- The items after those with a schema of their own to meet one schema, or not to occur. -/
def additionalItems (visit : Visit) (st : Setting) (schema : Value) (name : String)
    (value data : Value) : List Finding :=
  onArray (fun xs =>
    match schema.get? "items" with
    | some (.list schemas) =>
      let rest := xs.drop schemas.length
      match value with
      | .obj _ => each visit st value (numbered schemas.length rest)
      | value =>
        if !value.truthy && !rest.isEmpty then
          Finding.of name value
            ("Additional items are not allowed (" ++ listedWithVerb rest ++ " unexpected)")
        else []
    | some (.bool b) => [.fault (.noLength (.bool b))]
    | _ => []) data

/-- At least one item to meet the schema. -/
def contains (visit : Visit) (st : Setting) (name : String) (value data : Value) : List Finding :=
  onArray (fun xs =>
    match Finding.selecting (meets visit st value) xs with
    | .error f => [.fault f]
    | .ok [] =>
      Finding.of name value ("None of " ++ data.inspect ++ " are valid under the given schema")
    | .ok _ => []) data

/-- A number of items within limits to meet the schema. -/
def containsCounted (visit : Visit) (st : Setting) (schema : Value) (name : String)
    (value data : Value) : List Finding :=
  onArray (fun xs =>
    let least := (schema.get? "minContains").getD (.int 1)
    let most := (schema.get? "maxContains").getD (.int xs.length)
    match Finding.selecting (meets visit st value) xs with
    | .error f => [.fault f]
    | .ok found =>
      let count : Value := .int found.length
      if Assertion.compares (Assertion.flipped Exact.lt) count most then
        Finding.of "maxContains" most
          ("Too many items match the given schema (expected at most " ++ most.inspect ++ ")")
      else if Assertion.compares Exact.lt count least then
        if found.isEmpty then
          Finding.of name value
            (data.inspect ++ " does not contain items matching the given schema")
        else
          Finding.of "minContains" least
            ("Too few items match the given schema (expected at least " ++ least.inspect
              ++ " but only " ++ count.inspect ++ " matched)")
      else []) data

/-- The schemas of the properties present to be met by the whole value. -/
def dependentSchemas (visit : Visit) (st : Setting) (value data : Value) : List Finding :=
  onObject (fun fs =>
    value.fields.flatMap fun (property, schema) =>
      if hasKey fs (.str property) then put visit st schema data else []) data

/-- The schemas and further properties that the properties present depend on; with `names`, a single
name stands for a list of one. -/
def dependencies (names : Bool) (visit : Visit) (st : Setting) (name : String)
    (value data : Value) : List Finding :=
  onObject (fun fs =>
    value.fields.flatMap fun (property, dependency) =>
      if hasKey fs (.str property) then
        match dependency with
        | .list others => Assertion.needed name value fs property others
        | .str other =>
          if names then Assertion.needed name value fs property [.str other]
          else put visit st dependency data
        | dependency => put visit st dependency data
      else []) data

/-- To meet every schema. -/
def allOf (visit : Visit) (st : Setting) (value data : Value) : List Finding :=
  (asList value).flatMap fun schema => put visit st schema data

/-- The message for a value that meets no schema of several. -/
def meetsNone (name : String) (value data : Value) : List Finding :=
  Finding.of name value (data.inspect ++ " is not valid under any of the given schemas")

/-- The first schema that the value meets and those after it. -/
def firstMet (visit : Visit) (st : Setting) (data : Value) :
    List Value → Except Fault (Option (Value × List Value))
  | [] => .ok none
  | schema :: rest =>
    match Finding.collect (put visit st schema data) with
    | .error f => .error f
    | .ok [] => .ok (some (schema, rest))
    | .ok _ => firstMet visit st data rest

/-- To meet some schema. -/
def anyOf (visit : Visit) (st : Setting) (name : String) (value data : Value) : List Finding :=
  match firstMet visit st data (asList value) with
  | .error f => [.fault f]
  | .ok none => meetsNone name value data
  | .ok (some _) => []

/-- To meet exactly one schema. -/
def oneOf (visit : Visit) (st : Setting) (name : String) (value data : Value) : List Finding :=
  match firstMet visit st data (asList value) with
  | .error f => [.fault f]
  | .ok none => meetsNone name value data
  | .ok (some (first, rest)) =>
    match Finding.selecting (fun schema => meets visit st schema data) rest with
    | .error f => [.fault f]
    | .ok [] => []
    | .ok more =>
      Finding.of name value (data.inspect ++ " is valid under each of " ++ listed (more ++ [first]))

/-- Not to meet the schema. -/
def not (visit : Visit) (st : Setting) (name : String) (value data : Value) : List Finding :=
  Finding.deciding (meets visit st value data) fun b =>
    if b then
      Finding.of name value (data.inspect ++ " should not be valid under " ++ value.inspect)
    else []

/-- To meet one schema or another, depending on a third. -/
def ifThenElse (visit : Visit) (st : Setting) (schema value data : Value) : List Finding :=
  Finding.deciding (meets visit st value data) fun b =>
    match schema.get? (if b then "then" else "else") with
    | some branch => put visit st branch data
    | none => []

/-- To meet one schema or several. -/
def extend (visit : Visit) (st : Setting) (value data : Value) : List Finding :=
  (asList value).flatMap fun schema => put visit st schema data

/-- A name that is known, or a schema, among the types of a value. -/
def hasTypeOrMeets (visit : Visit) (st : Setting) (schema data : Value) :
    List Value → Except Fault Bool
  | [] => .ok false
  | name :: rest => do
    let b ←
      match name with
      | .obj _ => (Finding.collect (put visit st name data)).map List.isEmpty
      | name => Assertion.hasType st.dialect schema data name
    if b then return true else hasTypeOrMeets visit st schema data rest

/-- How a type is called in a message. -/
def typeShown (v : Value) : String := ((v.get? "name").getD v).inspect

/-- To have one of the named types or meet one of the schemas among them. -/
def typeOrSchema (visit : Visit) (st : Setting) (schema : Value) (name : String)
    (value data : Value) : List Finding :=
  let types := asList value
  Finding.deciding (hasTypeOrMeets visit st schema data types) fun b =>
    if b then []
    else Finding.of name value
      (data.inspect ++ " is not of type " ++ ", ".intercalate (types.map typeShown))

/-- To have none of the types. -/
def disallow (visit : Visit) (st : Setting) (name : String) (value data : Value) : List Finding :=
  (asList value).flatMap fun disallowed =>
    Finding.deciding (meets visit st (.obj [("type", .list [disallowed])]) data) fun b =>
      if b then
        Finding.of name value (disallowed.inspect ++ " is disallowed for " ++ data.inspect)
      else []

/-- A limit that another key of the schema may turn into an exclusive one. -/
def limitWithFlag (flag : String) (inclusive exclusive : String → Value → Value → List Finding)
    (schema : Value) (name : String) (value data : Value) : List Finding :=
  if ((schema.get? flag).getD (.bool false)).truthy then exclusive name value data
  else inclusive name value data

end Applicator

/-! ## What a schema has looked at -/

/-- The condition of a schema, where the value meets it, and the branch that it selects. -/
def branchesOf (visit : Visit) (st : Setting) (schema data : Value) : Except Fault (List Value) :=
  match schema.get? "if" with
  | none => .ok []
  | some condition =>
    (meets visit st condition data).map fun b =>
      let chosen := (schema.get? (if b then "then" else "else")).toList
      if b then condition :: chosen else chosen

/-- The schemas that take part in the verdict on a value: those referred to, those that the value
meets among the alternatives, and the branch of a condition. -/
def involved (visit : Visit) (st : Setting) (schema data : Value) :
    Except Fault (List (Setting × Value)) := do
  let referred (key : String) (dynamic : Bool) : Except Fault (List (Setting × Value)) :=
    match schema.get? key with
    | some (.str s) => do
      let (found, scope) ←
        if dynamic then st.library.followRecursive st.dialect st.scope
        else st.library.follow st.dialect st.scope s
      return [({ st with scope := scope }, found)]
    | _ => .ok []
  let refs ← referred "$ref" false
  let dynamicRefs ←
    if st.dialect = .draft2019 then referred "$recursiveRef" true else referred "$dynamicRef" false
  let branches ← branchesOf visit st schema data
  let alternatives ← Finding.selecting
    (fun s => Finding.passes (put visit st s data))
    (itemsUnder schema "allOf" ++ itemsUnder schema "oneOf" ++ itemsUnder schema "anyOf")
  return refs ++ dynamicRefs ++ (branches ++ alternatives).map fun s => (st, s)

/-- The positions of the items that the schema has looked at. -/
def evaluatedItems (visit : Visit) : (fuel : Nat) → Setting → (schema data : Value) → List Value →
    Except Fault (List Nat)
  | 0, _, _, _, _ => .error .tooDeep
  | fuel + 1, st, schema, data, xs => do
    let everything := List.range xs.length
    match schema.get? "items" with
    | some (.list schemas) =>
      if (schema.get? "additionalItems").isSome then return everything
      else
        let more ← deeper fuel st schema data xs
        return List.range schemas.length ++ more
    | some _ => return everything
    | none =>
      let more ← deeper fuel st schema data xs
      return List.range (itemsUnder schema "prefixItems").length ++ more
where
  deeper (fuel : Nat) (st : Setting) (schema data : Value) (xs : List Value) :
      Except Fault (List Nat) := do
    let schemas ← involved visit st schema data
    let inner ← schemas.mapM fun p => evaluatedItems visit fuel p.1 p.2 data xs
    let meeting (s : Value) (p : Nat × Value) : Except Fault Bool := meets visit st s p.2
    let own ← ["contains", "unevaluatedItems"].mapM fun key =>
      match schema.get? key with
      | some s => Finding.selecting (meeting s) (numbered 0 xs)
      | none => .ok []
    return inner.flatten ++ own.flatten.map (·.1)

/-- The names of the properties that the schema has looked at. -/
def evaluatedProperties (visit : Visit) : (fuel : Nat) → Setting → (schema data : Value) →
    List (String × Value) → Except Fault (List String)
  | 0, _, _, _, _ => .error .tooDeep
  | fuel + 1, st, schema, data, fs => do
    let named := ((schema.get? "properties").getD .null).fields
    let byName := (fs.filter fun (k, _) => (Value.lookup k named).isSome).map (·.1)
    let passing (s : Value) (p : String × Value) : Except Fault Bool :=
      Finding.passes (put visit st s p.2)
    let byRest ← ["additionalProperties", "unevaluatedProperties"].mapM fun key =>
      match schema.get? key with
      | some s => Finding.selecting (passing s) fs
      | none => .ok []
    let patterns := ((schema.get? "patternProperties").getD .null).fields
    let matching (pattern : String) (p : String × Value) : Except Fault Bool :=
      Assertion.occurs pattern p.1
    let byPattern ← patterns.mapM fun p => Finding.selecting (matching p.1) fs
    let dependent := ((schema.get? "dependentSchemas").getD .null).fields.filter fun (k, _) =>
      hasKey fs (.str k)
    let schemas ← involved visit st schema data
    let schemas := schemas ++ dependent.map fun p => (st, p.2)
    let inner ← schemas.mapM fun p => evaluatedProperties visit fuel p.1 p.2 data fs
    return byName ++ (byRest.flatten ++ byPattern.flatten).map (·.1) ++ inner.flatten

namespace Applicator

/-- The items that no other keyword has looked at not to occur. -/
def unevaluatedItems (fuel : Nat) (visit : Visit) (st : Setting) (schema : Value) (name : String)
    (value data : Value) : List Finding :=
  onArray (fun xs =>
    match evaluatedItems visit fuel st schema data xs with
    | .error f => [.fault f]
    | .ok seen =>
      let rest := ((numbered 0 xs).filter fun (i, _) => !seen.contains i).map (·.2)
      if rest.isEmpty then []
      else Finding.of name value
        ("Unevaluated items are not allowed (" ++ listedWithVerb rest ++ " unexpected)")) data

/-- The properties that no other keyword has looked at to meet the schema. -/
def unevaluatedProperties (fuel : Nat) (visit : Visit) (st : Setting) (schema : Value)
    (name : String) (value data : Value) : List Finding :=
  onObject (fun fs =>
    match evaluatedProperties visit fuel st schema data fs with
    | .error f => [.fault f]
    | .ok seen =>
      let rest := fs.filter fun (k, _) => !seen.contains k
      let failing : Except Fault (List (List String)) := rest.mapM fun (k, v) =>
        (Finding.collect (put visit st value v)).map fun vs => vs.map fun _ => k
      match failing with
      | .error f => [.fault f]
      | .ok names =>
        let names := names.flatten
        if names.isEmpty then []
        else
          match value with
          | .bool false =>
            Finding.of name value ("Unevaluated properties are not allowed ("
              ++ listedWithVerb ((sortedNames names).map .str) ++ " unexpected)")
          | value =>
            Finding.of name value
              ("Unevaluated properties are not valid under the given schema ("
                ++ listedWithVerb (names.map .str) ++ " unexpected)")) data

end Applicator

/-- The findings of one keyword. -/
def Keyword.findings (fuel : Nat) (visit : Visit) (st : Setting) (schema : Value) (name : String)
    (value data : Value) : Keyword → List Finding
  | ref => Applicator.followed visit st (st.library.follow st.dialect st.scope value.text) data
  | dynamicRef =>
    Applicator.followed visit st (st.library.follow st.dialect st.scope value.text) data
  | recursiveRef =>
    Applicator.followed visit st (st.library.followRecursive st.dialect st.scope) data
  | type => Assertion.type st.dialect schema name value data
  | typeOrSchema => Applicator.typeOrSchema visit st schema name value data
  | enum => Assertion.enum name value data
  | const => Assertion.const name value data
  | multipleOf => Assertion.multipleOf name value data
  | minimum => Assertion.minimum name value data
  | maximum => Assertion.maximum name value data
  | exclusiveMinimum => Assertion.exclusiveMinimum name value data
  | exclusiveMaximum => Assertion.exclusiveMaximum name value data
  | minimumWithFlag =>
    Applicator.limitWithFlag "exclusiveMinimum" Assertion.minimum Assertion.exclusiveMinimum schema
      name value data
  | maximumWithFlag =>
    Applicator.limitWithFlag "exclusiveMaximum" Assertion.maximum Assertion.exclusiveMaximum schema
      name value data
  | minLength =>
    Assertion.onText (fun s => Assertion.notShorter "is too short" s.length name value data) data
  | maxLength =>
    Assertion.onText (fun s => Assertion.notLonger "is too long" s.length name value data) data
  | minItems => onArray (fun xs => Assertion.notShorter "is too short" xs.length name value data) data
  | maxItems => onArray (fun xs => Assertion.notLonger "is too long" xs.length name value data) data
  | minProperties =>
    onObject (fun fs =>
      Assertion.notShorter "does not have enough properties" fs.length name value data) data
  | maxProperties =>
    onObject (fun fs => Assertion.notLonger "has too many properties" fs.length name value data) data
  | uniqueItems => Assertion.uniqueItems name value data
  | pattern => Assertion.pattern name value data
  | format => Assertion.format name value data
  | required => Assertion.required name value data
  | properties => Applicator.properties visit st value data
  | propertiesWithFlag => Applicator.propertiesWithFlag visit st value data
  | patternProperties => Applicator.patternProperties visit st value data
  | additionalProperties => Applicator.additionalProperties visit st schema name value data
  | propertyNames => Applicator.propertyNames visit st value data
  | items => Applicator.items visit st value data
  | itemsAfterPrefix => Applicator.itemsAfterPrefix visit st schema name value data
  | prefixItems => onArray (Applicator.positional visit st (asList value)) data
  | additionalItems => Applicator.additionalItems visit st schema name value data
  | contains => Applicator.contains visit st name value data
  | containsCounted => Applicator.containsCounted visit st schema name value data
  | dependencies => Applicator.dependencies false visit st name value data
  | dependenciesOrName => Applicator.dependencies true visit st name value data
  | dependentRequired => Assertion.dependentRequired name value data
  | dependentSchemas => Applicator.dependentSchemas visit st value data
  | allOf => Applicator.allOf visit st value data
  | anyOf => Applicator.anyOf visit st name value data
  | oneOf => Applicator.oneOf visit st name value data
  | not => Applicator.not visit st name value data
  | ifThenElse => Applicator.ifThenElse visit st schema value data
  | extend => Applicator.extend visit st value data
  | disallow => Applicator.disallow visit st name value data
  | unevaluatedItems => Applicator.unevaluatedItems fuel visit st schema name value data
  | unevaluatedProperties => Applicator.unevaluatedProperties fuel visit st schema name value data

/-- The keys of a schema that take part in a validation. -/
def applicable (d : Dialect) (fs : List (String × Value)) : List (String × Value) :=
  match Value.lookup "$ref" fs with
  | some .null => fs
  | some target => if d.refStandsAlone then [("$ref", target)] else fs
  | none => fs

/-- The findings for a value under a schema that is no truth value. -/
def findings : (fuel : Nat) → Visit
  | 0, _, _, _ => [.fault .tooDeep]
  | fuel + 1, st, schema, data =>
    match schema with
    | .obj fs =>
      (applicable st.dialect fs).flatMap fun (name, value) =>
        match Keyword.ofName? st.dialect name with
        | some keyword => keyword.findings fuel (findings fuel) st schema name value data
        | none => []
    | other => [.fault (.notASchema other)]

/-- How deep schemas may lead into one another. -/
def depthLimit : Nat := 480

/-- The findings for a value under a whole schema document, whose references may also lead to the
schemas already known. -/
def validate (known : Library) (d : Dialect) (schema data : Value) : List Finding :=
  putIn (findings depthLimit)
    ⟨Library.ofSchema d schema ++ known, d, ⟨rootAddress d schema, []⟩⟩ schema data

end SuiteEngine.Schema
