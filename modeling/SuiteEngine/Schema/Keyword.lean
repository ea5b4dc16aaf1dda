import SuiteEngine.Schema.Dialect

/-!
# Keywords

What a key of a schema demands of a value. A dialect says which keys it knows and which of several
meanings a key has; a key that it does not know demands nothing.
-/

namespace SuiteEngine.Schema

/-- What a key of a schema demands. -/
inductive Keyword where
  /-- To meet the schema referred to. -/
  | ref
  | dynamicRef
  | recursiveRef
  /-- To have one of the named types. -/
  | type
  /-- To have one of the named types or meet one of the schemas among them. -/
  | typeOrSchema
  | enum
  | const
  | multipleOf
  | minimum
  | maximum
  | exclusiveMinimum
  | exclusiveMaximum
  /-- A limit that another key may turn into an exclusive one. -/
  | minimumWithFlag
  | maximumWithFlag
  | minLength
  | maxLength
  | minItems
  | maxItems
  | minProperties
  | maxProperties
  | uniqueItems
  | pattern
  | format
  | required
  | properties
  /-- As `properties`, a property's own schema saying whether it is required. -/
  | propertiesWithFlag
  | patternProperties
  | additionalProperties
  | propertyNames
  /-- One schema for every item, or one for each of the first items. -/
  | items
  /-- One schema for every item after those with a schema of their own. -/
  | itemsAfterPrefix
  | prefixItems
  | additionalItems
  /-- At least one item to meet the schema. -/
  | contains
  /-- A number of items within limits to meet the schema. -/
  | containsCounted
  | dependencies
  /-- As `dependencies`, a single name standing for a list of one. -/
  | dependenciesOrName
  | dependentRequired
  | dependentSchemas
  | allOf
  | anyOf
  | oneOf
  | not
  | ifThenElse
  | extend
  | disallow
  | unevaluatedItems
  | unevaluatedProperties
deriving DecidableEq, Repr

namespace Keyword

/-- The keys that mean the same in every dialect. -/
def shared? : String → Option Keyword
  | "$ref" => some ref
  | "enum" => some enum
  | "minLength" => some minLength
  | "maxLength" => some maxLength
  | "minItems" => some minItems
  | "maxItems" => some maxItems
  | "uniqueItems" => some uniqueItems
  | "pattern" => some pattern
  | "format" => some format
  | "patternProperties" => some patternProperties
  | "additionalProperties" => some additionalProperties
  | _ => none

/-- The keys of the first dialect. -/
def draft3? : String → Option Keyword
  | "type" => some typeOrSchema
  | "properties" => some propertiesWithFlag
  | "items" => some items
  | "additionalItems" => some additionalItems
  | "dependencies" => some dependenciesOrName
  | "divisibleBy" => some multipleOf
  | "minimum" => some minimumWithFlag
  | "maximum" => some maximumWithFlag
  | "extends" => some extend
  | "disallow" => some disallow
  | name => shared? name

/-- The keys from the second dialect on. -/
def common? : String → Option Keyword
  | "type" => some type
  | "properties" => some properties
  | "required" => some required
  | "multipleOf" => some multipleOf
  | "minProperties" => some minProperties
  | "maxProperties" => some maxProperties
  | "allOf" => some allOf
  | "anyOf" => some anyOf
  | "oneOf" => some oneOf
  | "not" => some not
  | name => shared? name

/-- The keys of the second dialect. -/
def draft4? : String → Option Keyword
  | "items" => some items
  | "additionalItems" => some additionalItems
  | "dependencies" => some dependencies
  | "minimum" => some minimumWithFlag
  | "maximum" => some maximumWithFlag
  | name => common? name

/-- The keys from the third dialect on. -/
def modern? : String → Option Keyword
  | "const" => some const
  | "minimum" => some minimum
  | "maximum" => some maximum
  | "exclusiveMinimum" => some exclusiveMinimum
  | "exclusiveMaximum" => some exclusiveMaximum
  | "propertyNames" => some propertyNames
  | name => common? name

/-- The keys of the third dialect. -/
def draft6? : String → Option Keyword
  | "items" => some items
  | "additionalItems" => some additionalItems
  | "dependencies" => some dependencies
  | "contains" => some contains
  | name => modern? name

/-- The keys of the fourth dialect. -/
def draft7? : String → Option Keyword
  | "if" => some ifThenElse
  | name => draft6? name

/-- The keys from the fifth dialect on. -/
def recent? : String → Option Keyword
  | "if" => some ifThenElse
  | "contains" => some containsCounted
  | "dependentRequired" => some dependentRequired
  | "dependentSchemas" => some dependentSchemas
  | "unevaluatedItems" => some unevaluatedItems
  | "unevaluatedProperties" => some unevaluatedProperties
  | name => modern? name

/-- The keys of the fifth dialect. -/
def draft2019? : String → Option Keyword
  | "$recursiveRef" => some recursiveRef
  | "items" => some items
  | "additionalItems" => some additionalItems
  | name => recent? name

/-- The keys of the sixth dialect. -/
def draft2020? : String → Option Keyword
  | "$dynamicRef" => some dynamicRef
  | "items" => some itemsAfterPrefix
  | "prefixItems" => some prefixItems
  | name => recent? name

/-- What a key demands in a dialect. -/
def ofName? : Dialect → String → Option Keyword
  | .draft3 => draft3?
  | .draft4 => draft4?
  | .draft6 => draft6?
  | .draft7 => draft7?
  | .draft2019 => draft2019?
  | .draft2020 => draft2020?

end Keyword

end SuiteEngine.Schema
