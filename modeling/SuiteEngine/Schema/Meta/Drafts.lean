import SuiteEngine.Document.Value

/-!
# The schemas of the schemas of the early dialects
-/

namespace SuiteEngine.Schema.Meta

/-- What every schema of the third draft has to meet. -/
def draft3 : Value := .obj [
    ("$schema", .str "http://json-schema.org/draft-03/schema#"),
    ("id", .str "http://json-schema.org/draft-03/schema#"),
    ("type", .str "object"),
    ("properties", .obj [
      ("type", .obj [
        ("type", .list [.str "string", .str "array"]),
        ("items", .obj [("type", .list [.str "string", .obj [("$ref", .str "#")]])]),
        ("uniqueItems", .bool true),
        ("default", .str "any")]),
      ("properties", .obj [
        ("type", .str "object"),
        ("additionalProperties", .obj [("$ref", .str "#"), ("type", .str "object")]),
        ("default", .obj [])]),
      ("patternProperties", .obj [
        ("type", .str "object"),
        ("additionalProperties", .obj [("$ref", .str "#")]),
        ("default", .obj [])]),
      ("additionalProperties", .obj [("type", .list [.obj [("$ref", .str "#")], .str "boolean"]), ("default", .obj [])]),
      ("items", .obj [
        ("type", .list [.obj [("$ref", .str "#")], .str "array"]),
        ("items", .obj [("$ref", .str "#")]),
        ("default", .obj [])]),
      ("additionalItems", .obj [("type", .list [.obj [("$ref", .str "#")], .str "boolean"]), ("default", .obj [])]),
      ("required", .obj [("type", .str "boolean"), ("default", .bool false)]),
      ("dependencies", .obj [
        ("type", .str "object"),
        ("additionalProperties", .obj [
          ("type", .list [.str "string", .str "array", .obj [("$ref", .str "#")]]),
          ("items", .obj [("type", .str "string")])]),
        ("default", .obj [])]),
      ("minimum", .obj [("type", .str "number")]),
      ("maximum", .obj [("type", .str "number")]),
      ("exclusiveMinimum", .obj [("type", .str "boolean"), ("default", .bool false)]),
      ("exclusiveMaximum", .obj [("type", .str "boolean"), ("default", .bool false)]),
      ("minItems", .obj [("type", .str "integer"), ("minimum", .int 0), ("default", .int 0)]),
      ("maxItems", .obj [("type", .str "integer"), ("minimum", .int 0)]),
      ("uniqueItems", .obj [("type", .str "boolean"), ("default", .bool false)]),
      ("pattern", .obj [("type", .str "string"), ("format", .str "regex")]),
      ("minLength", .obj [("type", .str "integer"), ("minimum", .int 0), ("default", .int 0)]),
      ("maxLength", .obj [("type", .str "integer")]),
      ("enum", .obj [("type", .str "array"), ("minItems", .int 1), ("uniqueItems", .bool true)]),
      ("default", .obj [("type", .str "any")]),
      ("title", .obj [("type", .str "string")]),
      ("description", .obj [("type", .str "string")]),
      ("format", .obj [("type", .str "string")]),
      ("divisibleBy", .obj [
        ("type", .str "number"),
        ("minimum", .int 0),
        ("exclusiveMinimum", .bool true),
        ("default", .int 1)]),
      ("disallow", .obj [
        ("type", .list [.str "string", .str "array"]),
        ("items", .obj [("type", .list [.str "string", .obj [("$ref", .str "#")]])]),
        ("uniqueItems", .bool true)]),
      ("extends", .obj [
        ("type", .list [.obj [("$ref", .str "#")], .str "array"]),
        ("items", .obj [("$ref", .str "#")]),
        ("default", .obj [])]),
      ("id", .obj [("type", .str "string")]),
      ("$ref", .obj [("type", .str "string")]),
      ("$schema", .obj [("type", .str "string"), ("format", .str "uri")])]),
    ("dependencies", .obj [("exclusiveMinimum", .str "minimum"), ("exclusiveMaximum", .str "maximum")]),
    ("default", .obj [])]

/-- What every schema of the fourth draft has to meet. -/
def draft4 : Value := .obj [
    ("id", .str "http://json-schema.org/draft-04/schema#"),
    ("$schema", .str "http://json-schema.org/draft-04/schema#"),
    ("description", .str "Core schema meta-schema"),
    ("definitions", .obj [
      ("schemaArray", .obj [("type", .str "array"), ("minItems", .int 1), ("items", .obj [("$ref", .str "#")])]),
      ("positiveInteger", .obj [("type", .str "integer"), ("minimum", .int 0)]),
      ("positiveIntegerDefault0", .obj [
        ("allOf", .list [
          .obj [("$ref", .str "#/definitions/positiveInteger")],
          .obj [("default", .int 0)]])]),
      ("simpleTypes", .obj [
        ("enum", .list [
          .str "array",
          .str "boolean",
          .str "integer",
          .str "null",
          .str "number",
          .str "object",
          .str "string"])]),
      ("stringArray", .obj [
        ("type", .str "array"),
        ("items", .obj [("type", .str "string")]),
        ("minItems", .int 1),
        ("uniqueItems", .bool true)])]),
    ("type", .str "object"),
    ("properties", .obj [
      ("id", .obj [("type", .str "string")]),
      ("$schema", .obj [("type", .str "string")]),
      ("title", .obj [("type", .str "string")]),
      ("description", .obj [("type", .str "string")]),
      ("default", .obj []),
      ("multipleOf", .obj [("type", .str "number"), ("minimum", .int 0), ("exclusiveMinimum", .bool true)]),
      ("maximum", .obj [("type", .str "number")]),
      ("exclusiveMaximum", .obj [("type", .str "boolean")]),
      ("minimum", .obj [("type", .str "number")]),
      ("exclusiveMinimum", .obj [("type", .str "boolean")]),
      ("maxLength", .obj [("$ref", .str "#/definitions/positiveInteger")]),
      ("minLength", .obj [("$ref", .str "#/definitions/positiveIntegerDefault0")]),
      ("pattern", .obj [("type", .str "string"), ("format", .str "regex")]),
      ("additionalItems", .obj [
        ("anyOf", .list [.obj [("type", .str "boolean")], .obj [("$ref", .str "#")]]),
        ("default", .obj [])]),
      ("items", .obj [
        ("anyOf", .list [.obj [("$ref", .str "#")], .obj [("$ref", .str "#/definitions/schemaArray")]]),
        ("default", .obj [])]),
      ("maxItems", .obj [("$ref", .str "#/definitions/positiveInteger")]),
      ("minItems", .obj [("$ref", .str "#/definitions/positiveIntegerDefault0")]),
      ("uniqueItems", .obj [("type", .str "boolean"), ("default", .bool false)]),
      ("maxProperties", .obj [("$ref", .str "#/definitions/positiveInteger")]),
      ("minProperties", .obj [("$ref", .str "#/definitions/positiveIntegerDefault0")]),
      ("required", .obj [("$ref", .str "#/definitions/stringArray")]),
      ("additionalProperties", .obj [
        ("anyOf", .list [.obj [("type", .str "boolean")], .obj [("$ref", .str "#")]]),
        ("default", .obj [])]),
      ("definitions", .obj [
        ("type", .str "object"),
        ("additionalProperties", .obj [("$ref", .str "#")]),
        ("default", .obj [])]),
      ("properties", .obj [
        ("type", .str "object"),
        ("additionalProperties", .obj [("$ref", .str "#")]),
        ("default", .obj [])]),
      ("patternProperties", .obj [
        ("type", .str "object"),
        ("additionalProperties", .obj [("$ref", .str "#")]),
        ("default", .obj [])]),
      ("dependencies", .obj [
        ("type", .str "object"),
        ("additionalProperties", .obj [
          ("anyOf", .list [.obj [("$ref", .str "#")], .obj [("$ref", .str "#/definitions/stringArray")]])])]),
      ("enum", .obj [("type", .str "array"), ("minItems", .int 1), ("uniqueItems", .bool true)]),
      ("type", .obj [
        ("anyOf", .list [
          .obj [("$ref", .str "#/definitions/simpleTypes")],
          .obj [
            ("type", .str "array"),
            ("items", .obj [("$ref", .str "#/definitions/simpleTypes")]),
            ("minItems", .int 1),
            ("uniqueItems", .bool true)]])]),
      ("format", .obj [("type", .str "string")]),
      ("allOf", .obj [("$ref", .str "#/definitions/schemaArray")]),
      ("anyOf", .obj [("$ref", .str "#/definitions/schemaArray")]),
      ("oneOf", .obj [("$ref", .str "#/definitions/schemaArray")]),
      ("not", .obj [("$ref", .str "#")])]),
    ("dependencies", .obj [
      ("exclusiveMaximum", .list [.str "maximum"]),
      ("exclusiveMinimum", .list [.str "minimum"])]),
    ("default", .obj [])]

/-- What every schema of the sixth draft has to meet. -/
def draft6 : Value := .obj [
    ("$schema", .str "http://json-schema.org/draft-06/schema#"),
    ("$id", .str "http://json-schema.org/draft-06/schema#"),
    ("title", .str "Core schema meta-schema"),
    ("definitions", .obj [
      ("schemaArray", .obj [("type", .str "array"), ("minItems", .int 1), ("items", .obj [("$ref", .str "#")])]),
      ("nonNegativeInteger", .obj [("type", .str "integer"), ("minimum", .int 0)]),
      ("nonNegativeIntegerDefault0", .obj [
        ("allOf", .list [
          .obj [("$ref", .str "#/definitions/nonNegativeInteger")],
          .obj [("default", .int 0)]])]),
      ("simpleTypes", .obj [
        ("enum", .list [
          .str "array",
          .str "boolean",
          .str "integer",
          .str "null",
          .str "number",
          .str "object",
          .str "string"])]),
      ("stringArray", .obj [
        ("type", .str "array"),
        ("items", .obj [("type", .str "string")]),
        ("uniqueItems", .bool true),
        ("default", .list [])])]),
    ("type", .list [.str "object", .str "boolean"]),
    ("properties", .obj [
      ("$id", .obj [("type", .str "string"), ("format", .str "uri-reference")]),
      ("$schema", .obj [("type", .str "string"), ("format", .str "uri")]),
      ("$ref", .obj [("type", .str "string"), ("format", .str "uri-reference")]),
      ("title", .obj [("type", .str "string")]),
      ("description", .obj [("type", .str "string")]),
      ("default", .obj []),
      ("examples", .obj [("type", .str "array"), ("items", .obj [])]),
      ("multipleOf", .obj [("type", .str "number"), ("exclusiveMinimum", .int 0)]),
      ("maximum", .obj [("type", .str "number")]),
      ("exclusiveMaximum", .obj [("type", .str "number")]),
      ("minimum", .obj [("type", .str "number")]),
      ("exclusiveMinimum", .obj [("type", .str "number")]),
      ("maxLength", .obj [("$ref", .str "#/definitions/nonNegativeInteger")]),
      ("minLength", .obj [("$ref", .str "#/definitions/nonNegativeIntegerDefault0")]),
      ("pattern", .obj [("type", .str "string"), ("format", .str "regex")]),
      ("additionalItems", .obj [("$ref", .str "#")]),
      ("items", .obj [
        ("anyOf", .list [.obj [("$ref", .str "#")], .obj [("$ref", .str "#/definitions/schemaArray")]]),
        ("default", .obj [])]),
      ("maxItems", .obj [("$ref", .str "#/definitions/nonNegativeInteger")]),
      ("minItems", .obj [("$ref", .str "#/definitions/nonNegativeIntegerDefault0")]),
      ("uniqueItems", .obj [("type", .str "boolean"), ("default", .bool false)]),
      ("contains", .obj [("$ref", .str "#")]),
      ("maxProperties", .obj [("$ref", .str "#/definitions/nonNegativeInteger")]),
      ("minProperties", .obj [("$ref", .str "#/definitions/nonNegativeIntegerDefault0")]),
      ("required", .obj [("$ref", .str "#/definitions/stringArray")]),
      ("additionalProperties", .obj [("$ref", .str "#")]),
      ("definitions", .obj [
        ("type", .str "object"),
        ("additionalProperties", .obj [("$ref", .str "#")]),
        ("default", .obj [])]),
      ("properties", .obj [
        ("type", .str "object"),
        ("additionalProperties", .obj [("$ref", .str "#")]),
        ("default", .obj [])]),
      ("patternProperties", .obj [
        ("type", .str "object"),
        ("additionalProperties", .obj [("$ref", .str "#")]),
        ("propertyNames", .obj [("format", .str "regex")]),
        ("default", .obj [])]),
      ("dependencies", .obj [
        ("type", .str "object"),
        ("additionalProperties", .obj [
          ("anyOf", .list [.obj [("$ref", .str "#")], .obj [("$ref", .str "#/definitions/stringArray")]])])]),
      ("propertyNames", .obj [("$ref", .str "#")]),
      ("const", .obj []),
      ("enum", .obj [("type", .str "array")]),
      ("type", .obj [
        ("anyOf", .list [
          .obj [("$ref", .str "#/definitions/simpleTypes")],
          .obj [
            ("type", .str "array"),
            ("items", .obj [("$ref", .str "#/definitions/simpleTypes")]),
            ("minItems", .int 1),
            ("uniqueItems", .bool true)]])]),
      ("format", .obj [("type", .str "string")]),
      ("allOf", .obj [("$ref", .str "#/definitions/schemaArray")]),
      ("anyOf", .obj [("$ref", .str "#/definitions/schemaArray")]),
      ("oneOf", .obj [("$ref", .str "#/definitions/schemaArray")]),
      ("not", .obj [("$ref", .str "#")])]),
    ("default", .obj [])]

/-- What every schema of the seventh draft has to meet. -/
def draft7 : Value := .obj [
    ("$schema", .str "http://json-schema.org/draft-07/schema#"),
    ("$id", .str "http://json-schema.org/draft-07/schema#"),
    ("title", .str "Core schema meta-schema"),
    ("definitions", .obj [
      ("schemaArray", .obj [("type", .str "array"), ("minItems", .int 1), ("items", .obj [("$ref", .str "#")])]),
      ("nonNegativeInteger", .obj [("type", .str "integer"), ("minimum", .int 0)]),
      ("nonNegativeIntegerDefault0", .obj [
        ("allOf", .list [
          .obj [("$ref", .str "#/definitions/nonNegativeInteger")],
          .obj [("default", .int 0)]])]),
      ("simpleTypes", .obj [
        ("enum", .list [
          .str "array",
          .str "boolean",
          .str "integer",
          .str "null",
          .str "number",
          .str "object",
          .str "string"])]),
      ("stringArray", .obj [
        ("type", .str "array"),
        ("items", .obj [("type", .str "string")]),
        ("uniqueItems", .bool true),
        ("default", .list [])])]),
    ("type", .list [.str "object", .str "boolean"]),
    ("properties", .obj [
      ("$id", .obj [("type", .str "string"), ("format", .str "uri-reference")]),
      ("$schema", .obj [("type", .str "string"), ("format", .str "uri")]),
      ("$ref", .obj [("type", .str "string"), ("format", .str "uri-reference")]),
      ("$comment", .obj [("type", .str "string")]),
      ("title", .obj [("type", .str "string")]),
      ("description", .obj [("type", .str "string")]),
      ("default", .bool true),
      ("readOnly", .obj [("type", .str "boolean"), ("default", .bool false)]),
      ("examples", .obj [("type", .str "array"), ("items", .bool true)]),
      ("multipleOf", .obj [("type", .str "number"), ("exclusiveMinimum", .int 0)]),
      ("maximum", .obj [("type", .str "number")]),
      ("exclusiveMaximum", .obj [("type", .str "number")]),
      ("minimum", .obj [("type", .str "number")]),
      ("exclusiveMinimum", .obj [("type", .str "number")]),
      ("maxLength", .obj [("$ref", .str "#/definitions/nonNegativeInteger")]),
      ("minLength", .obj [("$ref", .str "#/definitions/nonNegativeIntegerDefault0")]),
      ("pattern", .obj [("type", .str "string"), ("format", .str "regex")]),
      ("additionalItems", .obj [("$ref", .str "#")]),
      ("items", .obj [
        ("anyOf", .list [.obj [("$ref", .str "#")], .obj [("$ref", .str "#/definitions/schemaArray")]]),
        ("default", .bool true)]),
      ("maxItems", .obj [("$ref", .str "#/definitions/nonNegativeInteger")]),
      ("minItems", .obj [("$ref", .str "#/definitions/nonNegativeIntegerDefault0")]),
      ("uniqueItems", .obj [("type", .str "boolean"), ("default", .bool false)]),
      ("contains", .obj [("$ref", .str "#")]),
      ("maxProperties", .obj [("$ref", .str "#/definitions/nonNegativeInteger")]),
      ("minProperties", .obj [("$ref", .str "#/definitions/nonNegativeIntegerDefault0")]),
      ("required", .obj [("$ref", .str "#/definitions/stringArray")]),
      ("additionalProperties", .obj [("$ref", .str "#")]),
      ("definitions", .obj [
        ("type", .str "object"),
        ("additionalProperties", .obj [("$ref", .str "#")]),
        ("default", .obj [])]),
      ("properties", .obj [
        ("type", .str "object"),
        ("additionalProperties", .obj [("$ref", .str "#")]),
        ("default", .obj [])]),
      ("patternProperties", .obj [
        ("type", .str "object"),
        ("additionalProperties", .obj [("$ref", .str "#")]),
        ("propertyNames", .obj [("format", .str "regex")]),
        ("default", .obj [])]),
      ("dependencies", .obj [
        ("type", .str "object"),
        ("additionalProperties", .obj [
          ("anyOf", .list [.obj [("$ref", .str "#")], .obj [("$ref", .str "#/definitions/stringArray")]])])]),
      ("propertyNames", .obj [("$ref", .str "#")]),
      ("const", .bool true),
      ("enum", .obj [("type", .str "array"), ("items", .bool true)]),
      ("type", .obj [
        ("anyOf", .list [
          .obj [("$ref", .str "#/definitions/simpleTypes")],
          .obj [
            ("type", .str "array"),
            ("items", .obj [("$ref", .str "#/definitions/simpleTypes")]),
            ("minItems", .int 1),
            ("uniqueItems", .bool true)]])]),
      ("format", .obj [("type", .str "string")]),
      ("contentMediaType", .obj [("type", .str "string")]),
      ("contentEncoding", .obj [("type", .str "string")]),
      ("if", .obj [("$ref", .str "#")]),
      ("then", .obj [("$ref", .str "#")]),
      ("else", .obj [("$ref", .str "#")]),
      ("allOf", .obj [("$ref", .str "#/definitions/schemaArray")]),
      ("anyOf", .obj [("$ref", .str "#/definitions/schemaArray")]),
      ("oneOf", .obj [("$ref", .str "#/definitions/schemaArray")]),
      ("not", .obj [("$ref", .str "#")])]),
    ("default", .bool true)]

end SuiteEngine.Schema.Meta
