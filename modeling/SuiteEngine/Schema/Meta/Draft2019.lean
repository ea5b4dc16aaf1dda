import SuiteEngine.Document.Value

/-!
# The schema of the schemas of one dialect
-/

namespace SuiteEngine.Schema.Meta

/-- What every schema of this dialect has to meet. -/
def draft2019 : Value := .obj [
    ("$schema", .str "https://json-schema.org/draft/2019-09/schema"),
    ("$id", .str "https://json-schema.org/draft/2019-09/schema"),
    ("title", .str "Core and Validation specifications meta-schema"),
    ("allOf", .list [
      .obj [
        ("title", .str "Core vocabulary meta-schema"),
        ("type", .list [.str "object", .str "boolean"]),
        ("properties", .obj [
          ("$id", .obj [
            ("type", .str "string"),
            ("format", .str "uri-reference"),
            ("$comment", .str "Non-empty fragments not allowed."),
            ("pattern", .str "^[^#]*#?$")]),
          ("$schema", .obj [("type", .str "string"), ("format", .str "uri")]),
          ("$anchor", .obj [("type", .str "string"), ("pattern", .str "^[A-Za-z][-A-Za-z0-9.:_]*$")]),
          ("$ref", .obj [("type", .str "string"), ("format", .str "uri-reference")]),
          ("$recursiveRef", .obj [("type", .str "string"), ("format", .str "uri-reference")]),
          ("$recursiveAnchor", .obj [("type", .str "boolean"), ("default", .bool false)]),
          ("$vocabulary", .obj [
            ("type", .str "object"),
            ("propertyNames", .obj [("type", .str "string"), ("format", .str "uri")]),
            ("additionalProperties", .obj [("type", .str "boolean")])]),
          ("$comment", .obj [("type", .str "string")]),
          ("$defs", .obj [
            ("type", .str "object"),
            ("additionalProperties", .obj [("$ref", .str "#")]),
            ("default", .obj [])])])],
      .obj [
        ("title", .str "Applicator vocabulary meta-schema"),
        ("type", .list [.str "object", .str "boolean"]),
        ("properties", .obj [
          ("additionalItems", .obj [("$ref", .str "#")]),
          ("unevaluatedItems", .obj [("$ref", .str "#")]),
          ("items", .obj [
            ("anyOf", .list [.obj [("$ref", .str "#")], .obj [("$ref", .str "#/$defs/schemaArray")]])]),
          ("contains", .obj [("$ref", .str "#")]),
          ("additionalProperties", .obj [("$ref", .str "#")]),
          ("unevaluatedProperties", .obj [("$ref", .str "#")]),
          ("properties", .obj [
            ("type", .str "object"),
            ("additionalProperties", .obj [("$ref", .str "#")]),
            ("default", .obj [])]),
          ("patternProperties", .obj [
            ("type", .str "object"),
            ("additionalProperties", .obj [("$ref", .str "#")]),
            ("propertyNames", .obj [("format", .str "regex")]),
            ("default", .obj [])]),
          ("dependentSchemas", .obj [("type", .str "object"), ("additionalProperties", .obj [("$ref", .str "#")])]),
          ("propertyNames", .obj [("$ref", .str "#")]),
          ("if", .obj [("$ref", .str "#")]),
          ("then", .obj [("$ref", .str "#")]),
          ("else", .obj [("$ref", .str "#")]),
          ("allOf", .obj [("$ref", .str "#/$defs/schemaArray")]),
          ("anyOf", .obj [("$ref", .str "#/$defs/schemaArray")]),
          ("oneOf", .obj [("$ref", .str "#/$defs/schemaArray")]),
          ("not", .obj [("$ref", .str "#")])])],
      .obj [
        ("title", .str "Validation vocabulary meta-schema"),
        ("type", .list [.str "object", .str "boolean"]),
        ("properties", .obj [
          ("multipleOf", .obj [("type", .str "number"), ("exclusiveMinimum", .int 0)]),
          ("maximum", .obj [("type", .str "number")]),
          ("exclusiveMaximum", .obj [("type", .str "number")]),
          ("minimum", .obj [("type", .str "number")]),
          ("exclusiveMinimum", .obj [("type", .str "number")]),
          ("maxLength", .obj [("$ref", .str "#/$defs/nonNegativeInteger")]),
          ("minLength", .obj [("$ref", .str "#/$defs/nonNegativeIntegerDefault0")]),
          ("pattern", .obj [("type", .str "string"), ("format", .str "regex")]),
          ("maxItems", .obj [("$ref", .str "#/$defs/nonNegativeInteger")]),
          ("minItems", .obj [("$ref", .str "#/$defs/nonNegativeIntegerDefault0")]),
          ("uniqueItems", .obj [("type", .str "boolean"), ("default", .bool false)]),
          ("maxContains", .obj [("$ref", .str "#/$defs/nonNegativeInteger")]),
          ("minContains", .obj [("$ref", .str "#/$defs/nonNegativeInteger"), ("default", .int 1)]),
          ("maxProperties", .obj [("$ref", .str "#/$defs/nonNegativeInteger")]),
          ("minProperties", .obj [("$ref", .str "#/$defs/nonNegativeIntegerDefault0")]),
          ("required", .obj [("$ref", .str "#/$defs/stringArray")]),
          ("dependentRequired", .obj [
            ("type", .str "object"),
            ("additionalProperties", .obj [("$ref", .str "#/$defs/stringArray")])]),
          ("const", .bool true),
          ("enum", .obj [("type", .str "array"), ("items", .bool true)]),
          ("type", .obj [
            ("anyOf", .list [
              .obj [("$ref", .str "#/$defs/simpleTypes")],
              .obj [
                ("type", .str "array"),
                ("items", .obj [("$ref", .str "#/$defs/simpleTypes")]),
                ("minItems", .int 1),
                ("uniqueItems", .bool true)]])])])],
      .obj [
        ("title", .str "Meta-data vocabulary meta-schema"),
        ("type", .list [.str "object", .str "boolean"]),
        ("properties", .obj [
          ("title", .obj [("type", .str "string")]),
          ("description", .obj [("type", .str "string")]),
          ("default", .bool true),
          ("deprecated", .obj [("type", .str "boolean"), ("default", .bool false)]),
          ("readOnly", .obj [("type", .str "boolean"), ("default", .bool false)]),
          ("writeOnly", .obj [("type", .str "boolean"), ("default", .bool false)]),
          ("examples", .obj [("type", .str "array"), ("items", .bool true)])])],
      .obj [
        ("title", .str "Format vocabulary meta-schema"),
        ("type", .list [.str "object", .str "boolean"]),
        ("properties", .obj [("format", .obj [("type", .str "string")])])],
      .obj [
        ("title", .str "Content vocabulary meta-schema"),
        ("type", .list [.str "object", .str "boolean"]),
        ("properties", .obj [
          ("contentMediaType", .obj [("type", .str "string")]),
          ("contentEncoding", .obj [("type", .str "string")]),
          ("contentSchema", .obj [("$ref", .str "#")])])]]),
    ("type", .list [.str "object", .str "boolean"]),
    ("properties", .obj [
      ("definitions", .obj [
        ("type", .str "object"),
        ("additionalProperties", .obj [("$ref", .str "#")]),
        ("default", .obj [])]),
      ("dependencies", .obj [
        ("type", .str "object"),
        ("additionalProperties", .obj [
          ("anyOf", .list [.obj [("$ref", .str "#")], .obj [("$ref", .str "#/$defs/stringArray")]])])])]),
    ("$defs", .obj [
      ("schemaArray", .obj [("type", .str "array"), ("minItems", .int 1), ("items", .obj [("$ref", .str "#")])]),
      ("nonNegativeInteger", .obj [("type", .str "integer"), ("minimum", .int 0)]),
      ("nonNegativeIntegerDefault0", .obj [("$ref", .str "#/$defs/nonNegativeInteger"), ("default", .int 0)]),
      ("simpleTypes", .obj [
        ("enum", .list [
          .str "array",
          .str "boolean",
          .str "integer",
          .str "null",
          .str "number",
          .str "object",
          .str "string"])]),
      ("stringArray", .obj [
        ("type", .str "array"),
        ("items", .obj [("type", .str "string")]),
        ("uniqueItems", .bool true),
        ("default", .list [])])])]

end SuiteEngine.Schema.Meta
