import SuiteEngine.Document.Value

/-!
# The schema of API suite documents

`document` is the whole schema; its definitions are given one by one before it.
-/

namespace SuiteEngine.Suite.ApiSchema

/-- Tags: different texts, none of them empty. -/
def tags : Value :=
  .obj [
    ("type", .str "array"),
    ("items", .obj [("type", .str "string"), ("minLength", .int 1)]),
    ("uniqueItems", .bool true)]

/-- The name of a request method. -/
def method : Value :=
  .obj [
    ("type", .str "string"),
    ("enum", .list [
      .str "GET",
      .str "POST",
      .str "PUT",
      .str "PATCH",
      .str "DELETE",
      .str "HEAD",
      .str "OPTIONS"])]

/-- An object of texts. -/
def stringMap : Value :=
  .obj [("type", .str "object"), ("additionalProperties", .obj [("type", .str "string")])]

/-- A request made before or after the tests. -/
def sideCall : Value :=
  .obj [
    ("type", .str "object"),
    ("required", .list [.str "method", .str "endpoint"]),
    ("additionalProperties", .bool false),
    ("properties", .obj [
      ("method", .obj [("$ref", .str "#/definitions/method")]),
      ("endpoint", .obj [("type", .str "string"), ("minLength", .int 1)]),
      ("body", .obj []),
      ("headers", .obj [("$ref", .str "#/definitions/stringMap")]),
      ("extractToken", .obj [
        ("type", .str "object"),
        ("required", .list [.str "fromPath", .str "as"]),
        ("additionalProperties", .bool false),
        ("properties", .obj [
          ("fromPath", .obj [("type", .str "string"), ("minLength", .int 1)]),
          ("as", .obj [("type", .str "string"), ("pattern", .str "^\\w+$")])])])])]

/-- What a part of a response body has to be. -/
def pathAssertion : Value :=
  .obj [
    ("type", .str "object"),
    ("required", .list [.str "path"]),
    ("additionalProperties", .bool false),
    ("properties", .obj [
      ("path", .obj [("type", .str "string"), ("minLength", .int 1)]),
      ("equals", .obj []),
      ("contains", .obj []),
      ("type", .obj [
        ("type", .str "string"),
        ("enum", .list [
          .str "string",
          .str "number",
          .str "integer",
          .str "boolean",
          .str "object",
          .str "array",
          .str "null",
          .str "undefined"])]),
      ("minLength", .obj [("type", .str "integer"), ("minimum", .int 0)]),
      ("maxLength", .obj [("type", .str "integer"), ("minimum", .int 0)]),
      ("regex", .obj [("type", .str "string"), ("format", .str "regex")])])]

/-- What a response has to be. -/
def expectation : Value :=
  .obj [
    ("type", .str "object"),
    ("additionalProperties", .bool false),
    ("properties", .obj [
      ("status", .obj [("type", .str "integer"), ("minimum", .int 100), ("maximum", .int 599)]),
      ("statusRange", .obj [
        ("type", .str "object"),
        ("required", .list [.str "min", .str "max"]),
        ("additionalProperties", .bool false),
        ("properties", .obj [
          ("min", .obj [("type", .str "integer"), ("minimum", .int 100), ("maximum", .int 599)]),
          ("max", .obj [("type", .str "integer"), ("minimum", .int 100), ("maximum", .int 599)])])]),
      ("bodyContains", .obj []),
      ("bodyExact", .obj []),
      ("bodySchema", .obj [("type", .list [.str "object", .str "boolean"])]),
      ("bodyPath", .obj [
        ("type", .str "array"),
        ("items", .obj [("$ref", .str "#/definitions/bodyPathAssertion")])]),
      ("headers", .obj [("$ref", .str "#/definitions/stringMap")]),
      ("responseTime", .obj [("type", .str "number"), ("exclusiveMinimum", .int 0)])])]

/-- A test: a request and what the response has to be. -/
def testCase : Value :=
  .obj [
    ("type", .str "object"),
    ("required", .list [.str "name", .str "method", .str "endpoint", .str "expect"]),
    ("additionalProperties", .bool false),
    ("properties", .obj [
      ("name", .obj [("type", .str "string"), ("minLength", .int 1)]),
      ("description", .obj [("type", .str "string")]),
      ("tags", .obj [("$ref", .str "#/definitions/tags")]),
      ("method", .obj [("$ref", .str "#/definitions/method")]),
      ("endpoint", .obj [("type", .str "string"), ("minLength", .int 1)]),
      ("headers", .obj [("$ref", .str "#/definitions/stringMap")]),
      ("query", .obj [
        ("type", .str "object"),
        ("additionalProperties", .obj [("type", .list [.str "string", .str "number", .str "boolean"])])]),
      ("body", .obj []),
      ("auth", .obj [("type", .str "string")]),
      ("expect", .obj [("$ref", .str "#/definitions/expectation")]),
      ("dataInjection", .obj [("$ref", .str "#/definitions/stringMap")]),
      ("skip", .obj [("type", .str "boolean")]),
      ("only", .obj [("type", .str "boolean")]),
      ("timeout", .obj [("type", .str "integer"), ("minimum", .int 1)]),
      ("retries", .obj [("type", .str "integer"), ("minimum", .int 0)])])]

/-- The whole schema. -/
def document : Value :=
  .obj [
    ("$schema", .str "http://json-schema.org/draft-07/schema#"),
    ("$id", .str "https://universal-test-engine.dev/schemas/api-test.schema.json"),
    ("title", .str "API test suite"),
    ("type", .str "object"),
    ("required", .list [.str "suite", .str "tests"]),
    ("additionalProperties", .bool false),
    ("properties", .obj [
      ("$schema", .obj [("type", .str "string")]),
      ("suite", .obj [("type", .str "string"), ("minLength", .int 1)]),
      ("description", .obj [("type", .str "string")]),
      ("tags", .obj [("$ref", .str "#/definitions/tags")]),
      ("baseEndpoint", .obj [("type", .str "string")]),
      ("setup", .obj [("$ref", .str "#/definitions/setupCall")]),
      ("teardown", .obj [("$ref", .str "#/definitions/setupCall")]),
      ("tests", .obj [
        ("type", .str "array"),
        ("minItems", .int 1),
        ("items", .obj [("$ref", .str "#/definitions/testCase")])])]),
    ("definitions", .obj [
      ("tags", tags),
      ("method", method),
      ("stringMap", stringMap),
      ("setupCall", sideCall),
      ("bodyPathAssertion", pathAssertion),
      ("expectation", expectation),
      ("testCase", testCase)])]

end SuiteEngine.Suite.ApiSchema
