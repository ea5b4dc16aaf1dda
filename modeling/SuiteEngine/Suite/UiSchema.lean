import SuiteEngine.Document.Value

/-!
# The schema of UI suite documents

`document` is the whole schema; its definitions are given one by one before it.
-/

namespace SuiteEngine.Suite.UiSchema

/-- Tags: different texts, none of them empty. -/
def tags : Value :=
  .obj [
    ("type", .str "array"),
    ("items", .obj [("type", .str "string"), ("minLength", .int 1)]),
    ("uniqueItems", .bool true)]

/-- A step on a page. -/
def action : Value :=
  .obj [
    ("type", .str "object"),
    ("required", .list [.str "action"]),
    ("additionalProperties", .bool false),
    ("properties", .obj [
      ("action", .obj [
        ("type", .str "string"),
        ("enum", .list [
          .str "goto",
          .str "click",
          .str "fill",
          .str "select",
          .str "check",
          .str "uncheck",
          .str "hover",
          .str "press",
          .str "scroll",
          .str "upload",
          .str "evaluate",
          .str "wait",
          .str "waitForSelector",
          .str "waitForURL",
          .str "assertVisible",
          .str "assertHidden",
          .str "assertText",
          .str "assertValue",
          .str "assertURL",
          .str "assertTitle",
          .str "assertCount",
          .str "screenshot"])]),
      ("selector", .obj [("type", .str "string"), ("minLength", .int 1)]),
      ("value", .obj []),
      ("options", .obj [("type", .str "object")]),
      ("description", .obj [("type", .str "string")])])]

/-- A picture of the page to compare. -/
def snapshot : Value :=
  .obj [
    ("type", .str "object"),
    ("required", .list [.str "name"]),
    ("additionalProperties", .bool false),
    ("properties", .obj [
      ("name", .obj [("type", .str "string"), ("pattern", .str "^[\\w.-]+$")]),
      ("fullPage", .obj [("type", .str "boolean")]),
      ("selector", .obj [("type", .str "string"), ("minLength", .int 1)])])]

/-- A test: steps on a page, and perhaps a picture of it. -/
def testCase : Value :=
  .obj [
    ("type", .str "object"),
    ("required", .list [.str "name", .str "steps"]),
    ("additionalProperties", .bool false),
    ("properties", .obj [
      ("name", .obj [("type", .str "string"), ("minLength", .int 1)]),
      ("description", .obj [("type", .str "string")]),
      ("tags", .obj [("$ref", .str "#/definitions/tags")]),
      ("url", .obj [("type", .str "string")]),
      ("viewport", .obj [
        ("type", .str "object"),
        ("required", .list [.str "width", .str "height"]),
        ("additionalProperties", .bool false),
        ("properties", .obj [
          ("width", .obj [("type", .str "integer"), ("minimum", .int 1)]),
          ("height", .obj [("type", .str "integer"), ("minimum", .int 1)])])]),
      ("steps", .obj [
        ("type", .str "array"),
        ("minItems", .int 1),
        ("items", .obj [("$ref", .str "#/definitions/action")])]),
      ("snapshot", .obj [("$ref", .str "#/definitions/snapshot")]),
      ("dataInjection", .obj [("type", .str "object"), ("additionalProperties", .obj [("type", .str "string")])]),
      ("skip", .obj [("type", .str "boolean")]),
      ("only", .obj [("type", .str "boolean")]),
      ("timeout", .obj [("type", .str "integer"), ("minimum", .int 1)]),
      ("retries", .obj [("type", .str "integer"), ("minimum", .int 0)])])]

/-- The whole schema. -/
def document : Value :=
  .obj [
    ("$schema", .str "http://json-schema.org/draft-07/schema#"),
    ("$id", .str "https://universal-test-engine.dev/schemas/ui-test.schema.json"),
    ("title", .str "UI test suite"),
    ("type", .str "object"),
    ("required", .list [.str "suite", .str "tests"]),
    ("additionalProperties", .bool false),
    ("properties", .obj [
      ("$schema", .obj [("type", .str "string")]),
      ("suite", .obj [("type", .str "string"), ("minLength", .int 1)]),
      ("description", .obj [("type", .str "string")]),
      ("tags", .obj [("$ref", .str "#/definitions/tags")]),
      ("basePath", .obj [("type", .str "string")]),
      ("setup", .obj [("$ref", .str "#/definitions/action")]),
      ("teardown", .obj [("$ref", .str "#/definitions/action")]),
      ("tests", .obj [
        ("type", .str "array"),
        ("minItems", .int 1),
        ("items", .obj [("$ref", .str "#/definitions/testCase")])])]),
    ("definitions", .obj [
      ("tags", tags),
      ("action", action),
      ("snapshot", snapshot),
      ("testCase", testCase)])]

end SuiteEngine.Suite.UiSchema
