import SuiteEngine.Json.Parse
import SuiteEngine.Json.Print
import SuiteEngine.Schema.Meta.Draft2019
import SuiteEngine.Schema.Meta.Draft2020
import SuiteEngine.Schema.Meta.Drafts
import SuiteEngine.Schema.Validate

/-!
# Compiling a schema

A schema that comes with a document is known by its text: one line of ASCII with the keys of all objects
sorted. It is compiled from that text alone, and only if it is a schema of its dialect. What was compiled
last is kept by its text, so that the same schema is not compiled again.

* `canonical`: the text that a schema is known by.
* `compile`: a schema from its text.
* `Kept.compile`: the same, with what is kept looked at first.
-/

namespace SuiteEngine.Schema

/-!
## Schemas of schemas

Every dialect has a schema that its schemas have to meet. References may lead to these six as well.
-/

/-- What every schema of the dialect has to meet. -/
def Dialect.ownSchema : Dialect → Value
  | draft3 => Meta.draft3
  | draft4 => Meta.draft4
  | draft6 => Meta.draft6
  | draft7 => Meta.draft7
  | draft2019 => Meta.draft2019
  | draft2020 => Meta.draft2020

/-- The schemas that every reference may lead to. -/
def Library.known : Library :=
  Dialect.all.map fun d => ⟨d.address, none, false, d.ownSchema⟩

/-- The findings for a schema under that of its dialect. -/
def Dialect.findings (d : Dialect) (schema : Value) : List Finding :=
  validate .known d d.ownSchema schema

/-! ## Schemas by their texts -/

/-- The text that a schema is known by. -/
def canonical (schema : Value) : String := Json.ascii (Json.render .sortedLine schema)

/-- The dialect that a schema is written in; the fourth where it does not say. -/
def dialectOf (schema : Value) : Except Fault Dialect :=
  match schema.get? "$schema" with
  | none => .ok .draft7
  | some (.str s) => .ok ((Dialect.ofAddress? s).getD .draft7)
  | some v =>
    match v with
    | .list _ => .error (.badDialect v)
    | .obj _ => .error (.badDialect v)
    | v => if v.truthy then .error (.badDialect v) else .ok .draft7

/-- A schema that was found to be one, and the dialect that it is written in. -/
structure Compiled where
  dialect : Dialect
  schema : Value

/-- Why there is no compiled schema. -/
inductive Refusal where
  /-- It could not be found out whether the text is that of a schema. -/
  | fault (f : Fault)
  /-- It is not. -/
  | invalid (v : Violation)

/-- The schema that is JSON, if it is one. -/
def compileValue (schema : Value) : Except Refusal Compiled :=
  match dialectOf schema with
  | .error f => .error (.fault f)
  | .ok d =>
    match d.findings schema with
    | .fault f :: _ => .error (.fault f)
    | .violation v :: _ => .error (.invalid v)
    | [] => .ok ⟨d, schema⟩

/-- The schema with this text. -/
def compile (text : String) : Except Refusal Compiled :=
  match Json.parse text with
  | .error e => .error (.fault (.unreadable (e.message text)))
  | .ok schema => compileValue schema

/-- Compiled schemas by their texts, the one asked for last standing first. -/
abbrev Kept := List (String × Compiled)

/-- How many compiled schemas are kept. -/
def Kept.limit : Nat := 256

/-- The schema with this text: one that is kept, which comes first then, or one that is compiled and
kept from now on, if it is a schema. The one not asked for the longest makes room. -/
def Kept.compile (kept : Kept) (text : String) : Except Refusal Compiled × Kept :=
  match kept.lookup text with
  | some c => (.ok c, (text, c) :: kept.filter fun e => e.1 != text)
  | none =>
    match Schema.compile text with
    | .ok c => (.ok c, ((text, c) :: kept).take limit)
    | .error r => (.error r, kept)

end SuiteEngine.Schema
