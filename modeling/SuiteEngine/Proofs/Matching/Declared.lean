import SuiteEngine.Matching.Evaluate
import SuiteEngine.Proofs.Except

/-!
# Which checks an expectation declares

The checks that are made of a response are settled by the expectation alone: by which of its parts
are there, not by what they are.

Headlines:
* `declared`: the checks that an expectation declares.
* **`evaluate_checks`**: a report has one outcome for each of them, in their order.
-/

namespace SuiteEngine.Matching

open Suite (Expectation PathExpectation)

/-! ## Checks -/

/-- The name of a check, if it is made. -/
def madeIf (made : Bool) (name : String) : List String := if made then [name] else []

/-- The checks that are made of one part of the body. -/
def declaredOfPath (e : PathExpectation) : List String :=
  madeIf (!e.equals.isMissing) "equals" ++ madeIf (!e.contains.isMissing) "contains"
    ++ madeIf e.type.isSome "type" ++ madeIf e.minLength.isSome "minLength"
    ++ madeIf e.maxLength.isSome "maxLength" ++ madeIf e.regex.isSome "regex"

/-- The checks that are made of a response. -/
structure Checks where
  /-- Those of the response as a whole. -/
  whole : List String
  /-- Those of the parts of the body, for one part after the other. -/
  parts : List (List String)
  /-- The headers that are checked. -/
  headers : List String
  /-- Those of the time that the response took. -/
  time : List String
deriving DecidableEq, Repr

/-- The checks that an expectation declares. -/
def declared (e : Expectation) : Checks where
  whole := madeIf e.status.isSome "status" ++ madeIf e.statusRange.isSome "statusRange"
    ++ madeIf (!e.bodyContains.isMissing) "bodyContains"
    ++ madeIf (!e.bodyExact.isMissing) "bodyExact" ++ madeIf e.bodySchema.isSome "bodySchema"
  parts := e.bodyPath.map declaredOfPath
  headers := e.headers.map Prod.fst
  time := madeIf e.responseTime.isSome "responseTime"

/-- What reports call a check of the part under a path. -/
def pathCheck (path check : String) : String := "bodyPath[" ++ path ++ "]." ++ check

/-- What reports call the checks, where the parts of the body are under these paths. -/
def Checks.names (paths : List String) (c : Checks) : List String :=
  c.whole ++ (List.zipWith (fun path checks => checks.map (pathCheck path)) paths c.parts).flatten
    ++ c.headers.map (fun name => "headers[" ++ Text.lower name ++ "]") ++ c.time

/-! ## Outcomes -/

theorem whenPresent_check {c : Value → Outcome} {n : String} (h : ∀ v, (c v).check = n)
    (v : Value) : (whenPresent v c).map Outcome.check = madeIf (!v.isMissing) n := by
  unfold whenPresent madeIf
  cases v.isMissing with
  | true => rfl
  | false => exact congrArg (fun m => [m]) (h v)

theorem option_check {α : Type} {c : α → Outcome} {n : String} (h : ∀ a, (c a).check = n)
    (o : Option α) : (o.toList.map c).map Outcome.check = madeIf o.isSome n := by
  cases o with
  | none => rfl
  | some a => exact congrArg (fun m => [m]) (h a)

/-- A check that may fail to be made has the same name whenever it is made. -/
theorem option_checkM {α : Type} {o : Option α} {c : α → Except Failure Outcome} {n : String}
    {r : Report} (h : ∀ a outcome, c a = .ok outcome → outcome.check = n)
    (hr : o.toList.mapM c = .ok r) : r.map Outcome.check = madeIf o.isSome n := by
  cases o with
  | none =>
    cases hr
    rfl
  | some a =>
    rw [Option.toList_some, List.mapM_cons, bind_eq_ok] at hr
    obtain ⟨outcome, ha, hr⟩ := hr
    cases hr
    exact congrArg (fun m => [m]) (h a outcome ha)

theorem checkBodySchema_check {schema body : Value} {outcome : Outcome}
    (h : checkBodySchema schema body = .ok outcome) : outcome.check = "bodySchema" := by
  unfold checkBodySchema at h
  split at h
  · cases h
    rfl
  · cases h

theorem checkResponseTime_check {limit elapsed : Value} {outcome : Outcome}
    (h : checkResponseTime limit elapsed = .ok outcome) : outcome.check = "responseTime" := by
  unfold checkResponseTime at h
  rw [bind_eq_ok] at h
  obtain ⟨took, _, h⟩ := h
  rw [bind_eq_ok] at h
  obtain ⟨allowed, _, h⟩ := h
  cases h
  rfl

theorem checkPathRegex_check {path pattern : String} {actual : Value} {outcome : Outcome}
    (h : checkPathRegex path pattern actual = .ok outcome) :
    outcome.check = pathCheck path "regex" := by
  unfold checkPathRegex at h
  split at h
  · cases h
    rfl
  · split at h
    · cases h
      rfl
    · cases h

theorem checkPathLength_check (check relation : String) (holds : Value → Value → Bool)
    (path : String) (bound actual : Value) :
    (checkPathLength check relation holds path bound actual).check = pathCheck path check := by
  unfold checkPathLength
  cases lengthOf? actual with
  | none => rfl
  | some n => rfl

theorem madeIf_map (made : Bool) (name : String) (f : String → String) :
    (madeIf made name).map f = madeIf made (f name) := by
  cases made <;> rfl

/-- The outcomes for one part of the body are those of the checks declared for it. -/
theorem checkPath_checks {e : PathExpectation} {body : Value} {r : Report}
    (h : checkPath e body = .ok r) :
    r.map Outcome.check = (declaredOfPath e).map (pathCheck e.path) := by
  unfold checkPath at h
  rw [bind_eq_ok] at h
  obtain ⟨regex, hregex, h⟩ := h
  cases h
  have hequals := whenPresent_check (n := pathCheck e.path "equals")
    (c := (checkPathEquals e.path · (body.deepGet e.path))) (fun _ => rfl) e.equals
  have hcontains := whenPresent_check (n := pathCheck e.path "contains")
    (c := (checkPathContains e.path · (body.deepGet e.path))) (fun _ => rfl) e.contains
  have htype := option_check (n := pathCheck e.path "type")
    (c := (checkPathType e.path · (body.deepGet e.path))) (fun _ => rfl) e.type
  have hmin := option_check (fun v => checkPathLength_check "minLength" ">="
    (fun n bound => atMost bound n) e.path v (body.deepGet e.path)) e.minLength
  have hmax := option_check (fun v => checkPathLength_check "maxLength" "<=" atMost e.path v
    (body.deepGet e.path)) e.maxLength
  have hregex := option_checkM (fun _ _ ho => checkPathRegex_check ho) hregex
  simp only [declaredOfPath, List.map_append, madeIf_map, hequals, hcontains, htype, hmin, hmax,
    hregex]

/-- The outcomes for the parts of the body are those of the checks declared for each. -/
theorem checkPaths_checks {es : List PathExpectation} {body : Value} {rs : List Report}
    (h : es.mapM (fun e => checkPath e body) = .ok rs) :
    rs.flatten.map Outcome.check = (List.zipWith (fun path checks => checks.map (pathCheck path))
      (es.map PathExpectation.path) (es.map declaredOfPath)).flatten := by
  induction es generalizing rs with
  | nil =>
    cases h
    rfl
  | cons e es ih =>
    rw [List.mapM_cons, bind_eq_ok] at h
    obtain ⟨r, hr, h⟩ := h
    rw [bind_eq_ok] at h
    obtain ⟨rs', hrs, h⟩ := h
    cases h
    rw [List.flatten_cons, List.map_append, checkPath_checks hr, ih hrs]
    rfl

/-- **A report has one outcome for each check that the expectation declares**, in their order. -/
theorem evaluate_checks {e : Expectation} {observed : Http.Response} {r : Report}
    (h : evaluate e observed = .ok r) :
    r.map Outcome.check = (declared e).names (e.bodyPath.map PathExpectation.path) := by
  unfold evaluate at h
  rw [bind_eq_ok] at h
  obtain ⟨schema, hschema, h⟩ := h
  rw [bind_eq_ok] at h
  obtain ⟨paths, hpaths, h⟩ := h
  rw [bind_eq_ok] at h
  obtain ⟨time, htime, h⟩ := h
  cases h
  have hstatus := option_check (n := "status") (c := (checkStatus · observed.status))
    (fun _ => rfl) e.status
  have hrange := option_check (n := "statusRange") (c := (checkStatusRange · observed.status))
    (fun _ => rfl) e.statusRange
  have hcontains := whenPresent_check (n := "bodyContains")
    (c := (checkBodyContains · observed.body)) (fun _ => rfl) e.bodyContains
  have hexact := whenPresent_check (n := "bodyExact") (c := (checkBodyExact · observed.body))
    (fun _ => rfl) e.bodyExact
  have hschema := option_checkM (fun _ _ ho => checkBodySchema_check ho) hschema
  have htime := option_checkM (fun _ _ ho => checkResponseTime_check ho) htime
  simp only [List.map_append, hstatus, hrange, hcontains, hexact, hschema, checkPaths_checks hpaths,
    htime, declared, Checks.names, List.append_assoc, List.map_map]
  rfl

end SuiteEngine.Matching
