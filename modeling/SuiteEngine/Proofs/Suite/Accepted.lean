import SuiteEngine.Proofs.Matching.Declared
import SuiteEngine.Proofs.Suite.Filling

/-!
# Accepted documents can be run

A document that meets its schema can be read, and stays readable whatever its placeholders are
filled in with. What a run is steered by is the same for every attempt: filling in changes neither
flags nor numbers, neither the actions nor the name of the picture, and no check appears or goes
away.

Headlines:
* `ApiCase.sameSettings_interpolate`, `UiCase.sameSettings_interpolate`: what filling in leaves
  alone.
* **`accepted_reads`**: accepted documents of both kinds.
-/

namespace SuiteEngine.Suite

open Matching (declared declaredOfPath)
open SuiteEngine.Ui (ActionKind)

variable (vars : Variables)

/-! ## What filling in leaves alone -/

theorem numbers_interpolate {o : Option Value} (h : ∀ v ∈ o, IsNumber v) :
    o.map (Value.interpolate vars) = o := by
  cases o with
  | none => rfl
  | some v => exact congrArg some (Value.interpolate_of_isNumber vars (h v rfl))

/-- The bounds on the lengths of the parts of the body. -/
def Expectation.lengths (e : Expectation) : List (Option Value × Option Value) :=
  e.bodyPath.map fun p => (p.minLength, p.maxLength)

/-- Two tests run under the same settings and declare the same checks. -/
structure ApiCase.SameSettings (c c' : ApiCase) : Prop where
  skip : c'.skip = c.skip
  only : c'.only = c.only
  timeout : c'.timeout = c.timeout
  retries : c'.retries = c.retries
  status : c'.expect.status = c.expect.status
  statusRange : c'.expect.statusRange = c.expect.statusRange
  lengths : c'.expect.lengths = c.expect.lengths
  responseTime : c'.expect.responseTime = c.expect.responseTime
  checks : declared c'.expect = declared c.expect

/-- Two tests run under the same settings and take the same actions, all of which there are. -/
structure UiCase.SameSettings (c c' : UiCase) : Prop where
  actions : c'.steps.map UiAction.action = c.steps.map UiAction.action
  known : ∀ a ∈ c'.steps, (ActionKind.ofWord? a.action).isSome = true
  skip : c'.skip = c.skip
  only : c'.only = c.only
  timeout : c'.timeout = c.timeout
  retries : c'.retries = c.retries
  viewport : c'.viewport = c.viewport
  snapshot : c'.snapshot.map SnapshotRequest.name = c.snapshot.map SnapshotRequest.name

theorem StatusRange.interpolate_of_checked {r : StatusRange} (h : r.Checked) :
    r.interpolate vars = r := by
  obtain ⟨min, max⟩ := r
  rw [StatusRange.interpolate, Value.interpolate_of_isNumber vars h.min,
    Value.interpolate_of_isNumber vars h.max]

theorem lengths_interpolate {e : Expectation} (h : e.Checked) :
    (e.interpolate vars).lengths = e.lengths := by
  unfold Expectation.lengths Expectation.interpolate
  rw [List.map_map]
  refine List.map_congr_left fun p hp => ?_
  have hc := h.bodyPath p hp
  exact Prod.ext (numbers_interpolate vars hc.minLength) (numbers_interpolate vars hc.maxLength)

theorem declaredOfPath_interpolate (e : PathExpectation) :
    declaredOfPath (e.interpolate vars) = declaredOfPath e := by
  unfold declaredOfPath PathExpectation.interpolate
  simp only [Value.isMissing_interpolate, Option.isSome_map]

/-- A check is declared by what is there, which filling in does not change. -/
theorem declared_interpolate (e : Expectation) : declared (e.interpolate vars) = declared e := by
  unfold declared Expectation.interpolate fillTexts
  simp only [Value.isMissing_interpolate, Option.isSome_map, List.map_map]
  congr 1
  exact List.map_congr_left fun p _ => declaredOfPath_interpolate vars p

/-- **Filling in an API test leaves its settings and its checks alone.** -/
theorem ApiCase.sameSettings_interpolate {c : ApiCase} (h : c.Checked) :
    c.SameSettings (c.interpolate vars) where
  skip := rfl
  only := rfl
  timeout := numbers_interpolate vars h.timeout
  retries := numbers_interpolate vars h.retries
  status := numbers_interpolate vars h.expect.status
  statusRange := by
    change c.expect.statusRange.map (StatusRange.interpolate vars) = c.expect.statusRange
    cases hr : c.expect.statusRange with
    | none => rfl
    | some r =>
      exact congrArg some (StatusRange.interpolate_of_checked vars (h.expect.statusRange r hr))
  lengths := lengths_interpolate vars h.expect
  responseTime := numbers_interpolate vars h.expect.responseTime
  checks := declared_interpolate vars c.expect

theorem word_interpolate (kind : ActionKind) : interpolateText vars kind.word = kind.word := by
  refine interpolateText_of_not_mem vars ?_
  cases kind <;> decide

theorem ofWord?_word (kind : ActionKind) : ActionKind.ofWord? kind.word = some kind := by
  cases kind <;> decide

theorem Viewport.interpolate_of_checked {v : Viewport} (h : v.Checked) :
    v.interpolate vars = v := by
  obtain ⟨width, height⟩ := v
  rw [Viewport.interpolate, Value.interpolate_of_isNumber vars h.width,
    Value.interpolate_of_isNumber vars h.height]

/-- **Filling in a UI test leaves its settings and its actions alone.** -/
theorem UiCase.sameSettings_interpolate {c : UiCase} (h : c.Checked) :
    c.SameSettings (c.interpolate vars) where
  actions := by
    change (c.steps.map (UiAction.interpolate vars)).map UiAction.action = _
    rw [List.map_map]
    refine List.map_congr_left fun a ha => ?_
    obtain ⟨kind, hk⟩ := h.steps a ha
    change interpolateText vars a.action = a.action
    rw [hk, word_interpolate]
  known := by
    intro a ha
    obtain ⟨b, hb, rfl⟩ := List.mem_map.mp ha
    obtain ⟨kind, hk⟩ := h.steps b hb
    change (ActionKind.ofWord? (interpolateText vars b.action)).isSome = true
    rw [hk, word_interpolate, ofWord?_word]
    rfl
  skip := rfl
  only := rfl
  timeout := numbers_interpolate vars h.timeout
  retries := numbers_interpolate vars h.retries
  viewport := by
    change c.viewport.map (Viewport.interpolate vars) = c.viewport
    cases hv : c.viewport with
    | none => rfl
    | some v => exact congrArg some (Viewport.interpolate_of_checked vars (h.viewport v hv))
  snapshot := by
    change (c.snapshot.map (SnapshotRequest.interpolate vars)).map SnapshotRequest.name = _
    cases hs : c.snapshot with
    | none => rfl
    | some s => exact congrArg some (interpolateText_of_not_mem vars (h.snapshot s hs))

/-! ## Accepted documents -/

/-- Whether a document meets the schema of its kind. -/
def Kind.accepts (k : Kind) (document : Value) : Bool :=
  match k.issues document with
  | .ok [] => true
  | _ => false

theorem Kind.issues_of_accepts {k : Kind} {document : Value} (h : k.accepts document = true) :
    k.issues document = .ok [] := by
  unfold Kind.accepts at h
  split at h
  · assumption
  · cases h

theorem api_accepted_reads {d : Value} (h : Kind.api.issues d = .ok []) :
    ∃ s, ApiSuite.ofDocument d = .ok s ∧
      d.get? "tests" = some (.list (s.tests.map ApiCase.document)) ∧
      ∀ c ∈ s.tests, ApiCase.Checked c ∧
        Reads ApiCase.ofDocument ApiCase.interpolate c.document c :=
  ApiSuite.reads (.of_accepted (Schema.accepted_of_issues h))

theorem ui_accepted_reads {d : Value} (h : Kind.ui.issues d = .ok []) :
    ∃ s, UiSuite.ofDocument d = .ok s ∧
      d.get? "tests" = some (.list (s.tests.map UiCase.document)) ∧
      ∀ c ∈ s.tests, UiCase.Checked c ∧
        Reads UiCase.ofDocument UiCase.interpolate c.document c :=
  UiSuite.reads (.of_accepted (Schema.accepted_of_issues h))

/-- **A document that meets its schema can be read**, as a suite with one test for each that it
declares. Each test can be read again after it was filled in with any variables, which gives the
test as declared, filled in field by field; its settings, its actions and its checks are still the
same. -/
theorem accepted_reads (document : Value) :
    (Kind.api.issues document = .ok [] →
      ∃ s, ApiSuite.ofDocument document = .ok s ∧
        document.get? "tests" = some (.list (s.tests.map ApiCase.document)) ∧
        ∀ c ∈ s.tests, ApiCase.ofDocument c.document = .ok c ∧ ∀ vars,
          ApiCase.ofDocument (c.document.interpolate vars) = .ok (c.interpolate vars) ∧
            c.SameSettings (c.interpolate vars)) ∧
    (Kind.ui.issues document = .ok [] →
      ∃ s, UiSuite.ofDocument document = .ok s ∧
        document.get? "tests" = some (.list (s.tests.map UiCase.document)) ∧
        ∀ c ∈ s.tests, UiCase.ofDocument c.document = .ok c ∧ ∀ vars,
          UiCase.ofDocument (c.document.interpolate vars) = .ok (c.interpolate vars) ∧
            c.SameSettings (c.interpolate vars)) := by
  constructor
  · intro h
    obtain ⟨s, hs, ht, hc⟩ := api_accepted_reads h
    refine ⟨s, hs, ht, fun c hm => ?_⟩
    obtain ⟨hchecked, hreads⟩ := hc c hm
    exact ⟨hreads.plain, fun vars =>
      ⟨hreads.filled vars, ApiCase.sameSettings_interpolate vars hchecked⟩⟩
  · intro h
    obtain ⟨s, hs, ht, hc⟩ := ui_accepted_reads h
    refine ⟨s, hs, ht, fun c hm => ?_⟩
    obtain ⟨hchecked, hreads⟩ := hc c hm
    exact ⟨hreads.plain, fun vars =>
      ⟨hreads.filled vars, UiCase.sameSettings_interpolate vars hchecked⟩⟩

/-- An API document with a placeholder. -/
def apiGreeting : Value :=
  .obj [("suite", .str "S"), ("tests", .list [.obj [("name", .str "n"), ("method", .str "GET"),
    ("endpoint", .str "/\x7b\x7bpath\x7d\x7d"), ("expect", .obj [("status", .int 200)])]])]

/-- A UI document with a placeholder and a picture. -/
def uiGreeting : Value :=
  .obj [("suite", .str "S"), ("tests", .list [.obj [("name", .str "n"),
    ("steps", .list [.obj [("action", .str "click"), ("selector", .str "#\x7b\x7bid\x7d\x7d")]]),
    ("snapshot", .obj [("name", .str "after.png")])]])]

theorem apiGreeting_issues : Kind.api.issues apiGreeting = .ok [] :=
  Kind.issues_of_accepts (by decide +kernel)

theorem uiGreeting_issues : Kind.ui.issues uiGreeting = .ok [] :=
  Kind.issues_of_accepts (by decide +kernel)

/-- The greetings are read as suites of one test each. -/
theorem accepted_reads_greeting :
    (Kind.api.issues apiGreeting = .ok [] ∧
      ∃ s, ApiSuite.ofDocument apiGreeting = .ok s ∧ s.tests.length = 1) ∧
    Kind.ui.issues uiGreeting = .ok [] ∧
      ∃ s, UiSuite.ofDocument uiGreeting = .ok s ∧ s.tests.length = 1 := by
  obtain ⟨s, hs, hst, _⟩ := (accepted_reads apiGreeting).1 apiGreeting_issues
  obtain ⟨t, ht, htt, _⟩ := (accepted_reads uiGreeting).2 uiGreeting_issues
  refine ⟨⟨apiGreeting_issues, s, hs, ?_⟩, uiGreeting_issues, t, ht, ?_⟩
  · have hl := Value.list.inj (Option.some.inj hst)
    exact (List.length_map _).symm.trans (congrArg List.length hl.symm)
  · have hl := Value.list.inj (Option.some.inj htt)
    exact (List.length_map _).symm.trans (congrArg List.length hl.symm)

end SuiteEngine.Suite
