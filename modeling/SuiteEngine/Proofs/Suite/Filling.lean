import SuiteEngine.Proofs.Suite.Reading
import SuiteEngine.Suite.Api

/-!
# Tests that are filled in

Every record of a suite document is filled in field by field: its texts and its values are, while
flags stay as they are. Reading a record of the shape that its schema makes sure of commutes with
that.

Headlines:
* `ApiCase.interpolate`, `UiCase.interpolate`: a test with its placeholders filled in.
* `ApiCase.Checked`, `UiCase.Checked`: what filling in relies on to leave the numbers, the actions
  and the names of pictures of a test as they are.
* **`ApiCase.reads`**, **`UiCase.reads`**: a test can be read, and reading it commutes with filling
  it in.
* `ApiSuite.reads`, `UiSuite.reads`: a whole document can be read.
-/

namespace SuiteEngine.Suite

/-! ## Tests with their placeholders filled in -/

section Interpolate

variable (vars : Variables)

/-- The range with its placeholders filled in. -/
def StatusRange.interpolate (r : StatusRange) : StatusRange :=
  ⟨r.min.interpolate vars, r.max.interpolate vars⟩

/-- The expectation for one path with its placeholders filled in. -/
def PathExpectation.interpolate (e : PathExpectation) : PathExpectation :=
  { path := interpolateText vars e.path
    equals := e.equals.interpolate vars
    contains := e.contains.interpolate vars
    type := e.type.map (interpolateText vars)
    minLength := e.minLength.map (Value.interpolate vars)
    maxLength := e.maxLength.map (Value.interpolate vars)
    regex := e.regex.map (interpolateText vars) }

/-- The expectation with its placeholders filled in. -/
def Expectation.interpolate (e : Expectation) : Expectation :=
  { status := e.status.map (Value.interpolate vars)
    statusRange := e.statusRange.map (StatusRange.interpolate vars)
    bodyContains := e.bodyContains.interpolate vars
    bodyExact := e.bodyExact.interpolate vars
    bodySchema := e.bodySchema.map (Value.interpolate vars)
    bodyPath := e.bodyPath.map (PathExpectation.interpolate vars)
    headers := fillTexts vars e.headers
    responseTime := e.responseTime.map (Value.interpolate vars) }

/-- The test with its placeholders filled in. -/
def ApiCase.interpolate (c : ApiCase) : ApiCase :=
  { name := interpolateText vars c.name
    method := interpolateText vars c.method
    endpoint := interpolateText vars c.endpoint
    expect := c.expect.interpolate vars
    tags := c.tags.map (interpolateText vars)
    headers := fillTexts vars c.headers
    query := Value.interpolateFields vars c.query
    body := c.body.interpolate vars
    auth := c.auth.map (interpolateText vars)
    dataInjection := Value.interpolateFields vars c.dataInjection
    skip := c.skip
    only := c.only
    timeout := c.timeout.map (Value.interpolate vars)
    retries := c.retries.map (Value.interpolate vars)
    document := c.document.interpolate vars }

/-- The step with its placeholders filled in. -/
def UiAction.interpolate (a : UiAction) : UiAction :=
  { action := interpolateText vars a.action
    selector := a.selector.map (interpolateText vars)
    value := a.value.interpolate vars
    options := Value.interpolateFields vars a.options
    description := a.description.map (interpolateText vars) }

/-- The size with its placeholders filled in. -/
def Viewport.interpolate (v : Viewport) : Viewport :=
  ⟨v.width.interpolate vars, v.height.interpolate vars⟩

/-- The picture with its placeholders filled in. -/
def SnapshotRequest.interpolate (s : SnapshotRequest) : SnapshotRequest :=
  ⟨interpolateText vars s.name, s.fullPage, s.selector.map (interpolateText vars)⟩

/-- The test with its placeholders filled in. -/
def UiCase.interpolate (c : UiCase) : UiCase :=
  { name := interpolateText vars c.name
    steps := c.steps.map (UiAction.interpolate vars)
    tags := c.tags.map (interpolateText vars)
    url := c.url.map (interpolateText vars)
    viewport := c.viewport.map (Viewport.interpolate vars)
    snapshot := c.snapshot.map (SnapshotRequest.interpolate vars)
    dataInjection := Value.interpolateFields vars c.dataInjection
    skip := c.skip
    only := c.only
    timeout := c.timeout.map (Value.interpolate vars)
    retries := c.retries.map (Value.interpolate vars)
    document := c.document.interpolate vars }

end Interpolate

theorem numbers_of_optional {d : Value} {name : String} (h : Optional IsNumber d name) :
    ∀ v ∈ field? d name, IsNumber v := fun v hv => h v (field?_eq_some hv)

/-! ## Reading API documents -/

section Api

variable {d : Value}

/-- The limits of the range are numbers. -/
structure StatusRange.Checked (r : StatusRange) : Prop where
  min : IsNumber r.min
  max : IsNumber r.max

/-- The bounds of the expectation are numbers. -/
structure PathExpectation.Checked (e : PathExpectation) : Prop where
  minLength : ∀ v ∈ e.minLength, IsNumber v
  maxLength : ∀ v ∈ e.maxLength, IsNumber v

/-- What is declared as a number is one. -/
structure Expectation.Checked (e : Expectation) : Prop where
  status : ∀ v ∈ e.status, IsNumber v
  statusRange : ∀ r ∈ e.statusRange, r.Checked
  bodyPath : ∀ p ∈ e.bodyPath, p.Checked
  responseTime : ∀ v ∈ e.responseTime, IsNumber v

/-- What is declared as a number is one. -/
structure ApiCase.Checked (c : ApiCase) : Prop where
  expect : c.expect.Checked
  timeout : ∀ v ∈ c.timeout, IsNumber v
  retries : ∀ v ∈ c.retries, IsNumber v

theorem StatusRange.reads (h : StatusRangeShape d) :
    ∃ r, StatusRange.Checked r ∧ Reads StatusRange.ofDocument StatusRange.interpolate d r := by
  obtain ⟨min, hmin, hm, hm'⟩ := need_reads h.min
  obtain ⟨max, hmax, hx, hx'⟩ := need_reads h.max
  refine ⟨⟨min, max⟩, ⟨hmin, hmax⟩, ?_, fun vars => ?_⟩
  · simp only [StatusRange.ofDocument, hm, hx]
    rfl
  · simp only [StatusRange.ofDocument, hm' vars, hx' vars]
    rfl

theorem PathExpectation.reads (h : PathExpectationShape d) :
    ∃ e, PathExpectation.Checked e ∧
      Reads PathExpectation.ofDocument PathExpectation.interpolate d e := by
  obtain ⟨path, _, hp, hp'⟩ := needText_reads h.path fun _ hv => hv
  refine ⟨?value, ?checked, ?plain, fun vars => ?filled⟩
  case plain =>
    simp only [PathExpectation.ofDocument, hp]
    rfl
  case checked => exact ⟨numbers_of_optional h.minLength, numbers_of_optional h.maxLength⟩
  case filled =>
    simp only [PathExpectation.ofDocument, hp' vars, orMissing_interpolate, field?_interpolate,
      text?_interpolate vars h.type, text?_interpolate vars h.regex]
    rfl

theorem Expectation.reads (h : ExpectationShape d) :
    ∃ e, Expectation.Checked e ∧ Reads Expectation.ofDocument Expectation.interpolate d e := by
  obtain ⟨range, hrange, hr, hr'⟩ := filled_reads h.statusRange (fun _ hv => hv.min.isObject)
    fun _ => StatusRange.reads
  obtain ⟨items, hitems, hi, hi'⟩ := items_reads h.bodyPath
  obtain ⟨paths, hpaths, hp, hp'⟩ := mapM_reads (Q := fun _ => PathExpectation.Checked)
    fun v hv => PathExpectation.reads (hitems v hv)
  obtain ⟨headers, hh, hh'⟩ := textFields_reads h.headers
  refine ⟨?value, ?checked, ?plain, fun vars => ?filled⟩
  case plain =>
    simp only [Expectation.ofDocument, mayHaveFields_of_isObject h.object, hr, hi, hp, hh, ok_bind]
    rfl
  case checked =>
    exact ⟨numbers_of_optional h.status, hrange, forall_of_forall₂ hpaths,
      numbers_of_optional h.responseTime⟩
  case filled =>
    simp only [Expectation.ofDocument, mayHaveFields_of_isObject (h.object.interpolate vars),
      hr' vars, hi' vars, hp' vars, hh' vars, ok_bind, orMissing_interpolate, field?_interpolate]
    rfl

theorem TokenExtraction.reads (h : TokenExtractionShape d) :
    ∃ e, TokenExtraction.ofDocument d = .ok e := by
  obtain ⟨path, _, hp, _⟩ := needText_reads h.fromPath fun _ hv => hv
  obtain ⟨name, _, hn, _⟩ := needText_reads h.variableName fun _ hv => hv
  refine ⟨⟨path, name⟩, ?_⟩
  simp only [TokenExtraction.ofDocument, hp, hn]
  rfl

theorem SideCall.reads (h : SideCallShape d) : ∃ c, SideCall.ofDocument d = .ok c := by
  obtain ⟨method, _, hm, _⟩ := needText_reads h.method fun _ hv => hv
  obtain ⟨endpoint, _, he, _⟩ := needText_reads h.endpoint fun _ hv => hv
  obtain ⟨headers, hh, _⟩ := textFields_reads h.headers
  obtain ⟨token, ht⟩ := filled_mapM h.extractToken fun _ => TokenExtraction.reads
  refine ⟨?value, ?plain⟩
  case plain =>
    simp only [SideCall.ofDocument, mayHaveFields_of_isObject h.object, hm, he, hh, ht]
    rfl

theorem ExpectationShape.empty : ExpectationShape (.obj []) where
  object := ⟨[], rfl⟩
  status := fun _ hv => nomatch hv
  statusRange := fun _ hv => nomatch hv
  bodyPath := fun _ hv => nomatch hv
  headers := fun _ hv => nomatch hv
  responseTime := fun _ hv => nomatch hv

/-- What a test expects is read in the same way where it expects nothing. -/
theorem expect_reads (h : Required ExpectationShape d "expect") :
    ∃ e, Expectation.Checked e ∧
      Expectation.ofDocument ((filled? d "expect").getD (.obj [])) = .ok e ∧
      ∀ vars, Expectation.ofDocument ((filled? (d.interpolate vars) "expect").getD (.obj [])) =
        .ok (e.interpolate vars) := by
  have ho : Optional ExpectationShape d "expect" := by
    obtain ⟨v, hv, hs⟩ := h
    exact fun w hw => Option.some.inj (hv.symm.trans hw) ▸ hs
  have hs : ExpectationShape ((filled? d "expect").getD (.obj [])) := by
    cases hv : filled? d "expect" with
    | none => exact .empty
    | some v => exact ho v (filled?_eq_some hv)
  obtain ⟨e, hc, he⟩ := Expectation.reads hs
  refine ⟨e, hc, he.plain, fun vars => ?_⟩
  rw [filled?_interpolate vars (ho.imp fun _ hv => hv.object.str?), getD_interpolate vars _ rfl]
  exact he.filled vars

/-- **An API test can be read, and reading it commutes with filling it in.** -/
theorem ApiCase.reads (h : ApiCaseShape d) :
    ∃ c, (ApiCase.Checked c ∧ c.document = d) ∧
      Reads ApiCase.ofDocument ApiCase.interpolate d c := by
  obtain ⟨name, _, hn, hn'⟩ := needText_reads h.name fun _ hv => hv
  obtain ⟨method, _, hm, hm'⟩ := needText_reads h.method fun _ hv => hv
  obtain ⟨endpoint, _, he, he'⟩ := needText_reads h.endpoint fun _ hv => hv
  obtain ⟨expect, hexpect, hx, hx'⟩ := expect_reads h.expect
  obtain ⟨tags, ht, ht'⟩ := texts_reads h.tags
  obtain ⟨headers, hh, hh'⟩ := textFields_reads h.headers
  obtain ⟨query, _, hq, hq'⟩ := fields_reads h.query fun _ hv => hv
  obtain ⟨injected, _, hi, hi'⟩ := fields_reads h.dataInjection fun _ => IsMap.isObject
  refine ⟨?value, ⟨?checked, ?document⟩, ?plain, fun vars => ?filled⟩
  case plain =>
    simp only [ApiCase.ofDocument, hn, hm, he, hx, ht, hh, hq, hi]
    rfl
  case checked =>
    exact ⟨hexpect, numbers_of_optional h.timeout, numbers_of_optional h.retries⟩
  case document => rfl
  case filled =>
    simp only [ApiCase.ofDocument, hn' vars, hm' vars, he' vars, hx' vars, ht' vars, hh' vars,
      hq' vars, hi' vars, field?_interpolate,
      getD_interpolate vars (w := .null) _ rfl, text?_interpolate vars h.auth,
      flag_interpolate vars h.skip, flag_interpolate vars h.only, ok_bind]
    rfl

/-- **An API suite can be read**, and so can each of its tests after it was filled in. -/
theorem ApiSuite.reads (h : ApiSuiteShape d) :
    ∃ s, ApiSuite.ofDocument d = .ok s ∧
      d.get? "tests" = some (.list (s.tests.map ApiCase.document)) ∧
      ∀ c ∈ s.tests, ApiCase.Checked c ∧
        Reads ApiCase.ofDocument ApiCase.interpolate c.document c := by
  obtain ⟨name, _, hn, _⟩ := needText_reads h.name fun _ hv => hv
  obtain ⟨tags, ht, _⟩ := texts_reads h.tags
  obtain ⟨setup, hs⟩ := filled_mapM h.setup fun _ => SideCall.reads
  obtain ⟨teardown, hd⟩ := filled_mapM h.teardown fun _ => SideCall.reads
  obtain ⟨_, hv, xs, rfl, hxs⟩ := h.tests
  obtain ⟨tests, htests, hm, _⟩ := mapM_reads
    (Q := fun x c => x = c.document ∧ ApiCase.Checked c ∧
      Reads ApiCase.ofDocument ApiCase.interpolate c.document c) fun x hx => by
    obtain ⟨c, ⟨hc, rfl⟩, hr⟩ := ApiCase.reads (hxs x hx)
    exact ⟨c, ⟨rfl, hc, hr⟩, hr⟩
  obtain ⟨rfl, heach⟩ := map_of_forall₂ htests
  refine ⟨?value, ?plain, ?tests, ?each⟩
  case plain =>
    simp only [ApiSuite.ofDocument, mayHaveFields_of_isObject h.object, hn, need_of_get? hv,
      itemsOf, hm, ht, hs, hd, ok_bind]
    rfl
  case tests => exact hv
  case each => exact heach

end Api

/-! ## Reading UI documents -/

section Ui

open SuiteEngine.Ui (ActionKind)

variable {d : Value}

/-- The action is one that there is. -/
def UiAction.Checked (a : UiAction) : Prop := ∃ kind : ActionKind, a.action = kind.word

/-- The sides of the window are numbers. -/
structure Viewport.Checked (v : Viewport) : Prop where
  width : IsNumber v.width
  height : IsNumber v.height

/-- No placeholder can stand in the name. -/
def SnapshotRequest.Checked (s : SnapshotRequest) : Prop := '\x7b' ∉ s.name.toList

/-- What is declared as a number is one, every action is known, and the name of the picture is
plain. -/
structure UiCase.Checked (c : UiCase) : Prop where
  steps : ∀ a ∈ c.steps, a.Checked
  viewport : ∀ v ∈ c.viewport, v.Checked
  snapshot : ∀ s ∈ c.snapshot, s.Checked
  timeout : ∀ v ∈ c.timeout, IsNumber v
  retries : ∀ v ∈ c.retries, IsNumber v

theorem UiAction.reads (h : UiActionShape d) :
    ∃ a, UiAction.Checked a ∧ Reads UiAction.ofDocument UiAction.interpolate d a := by
  obtain ⟨action, ⟨kind, hk⟩, ha, ha'⟩ := needText_reads h.action fun _ ⟨kind, hk⟩ => ⟨_, hk⟩
  obtain ⟨options, _, ho, ho'⟩ := fields_reads h.options fun _ hv => hv
  refine ⟨?value, ?checked, ?plain, fun vars => ?filled⟩
  case plain =>
    simp only [UiAction.ofDocument, ha, ho]
    rfl
  case checked => exact ⟨kind, Value.str.inj hk⟩
  case filled =>
    simp only [UiAction.ofDocument, ha' vars, ho' vars, field?_interpolate,
      getD_interpolate vars (w := .null) _ rfl, text?_interpolate vars h.selector,
      text?_interpolate vars h.description]
    rfl

theorem Viewport.reads (h : ViewportShape d) :
    ∃ v, Viewport.Checked v ∧ Reads Viewport.ofDocument Viewport.interpolate d v := by
  obtain ⟨width, hwidth, hw, hw'⟩ := need_reads h.width
  obtain ⟨height, hheight, hh, hh'⟩ := need_reads h.height
  refine ⟨⟨width, height⟩, ⟨hwidth, hheight⟩, ?_, fun vars => ?_⟩
  · simp only [Viewport.ofDocument, hw, hh]
    rfl
  · simp only [Viewport.ofDocument, hw' vars, hh' vars]
    rfl

theorem SnapshotRequest.reads (h : SnapshotShape d) :
    ∃ s, SnapshotRequest.Checked s ∧
      Reads SnapshotRequest.ofDocument SnapshotRequest.interpolate d s := by
  obtain ⟨name, ⟨_, hs, hplain⟩, hn, hn'⟩ := needText_reads h.name fun _ ⟨s, hs, _⟩ => ⟨s, hs⟩
  refine ⟨?value, ?checked, ?plain, fun vars => ?filled⟩
  case plain =>
    simp only [SnapshotRequest.ofDocument, hn]
    rfl
  case checked => exact Value.str.inj hs ▸ hplain
  case filled =>
    simp only [SnapshotRequest.ofDocument, hn' vars, flag_interpolate vars h.fullPage,
      text?_interpolate vars h.selector]
    rfl

/-- **A UI test can be read, and reading it commutes with filling it in.** -/
theorem UiCase.reads (h : UiCaseShape d) :
    ∃ c, (UiCase.Checked c ∧ c.document = d) ∧
      Reads UiCase.ofDocument UiCase.interpolate d c := by
  obtain ⟨name, _, hn, hn'⟩ := needText_reads h.name fun _ hv => hv
  obtain ⟨items, hitems, hi, hi'⟩ := items_reads h.steps
  obtain ⟨steps, hsteps, hs, hs'⟩ := mapM_reads (Q := fun _ => UiAction.Checked)
    fun v hv => UiAction.reads (hitems v hv)
  obtain ⟨tags, ht, ht'⟩ := texts_reads h.tags
  obtain ⟨viewport, hviewport, hv, hv'⟩ := filled_reads h.viewport
    (fun _ hv => hv.width.isObject) fun _ => Viewport.reads
  obtain ⟨snapshot, hsnapshot, hp, hp'⟩ := filled_reads h.snapshot
    (fun _ hv => hv.name.isObject) fun _ => SnapshotRequest.reads
  obtain ⟨injected, _, hj, hj'⟩ := fields_reads h.dataInjection fun _ => IsMap.isObject
  refine ⟨?value, ⟨?checked, ?document⟩, ?plain, fun vars => ?filled⟩
  case plain =>
    simp only [UiCase.ofDocument, mayHaveFields_of_isObject h.object, hn, hi, hs, ht, hv, hp, hj,
      ok_bind]
    rfl
  case checked =>
    exact ⟨forall_of_forall₂ hsteps, hviewport, hsnapshot, numbers_of_optional h.timeout,
      numbers_of_optional h.retries⟩
  case document => rfl
  case filled =>
    simp only [UiCase.ofDocument, mayHaveFields_of_isObject (h.object.interpolate vars), hn' vars,
      hi' vars, hs' vars, ht' vars, hv' vars, hp' vars, hj' vars, field?_interpolate,
      text?_interpolate vars h.url, flag_interpolate vars h.skip, flag_interpolate vars h.only,
      ok_bind]
    rfl

/-- **A UI suite can be read**, and so can each of its tests after it was filled in. -/
theorem UiSuite.reads (h : UiSuiteShape d) :
    ∃ s, UiSuite.ofDocument d = .ok s ∧
      d.get? "tests" = some (.list (s.tests.map UiCase.document)) ∧
      ∀ c ∈ s.tests, UiCase.Checked c ∧
        Reads UiCase.ofDocument UiCase.interpolate c.document c := by
  obtain ⟨name, _, hn, _⟩ := needText_reads h.name fun _ hv => hv
  obtain ⟨tags, ht, _⟩ := texts_reads h.tags
  obtain ⟨setup, hs⟩ := filled_mapM h.setup
    fun _ hv => (UiAction.reads hv).imp fun _ hr => hr.2.plain
  obtain ⟨teardown, hd⟩ := filled_mapM h.teardown
    fun _ hv => (UiAction.reads hv).imp fun _ hr => hr.2.plain
  obtain ⟨_, hv, xs, rfl, hxs⟩ := h.tests
  obtain ⟨tests, htests, hm, _⟩ := mapM_reads
    (Q := fun x c => x = c.document ∧ UiCase.Checked c ∧
      Reads UiCase.ofDocument UiCase.interpolate c.document c) fun x hx => by
    obtain ⟨c, ⟨hc, rfl⟩, hr⟩ := UiCase.reads (hxs x hx)
    exact ⟨c, ⟨rfl, hc, hr⟩, hr⟩
  obtain ⟨rfl, heach⟩ := map_of_forall₂ htests
  refine ⟨?value, ?plain, ?tests, ?each⟩
  case plain =>
    simp only [UiSuite.ofDocument, mayHaveFields_of_isObject h.object, hn, need_of_get? hv,
      itemsOf, hm, ht, hs, hd, ok_bind]
    rfl
  case tests => exact hv
  case each => exact heach

end Ui

end SuiteEngine.Suite
