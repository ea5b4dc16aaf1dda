import SuiteEngine.Proofs.Pattern.Stretch
import SuiteEngine.Proofs.Schema.Acceptance
import SuiteEngine.Ui.Action

/-!
# The shape of accepted documents

What reading a suite document relies on, stated without the schema: which fields have to be there,
and of what kind each field is that is there. There is a shape for every record that is read, and
the schema of a kind makes sure of the shapes of its documents. A change of a schema concerns this
module only.

Headlines:
* `ApiCaseShape.of_accepted`, `UiCaseShape.of_accepted`: one test of an accepted document.
* **`ApiSuiteShape.of_accepted`**, **`UiSuiteShape.of_accepted`**: a whole document.
-/

namespace SuiteEngine.Suite

open Schema (Accepted Anonymous)

/-! ## Kinds of values and fields -/

/-- The value is a text. -/
def IsText (v : Value) : Prop := ∃ s, v = .str s

/-- The value is a truth value. -/
def IsFlag (v : Value) : Prop := v.bool?.isSome = true

/-- The value is a number. -/
def IsNumber (v : Value) : Prop := v.isNumber = true

/-- The value is an object. -/
def IsObject (v : Value) : Prop := ∃ fs, v = .obj fs

/-- The value is an array whose items are as said. -/
def IsArray (P : Value → Prop) (v : Value) : Prop := ∃ xs, v = .list xs ∧ ∀ x ∈ xs, P x

/-- The value is an object whose fields are as said. -/
def IsMap (P : Value → Prop) (v : Value) : Prop := ∃ fs, v = .obj fs ∧ ∀ f ∈ fs, P f.2

/-- The field is there and as said. -/
def Required (P : Value → Prop) (d : Value) (name : String) : Prop :=
  ∃ v, d.get? name = some v ∧ P v

/-- The field is as said if it is there. -/
def Optional (P : Value → Prop) (d : Value) (name : String) : Prop :=
  ∀ v, d.get? name = some v → P v

/-! ## What a schema makes sure of -/

section Accepted

variable {k : Kind} {fs : List (String × Value)} {v : Value}

theorem isObject_of_accepted (h : Accepted k (.obj fs) v) (hr : Value.lookup "$ref" fs = none)
    (ht : Value.lookup "type" fs = some (.str "object")) : IsObject v := by
  have hv := h.hasType hr ht
  cases v with
  | obj gs => exact ⟨gs, rfl⟩
  | _ => cases hv

theorem isText_of_accepted (h : Accepted k (.obj fs) v) (hr : Value.lookup "$ref" fs = none)
    (ht : Value.lookup "type" fs = some (.str "string")) : IsText v := by
  have hv := h.hasType hr ht
  cases v with
  | str s => exact ⟨s, rfl⟩
  | _ => cases hv

theorem isFlag_of_accepted (h : Accepted k (.obj fs) v) (hr : Value.lookup "$ref" fs = none)
    (ht : Value.lookup "type" fs = some (.str "boolean")) : IsFlag v :=
  Option.some.inj (h.hasType hr ht)

theorem isNumber_of_integer (h : Accepted k (.obj fs) v) (hr : Value.lookup "$ref" fs = none)
    (ht : Value.lookup "type" fs = some (.str "integer")) : IsNumber v := by
  have hv := h.hasType hr ht
  cases v with
  | int n => rfl
  | float x => rfl
  | _ => cases hv

theorem isNumber_of_number (h : Accepted k (.obj fs) v) (hr : Value.lookup "$ref" fs = none)
    (ht : Value.lookup "type" fs = some (.str "number")) : IsNumber v :=
  Option.some.inj (h.hasType hr ht)

theorem isArray_of_accepted {P : Value → Prop} {ss : List (String × Value)}
    (h : Accepted k (.obj fs) v) (hr : Value.lookup "$ref" fs = none)
    (ht : Value.lookup "type" fs = some (.str "array"))
    (hi : Value.lookup "items" fs = some (.obj ss)) (ha : Anonymous (.obj ss))
    (hP : ∀ w, Accepted k (.obj ss) w → P w) : IsArray P v := by
  have hv := h.hasType hr ht
  cases v with
  | list xs => exact ⟨xs, rfl, fun x hx => hP x (h.item hr hi ha x hx)⟩
  | _ => cases hv

/-- An object of texts, where the schema says no more. -/
theorem isMap_of_accepted (h : Accepted k (.obj [("type", .str "object"),
    ("additionalProperties", .obj [("type", .str "string")])]) v) : IsMap IsText v := by
  obtain ⟨gs, rfl⟩ := isObject_of_accepted h rfl rfl
  exact ⟨gs, rfl, fun f hf =>
    isText_of_accepted (h.anyProperty rfl rfl rfl rfl ⟨rfl, rfl⟩ f hf) rfl rfl⟩

/-- The schema that an object's schema has for a property, which names no address of its own. -/
def declared? (fs : List (String × Value)) (name : String) : Option Value :=
  match Value.lookup "$ref" fs, Value.lookup "properties" fs with
  | none, some (.obj ps) =>
    (Value.lookup name ps).filter fun s => (s.get? "$schema").isNone && (s.get? "$id").isNone
  | _, _ => none

theorem optional_of_accepted {P : Value → Prop} {gs : List (String × Value)} {name : String}
    (h : Accepted k (.obj fs) v) (hd : declared? fs name = some (.obj gs))
    (hP : ∀ w, Accepted k (.obj gs) w → P w) : Optional P v name := by
  unfold declared? at hd
  split at hd
  · rename_i ps hr hp
    obtain ⟨hs, ha⟩ := Option.filter_eq_some_iff.mp hd
    simp only [Bool.and_eq_true, Option.isNone_iff_eq_none] at ha
    exact fun w hw => hP w (h.property hr hp hs ⟨ha.1, ha.2⟩ hw)
  · cases hd

theorem required_of_accepted {P : Value → Prop} {gs : List (String × Value)} {name : String}
    {names : List Value} (h : Accepted k (.obj fs) v) (hd : declared? fs name = some (.obj gs))
    (hr : Value.lookup "$ref" fs = none) (ht : Value.lookup "type" fs = some (.str "object"))
    (hn : Value.lookup "required" fs = some (.list names)) (hm : .str name ∈ names)
    (hP : ∀ w, Accepted k (.obj gs) w → P w) : Required P v name := by
  obtain ⟨hs, rfl⟩ := isObject_of_accepted h hr ht
  obtain ⟨w, hw⟩ := h.required hr hn hm
  exact ⟨w, hw, optional_of_accepted h hd hP w hw⟩

end Accepted

/-- A text that is equal to a value under a schema is that value. -/
theorem eq_of_deepEqual_str {w : Value} {s : String} (h : w.deepEqual (.str s) = true) :
    w = .str s := by
  cases w with
  | str t =>
    simp only [Value.deepEqual, Value.scalarsEqual, beq_iff_eq] at h
    rw [h]
  | list xs => cases xs <;> simp [Value.deepEqual, Value.itemsEqual, Value.items?] at h
  | tuple xs => cases xs <;> simp [Value.deepEqual, Value.itemsEqual, Value.items?] at h
  | _ => simp [Value.deepEqual, Value.scalarsEqual, Value.denoted?] at h

/-! ## API documents -/

section Api

variable {v : Value}

/-- A reference to a definition of the schema of API documents leads there. -/
theorem api_definition {reference : String} (name : String) {gs : List (String × Value)}
    (h : Accepted .api (.obj [("$ref", .str reference)]) v)
    (hp : Schema.pointsTo reference ["definitions", name] = true)
    (hn : (ApiSchema.document.get? "definitions").bind (Value.get? · name) = some (.obj gs))
    (ha : Anonymous (.obj gs)) : Accepted .api (.obj gs) v :=
  h.definition hp rfl rfl ⟨rfl, rfl⟩ hn ha

theorem api_tags (h : Accepted .api (.obj [("$ref", .str "#/definitions/tags")]) v) :
    IsArray IsText v :=
  isArray_of_accepted (api_definition "tags" h (by decide +kernel) rfl ⟨rfl, rfl⟩) rfl rfl rfl
    ⟨rfl, rfl⟩ fun _ hw => isText_of_accepted hw rfl rfl

theorem api_method (h : Accepted .api (.obj [("$ref", .str "#/definitions/method")]) v) :
    IsText v :=
  isText_of_accepted (api_definition "method" h (by decide +kernel) rfl ⟨rfl, rfl⟩) rfl rfl

theorem api_stringMap (h : Accepted .api (.obj [("$ref", .str "#/definitions/stringMap")]) v) :
    IsMap IsText v :=
  isMap_of_accepted (api_definition "stringMap" h (by decide +kernel) rfl ⟨rfl, rfl⟩)

/-- What reading a range of status codes relies on. -/
structure StatusRangeShape (d : Value) : Prop where
  min : Required IsNumber d "min"
  max : Required IsNumber d "max"

/-- What reading an expectation for one path relies on. -/
structure PathExpectationShape (d : Value) : Prop where
  path : Required IsText d "path"
  type : Optional IsText d "type"
  minLength : Optional IsNumber d "minLength"
  maxLength : Optional IsNumber d "maxLength"
  regex : Optional IsText d "regex"

/-- What reading an expectation relies on. -/
structure ExpectationShape (d : Value) : Prop where
  object : IsObject d
  status : Optional IsNumber d "status"
  statusRange : Optional StatusRangeShape d "statusRange"
  bodyPath : Optional (IsArray PathExpectationShape) d "bodyPath"
  headers : Optional (IsMap IsText) d "headers"
  responseTime : Optional IsNumber d "responseTime"

/-- What reading the extraction of a token relies on. -/
structure TokenExtractionShape (d : Value) : Prop where
  fromPath : Required IsText d "fromPath"
  variableName : Required IsText d "as"

/-- What reading a call before or after the tests relies on. -/
structure SideCallShape (d : Value) : Prop where
  object : IsObject d
  method : Required IsText d "method"
  endpoint : Required IsText d "endpoint"
  headers : Optional (IsMap IsText) d "headers"
  extractToken : Optional TokenExtractionShape d "extractToken"

/-- What reading a test relies on. -/
structure ApiCaseShape (d : Value) : Prop where
  name : Required IsText d "name"
  method : Required IsText d "method"
  endpoint : Required IsText d "endpoint"
  expect : Required ExpectationShape d "expect"
  tags : Optional (IsArray IsText) d "tags"
  headers : Optional (IsMap IsText) d "headers"
  query : Optional IsObject d "query"
  auth : Optional IsText d "auth"
  dataInjection : Optional (IsMap IsText) d "dataInjection"
  skip : Optional IsFlag d "skip"
  only : Optional IsFlag d "only"
  timeout : Optional IsNumber d "timeout"
  retries : Optional IsNumber d "retries"

/-- What reading a suite relies on. -/
structure ApiSuiteShape (d : Value) : Prop where
  object : IsObject d
  name : Required IsText d "suite"
  tests : Required (IsArray ApiCaseShape) d "tests"
  tags : Optional (IsArray IsText) d "tags"
  baseEndpoint : Optional IsText d "baseEndpoint"
  setup : Optional SideCallShape d "setup"
  teardown : Optional SideCallShape d "teardown"

theorem PathExpectationShape.of_accepted (h : Accepted .api ApiSchema.pathAssertion v) :
    PathExpectationShape v where
  path := required_of_accepted h rfl rfl rfl rfl (by simp) fun _ hw => isText_of_accepted hw rfl rfl
  type := optional_of_accepted h rfl fun _ hw => isText_of_accepted hw rfl rfl
  minLength := optional_of_accepted h rfl fun _ hw => isNumber_of_integer hw rfl rfl
  maxLength := optional_of_accepted h rfl fun _ hw => isNumber_of_integer hw rfl rfl
  regex := optional_of_accepted h rfl fun _ hw => isText_of_accepted hw rfl rfl

theorem ExpectationShape.of_accepted (h : Accepted .api ApiSchema.expectation v) :
    ExpectationShape v where
  object := isObject_of_accepted h rfl rfl
  status := optional_of_accepted h rfl fun _ hw => isNumber_of_integer hw rfl rfl
  statusRange := optional_of_accepted h rfl fun _ hw => {
    min := required_of_accepted hw rfl rfl rfl rfl (by simp)
      fun _ hw => isNumber_of_integer hw rfl rfl
    max := required_of_accepted hw rfl rfl rfl rfl (by simp)
      fun _ hw => isNumber_of_integer hw rfl rfl }
  bodyPath := optional_of_accepted h rfl fun _ hw =>
    isArray_of_accepted hw rfl rfl rfl ⟨rfl, rfl⟩ fun _ hw => .of_accepted
      (api_definition "bodyPathAssertion" hw (by decide +kernel) rfl ⟨rfl, rfl⟩)
  headers := optional_of_accepted h rfl fun _ hw => api_stringMap hw
  responseTime := optional_of_accepted h rfl fun _ hw => isNumber_of_number hw rfl rfl

theorem SideCallShape.of_accepted (h : Accepted .api ApiSchema.sideCall v) : SideCallShape v where
  object := isObject_of_accepted h rfl rfl
  method := required_of_accepted h rfl rfl rfl rfl (by simp) fun _ hw => api_method hw
  endpoint := required_of_accepted h rfl rfl rfl rfl (by simp)
    fun _ hw => isText_of_accepted hw rfl rfl
  headers := optional_of_accepted h rfl fun _ hw => api_stringMap hw
  extractToken := optional_of_accepted h rfl fun _ hw => {
    fromPath := required_of_accepted hw rfl rfl rfl rfl (by simp)
      fun _ hw => isText_of_accepted hw rfl rfl
    variableName := required_of_accepted hw rfl rfl rfl rfl (by simp)
      fun _ hw => isText_of_accepted hw rfl rfl }

theorem ApiCaseShape.of_accepted (h : Accepted .api ApiSchema.testCase v) : ApiCaseShape v where
  name := required_of_accepted h rfl rfl rfl rfl (by simp) fun _ hw => isText_of_accepted hw rfl rfl
  method := required_of_accepted h rfl rfl rfl rfl (by simp) fun _ hw => api_method hw
  endpoint := required_of_accepted h rfl rfl rfl rfl (by simp)
    fun _ hw => isText_of_accepted hw rfl rfl
  expect := required_of_accepted h rfl rfl rfl rfl (by simp) fun _ hw => .of_accepted
    (api_definition "expectation" hw (by decide +kernel) rfl ⟨rfl, rfl⟩)
  tags := optional_of_accepted h rfl fun _ hw => api_tags hw
  headers := optional_of_accepted h rfl fun _ hw => api_stringMap hw
  query := optional_of_accepted h rfl fun _ hw => isObject_of_accepted hw rfl rfl
  auth := optional_of_accepted h rfl fun _ hw => isText_of_accepted hw rfl rfl
  dataInjection := optional_of_accepted h rfl fun _ hw => api_stringMap hw
  skip := optional_of_accepted h rfl fun _ hw => isFlag_of_accepted hw rfl rfl
  only := optional_of_accepted h rfl fun _ hw => isFlag_of_accepted hw rfl rfl
  timeout := optional_of_accepted h rfl fun _ hw => isNumber_of_integer hw rfl rfl
  retries := optional_of_accepted h rfl fun _ hw => isNumber_of_integer hw rfl rfl

/-- **The schema of API documents makes sure of what reading one relies on.** -/
theorem ApiSuiteShape.of_accepted (h : Accepted .api ApiSchema.document v) : ApiSuiteShape v where
  object := isObject_of_accepted h rfl rfl
  name := required_of_accepted h rfl rfl rfl rfl (by simp) fun _ hw => isText_of_accepted hw rfl rfl
  tests := required_of_accepted h rfl rfl rfl rfl (by simp) fun _ hw =>
    isArray_of_accepted hw rfl rfl rfl ⟨rfl, rfl⟩ fun _ hw => .of_accepted
      (api_definition "testCase" hw (by decide +kernel) rfl ⟨rfl, rfl⟩)
  tags := optional_of_accepted h rfl fun _ hw => api_tags hw
  baseEndpoint := optional_of_accepted h rfl fun _ hw => isText_of_accepted hw rfl rfl
  setup := optional_of_accepted h rfl fun _ hw => .of_accepted
    (api_definition "setupCall" hw (by decide +kernel) rfl ⟨rfl, rfl⟩)
  teardown := optional_of_accepted h rfl fun _ hw => .of_accepted
    (api_definition "setupCall" hw (by decide +kernel) rfl ⟨rfl, rfl⟩)

end Api

/-! ## UI documents -/

section Ui

open SuiteEngine.Ui (ActionKind)

variable {v : Value}

/-- A reference to a definition of the schema of UI documents leads there. -/
theorem ui_definition {reference : String} (name : String) {gs : List (String × Value)}
    (h : Accepted .ui (.obj [("$ref", .str reference)]) v)
    (hp : Schema.pointsTo reference ["definitions", name] = true)
    (hn : (UiSchema.document.get? "definitions").bind (Value.get? · name) = some (.obj gs))
    (ha : Anonymous (.obj gs)) : Accepted .ui (.obj gs) v :=
  h.definition hp rfl rfl ⟨rfl, rfl⟩ hn ha

theorem ui_tags (h : Accepted .ui (.obj [("$ref", .str "#/definitions/tags")]) v) :
    IsArray IsText v :=
  isArray_of_accepted (ui_definition "tags" h (by decide +kernel) rfl ⟨rfl, rfl⟩) rfl rfl rfl
    ⟨rfl, rfl⟩ fun _ hw => isText_of_accepted hw rfl rfl

/-- The value is the word for an action. -/
def IsActionWord (v : Value) : Prop := ∃ kind : ActionKind, v = .str kind.word

/-- The value is a text that placeholders cannot stand in. -/
def IsPlainText (v : Value) : Prop := ∃ s : String, v = .str s ∧ '\x7b' ∉ s.toList

/-- What reading a step relies on. -/
structure UiActionShape (d : Value) : Prop where
  action : Required IsActionWord d "action"
  selector : Optional IsText d "selector"
  options : Optional IsObject d "options"
  description : Optional IsText d "description"

/-- What reading the size of a window relies on. -/
structure ViewportShape (d : Value) : Prop where
  width : Required IsNumber d "width"
  height : Required IsNumber d "height"

/-- What reading a picture relies on. -/
structure SnapshotShape (d : Value) : Prop where
  name : Required IsPlainText d "name"
  fullPage : Optional IsFlag d "fullPage"
  selector : Optional IsText d "selector"

/-- What reading a test relies on. -/
structure UiCaseShape (d : Value) : Prop where
  object : IsObject d
  name : Required IsText d "name"
  steps : Optional (IsArray UiActionShape) d "steps"
  tags : Optional (IsArray IsText) d "tags"
  url : Optional IsText d "url"
  viewport : Optional ViewportShape d "viewport"
  snapshot : Optional SnapshotShape d "snapshot"
  dataInjection : Optional (IsMap IsText) d "dataInjection"
  skip : Optional IsFlag d "skip"
  only : Optional IsFlag d "only"
  timeout : Optional IsNumber d "timeout"
  retries : Optional IsNumber d "retries"

/-- What reading a suite relies on. -/
structure UiSuiteShape (d : Value) : Prop where
  object : IsObject d
  name : Required IsText d "suite"
  tests : Required (IsArray UiCaseShape) d "tests"
  tags : Optional (IsArray IsText) d "tags"
  basePath : Optional IsText d "basePath"
  setup : Optional UiActionShape d "setup"
  teardown : Optional UiActionShape d "teardown"

/-- The words that the schema lists are those for the actions. -/
theorem isActionWord_of_accepted {fs : List (String × Value)} (h : Accepted .ui (.obj fs) v)
    (hr : Value.lookup "$ref" fs = none) (ht : Value.lookup "type" fs = some (.str "string"))
    (he : Value.lookup "enum" fs = some (.list (ActionKind.all.map fun kind => .str kind.word))) :
    IsActionWord v := by
  obtain ⟨s, rfl⟩ := isText_of_accepted h hr ht
  obtain ⟨w, hw, hs⟩ := h.enum hr he
  obtain ⟨kind, _, rfl⟩ := List.mem_map.mp hw
  exact ⟨kind, (eq_of_deepEqual_str hs).symm⟩

/-- Whether the pattern is one stretch of word characters, dots and hyphens. -/
def isNameStretch (p : Pattern) : Bool :=
  match p.nodes with
  | [.anchor .lineStart, .repetition .greedy 1 none
      [.set false [.category false .word, .char 46, .char 45]], .anchor .lineEnd] =>
    p.flags == .none
  | _ => false

/-- The pattern for names is read as one stretch of word characters, dots and hyphens. -/
theorem namePattern_parse {p : Pattern} (h : Pattern.parse "^[\\w.-]+$" = .ok p) :
    p.nodes = Pattern.wholeLine false [.category false .word, .char 46, .char 45] ∧
      p.flags = .none := by
  have hc : (Pattern.parse "^[\\w.-]+$").toOption.any isNameStretch = true := by decide +kernel
  rw [h] at hc
  change isNameStretch p = true at hc
  unfold isNameStretch at hc
  split at hc
  · rename_i hn
    exact ⟨hn, by simpa using hc⟩
  · cases hc

/-- No placeholder can stand in the name of a picture. -/
theorem isPlainText_of_accepted {fs : List (String × Value)} (h : Accepted .ui (.obj fs) v)
    (hr : Value.lookup "$ref" fs = none) (ht : Value.lookup "type" fs = some (.str "string"))
    (hp : Value.lookup "pattern" fs = some (.str "^[\\w.-]+$")) : IsPlainText v := by
  obtain ⟨s, rfl⟩ := isText_of_accepted h hr ht
  obtain ⟨p, hparse, hs⟩ := h.pattern hr hp
  obtain ⟨hn, hf⟩ := namePattern_parse hparse
  refine ⟨s, rfl, fun hm => ?_⟩
  rcases Pattern.search_stretch hn (by rw [hf]; rfl) hs _ hm with hb | hb
  · rw [hf] at hb
    exact absurd hb (by decide +kernel)
  · exact absurd hb (by decide)

theorem UiActionShape.of_accepted (h : Accepted .ui UiSchema.action v) : UiActionShape v where
  action := required_of_accepted h rfl rfl rfl rfl (by simp)
    fun _ hw => isActionWord_of_accepted hw rfl rfl rfl
  selector := optional_of_accepted h rfl fun _ hw => isText_of_accepted hw rfl rfl
  options := optional_of_accepted h rfl fun _ hw => isObject_of_accepted hw rfl rfl
  description := optional_of_accepted h rfl fun _ hw => isText_of_accepted hw rfl rfl

theorem SnapshotShape.of_accepted (h : Accepted .ui UiSchema.snapshot v) : SnapshotShape v where
  name := required_of_accepted h rfl rfl rfl rfl (by simp)
    fun _ hw => isPlainText_of_accepted hw rfl rfl rfl
  fullPage := optional_of_accepted h rfl fun _ hw => isFlag_of_accepted hw rfl rfl
  selector := optional_of_accepted h rfl fun _ hw => isText_of_accepted hw rfl rfl

theorem UiCaseShape.of_accepted (h : Accepted .ui UiSchema.testCase v) : UiCaseShape v where
  object := isObject_of_accepted h rfl rfl
  name := required_of_accepted h rfl rfl rfl rfl (by simp) fun _ hw => isText_of_accepted hw rfl rfl
  steps := optional_of_accepted h rfl fun _ hw =>
    isArray_of_accepted hw rfl rfl rfl ⟨rfl, rfl⟩ fun _ hw => .of_accepted
      (ui_definition "action" hw (by decide +kernel) rfl ⟨rfl, rfl⟩)
  tags := optional_of_accepted h rfl fun _ hw => ui_tags hw
  url := optional_of_accepted h rfl fun _ hw => isText_of_accepted hw rfl rfl
  viewport := optional_of_accepted h rfl fun _ hw => {
    width := required_of_accepted hw rfl rfl rfl rfl (by simp)
      fun _ hw => isNumber_of_integer hw rfl rfl
    height := required_of_accepted hw rfl rfl rfl rfl (by simp)
      fun _ hw => isNumber_of_integer hw rfl rfl }
  snapshot := optional_of_accepted h rfl fun _ hw => .of_accepted
    (ui_definition "snapshot" hw (by decide +kernel) rfl ⟨rfl, rfl⟩)
  dataInjection := optional_of_accepted h rfl fun _ hw => isMap_of_accepted hw
  skip := optional_of_accepted h rfl fun _ hw => isFlag_of_accepted hw rfl rfl
  only := optional_of_accepted h rfl fun _ hw => isFlag_of_accepted hw rfl rfl
  timeout := optional_of_accepted h rfl fun _ hw => isNumber_of_integer hw rfl rfl
  retries := optional_of_accepted h rfl fun _ hw => isNumber_of_integer hw rfl rfl

/-- **The schema of UI documents makes sure of what reading one relies on.** -/
theorem UiSuiteShape.of_accepted (h : Accepted .ui UiSchema.document v) : UiSuiteShape v where
  object := isObject_of_accepted h rfl rfl
  name := required_of_accepted h rfl rfl rfl rfl (by simp) fun _ hw => isText_of_accepted hw rfl rfl
  tests := required_of_accepted h rfl rfl rfl rfl (by simp) fun _ hw =>
    isArray_of_accepted hw rfl rfl rfl ⟨rfl, rfl⟩ fun _ hw => .of_accepted
      (ui_definition "testCase" hw (by decide +kernel) rfl ⟨rfl, rfl⟩)
  tags := optional_of_accepted h rfl fun _ hw => ui_tags hw
  basePath := optional_of_accepted h rfl fun _ hw => isText_of_accepted hw rfl rfl
  setup := optional_of_accepted h rfl fun _ hw => .of_accepted
    (ui_definition "action" hw (by decide +kernel) rfl ⟨rfl, rfl⟩)
  teardown := optional_of_accepted h rfl fun _ hw => .of_accepted
    (ui_definition "action" hw (by decide +kernel) rfl ⟨rfl, rfl⟩)

end Ui

end SuiteEngine.Suite
