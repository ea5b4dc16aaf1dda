import SuiteEngine.Proofs.Document.Json
import SuiteEngine.Suite.Kind

/-!
# What acceptance means

A document is accepted when the validation of its kind finds nothing. Acceptance by a schema is read
keyword by keyword: each lemma says what one keyword has made sure of, and acceptance is handed on
to the parts of the value that the keyword puts to parts of the schema. How deep the validation was,
and how it got there, does not matter: `Accepted` only asks that it stands inside the schema of a
kind.

Headlines:
* `accepted_of_issues`: a document without issues is accepted by the schema of its kind.
* `Accepted.hasType`, `Accepted.required`, `Accepted.enum`, `Accepted.pattern`: what is known of the
  value itself.
* `Accepted.property`, `Accepted.item`, `Accepted.anyProperty`: what is known of its parts.
* **`Accepted.definition`**: a reference to a definition leads to that definition.
-/

namespace SuiteEngine.Schema

open Suite (Kind)

/-! ## Where a validation stands -/

/-- The setting stands inside the schema of a kind. -/
structure Within (k : Kind) (st : Setting) : Prop where
  library : st.library = Library.ofSchema .draft7 k.schema ++ Library.known
  dialect : st.dialect = .draft7
  base : st.scope.base = rootAddress .draft7 k.schema

/-- The value has nothing against it under a schema that stands inside that of a kind. -/
def Accepted (k : Kind) (schema v : Value) : Prop :=
  ∃ fuel st, Within k st ∧ findings fuel st schema v = []

/-- The schema names neither a dialect nor an address of its own. -/
structure Anonymous (schema : Value) : Prop where
  dialect : schema.get? "$schema" = none
  address : schema.get? "$id" = none

theorem Anonymous.scope {schema : Value} (h : Anonymous schema) (s : Scope) :
    s.into .draft7 schema = s := by
  simp only [Scope.into, ownAddress?, Dialect.identifierKey, h.address]

/-- Going into such a schema changes nothing. -/
theorem Within.into {k : Kind} {st : Setting} (h : Within k st) {schema : Value}
    (hs : Anonymous schema) : st.into schema = st := by
  simp only [Setting.into, Dialect.declaredBy, hs.dialect, h.dialect, hs.scope]
  cases st
  cases h.dialect
  rfl

/-! ## Nothing found -/

theorem collect_eq_nil {fs : List Finding} (h : Finding.collect fs = .ok []) : fs = [] := by
  cases fs with
  | nil => rfl
  | cons f fs =>
    cases f with
    | violation v =>
      unfold Finding.collect at h
      split at h
      · cases h
      · cases Except.ok.inj h
    | fault f => cases h

theorem deciding_eq_nil {verdict : Except Fault Bool} {next : Bool → List Finding}
    (h : Finding.deciding verdict next = []) : ∃ b, verdict = .ok b ∧ next b = [] := by
  cases verdict with
  | error f => cases h
  | ok b => exact ⟨b, rfl, h⟩

theorem under_eq_nil {s : Step} {fs : List Finding} (h : Finding.under s fs = []) : fs = [] :=
  List.map_eq_nil_iff.mp h

/-- The validation of a kind begins at the whole schema, inside it. -/
theorem exists_validate (k : Kind) : ∃ st, Within k st ∧ ∀ document,
    validate Library.known .draft7 k.schema document = findings depthLimit st k.schema document :=
  ⟨⟨Library.ofSchema .draft7 k.schema ++ Library.known, .draft7, ⟨rootAddress .draft7 k.schema, []⟩⟩,
    ⟨rfl, rfl, rfl⟩, fun _ => by cases k <;> rfl⟩

/-- A document without issues is accepted by the schema of its kind. -/
theorem accepted_of_issues {k : Kind} {document : Value} (h : k.issues document = .ok []) :
    Accepted k k.schema document := by
  have hv : validate Library.known .draft7 k.schema document = [] := by
    unfold Kind.issues issues at h
    cases hc : Finding.collect (validate Library.known .draft7 k.schema document) with
    | error f => rw [hc] at h; cases h
    | ok found =>
      rw [hc] at h
      have hs : (found.map Issue.ofViolation).mergeSort _ = [] := Except.ok.inj h
      have hl := congrArg List.length hs
      rw [List.length_mergeSort, List.length_map] at hl
      obtain rfl := List.length_eq_zero_iff.mp hl
      exact collect_eq_nil hc
  obtain ⟨st, hst, hvalidate⟩ := exists_validate k
  exact ⟨depthLimit, st, hst, (hvalidate document).symm.trans hv⟩

/-! ## Keyword by keyword -/

section Keywords

variable {k : Kind} {fs : List (String × Value)} {v : Value}

/-- Where nothing is found, no keyword has found anything. -/
theorem Accepted.keyword (h : Accepted k (.obj fs) v) (hr : Value.lookup "$ref" fs = none)
    {name : String} {value : Value} {keyword : Keyword} (hn : Value.lookup name fs = some value)
    (hk : Keyword.ofName? .draft7 name = some keyword) :
    ∃ fuel st, Within k st ∧
      keyword.findings fuel (findings fuel) st (.obj fs) name value v = [] := by
  obtain ⟨_ | fuel, st, hst, hf⟩ := h
  · cases hf
  refine ⟨fuel, st, hst, ?_⟩
  have ha : applicable st.dialect fs = fs := by simp only [applicable, hr]
  simp only [findings, ha] at hf
  have hf := List.flatMap_eq_nil_iff.mp hf (name, value) (Value.mem_of_lookup hn)
  simpa only [hst.dialect, hk] using hf

/-- `type` makes sure of the type of the value. -/
theorem Accepted.hasType (h : Accepted k (.obj fs) v) (hr : Value.lookup "$ref" fs = none)
    {t : String} (ht : Value.lookup "type" fs = some (.str t)) :
    Dialect.hasType? .draft7 v t = some true := by
  obtain ⟨fuel, st, hst, hf⟩ := h.keyword hr ht (rfl : Keyword.ofName? .draft7 "type" = some .type)
  obtain ⟨b, hb, hf⟩ := deciding_eq_nil hf
  rw [hst.dialect] at hb
  simp only [Assertion.asList, Assertion.hasSomeType, Assertion.hasType] at hb
  cases hd : Dialect.hasType? .draft7 v t with
  | none => rw [hd] at hb; cases hb
  | some c =>
    rw [hd] at hb
    cases c with
    | true => rfl
    | false =>
      obtain rfl := Except.ok.inj hb
      cases hf

/-- `required` makes sure that there are properties. -/
theorem Accepted.required {gs : List (String × Value)} (h : Accepted k (.obj fs) (.obj gs))
    (hr : Value.lookup "$ref" fs = none) {names : List Value}
    (hn : Value.lookup "required" fs = some (.list names)) {name : String}
    (hm : Value.str name ∈ names) : ∃ w, Value.lookup name gs = some w := by
  obtain ⟨fuel, st, hst, hf⟩ := h.keyword hr hn
    (rfl : Keyword.ofName? .draft7 "required" = some .required)
  have hf := List.flatMap_eq_nil_iff.mp hf _ hm
  cases hg : Value.lookup name gs with
  | some w => exact ⟨w, rfl⟩
  | none =>
    simp only [Assertion.hasKey, hg] at hf
    cases hf

/-- `enum` makes sure that a text is one of those listed. -/
theorem Accepted.enum {s : String} (h : Accepted k (.obj fs) (.str s))
    (hr : Value.lookup "$ref" fs = none) {words : List Value}
    (hw : Value.lookup "enum" fs = some (.list words)) :
    ∃ w ∈ words, w.deepEqual (.str s) = true := by
  obtain ⟨fuel, st, hst, hf⟩ := h.keyword hr hw (rfl : Keyword.ofName? .draft7 "enum" = some .enum)
  simp only [Keyword.findings, Assertion.enum] at hf
  split at hf
  · rename_i ha
    exact List.any_eq_true.mp ha
  · cases hf

/-- `pattern` makes sure that a text has a stretch that matches. -/
theorem Accepted.pattern {s : String} (h : Accepted k (.obj fs) (.str s))
    (hr : Value.lookup "$ref" fs = none) {p : String}
    (hp : Value.lookup "pattern" fs = some (.str p)) :
    ∃ q, Pattern.parse p = .ok q ∧ q.search s = true := by
  obtain ⟨fuel, st, hst, hf⟩ := h.keyword hr hp
    (rfl : Keyword.ofName? .draft7 "pattern" = some .pattern)
  obtain ⟨b, hb, hf⟩ := deciding_eq_nil hf
  simp only [Assertion.occurs, Value.text] at hb
  cases hq : Pattern.parse p with
  | error e => rw [hq] at hb; cases hb
  | ok q =>
    rw [hq] at hb
    obtain rfl := Except.ok.inj hb
    cases hs : q.search s with
    | true => exact ⟨q, rfl, hs⟩
    | false =>
      rw [hs] at hf
      cases hf

/-- Where a part has nothing against it, it is accepted. -/
theorem accepted_of_putPart {fuel : Nat} {st : Setting} (hst : Within k st) {step : Step}
    {gs : List (String × Value)} (hs : Anonymous (.obj gs)) {w : Value}
    (h : putPart (findings fuel) st step (.obj gs) w = []) : Accepted k (.obj gs) w := by
  have hf := under_eq_nil h
  simp only [put, putIn, hst.into hs] at hf
  exact ⟨fuel, st, hst, hf⟩

/-- `properties` hands acceptance on to a property with a schema of its own. -/
theorem Accepted.property (h : Accepted k (.obj fs) v) (hr : Value.lookup "$ref" fs = none)
    {ps gs : List (String × Value)} {name : String} {w : Value}
    (hp : Value.lookup "properties" fs = some (.obj ps))
    (hs : Value.lookup name ps = some (.obj gs)) (ha : Anonymous (.obj gs))
    (hw : v.get? name = some w) : Accepted k (.obj gs) w := by
  obtain ⟨fuel, st, hst, hf⟩ := h.keyword hr hp
    (rfl : Keyword.ofName? .draft7 "properties" = some .properties)
  cases v with
  | obj hs' =>
    have hf := List.flatMap_eq_nil_iff.mp hf (name, .obj gs) (Value.mem_of_lookup hs)
    change Value.lookup name hs' = some w at hw
    simp only [hw] at hf
    exact accepted_of_putPart hst ha hf
  | _ => cases hw

/-- `additionalProperties` hands acceptance on to all properties, where none has a schema of its
own. -/
theorem Accepted.anyProperty {gs : List (String × Value)} (h : Accepted k (.obj fs) (.obj gs))
    (hr : Value.lookup "$ref" fs = none) {ss : List (String × Value)}
    (hp : Value.lookup "additionalProperties" fs = some (.obj ss))
    (hn : Value.lookup "properties" fs = none) (hm : Value.lookup "patternProperties" fs = none)
    (ha : Anonymous (.obj ss)) : ∀ e ∈ gs, Accepted k (.obj ss) e.2 := by
  obtain ⟨fuel, st, hst, hf⟩ := h.keyword hr hp
    (rfl : Keyword.ofName? .draft7 "additionalProperties" = some .additionalProperties)
  have hall : Applicator.additional (.obj fs) gs = .ok gs := by
    simp only [Applicator.additional, Value.get?, Value.fields, hn, hm]
    clear hf h
    induction gs with
    | nil => rfl
    | cons e gs ih =>
      simp only [Finding.selecting, ih]
      rfl
  simp only [Keyword.findings, Applicator.additionalProperties, Assertion.onObject, hall] at hf
  intro e he
  exact accepted_of_putPart hst ha (List.flatMap_eq_nil_iff.mp hf e he)

theorem mem_numbered {x : Value} {xs : List Value} (h : x ∈ xs) (start : Nat) :
    ∃ i, (i, x) ∈ numbered start xs := by
  induction xs generalizing start with
  | nil => cases h
  | cons y ys ih =>
    rcases List.mem_cons.mp h with rfl | h
    · exact ⟨start, List.mem_cons_self⟩
    · obtain ⟨i, hi⟩ := ih h (start + 1)
      exact ⟨i, List.mem_cons_of_mem _ hi⟩

/-- `items` hands acceptance on to all items. -/
theorem Accepted.item {xs : List Value} (h : Accepted k (.obj fs) (.list xs))
    (hr : Value.lookup "$ref" fs = none) {ss : List (String × Value)}
    (hi : Value.lookup "items" fs = some (.obj ss)) (ha : Anonymous (.obj ss)) :
    ∀ x ∈ xs, Accepted k (.obj ss) x := by
  obtain ⟨fuel, st, hst, hf⟩ := h.keyword hr hi
    (rfl : Keyword.ofName? .draft7 "items" = some .items)
  intro x hx
  obtain ⟨i, hx⟩ := mem_numbered hx 0
  exact accepted_of_putPart hst ha (List.flatMap_eq_nil_iff.mp hf (i, x) hx)

end Keywords

/-! ## Definitions -/

/-- The reference is a pointer into the document it stands in, with these segments. -/
def pointsTo (reference : String) (segments : List String) : Bool :=
  let fragment := String.ofList ((Address.cut '#' reference.toList).2.getD [])
  reference.startsWith "#" && fragment.startsWith "/" &&
    Text.split '/' (Text.unescape (String.ofList (fragment.toList.drop 1))) == segments &&
    segments.all fun s => Library.unescapeSegment s == s

/-- Such a pointer is followed from the document that the validation stands in. -/
theorem follow_of_pointsTo {lib : Library} {d : Dialect} {scope : Scope} {reference : String}
    {segments : List String} (hp : pointsTo reference segments = true) {root : Value}
    (hr : lib.atAddress? scope.base = some root) :
    ∃ lost, lib.follow d scope reference =
      Library.descend d lost segments root (scope.enter scope.base) := by
  simp only [pointsTo, Bool.and_eq_true, beq_iff_eq] at hp
  obtain ⟨⟨⟨hs, hf⟩, hg⟩, _⟩ := hp
  simp only [Library.follow, hs, if_true, hr, hf, hg]
  exact ⟨_, rfl⟩

theorem descend_cons {d : Dialect} {lost : Fault} {segment : String} {rest : List String}
    {fs : List (String × Value)} {v : Value} (hu : Library.unescapeSegment segment = segment)
    (hv : Value.lookup segment fs = some v) (scope : Scope) :
    Library.descend d lost (segment :: rest) (.obj fs) scope =
      Library.descend d lost rest v (scope.into d v) := by
  have hc : Library.child (.obj fs) segment = .ok (some v) := by
    simp only [Library.child, hu, Value.get?, Value.fields, hv]
  rw [Library.descend, hc]
  rfl

/-- A definition in a document is found under its name. -/
theorem descend_definition {lost : Fault} {name : String} {root defs gs : List (String × Value)}
    (hu : (["definitions", name].all fun s => Library.unescapeSegment s == s) = true)
    (hd : Value.lookup "definitions" root = some (.obj defs)) (ha : Anonymous (.obj defs))
    (hn : Value.lookup name defs = some (.obj gs)) (hg : Anonymous (.obj gs)) (scope : Scope) :
    Library.descend .draft7 lost ["definitions", name] (.obj root) scope =
      .ok (.obj gs, scope) := by
  simp only [List.all_cons, List.all_nil, Bool.and_true, Bool.and_eq_true, beq_iff_eq] at hu
  rw [descend_cons hu.1 hd, ha.scope, descend_cons hu.2 hn, hg.scope]
  rfl

theorem enter_base (scope : Scope) : (scope.enter scope.base).base = scope.base := by
  unfold Scope.enter
  split <;> rfl

/-- The address of a whole schema leads to it. -/
theorem atAddress?_root (k : Kind) :
    (Library.ofSchema .draft7 k.schema ++ Library.known).atAddress? (rootAddress .draft7 k.schema) =
      some k.schema := by
  have hb : bareAddress (rootAddress .draft7 k.schema) = rootAddress .draft7 k.schema := by
    cases k <;> decide +kernel
  rw [Library.atAddress?, hb, Library.ofSchema, List.cons_append, List.find?_cons_of_pos (by simp)]
  rfl

/-- A reference to a definition is followed to it, and what it says is put in a setting that stands
inside the schema again. -/
theorem followed_definition {k : Kind} {st : Setting} (hst : Within k st) {reference name : String}
    {root defs gs : List (String × Value)}
    (hp : pointsTo reference ["definitions", name] = true) (hk : k.schema = .obj root)
    (hd : Value.lookup "definitions" root = some (.obj defs)) (ha : Anonymous (.obj defs))
    (hn : Value.lookup name defs = some (.obj gs)) (hg : Anonymous (.obj gs)) :
    ∃ st', Within k st' ∧ ∀ (visit : Visit) (v : Value),
      Applicator.followed visit st (st.library.follow st.dialect st.scope reference) v =
        visit st' (.obj gs) v := by
  have hroot : st.library.atAddress? st.scope.base = some k.schema := by
    rw [hst.library, hst.base, atAddress?_root]
  obtain ⟨lost, hfollow⟩ := follow_of_pointsTo (d := st.dialect) hp hroot
  have hu : (["definitions", name].all fun s => Library.unescapeSegment s == s) = true := by
    simp only [pointsTo, Bool.and_eq_true] at hp
    exact hp.2
  rw [hst.dialect, hk, descend_definition hu hd ha hn hg] at hfollow
  refine ⟨{ st with scope := st.scope.enter st.scope.base }, ⟨hst.library, hst.dialect, ?_⟩,
    fun visit v => ?_⟩
  · rw [enter_base]
    exact hst.base
  · rw [hst.dialect, hfollow]
    simp only [Applicator.followed, putIn, Dialect.declaredBy, hg.dialect, hst.dialect]

/-- **A reference to a definition leads to that definition.** -/
theorem Accepted.definition {k : Kind} {reference name : String} {v : Value}
    {root defs gs : List (String × Value)}
    (h : Accepted k (.obj [("$ref", .str reference)]) v)
    (hp : pointsTo reference ["definitions", name] = true) (hk : k.schema = .obj root)
    (hd : Value.lookup "definitions" root = some (.obj defs)) (ha : Anonymous (.obj defs))
    (hn : Value.lookup name defs = some (.obj gs)) (hg : Anonymous (.obj gs)) :
    Accepted k (.obj gs) v := by
  obtain ⟨_ | fuel, st, hst, hf⟩ := h
  · cases hf
  have hf := List.flatMap_eq_nil_iff.mp hf ("$ref", .str reference) (by
    simp [applicable, Value.lookup, hst.dialect, Dialect.refStandsAlone])
  simp only [hst.dialect] at hf
  obtain ⟨st', hst', hfollowed⟩ := followed_definition hst hp hk hd ha hn hg
  exact ⟨fuel, st', hst', (hfollowed _ v).symm.trans hf⟩

end SuiteEngine.Schema
