import SuiteEngine.Proofs.Schema.Faults

/-!
# Schemas that can be followed

Whether a validation meets a fault is a matter of the value as well as of the schema: a reference that
leads nowhere does not matter where no value is put to it. `follows` asks for more than a single value
does, and without one: every schema that some value may be put to has to be there, with types that its
dialect knows, patterns that can be read and divisors that every number can be divided by, and schemas
may lead into one another to a limited depth only.

A keyword is `isSafe` where it cannot fault by itself, and `parts` are the schemas that it puts values
to, each in its setting. So there is one step for every keyword, and all keywords together are an
induction on the depth.

Headlines:
* `Keyword.isSafe`, `Keyword.parts`: what a keyword asks for and where it leads.
* `exists_evaluatedItems`, `exists_evaluatedProperties`: what a schema has looked at can be found out.
* `faults_keyword`: a keyword leads to no fault where its parts do not.
* **`settled_of_follows`**: under a schema that passes the check no value meets a fault.
-/

namespace SuiteEngine.Schema

open Assertion (asList)
open Finding (faults)

/-! ## Schemas in their settings -/

/-- A schema in the setting that it is read in. -/
structure Part where
  setting : Setting
  schema : Value

namespace Part

/-- A part of the schema at hand. -/
def within (st : Setting) (schema : Value) : Part := ⟨st.into schema, schema⟩

/-- A part of the schema at hand that is only asked for its verdict, which leaves the scope alone. -/
def beside (st : Setting) (schema : Value) : Part :=
  ⟨{ st with dialect := Dialect.declaredBy schema st.dialect }, schema⟩

/-- The schema that a reference leads to. -/
def referred (st : Setting) : Except Fault (Value × Scope) → List Part
  | .ok (schema, scope) => [⟨{ beside st schema |>.setting with scope := scope }, schema⟩]
  | .error _ => []

end Part

/-! ## What a schema has looked at -/

/-- The alternatives of a schema that take part in what it has looked at. -/
def alternatives (schema : Value) : List Value :=
  itemsUnder schema "allOf" ++ itemsUnder schema "oneOf" ++ itemsUnder schema "anyOf"

/-- The reference under a key of a schema, none where the key is bound to no text. -/
def referenceUnder (st : Setting) (schema : Value) (key : String) (dynamic : Bool) :
    List (Except Fault (Value × Scope)) :=
  match schema.get? key with
  | some (.str s) =>
    [if dynamic then st.library.followRecursive st.dialect st.scope
      else st.library.follow st.dialect st.scope s]
  | _ => []

/-- The references of a schema that take part in what it has looked at. -/
def references (st : Setting) (schema : Value) : List (Except Fault (Value × Scope)) :=
  referenceUnder st schema "$ref" false
    ++ if st.dialect = .draft2019 then referenceUnder st schema "$recursiveRef" true
      else referenceUnder st schema "$dynamicRef" false

/-- What references lead to, read in the dialect at hand. -/
def targets (st : Setting) (found : List (Except Fault (Value × Scope))) : List Part :=
  found.flatMap fun
    | .ok (schema, scope) => [⟨{ st with scope := scope }, schema⟩]
    | .error _ => []

/-- The schemas of a schema that may take part in what it has looked at. -/
def members (schema : Value) : List Value :=
  ["if", "then", "else"].filterMap schema.get? ++ alternatives schema
    ++ ((schema.get? "dependentSchemas").getD .null).fields.map Prod.snd

/-- All that may take part in what a schema has looked at. -/
def partaking (st : Setting) (schema : Value) : List Part :=
  targets st (references st schema) ++ (members schema).map (Part.mk st)

/-- The schemas that values are put to in order to find that out. -/
def regarded (st : Setting) (schema : Value) : List Part :=
  (["if", "contains", "unevaluatedItems"].filterMap schema.get?).map (Part.beside st)
    ++ (["additionalProperties", "unevaluatedProperties"].filterMap schema.get?
      ++ alternatives schema).map (Part.within st)

/-- Whether it can be found out what a schema has looked at, where no value meets a fault under the
schemas that values are put to. -/
def isRegardable : Nat → Part → Bool
  | 0, _ => false
  | depth + 1, ⟨st, schema⟩ =>
    (references st schema).all Except.isOk
      && (((schema.get? "patternProperties").getD .null).fields.all fun e =>
        (Pattern.parse e.1).isOk)
      && (partaking st schema).all (isRegardable depth)

/-- All schemas that values are put to in order to find out what a schema has looked at. -/
def allRegarded : Nat → Part → List Part
  | 0, _ => []
  | depth + 1, ⟨st, schema⟩ =>
    regarded st schema ++ (partaking st schema).flatMap (allRegarded depth)

/-! ## Keywords -/

/-- Whether the value is an object. -/
def isObject : Value → Bool
  | .obj _ => true
  | _ => false

/-- Whether a dependency is a list of names, or a single name where these are allowed, and no schema. -/
def isNames (single : Bool) : Value → Bool
  | .list _ => true
  | .str _ => single
  | _ => false

/-- Whether every number can be divided by the value, or none is. -/
def isDivisor : Value → Bool
  | .int n => (Value.intToFloat? n).isSome
  | .float _ => false
  | _ => true

/-- The patterns for names as one. -/
def joinedPatterns (schema : Value) : String :=
  "|".intercalate ((((schema.get? "patternProperties").getD .null).fields).map (·.1))

namespace Keyword

/-- Whether a keyword can lead to a fault by the schemas that it leads to only. -/
def isSafe (depth : Nat) (st : Setting) (schema value : Value) : Keyword → Bool
  | ref | dynamicRef => (st.library.follow st.dialect st.scope value.text).isOk
  | recursiveRef => (st.library.followRecursive st.dialect st.scope).isOk
  | type => (asList value).all (isKnownType st.dialect)
  | typeOrSchema => (asList value).all fun t => isObject t || isKnownType st.dialect t
  | multipleOf => isDivisor value
  | pattern => (Pattern.parse value.text).isOk
  | format => value.text != "regex"
  | patternProperties => value.fields.all fun e => (Pattern.parse e.1).isOk
  | additionalProperties =>
    joinedPatterns schema == "" || (Pattern.parse (joinedPatterns schema)).isOk
  | additionalItems => (schema.get? "items").all fun v => v.bool?.isNone
  | unevaluatedItems | unevaluatedProperties => isRegardable depth ⟨st, schema⟩
  | _ => true

/-- The schemas that a keyword may put a value to, or parts of it. -/
def parts (depth : Nat) (st : Setting) (schema value : Value) : Keyword → List Part
  | ref | dynamicRef => Part.referred st (st.library.follow st.dialect st.scope value.text)
  | recursiveRef => Part.referred st (st.library.followRecursive st.dialect st.scope)
  | typeOrSchema => ((asList value).filter isObject).map (Part.within st)
  | properties | propertiesWithFlag | patternProperties | dependentSchemas =>
    value.fields.map fun e => Part.within st e.2
  | additionalProperties | additionalItems => if isObject value then [Part.within st value] else []
  | propertyNames | itemsAfterPrefix => [Part.within st value]
  | items | prefixItems | allOf | anyOf | extend => (asList value).map (Part.within st)
  | contains | containsCounted | not => [Part.beside st value]
  | dependencies => (value.fields.filter fun e => !isNames false e.2).map fun e => Part.within st e.2
  | dependenciesOrName =>
    (value.fields.filter fun e => !isNames true e.2).map fun e => Part.within st e.2
  | oneOf => (asList value).map (Part.within st) ++ (asList value).map (Part.beside st)
  | ifThenElse =>
    Part.beside st value :: (["then", "else"].filterMap schema.get?).map (Part.within st)
  | disallow => (asList value).map fun t => Part.beside st (.obj [("type", .list [t])])
  | unevaluatedItems => allRegarded depth ⟨st, schema⟩
  | unevaluatedProperties => Part.within st value :: allRegarded depth ⟨st, schema⟩
  | _ => []

end Keyword

/-- Whether a schema can be followed whatever value is put to it, leading into others to a limited
depth. -/
def follows : Nat → Part → Bool
  | _, ⟨_, .bool _⟩ => true
  | depth + 1, ⟨st, .obj fs⟩ =>
    (applicable st.dialect fs).all fun (name, value) =>
      match Keyword.ofName? st.dialect name with
      | some keyword =>
        keyword.isSafe depth st (.obj fs) value
          && (keyword.parts depth st (.obj fs) value).all (follows depth)
      | none => true
  | _, _ => false

/-! ## Verdicts without faults -/

namespace Finding

variable {α β : Type} {found : List Finding}

theorem exists_passes (h : faults found = []) : ∃ b, passes found = .ok b := by
  cases found with
  | nil => exact ⟨true, rfl⟩
  | cons f fs =>
    cases f with
    | violation v => exact ⟨false, rfl⟩
    | fault f => cases h

theorem collect_eq (h : faults found = []) : collect found = .ok (violations found) := by
  rw [collect, fault?_eq_head?, h]
  rfl

theorem faults_deciding {verdict : Except Fault Bool} {next : Bool → List Finding}
    (hv : ∃ b, verdict = .ok b) (h : ∀ b, faults (next b) = []) :
    faults (deciding verdict next) = [] := by
  obtain ⟨b, rfl⟩ := hv
  exact h b

end Finding

theorem exists_of_isOk {ε α : Type} {x : Except ε α} (h : x.isOk = true) : ∃ a, x = .ok a := by
  cases x with
  | error e => cases h
  | ok a => exact ⟨a, rfl⟩

theorem exists_bind {ε α β : Type} {x : Except ε α} {f : α → Except ε β} {a : α} (hx : x = .ok a)
    (h : ∃ b, f a = .ok b) : ∃ b, (x >>= f) = .ok b := by
  obtain ⟨b, hb⟩ := h
  exact ⟨b, bind_eq_ok.mpr ⟨a, hx, hb⟩⟩

theorem exists_mapM {ε α β : Type} {f : α → Except ε β} {xs : List α}
    (h : ∀ x ∈ xs, ∃ y, f x = .ok y) : ∃ ys, xs.mapM f = .ok ys := by
  induction xs with
  | nil => exact ⟨[], rfl⟩
  | cons x xs ih =>
    obtain ⟨⟨y, hy⟩, hxs⟩ := List.forall_mem_cons.mp h
    obtain ⟨ys, hys⟩ := ih hxs
    exact ⟨y :: ys, by rw [List.mapM_cons, hy, hys]; rfl⟩

/-! ## One part -/

/-- No value meets a fault under the part. -/
def Settled (visit : Visit) (p : Part) : Prop :=
  ∀ data, faults (putIn visit p.setting p.schema data) = []

variable {visit : Visit} {st : Setting} {schema value data : Value} {name : String}
  {depth fuel : Nat}

theorem Settled.put (h : Settled visit (Part.within st schema)) (data : Value) :
    faults (put visit st schema data) = [] := h data

theorem Settled.putPart (h : Settled visit (Part.within st schema)) (step : Step) (data : Value) :
    faults (putPart visit st step schema data) = [] := by
  unfold Schema.putPart
  split
  · exact h data
  · rw [Finding.faults_under]
    exact h data

theorem Settled.meets (h : Settled visit (Part.beside st schema)) (data : Value) :
    ∃ b, meets visit st schema data = .ok b := Finding.exists_passes (h data)

/-- The parts under the fields of a value. -/
theorem settled_field {p : String × Value → Bool}
    (h : ∀ q ∈ (value.fields.filter p).map fun e => Part.within st e.2, Settled visit q)
    {e : String × Value} (he : e ∈ value.fields) (hp : p e = true) :
    Settled visit (Part.within st e.2) :=
  h _ (List.mem_map.mpr ⟨e, List.mem_filter.mpr ⟨he, hp⟩, rfl⟩)

theorem exists_firstMet {schemas : List Value}
    (h : ∀ s ∈ schemas, Settled visit (Part.within st s)) (data : Value) :
    ∃ o, Applicator.firstMet visit st data schemas = .ok o ∧
      ∀ first rest, o = some (first, rest) → rest ⊆ schemas := by
  induction schemas with
  | nil => exact ⟨none, rfl, nofun⟩
  | cons s schemas ih =>
    obtain ⟨hs, hschemas⟩ := List.forall_mem_cons.mp h
    obtain ⟨o, ho, hsub⟩ := ih hschemas
    rw [Applicator.firstMet, Finding.collect_eq (hs.put data)]
    cases Finding.violations (Schema.put visit st s data) with
    | nil =>
      refine ⟨_, rfl, ?_⟩
      rintro first rest ⟨⟩
      exact List.subset_cons_self s schemas
    | cons v vs =>
      exact ⟨o, ho, fun first rest he => List.subset_cons_of_subset s (hsub first rest he)⟩

theorem faults_each (h : Settled visit (Part.within st schema)) (xs : List (Nat × Value)) :
    faults (Applicator.each visit st schema xs) = [] :=
  Finding.faults_flatMap_eq_nil fun _ _ => h.putPart _ _

theorem faults_positional {schemas : List Value}
    (h : ∀ s ∈ schemas, Settled visit (Part.within st s)) (xs : List Value) :
    faults (Applicator.positional visit st schemas xs) = [] := by
  refine Finding.faults_flatMap_eq_nil fun e he => ?_
  obtain ⟨⟨i, x⟩, s⟩ := e
  exact (h s (List.of_mem_zip he).2).putPart _ _

theorem exists_ite_ok {ε : Type} {rest : Except ε Bool} (h : ∃ b, rest = .ok b) (c : Bool) :
    ∃ b, (if c then .ok true else rest) = .ok b := by
  cases c
  · exact h
  · exact ⟨true, rfl⟩

theorem exists_hasTypeOrMeets {types : List Value}
    (h : ∀ t ∈ types, (isObject t || isKnownType st.dialect t) = true)
    (hs : ∀ t ∈ types, isObject t = true → Settled visit (Part.within st t)) (schema data : Value) :
    ∃ b, Applicator.hasTypeOrMeets visit st schema data types = .ok b := by
  induction types with
  | nil => exact ⟨false, rfl⟩
  | cons t types ih =>
    obtain ⟨ht, htypes⟩ := List.forall_mem_cons.mp h
    obtain ⟨hst, hstypes⟩ := List.forall_mem_cons.mp hs
    have hrest := ih htypes hstypes
    cases t with
    | obj fs =>
      rw [Applicator.hasTypeOrMeets, Finding.collect_eq ((hst rfl).put data)]
      exact exists_ite_ok hrest _
    | _ =>
      obtain ⟨b, hb⟩ := isKnownType_isOk (by simpa [isObject] using ht) schema data
      simp only [Applicator.hasTypeOrMeets, hb]
      exact exists_ite_ok hrest b

theorem exists_isNoMultiple (h : isDivisor value = true) (data : Value) :
    ∃ b, Assertion.isNoMultiple data value = .ok b := by
  cases value with
  | int m =>
    obtain ⟨x, hx⟩ := Option.isSome_iff_exists.mp h
    cases data with
    | int n => exact ⟨_, rfl⟩
    | float y =>
      rw [Assertion.isNoMultiple, hx]
      dsimp only
      split
      · exact ⟨_, rfl⟩
      · exact ⟨_, rfl⟩
    | _ => exact ⟨_, rfl⟩
  | float y => cases h
  | _ => cases data <;> exact ⟨_, rfl⟩

theorem exists_occurs {pattern : String} (h : (Pattern.parse pattern).isOk = true) (text : String) :
    ∃ b, Assertion.occurs pattern text = .ok b := by
  obtain ⟨p, hp⟩ := exists_of_isOk h
  exact ⟨p.search text, by rw [Assertion.occurs, hp]⟩

theorem exists_extras
    (h : (joinedPatterns schema == "" || (Pattern.parse (joinedPatterns schema)).isOk) = true)
    (fs : List (String × Value)) : ∃ extras, Applicator.additional schema fs = .ok extras := by
  refine exists_selecting (fun e => ?_) fs
  dsimp only
  split
  · exact ⟨false, rfl⟩
  · split
    · exact ⟨true, rfl⟩
    · rename_i hne
      obtain ⟨b, hb⟩ := exists_occurs ((Bool.or_eq_true_iff.mp h).resolve_left fun he =>
        hne (beq_iff_eq.mp he)) e.1
      exact ⟨!b, congrArg (Except.map (!·)) hb⟩

/-! ## What a schema has looked at, without faults -/

/-- The schema that the reference under a key leads to. -/
def referred (st : Setting) (schema : Value) (key : String) (dynamic : Bool) :
    Except Fault (List (Setting × Value)) :=
  match schema.get? key with
  | some (.str s) => do
    let (found, scope) ←
      if dynamic then st.library.followRecursive st.dialect st.scope
      else st.library.follow st.dialect st.scope s
    return [({ st with scope := scope }, found)]
  | _ => .ok []

theorem exists_referred {key : String} {dynamic : Bool}
    (h : ∀ r ∈ referenceUnder st schema key dynamic, r.isOk = true) :
    ∃ found, referred st schema key dynamic = .ok found ∧
      ∀ q ∈ found, Part.mk q.1 q.2 ∈ targets st (referenceUnder st schema key dynamic) := by
  unfold referenceUnder at h ⊢
  unfold referred
  generalize schema.get? key = bound at h ⊢
  split
  · obtain ⟨⟨found, scope⟩, hr⟩ := exists_of_isOk (h _ (List.mem_singleton_self _))
    refine ⟨[({ st with scope := scope }, found)], ?_, ?_⟩
    · cases dynamic
      all_goals
        simp only [Bool.false_eq_true, if_true, if_false] at hr ⊢
        rw [hr]
        rfl
    · simp only [hr, List.mem_singleton, forall_eq]
      exact List.mem_singleton_self _
  · exact ⟨[], rfl, nofun⟩

theorem exists_branchesOf (h : ∀ p ∈ regarded st schema, Settled visit p) (data : Value) :
    ∃ branches, branchesOf visit st schema data = .ok branches ∧
      branches ⊆ ["if", "then", "else"].filterMap schema.get? := by
  unfold branchesOf
  split
  · exact ⟨[], rfl, List.nil_subset _⟩
  · rename_i condition hc
    have hcondition : Settled visit (Part.beside st condition) := h _ (by simp [regarded, hc])
    obtain ⟨b, hb⟩ := hcondition.meets data
    refine ⟨_, by rw [hb]; rfl, ?_⟩
    have hmem {key : String} {v : Value} (hk : key ∈ ["if", "then", "else"])
        (hv : schema.get? key = some v) : v ∈ ["if", "then", "else"].filterMap schema.get? :=
      List.mem_filterMap.mpr ⟨key, hk, hv⟩
    cases b with
    | true =>
      exact List.cons_subset.mpr ⟨hmem (by decide) hc, fun v hv =>
        hmem (by decide) (Option.mem_toList.mp hv)⟩
    | false => exact fun v hv => hmem (by decide) (Option.mem_toList.mp hv)

/-- What takes part in the verdict on a value is among the schemas that may. -/
theorem exists_involved (hr : ∀ r ∈ references st schema, r.isOk = true)
    (h : ∀ p ∈ regarded st schema, Settled visit p) (data : Value) :
    ∃ found, involved visit st schema data = .ok found ∧
      ∀ q ∈ found, Part.mk q.1 q.2 ∈ partaking st schema := by
  have hreferred {key : String} {dynamic : Bool}
      (hsub : referenceUnder st schema key dynamic ⊆ references st schema) :
      ∃ found, referred st schema key dynamic = .ok found ∧
        ∀ q ∈ found, Part.mk q.1 q.2 ∈ targets st (references st schema) := by
    obtain ⟨found, hfound, hmem⟩ := exists_referred fun r hr' => hr r (hsub hr')
    refine ⟨found, hfound, fun q hq => ?_⟩
    obtain ⟨r, hr, hq⟩ := List.mem_flatMap.mp (hmem q hq)
    exact List.mem_flatMap.mpr ⟨r, hsub hr, hq⟩
  obtain ⟨refs, hrefs, hrefsMem⟩ := hreferred (List.subset_append_left _ _)
  obtain ⟨dyn, hdyn, hdynMem⟩ : ∃ found, (if st.dialect = .draft2019 then
      referred st schema "$recursiveRef" true else referred st schema "$dynamicRef" false) = .ok found ∧
        ∀ q ∈ found, Part.mk q.1 q.2 ∈ targets st (references st schema) := by
    split
    · exact hreferred fun r hmem => List.mem_append_right _ (by rwa [if_pos ‹_›])
    · exact hreferred fun r hmem => List.mem_append_right _ (by rwa [if_neg ‹_›])
  obtain ⟨branches, hbranches, hbranchesSub⟩ := exists_branchesOf h data
  have hmeets : ∀ s ∈ alternatives schema, ∃ b, Finding.passes (put visit st s data) = .ok b :=
    fun s hs => Finding.exists_passes (Settled.put (h (Part.within st s) (List.mem_append_right _
      (List.mem_map_of_mem (List.mem_append_right _ hs)))) data)
  obtain ⟨met, hmet, hmetSub⟩ := Finding.exists_selecting_mem hmeets
  refine ⟨refs ++ dyn ++ (branches ++ met).map fun s => (st, s), ?_, ?_⟩
  · refine bind_eq_ok.mpr ⟨refs, hrefs, ?_⟩
    split at hdyn <;> rename_i hd
    · exact (if_pos hd).trans (bind_eq_ok.mpr ⟨dyn, hdyn,
        bind_eq_ok.mpr ⟨branches, hbranches, bind_eq_ok.mpr ⟨met, hmet, rfl⟩⟩⟩)
    · exact (if_neg hd).trans (bind_eq_ok.mpr ⟨dyn, hdyn,
        bind_eq_ok.mpr ⟨branches, hbranches, bind_eq_ok.mpr ⟨met, hmet, rfl⟩⟩⟩)
  · have hmembers : branches ++ met ⊆ members schema := fun s hs => by
      refine List.mem_append_left _ (List.mem_append.mpr ?_)
      exact (List.mem_append.mp hs).imp (@hbranchesSub s) (@hmetSub s)
    refine List.forall_mem_append.mpr ⟨List.forall_mem_append.mpr ⟨fun q hq => ?_, fun q hq => ?_⟩,
      List.forall_mem_map.mpr fun s hs => ?_⟩
    · exact List.mem_append_left _ (hrefsMem q hq)
    · exact List.mem_append_left _ (hdynMem q hq)
    · exact List.mem_append_right _ (List.mem_map_of_mem (hmembers hs))

theorem isRegardable_succ (h : isRegardable (depth + 1) ⟨st, schema⟩ = true) :
    (∀ r ∈ references st schema, r.isOk = true) ∧
      (∀ e ∈ ((schema.get? "patternProperties").getD .null).fields,
        (Pattern.parse e.1).isOk = true) ∧
      ∀ p ∈ partaking st schema, isRegardable depth p = true := by
  obtain ⟨h, hpartaking⟩ := Bool.and_eq_true_iff.mp h
  obtain ⟨hreferences, hpatterns⟩ := Bool.and_eq_true_iff.mp h
  exact ⟨List.all_eq_true.mp hreferences, List.all_eq_true.mp hpatterns,
    List.all_eq_true.mp hpartaking⟩

theorem settled_partaking (h : ∀ p ∈ allRegarded (depth + 1) ⟨st, schema⟩, Settled visit p)
    {q : Part} (hq : q ∈ partaking st schema) : ∀ p ∈ allRegarded depth q, Settled visit p :=
  fun p hp => h p (List.mem_append_right _ (List.mem_flatMap.mpr ⟨q, hq, hp⟩))

/-- The things that a schema under some keys selects. -/
theorem exists_selected {α : Type} (keys : List String) {p : Value → α → Except Fault Bool}
    (h : ∀ key ∈ keys, ∀ s, schema.get? key = some s → ∀ x, ∃ b, p s x = .ok b) (xs : List α) :
    ∃ found, (keys.mapM fun key =>
      match schema.get? key with
      | some s => Finding.selecting (p s) xs
      | none => .ok []) = .ok found := by
  refine exists_mapM fun key hkey => ?_
  split
  · exact exists_selecting (h key hkey _ ‹_›) xs
  · exact ⟨[], rfl⟩

/-- It can be found out which items a schema has looked at. -/
theorem exists_evaluatedItems (hd : depth ≤ fuel) (hr : isRegardable depth ⟨st, schema⟩ = true)
    (h : ∀ p ∈ allRegarded depth ⟨st, schema⟩, Settled visit p) (data : Value) (xs : List Value) :
    ∃ seen, evaluatedItems visit fuel st schema data xs = .ok seen := by
  induction depth generalizing fuel st schema with
  | zero => cases hr
  | succ depth ih =>
    obtain ⟨fuel, rfl⟩ := Nat.exists_eq_add_one_of_ne_zero (Nat.ne_zero_of_lt hd)
    obtain ⟨hreferences, -, hpartaking⟩ := isRegardable_succ hr
    have hregarded : ∀ p ∈ regarded st schema, Settled visit p := fun p hp =>
      h p (List.mem_append_left _ hp)
    obtain ⟨schemas, hschemas, hmem⟩ := exists_involved hreferences hregarded data
    obtain ⟨inner, hinner⟩ := exists_mapM fun q hq =>
      ih (Nat.le_of_succ_le_succ hd) (hpartaking _ (hmem q hq)) (settled_partaking h (hmem q hq))
    have hown : ∀ key ∈ ["contains", "unevaluatedItems"], ∀ s, schema.get? key = some s →
        ∀ x : Nat × Value, ∃ b, meets visit st s x.2 = .ok b := fun key hkey s hs x =>
      Settled.meets (hregarded _ (List.mem_append_left _ (List.mem_map_of_mem
        (List.mem_filterMap.mpr ⟨key, List.mem_cons_of_mem _ hkey, hs⟩)))) x.2
    obtain ⟨own, hown⟩ := exists_selected _ hown (numbered 0 xs)
    have hdeeper : evaluatedItems.deeper visit fuel st schema data xs =
        .ok (inner.flatten ++ own.flatten.map (·.1)) := by
      unfold evaluatedItems.deeper
      exact bind_eq_ok.mpr ⟨schemas, hschemas, bind_eq_ok.mpr ⟨inner, hinner,
        bind_eq_ok.mpr ⟨own, hown, rfl⟩⟩⟩
    rw [evaluatedItems]
    split
    · split
      · exact ⟨_, rfl⟩
      · exact ⟨_, by rw [hdeeper]; rfl⟩
    · exact ⟨_, rfl⟩
    · exact ⟨_, by rw [hdeeper]; rfl⟩

/-- It can be found out which properties a schema has looked at. -/
theorem exists_evaluatedProperties (hd : depth ≤ fuel)
    (hr : isRegardable depth ⟨st, schema⟩ = true)
    (h : ∀ p ∈ allRegarded depth ⟨st, schema⟩, Settled visit p) (data : Value)
    (fs : List (String × Value)) :
    ∃ seen, evaluatedProperties visit fuel st schema data fs = .ok seen := by
  induction depth generalizing fuel st schema with
  | zero => cases hr
  | succ depth ih =>
    obtain ⟨fuel, rfl⟩ := Nat.exists_eq_add_one_of_ne_zero (Nat.ne_zero_of_lt hd)
    obtain ⟨hreferences, hpatterns, hpartaking⟩ := isRegardable_succ hr
    have hregarded : ∀ p ∈ regarded st schema, Settled visit p := fun p hp =>
      h p (List.mem_append_left _ hp)
    have hdeeper {q : Part} (hq : q ∈ partaking st schema) :
        ∃ seen, evaluatedProperties visit fuel q.setting q.schema data fs = .ok seen :=
      ih (Nat.le_of_succ_le_succ hd) (hpartaking q hq) (settled_partaking h hq)
    have hbyRest : ∀ key ∈ ["additionalProperties", "unevaluatedProperties"], ∀ s,
        schema.get? key = some s →
          ∀ x : String × Value, ∃ b, Finding.passes (put visit st s x.2) = .ok b :=
      fun key hkey s hs x => Finding.exists_passes (Settled.put (hregarded _
        (List.mem_append_right _ (List.mem_map_of_mem (List.mem_append_left _
          (List.mem_filterMap.mpr ⟨key, hkey, hs⟩))))) x.2)
    have hbyPattern : ∀ e ∈ ((schema.get? "patternProperties").getD .null).fields,
        ∃ found, Finding.selecting (fun x : String × Value => Assertion.occurs e.1 x.1) fs
          = .ok found := by
      intro e he
      have hoccurs (x : String × Value) : ∃ b, Assertion.occurs e.1 x.1 = .ok b :=
        exists_occurs (hpatterns e he) x.1
      exact exists_selecting hoccurs fs
    obtain ⟨byRest, hbyRest⟩ := exists_selected _ hbyRest fs
    obtain ⟨byPattern, hbyPattern⟩ := exists_mapM hbyPattern
    obtain ⟨schemas, hschemas, hmem⟩ := exists_involved hreferences hregarded data
    have hinner : ∀ q ∈ schemas ++ (((schema.get? "dependentSchemas").getD .null).fields.filter
        fun e => Assertion.hasKey fs (.str e.1)).map fun e => (st, e.2),
        ∃ seen, evaluatedProperties visit fuel q.1 q.2 data fs = .ok seen :=
      List.forall_mem_append.mpr ⟨fun q hq => hdeeper (hmem q hq),
        List.forall_mem_map.mpr fun e he => hdeeper (List.mem_append_right _ (List.mem_map_of_mem
          (List.mem_append_right _ (List.mem_map_of_mem (List.mem_of_mem_filter he)))))⟩
    obtain ⟨inner, hinner⟩ := exists_mapM hinner
    rw [evaluatedProperties]
    refine exists_bind hbyRest ?_
    refine exists_bind hbyPattern ?_
    refine exists_bind hschemas ?_
    exact exists_bind hinner ⟨_, rfl⟩

/-! ## One keyword -/

section Keywords

variable {schemas : List Value}

theorem faults_followed {found : Except Fault (Value × Scope)} (h : found.isOk = true)
    (hp : ∀ p ∈ Part.referred st found, Settled visit p) (data : Value) :
    faults (Applicator.followed visit st found data) = [] := by
  obtain ⟨⟨target, scope⟩, rfl⟩ := exists_of_isOk h
  exact hp _ (List.mem_singleton_self _) data

theorem faults_needed (fs : List (String × Value)) (property : String) (others : List Value) :
    faults (Assertion.needed name value fs property others) = [] :=
  Finding.faults_flatMap_eq_nil fun _ _ => Finding.faults_ite rfl rfl

/-- Properties with schemas of their own. -/
theorem faults_onFields {part : List (String × Value) → String × Value → List Finding}
    (h : ∀ fs, ∀ e ∈ value.fields, faults (part fs e) = []) (data : Value) :
    faults (Assertion.onObject (fun fs => value.fields.flatMap (part fs)) data) = [] :=
  faults_onObject (fun fs => Finding.faults_flatMap_eq_nil (h fs)) data

theorem faults_dependencies (single : Bool)
    (h : ∀ p ∈ (value.fields.filter fun e => !isNames single e.2).map fun e => Part.within st e.2,
      Settled visit p) (data : Value) :
    faults (Applicator.dependencies single visit st name value data) = [] := by
  refine faults_onFields (fun fs e he => Finding.faults_ite ?_ rfl) data
  obtain ⟨property, dependency⟩ := e
  have hpart := settled_field h he
  cases dependency with
  | list others => exact faults_needed fs property others
  | str other =>
    cases single
    · exact (hpart rfl).put data
    · exact faults_needed fs property [.str other]
  | _ => exact (hpart rfl).put data

theorem faults_all (h : ∀ p ∈ schemas.map (Part.within st), Settled visit p) (data : Value) :
    faults (schemas.flatMap fun schema => put visit st schema data) = [] :=
  Finding.faults_flatMap_eq_nil fun _ hs => Settled.put (h _ (List.mem_map_of_mem hs)) data

theorem faults_anyOf (h : ∀ s ∈ asList value, Settled visit (Part.within st s)) (data : Value) :
    faults (Applicator.anyOf visit st name value data) = [] := by
  obtain ⟨o, ho, -⟩ := exists_firstMet h data
  rw [Applicator.anyOf, ho]
  cases o <;> rfl

theorem faults_oneOf (h : ∀ s ∈ asList value, Settled visit (Part.within st s))
    (hbeside : ∀ s ∈ asList value, Settled visit (Part.beside st s)) (data : Value) :
    faults (Applicator.oneOf visit st name value data) = [] := by
  obtain ⟨o, ho, hrest⟩ := exists_firstMet h data
  rw [Applicator.oneOf, ho]
  match o with
  | none => rfl
  | some (first, rest) =>
    obtain ⟨more, hmore, -⟩ := Finding.exists_selecting_mem fun _ hs =>
      (hbeside _ (hrest first rest rfl hs)).meets data
    dsimp only
    rw [hmore]
    cases more <;> rfl

theorem faults_contains (h : Settled visit (Part.beside st value)) (data : Value) :
    faults (Applicator.contains visit st name value data) = [] := by
  refine faults_onArray (fun xs => ?_) data
  obtain ⟨found, hfound⟩ := exists_selecting h.meets xs
  rw [hfound]
  cases found <;> rfl

theorem faults_containsCounted (h : Settled visit (Part.beside st value)) (data : Value) :
    faults (Applicator.containsCounted visit st schema name value data) = [] := by
  refine faults_onArray (fun xs => ?_) data
  obtain ⟨found, hfound⟩ := exists_selecting h.meets xs
  dsimp only
  rw [hfound]
  exact Finding.faults_ite rfl (Finding.faults_ite (Finding.faults_ite rfl rfl) rfl)

theorem faults_items (h : ∀ s ∈ asList value, Settled visit (Part.within st s)) (data : Value) :
    faults (Applicator.items visit st value data) = [] := by
  refine faults_onArray (fun xs => ?_) data
  cases value with
  | list schemas => exact faults_positional h xs
  | _ => exact faults_each (h _ (List.mem_singleton_self _)) _

theorem faults_itemsAfterPrefix (h : Settled visit (Part.within st value)) (data : Value) :
    faults (Applicator.itemsAfterPrefix visit st schema name value data) = [] := by
  refine faults_onArray (fun xs => Finding.faults_ite rfl ?_) data
  split
  · rfl
  · exact faults_each h _

theorem faults_additionalItems (hs : ((schema.get? "items").all fun v => v.bool?.isNone) = true)
    (h : isObject value = true → Settled visit (Part.within st value)) (data : Value) :
    faults (Applicator.additionalItems visit st schema name value data) = [] := by
  refine faults_onArray (fun xs => ?_) data
  split
  · cases value with
    | obj fs => exact faults_each (h rfl) _
    | _ => exact Finding.faults_ite rfl rfl
  · rename_i b hb
    rw [hb] at hs
    cases hs
  · rfl

theorem faults_additionalProperties
    (hs : (joinedPatterns schema == "" || (Pattern.parse (joinedPatterns schema)).isOk) = true)
    (h : isObject value = true → Settled visit (Part.within st value)) (data : Value) :
    faults (Applicator.additionalProperties visit st schema name value data) = [] := by
  refine faults_onObject (fun fs => ?_) data
  obtain ⟨extras, hextras⟩ := exists_extras hs fs
  rw [hextras]
  cases value with
  | obj gs => exact Finding.faults_flatMap_eq_nil fun e _ => (h rfl).putPart _ _
  | _ => exact Finding.faults_ite rfl rfl

theorem faults_patternProperties
    (hs : (value.fields.all fun e => (Pattern.parse e.1).isOk) = true)
    (h : ∀ e ∈ value.fields, Settled visit (Part.within st e.2)) (data : Value) :
    faults (Applicator.patternProperties visit st value data) = [] := by
  refine faults_onFields (fun fs e he => Finding.faults_flatMap_eq_nil fun x _ => ?_) data
  refine Finding.faults_deciding (exists_occurs (List.all_eq_true.mp hs e he) x.1) fun b => ?_
  exact Finding.faults_ite ((h e he).putPart _ _) rfl

theorem faults_unevaluatedItems (hd : depth ≤ fuel) (hr : isRegardable depth ⟨st, schema⟩ = true)
    (h : ∀ p ∈ allRegarded depth ⟨st, schema⟩, Settled visit p) (data : Value) :
    faults (Applicator.unevaluatedItems fuel visit st schema name value data) = [] := by
  refine faults_onArray (fun xs => ?_) data
  obtain ⟨seen, hseen⟩ := exists_evaluatedItems hd hr h data xs
  rw [hseen]
  exact Finding.faults_ite rfl rfl

theorem faults_unevaluatedProperties (hd : depth ≤ fuel)
    (hr : isRegardable depth ⟨st, schema⟩ = true)
    (h : ∀ p ∈ allRegarded depth ⟨st, schema⟩, Settled visit p)
    (hv : Settled visit (Part.within st value)) (data : Value) :
    faults (Applicator.unevaluatedProperties fuel visit st schema name value data) = [] := by
  refine faults_onObject (fun fs => ?_) data
  obtain ⟨seen, hseen⟩ := exists_evaluatedProperties hd hr h data fs
  rw [hseen]
  have hfailing : ∀ e ∈ fs.filter fun e => !seen.contains e.1, ∃ names : List String,
      ((Finding.collect (put visit st value e.2)).map fun vs => vs.map fun _ => e.1) = .ok names :=
    fun e _ => ⟨_, by rw [Finding.collect_eq (hv.put e.2)]; rfl⟩
  obtain ⟨names, hnames⟩ := exists_mapM hfailing
  dsimp only
  rw [hnames]
  refine Finding.faults_ite rfl ?_
  split <;> rfl

/-- **A keyword leads to no fault** where it is safe and no value meets a fault under its parts. -/
theorem faults_keyword (hd : depth ≤ fuel) {keyword : Keyword}
    (hs : keyword.isSafe depth st schema value = true)
    (hp : ∀ p ∈ keyword.parts depth st schema value, Settled visit p) (data : Value) :
    faults (keyword.findings fuel visit st schema name value data) = [] := by
  have hlist (h : keyword.parts depth st schema value = (asList value).map (Part.within st)) :
      ∀ s ∈ asList value, Settled visit (Part.within st s) := fun s hs =>
    hp _ (h ▸ List.mem_map_of_mem hs)
  have hfields (h : keyword.parts depth st schema value =
      value.fields.map fun e => Part.within st e.2) :
      ∀ e ∈ value.fields, Settled visit (Part.within st e.2) := fun e he =>
    hp _ (h ▸ List.mem_map_of_mem he)
  have hobject (h : keyword.parts depth st schema value =
      if isObject value then [Part.within st value] else []) (ho : isObject value = true) :
      Settled visit (Part.within st value) := by
    rw [if_pos ho] at h
    exact hp _ (h ▸ List.mem_singleton_self _)
  have hone {p : Part} (h : keyword.parts depth st schema value = [p]) : Settled visit p :=
    hp _ (h ▸ List.mem_singleton_self _)
  cases keyword with
  | ref | dynamicRef | recursiveRef => exact faults_followed hs hp data
  | type =>
    obtain ⟨b, hb⟩ := exists_hasSomeType (List.all_eq_true.mp hs) schema data
    exact Finding.faults_deciding ⟨b, hb⟩ fun b => Finding.faults_ite rfl rfl
  | typeOrSchema =>
    refine Finding.faults_deciding (exists_hasTypeOrMeets (List.all_eq_true.mp hs) ?_ schema data)
      fun b => Finding.faults_ite rfl rfl
    exact fun t ht ho => hp _ (List.mem_map_of_mem (List.mem_filter.mpr ⟨ht, ho⟩))
  | multipleOf =>
    exact Finding.faults_deciding (exists_isNoMultiple hs data) fun b => Finding.faults_ite rfl rfl
  | enum | const => exact Finding.faults_ite rfl rfl
  | minimum | maximum | exclusiveMinimum | exclusiveMaximum => exact faults_limit _ _ _ _ _ _
  | minimumWithFlag | maximumWithFlag =>
    exact Finding.faults_ite (faults_limit _ _ _ _ _ _) (faults_limit _ _ _ _ _ _)
  | minLength | maxLength => exact faults_onText (fun s => Finding.faults_ite rfl rfl) data
  | minItems | maxItems | uniqueItems =>
    exact faults_onArray (fun xs => Finding.faults_ite rfl rfl) data
  | minProperties | maxProperties =>
    exact faults_onObject (fun fs => Finding.faults_ite rfl rfl) data
  | pattern =>
    exact faults_onText (fun s => Finding.faults_deciding (exists_occurs hs s) fun b =>
      Finding.faults_ite rfl rfl) data
  | format =>
    exact faults_onText (fun s => Finding.faults_deciding (isOk_admits (bne_iff_ne.mp hs) s) fun b =>
      Finding.faults_ite rfl rfl) data
  | required =>
    exact faults_onObject (fun fs => Finding.faults_flatMap_eq_nil fun key _ =>
      Finding.faults_ite rfl rfl) data
  | properties =>
    refine faults_onFields (fun fs e he => ?_) data
    dsimp only
    split
    · exact (hfields rfl e he).putPart _ _
    · rfl
  | propertiesWithFlag =>
    refine faults_onFields (fun fs e he => ?_) data
    dsimp only
    split
    · exact (hfields rfl e he).putPart _ _
    · exact Finding.faults_ite rfl rfl
  | patternProperties => exact faults_patternProperties hs (hfields rfl) data
  | additionalProperties => exact faults_additionalProperties hs (hobject rfl) data
  | propertyNames =>
    exact faults_onObject (fun fs => Finding.faults_flatMap_eq_nil fun e _ => (hone rfl).put _) data
  | items => exact faults_items (hlist rfl) data
  | itemsAfterPrefix => exact faults_itemsAfterPrefix (hone rfl) data
  | prefixItems => exact faults_onArray (fun xs => faults_positional (hlist rfl) xs) data
  | additionalItems => exact faults_additionalItems hs (hobject rfl) data
  | contains => exact faults_contains (hone rfl) data
  | containsCounted => exact faults_containsCounted (hone rfl) data
  | dependencies => exact faults_dependencies false hp data
  | dependenciesOrName => exact faults_dependencies true hp data
  | dependentRequired =>
    exact faults_onFields (fun fs e _ => Finding.faults_ite (faults_needed _ _ _) rfl) data
  | dependentSchemas =>
    exact faults_onFields (fun fs e he => Finding.faults_ite ((hfields rfl e he).put data) rfl) data
  | allOf | extend => exact faults_all hp data
  | anyOf => exact faults_anyOf (hlist rfl) data
  | oneOf =>
    obtain ⟨hwithin, hbeside⟩ := List.forall_mem_append.mp hp
    exact faults_oneOf (List.forall_mem_map.mp hwithin) (List.forall_mem_map.mp hbeside) data
  | not =>
    exact Finding.faults_deciding ((hone rfl).meets data) fun b => Finding.faults_ite rfl rfl
  | ifThenElse =>
    obtain ⟨hcondition, hbranches⟩ := List.forall_mem_cons.mp hp
    refine Finding.faults_deciding (Settled.meets hcondition data) fun b => ?_
    split
    · rename_i branch hb
      refine Settled.put (hbranches _ (List.mem_map_of_mem (List.mem_filterMap.mpr ⟨_, ?_, hb⟩))) data
      cases b <;> decide
    · rfl
  | disallow =>
    refine Finding.faults_flatMap_eq_nil fun t ht => ?_
    exact Finding.faults_deciding (Settled.meets (hp _ (List.mem_map_of_mem ht)) data) fun b =>
      Finding.faults_ite rfl rfl
  | unevaluatedItems => exact faults_unevaluatedItems hd hs hp data
  | unevaluatedProperties =>
    obtain ⟨hvalue, hregarded⟩ := List.forall_mem_cons.mp hp
    exact faults_unevaluatedProperties hd hs hregarded hvalue data

end Keywords

/-! ## Whole schemas -/

/-- **Under a schema that can be followed no value meets a fault.** -/
theorem settled_of_follows {p : Part} (h : follows depth p = true) (hd : depth ≤ fuel) :
    Settled (findings fuel) p := by
  induction depth generalizing fuel p with
  | zero =>
    obtain ⟨st, schema⟩ := p
    cases schema with
    | bool b => cases b <;> exact fun data => rfl
    | _ => cases h
  | succ depth ih =>
    obtain ⟨st, schema⟩ := p
    cases schema with
    | bool b => cases b <;> exact fun data => rfl
    | obj fs =>
      intro data
      obtain ⟨fuel, rfl⟩ := Nat.exists_eq_add_one_of_ne_zero (Nat.ne_zero_of_lt hd)
      have hd := Nat.le_of_succ_le_succ hd
      refine Finding.faults_flatMap_eq_nil fun e he => ?_
      have he := List.all_eq_true.mp h e he
      dsimp only at he ⊢
      split
      · rename_i keyword hk
        rw [hk] at he
        obtain ⟨hs, hp⟩ := Bool.and_eq_true_iff.mp he
        exact faults_keyword hd hs (fun p hp' => ih (List.all_eq_true.mp hp p hp') hd) data
      · rfl
    | _ => cases h

end SuiteEngine.Schema
