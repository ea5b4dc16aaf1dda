import Mathlib.Data.List.Nodup
import SuiteEngine.Proofs.Except
import SuiteEngine.Proofs.Schema.Acceptance

/-!
# What ends a validation

A validation that meets a fault ends with it. The schemas of the kinds give little occasion for one:
their types are known, their patterns can be read, and their references lead to definitions. So a fault
can only come from the value, where a text is asked to be a pattern.

* A schema is `Quiet` when no value meets a fault under it. That is a matter of the schema alone, and
  `isQuiet` decides it for schemas that lead into one another to a limited depth.
* For any other schema, `Faulting` says which faults a value meets, in their order. Where all parts of a
  schema but one are quiet, they are those that the value meets under this part.

Headlines:
* **`quiet_of_isQuiet`**: under a schema that passes the check no value meets a fault.
* `Faulting.property`, `Faulting.items`, `Faulting.definition`: faults under the one part that is not
  quiet.
-/

namespace SuiteEngine

/-! ## The one that counts -/

variable {α β : Type}

/-- Where all but one of a list of different things come to nothing, that one is what they come to. -/
theorem flatMap_of_single {f : α → List β} {xs : List α} {a : α} (hn : xs.Nodup) (ha : a ∈ xs)
    (h : ∀ x ∈ xs, x = a ∨ f x = []) : xs.flatMap f = f a := by
  induction xs with
  | nil => cases ha
  | cons x xs ih =>
    obtain ⟨hx, hxs⟩ := List.forall_mem_cons.mp h
    obtain ⟨hnew, hn⟩ := List.nodup_cons.mp hn
    rw [List.flatMap_cons]
    rcases List.mem_cons.mp ha with rfl | ha
    · rw [List.flatMap_eq_nil_iff.mpr fun y hy => ?_, List.append_nil]
      exact (hxs y hy).resolve_left fun heq => hnew (heq ▸ hy)
    · rw [hx.resolve_left fun heq => hnew (heq ▸ ha), List.nil_append, ih hn ha hxs]

namespace Schema

open Suite (Kind)
open Assertion (asList)

/-! ## All faults -/

namespace Finding

/-- The faults among some findings. -/
def faults (findings : List Finding) : List Fault :=
  findings.filterMap fun
    | violation _ => none
    | fault f => some f

theorem fault?_eq_head? (fs : List Finding) : fault? fs = (faults fs).head? := by
  induction fs with
  | nil => rfl
  | cons f fs ih =>
    cases f with
    | violation v => exact ih
    | fault f => rfl

theorem faults_flatMap (f : α → List Finding) (xs : List α) :
    faults (xs.flatMap f) = xs.flatMap fun x => faults (f x) := List.filterMap_flatMap

theorem faults_flatMap_eq_nil {f : α → List Finding} {xs : List α}
    (h : ∀ x ∈ xs, faults (f x) = []) : faults (xs.flatMap f) = [] := by
  rw [faults_flatMap, List.flatMap_eq_nil_iff]
  exact h

theorem faults_under (s : Step) (fs : List Finding) : faults (under s fs) = faults fs := by
  rw [faults, under, List.filterMap_map]
  refine congrArg (fs.filterMap ·) (funext fun f => ?_)
  cases f <;> rfl

theorem faults_ite {c : Prop} [Decidable c] {fs gs : List Finding} (hf : faults fs = [])
    (hg : faults gs = []) : faults (if c then fs else gs) = [] := by
  split <;> assumption

theorem exists_selecting_mem {p : α → Except Fault Bool} {xs : List α}
    (h : ∀ x ∈ xs, ∃ b, p x = .ok b) : ∃ ys, selecting p xs = .ok ys ∧ ys ⊆ xs := by
  induction xs with
  | nil => exact ⟨[], rfl, List.Subset.refl _⟩
  | cons x xs ih =>
    obtain ⟨⟨b, hb⟩, hxs⟩ := List.forall_mem_cons.mp h
    obtain ⟨ys, hys, hsub⟩ := ih hxs
    refine ⟨if b then x :: ys else ys, by rw [selecting, hb, hys]; rfl, ?_⟩
    split
    · exact List.cons_subset_cons x hsub
    · exact List.subset_cons_of_subset x hsub

end Finding

open Finding (faults)

/-- The faults that a value meets under a schema, in whatever setting inside that of a kind, once schemas
may lead into one another often enough. -/
def Faulting (k : Kind) (depth : Nat) (schema : Value) (met : Value → List Fault) : Prop :=
  ∀ fuel st v, depth ≤ fuel → Within k st → faults (findings fuel st schema v) = met v

/-- No value meets a fault under the schema. -/
abbrev Quiet (k : Kind) (depth : Nat) (schema : Value) : Prop :=
  Faulting k depth schema fun _ => []

variable {k : Kind} {depth fuel : Nat} {st : Setting} {schema v : Value} {fs : List (String × Value)}
  {met : Value → List Fault}

theorem Faulting.mono {more : Nat} (h : Faulting k depth schema met) (hd : depth ≤ more) :
    Faulting k more schema met := fun fuel st v hf => h fuel st v (Nat.le_trans hd hf)

theorem Faulting.congr {met' : Value → List Fault} (h : Faulting k depth schema met)
    (heq : ∀ v, met v = met' v) : Faulting k depth schema met' := fun fuel st v hd hst =>
  (h fuel st v hd hst).trans (heq v)

/-! ## Keywords that never fault -/

/-- Whether the schema names neither a dialect nor an address of its own. -/
def isAnonymous (schema : Value) : Bool :=
  (schema.get? "$schema").isNone && (schema.get? "$id").isNone

/-- Whether a part of a schema leads to no fault when schemas that pass a check do not. -/
def isQuietPart (quiet : Value → Bool) : Value → Bool
  | .bool _ => true
  | .obj fs => isAnonymous (.obj fs) && quiet (.obj fs)
  | _ => false

/-- Whether the name is that of a type of the dialect. -/
def isKnownType (d : Dialect) : Value → Bool
  | .str s => (d.hasType? .null s).isSome
  | _ => false

/-- Whether the name is that of a type. -/
def isTypeName : Value → Bool
  | .str s => (Dialect.hasType? .draft7 .null s).isSome
  | _ => false

/-- Whether a keyword leads to no fault when schemas that pass a check do not. -/
def isQuietKeyword (quiet : Value → Bool) (schema value : Value) : Keyword → Bool
  | .type => (asList value).all isTypeName
  | .pattern => (Pattern.parse value.text).isOk
  | .format => value.text != "regex"
  | .properties => value.fields.all fun e => isQuietPart quiet e.2
  | .additionalProperties =>
    (schema.get? "patternProperties").isNone && isQuietPart quiet value
  | .items => isQuietPart quiet value
  | .enum | .minLength | .minItems | .minimum | .maximum | .exclusiveMinimum | .uniqueItems
  | .required => true
  | _ => false

theorem isAnonymous_iff : isAnonymous schema = true ↔ Anonymous schema := by
  rw [isAnonymous, Bool.and_eq_true, Option.isNone_iff_eq_none, Option.isNone_iff_eq_none]
  exact ⟨fun h => ⟨h.1, h.2⟩, fun h => ⟨h.dialect, h.address⟩⟩

section Parts

variable {quiet : Value → Bool} {value : Value} {name : String}

/-- A part of a value meets the faults that it meets under the part of the schema. -/
theorem Faulting.onPart {gs : List (String × Value)} (h : Faulting k depth (.obj gs) met)
    (ha : Anonymous (.obj gs)) (hd : depth ≤ fuel) (hst : Within k st) (step : Step) (v : Value) :
    faults (putPart (findings fuel) st step (.obj gs) v) = met v := by
  rw [putPart, Finding.faults_under, put, hst.into ha]
  · exact h fuel st v hd hst
  · intro b hb
    cases hb

theorem quiet_putPart (hq : ∀ s, quiet s = true → Quiet k depth s)
    (h : isQuietPart quiet schema = true) (hd : depth ≤ fuel) (hst : Within k st) (step : Step)
    (v : Value) : faults (putPart (findings fuel) st step schema v) = [] := by
  cases schema with
  | bool b => cases b <;> rfl
  | obj gs =>
    obtain ⟨ha, h⟩ := Bool.and_eq_true_iff.mp h
    exact (hq _ h).onPart (isAnonymous_iff.mp ha) hd hst step v
  | _ => cases h

theorem hasType?_isSome (d : Dialect) (v w : Value) (s : String) :
    (d.hasType? v s).isSome = (d.hasType? w s).isSome := by
  unfold Dialect.hasType?
  split <;> rfl

theorem isKnownType_isOk {d : Dialect} {name : Value} (h : isKnownType d name = true)
    (schema data : Value) : ∃ b, Assertion.hasType d schema data name = .ok b := by
  cases name with
  | str s =>
    rw [isKnownType, hasType?_isSome _ _ data] at h
    obtain ⟨b, hb⟩ := Option.isSome_iff_exists.mp h
    exact ⟨b, by rw [Assertion.hasType, hb]⟩
  | _ => cases h

theorem exists_hasSomeType {d : Dialect} {types : List Value}
    (h : ∀ t ∈ types, isKnownType d t = true) (schema data : Value) :
    ∃ b, Assertion.hasSomeType d schema data types = .ok b := by
  induction types with
  | nil => exact ⟨false, rfl⟩
  | cons t types ih =>
    obtain ⟨ht, htypes⟩ := List.forall_mem_cons.mp h
    obtain ⟨b, hb⟩ := isKnownType_isOk ht schema data
    rw [Assertion.hasSomeType, hb]
    cases b
    · exact ih htypes
    · exact ⟨true, rfl⟩

theorem faults_limit (fails : Exact → Exact → Bool) (relation kind name : String) (value v : Value) :
    faults (Assertion.limit fails relation kind name value v) = [] :=
  Finding.faults_ite rfl rfl

theorem faults_onText {demand : String → List Finding} (h : ∀ s, faults (demand s) = [])
    (v : Value) : faults (Assertion.onText demand v) = [] := by
  cases v with
  | str s => exact h s
  | _ => rfl

theorem faults_onArray {demand : List Value → List Finding} (h : ∀ xs, faults (demand xs) = [])
    (v : Value) : faults (Assertion.onArray demand v) = [] := by
  cases v with
  | list xs => exact h xs
  | _ => rfl

theorem faults_onObject {demand : List (String × Value) → List Finding}
    (h : ∀ gs, faults (demand gs) = []) (v : Value) :
    faults (Assertion.onObject demand v) = [] := by
  cases v with
  | obj gs => exact h gs
  | _ => rfl

theorem isOk_admits {format : String} (h : format ≠ "regex") (s : String) :
    ∃ b, Format.admits format s = .ok b := by
  unfold Format.admits
  split <;> first | exact ⟨_, rfl⟩ | exact absurd rfl h

theorem exists_selecting {p : α → Except Fault Bool} (h : ∀ x, ∃ b, p x = .ok b) (xs : List α) :
    ∃ ys, Finding.selecting p xs = .ok ys := by
  obtain ⟨ys, hys, -⟩ := Finding.exists_selecting_mem fun x (_ : x ∈ xs) => h x
  exact ⟨ys, hys⟩

/-- Without patterns for names, it can be told which properties have no schema of their own. -/
theorem exists_additional (h : schema.get? "patternProperties" = none) (gs : List (String × Value)) :
    ∃ extras, Applicator.additional schema gs = .ok extras := by
  unfold Applicator.additional
  rw [h]
  refine exists_selecting (fun e => ?_) gs
  dsimp only
  split
  · exact ⟨false, rfl⟩
  · exact ⟨true, rfl⟩

theorem quiet_each (hq : ∀ s, quiet s = true → Quiet k depth s) (h : isQuietPart quiet schema = true)
    (hd : depth ≤ fuel) (hst : Within k st) (xs : List (Nat × Value)) :
    faults (Applicator.each (findings fuel) st schema xs) = [] :=
  Finding.faults_flatMap_eq_nil fun _ _ => quiet_putPart hq h hd hst _ _

/-- **A keyword that passes the check leads to no fault.** -/
theorem quiet_keyword (hq : ∀ s, quiet s = true → Quiet k depth s) {keyword : Keyword}
    (h : isQuietKeyword quiet schema value keyword = true) (hd : depth ≤ fuel) (hst : Within k st)
    (v : Value) : faults (keyword.findings fuel (findings fuel) st schema name value v) = [] := by
  cases keyword with
  | type =>
    obtain ⟨b, hb⟩ := exists_hasSomeType (d := .draft7) (List.all_eq_true.mp h) schema v
    simp only [Keyword.findings, Assertion.type, hst.dialect, hb, Finding.deciding]
    exact Finding.faults_ite rfl rfl
  | enum => exact Finding.faults_ite rfl rfl
  | minLength => exact faults_onText (fun s => Finding.faults_ite rfl rfl) v
  | minItems => exact faults_onArray (fun xs => Finding.faults_ite rfl rfl) v
  | minimum => exact faults_limit _ _ _ _ _ _
  | maximum => exact faults_limit _ _ _ _ _ _
  | exclusiveMinimum => exact faults_limit _ _ _ _ _ _
  | uniqueItems => exact faults_onArray (fun xs => Finding.faults_ite rfl rfl) v
  | required =>
    refine faults_onObject (fun gs => Finding.faults_flatMap_eq_nil fun key _ => ?_) v
    exact Finding.faults_ite rfl rfl
  | pattern =>
    refine faults_onText (fun s => ?_) v
    rw [isQuietKeyword] at h
    rw [Assertion.occurs]
    cases hp : Pattern.parse value.text with
    | error e => rw [hp] at h; cases h
    | ok p => exact Finding.faults_ite rfl rfl
  | format =>
    refine faults_onText (fun s => ?_) v
    obtain ⟨b, hb⟩ := isOk_admits (bne_iff_ne.mp h) s
    rw [hb]
    exact Finding.faults_ite rfl rfl
  | properties =>
    refine faults_onObject (fun gs => Finding.faults_flatMap_eq_nil fun e he => ?_) v
    have hpart := List.all_eq_true.mp h e he
    dsimp only
    split
    · exact quiet_putPart hq hpart hd hst _ _
    · rfl
  | additionalProperties =>
    obtain ⟨hpatterns, h⟩ := Bool.and_eq_true_iff.mp h
    refine faults_onObject (fun gs => ?_) v
    obtain ⟨extras, hextras⟩ := exists_additional (Option.isNone_iff_eq_none.mp hpatterns) gs
    rw [hextras]
    cases value with
    | obj ss => exact Finding.faults_flatMap_eq_nil fun e _ => quiet_putPart hq h hd hst _ _
    | _ => exact Finding.faults_ite rfl rfl
  | items =>
    refine faults_onArray (fun xs => ?_) v
    have h : isQuietPart quiet value = true := h
    cases value with
    | bool b => exact quiet_each hq h hd hst _
    | obj ss => exact quiet_each hq h hd hst _
    | _ => cases h
  | _ => cases h

end Parts

/-! ## Schemas that never fault -/

/-- The definitions of a kind. -/
def definitions (k : Kind) : List (String × Value) :=
  ((k.schema.get? "definitions").getD .null).fields

/-- The definition that a reference leads to. -/
def definition? (k : Kind) (reference : String) : Option Value :=
  let name := String.ofList (reference.toList.drop "#/definitions/".length)
  if pointsTo reference ["definitions", name] then Value.lookup name (definitions k) else none

/-- Whether an entry of a schema leads to no fault when schemas that pass a check do not. -/
def isQuietEntry (quiet : Value → Bool) (schema : Value) (e : String × Value) : Bool :=
  match Keyword.ofName? .draft7 e.1 with
  | some keyword => isQuietKeyword quiet schema e.2 keyword
  | none => true

/-- Whether no value meets a fault under a schema, which leads into others to a limited depth. -/
def isQuiet (k : Kind) : Nat → Value → Bool
  | depth + 1, .obj fs =>
    match Value.lookup "$ref" fs with
    | none => fs.all (isQuietEntry (isQuiet k depth) (.obj fs))
    | some (.str reference) =>
      match definition? k reference with
      | some schema => isAnonymous schema && isQuiet k depth schema
      | none => false
    | some _ => false
  | _, _ => false

/-- The faults that a value meets under an entry of a schema. -/
def entryFaults (fuel : Nat) (st : Setting) (schema v : Value) (e : String × Value) : List Fault :=
  match Keyword.ofName? .draft7 e.1 with
  | some keyword => faults (keyword.findings fuel (findings fuel) st schema e.1 e.2 v)
  | none => []

/-- The faults under a schema are those under its entries. -/
theorem faults_findings (hr : Value.lookup "$ref" fs = none) (hst : Within k st) (v : Value) :
    faults (findings (fuel + 1) st (.obj fs) v) =
      fs.flatMap (entryFaults fuel st (.obj fs) v) := by
  have ha : applicable st.dialect fs = fs := by simp only [applicable, hr]
  rw [findings, ha, Finding.faults_flatMap, hst.dialect]
  refine congrArg (fs.flatMap ·) (funext fun e => ?_)
  dsimp only [entryFaults]
  cases Keyword.ofName? .draft7 e.1 <;> rfl

/-- An entry that passes the check leads to no fault. -/
theorem quiet_entry {quiet : Value → Bool} (hq : ∀ s, quiet s = true → Quiet k depth s)
    {e : String × Value} (h : isQuietEntry quiet schema e = true) (hd : depth ≤ fuel)
    (hst : Within k st) (v : Value) : entryFaults fuel st schema v e = [] := by
  unfold isQuietEntry at h
  unfold entryFaults
  split
  · rename_i keyword hk
    rw [hk] at h
    exact quiet_keyword hq h hd hst v
  · rfl

theorem exists_definitions (k : Kind) : ∃ root, k.schema = .obj root ∧
    Value.lookup "definitions" root = some (.obj (definitions k)) ∧
    Anonymous (.obj (definitions k)) := by
  cases k <;> exact ⟨_, rfl, rfl, rfl, rfl⟩

/-- A schema that refers to a definition has the faults of the definition. -/
theorem Faulting.definition {reference : String} (name : String) {gs : List (String × Value)}
    (h : Faulting k depth (.obj gs) met) (ha : Anonymous (.obj gs))
    (hr : Value.lookup "$ref" fs = some (.str reference))
    (hp : pointsTo reference ["definitions", name] = true)
    (hg : Value.lookup name (definitions k) = some (.obj gs)) :
    Faulting k (depth + 1) (.obj fs) met := by
  intro fuel st v hd hst
  obtain ⟨fuel, rfl⟩ := Nat.exists_eq_add_one_of_ne_zero (Nat.ne_zero_of_lt hd)
  obtain ⟨root, hk, hdefs, hanon⟩ := exists_definitions k
  obtain ⟨st', hst', hfollowed⟩ := followed_definition hst hp hk hdefs hanon hg ha
  have happlicable : applicable st.dialect fs = [("$ref", .str reference)] := by
    rw [applicable, hr, hst.dialect]
    rfl
  rw [findings, happlicable, List.flatMap_singleton, hst.dialect]
  change faults (Applicator.followed (findings fuel) st
    (st.library.follow st.dialect st.scope reference) v) = met v
  rw [hfollowed]
  exact h fuel st' v (Nat.le_of_succ_le_succ hd) hst'

theorem exists_of_definition? {reference : String} (h : definition? k reference = some schema) :
    ∃ name, pointsTo reference ["definitions", name] = true ∧
      Value.lookup name (definitions k) = some schema := by
  unfold definition? at h
  dsimp only at h
  split at h
  · rename_i hp
    exact ⟨_, hp, h⟩
  · cases h

theorem exists_fields_of_isQuiet (h : isQuiet k depth schema = true) : ∃ gs, schema = .obj gs := by
  cases depth with
  | zero => cases h
  | succ depth =>
    cases schema with
    | obj gs => exact ⟨gs, rfl⟩
    | _ => cases h

/-- **Under a schema that passes the check no value meets a fault.** -/
theorem quiet_of_isQuiet (h : isQuiet k depth schema = true) : Quiet k depth schema := by
  induction depth generalizing schema with
  | zero => cases h
  | succ depth ih =>
    cases schema with
    | obj fs =>
      rw [isQuiet] at h
      -- Without a reference every entry counts, and with one only the definition that it leads to.
      split at h
      · rename_i hr
        intro fuel st v hd hst
        obtain ⟨fuel, rfl⟩ := Nat.exists_eq_add_one_of_ne_zero (Nat.ne_zero_of_lt hd)
        rw [faults_findings hr hst, List.flatMap_eq_nil_iff]
        exact fun e he => quiet_entry (fun s => ih) (List.all_eq_true.mp h e he)
          (Nat.le_of_succ_le_succ hd) hst v
      · rename_i reference hr
        split at h
        · rename_i target ht
          obtain ⟨ha, h⟩ := Bool.and_eq_true_iff.mp h
          obtain ⟨gs, rfl⟩ := exists_fields_of_isQuiet h
          obtain ⟨name, hp, hg⟩ := exists_of_definition? ht
          exact (ih h).definition name (isAnonymous_iff.mp ha) hr hp hg
        · cases h
      · cases h
    | _ => cases h

/-! ## One part that may fault -/

section OnePart

variable {γ : Type} {name : String} {gs ps : List (String × Value)}

/-- Whether no key comes twice and all entries pass a check but that of one key. -/
def allBut (name : String) (check : String × γ → Bool) (entries : List (String × γ)) : Bool :=
  decide (entries.map Prod.fst).Nodup && entries.all fun e => e.1 == name || check e

theorem nodup_of_allBut {check : String × γ → Bool} {entries : List (String × γ)}
    (h : allBut name check entries = true) : (entries.map Prod.fst).Nodup :=
  of_decide_eq_true (Bool.and_eq_true_iff.mp h).1

theorem eq_or_of_allBut {check : String × γ → Bool} {entries : List (String × γ)} {x : γ}
    (h : allBut name check entries = true) (hm : (name, x) ∈ entries) :
    ∀ e ∈ entries, e = (name, x) ∨ check e = true := by
  intro e he
  rcases Bool.or_eq_true_iff.mp (List.all_eq_true.mp (Bool.and_eq_true_iff.mp h).2 e he) with hn | hc
  · exact .inl (List.inj_on_of_nodup_map (nodup_of_allBut h) he hm (eq_of_beq hn))
  · exact .inr hc

/-- Whether all entries of a schema that refers to no other one are quiet, but that of one key. -/
def isQuietBut (k : Kind) (depth : Nat) (name : String) (fs : List (String × Value)) : Bool :=
  (Value.lookup "$ref" fs).isNone && allBut name (isQuietEntry (isQuiet k depth) (.obj fs)) fs

/-- The faults under such a schema are those under the one entry. -/
theorem faults_but {value : Value} (h : isQuietBut k depth name fs = true)
    (hv : Value.lookup name fs = some value) (hd : depth ≤ fuel) (hst : Within k st) (v : Value) :
    faults (findings (fuel + 1) st (.obj fs) v) = entryFaults fuel st (.obj fs) v (name, value) := by
  obtain ⟨hr, h⟩ := Bool.and_eq_true_iff.mp h
  have hm := Value.mem_of_lookup hv
  rw [faults_findings (Option.isNone_iff_eq_none.mp hr) hst]
  refine flatMap_of_single ((nodup_of_allBut h).of_map Prod.fst) hm fun e he => ?_
  exact (eq_or_of_allBut h hm e he).imp_right fun hq =>
    quiet_entry (fun s => quiet_of_isQuiet) hq hd hst v

/-- The faults under a property. -/
theorem Faulting.property (name : String) (h : Faulting k depth (.obj gs) met)
    (ha : Anonymous (.obj gs))
    (hfs : isQuietBut k depth "properties" fs = true)
    (hps : Value.lookup "properties" fs = some (.obj ps))
    (hothers : allBut name (fun e => isQuietPart (isQuiet k depth) e.2) ps = true)
    (hgs : Value.lookup name ps = some (.obj gs)) :
    Faulting k (depth + 1) (.obj fs) fun v => ((v.get? name).map met).getD [] := by
  intro fuel st v hd hst
  obtain ⟨fuel, rfl⟩ := Nat.exists_eq_add_one_of_ne_zero (Nat.ne_zero_of_lt hd)
  have hd := Nat.le_of_succ_le_succ hd
  rw [faults_but hfs hps hd hst]
  cases v with
  | obj hs =>
    change faults (ps.flatMap fun e => match Value.lookup e.1 hs with
      | some w => putPart (findings fuel) st (.key e.1) e.2 w
      | none => []) = ((Value.lookup name hs).map met).getD []
    have hm := Value.mem_of_lookup hgs
    rw [Finding.faults_flatMap, flatMap_of_single ((nodup_of_allBut hothers).of_map Prod.fst) hm]
    · dsimp only
      cases Value.lookup name hs with
      | some w => exact h.onPart ha hd hst _ w
      | none => rfl
    · refine fun e he => (eq_or_of_allBut hothers hm e he).imp_right fun hq => ?_
      cases Value.lookup e.1 hs with
      | some w => exact quiet_putPart (fun s => quiet_of_isQuiet) hq hd hst _ w
      | none => rfl
  | _ => rfl

/-- The items of a value that is an array. -/
def itemsOf : Value → List Value
  | .list xs => xs
  | _ => []

theorem map_numbered (start : Nat) (xs : List Value) : (numbered start xs).map Prod.snd = xs := by
  induction xs generalizing start with
  | nil => rfl
  | cons x xs ih => rw [numbered, List.map_cons, ih]

/-- The faults under the items. -/
theorem Faulting.items (h : Faulting k depth (.obj gs) met) (ha : Anonymous (.obj gs))
    (hfs : isQuietBut k depth "items" fs = true) (hgs : Value.lookup "items" fs = some (.obj gs)) :
    Faulting k (depth + 1) (.obj fs) fun v => (itemsOf v).flatMap met := by
  intro fuel st v hd hst
  obtain ⟨fuel, rfl⟩ := Nat.exists_eq_add_one_of_ne_zero (Nat.ne_zero_of_lt hd)
  have hd := Nat.le_of_succ_le_succ hd
  rw [faults_but hfs hgs hd hst]
  cases v with
  | list xs =>
    change faults (Applicator.each (findings fuel) st (.obj gs) (numbered 0 xs)) = xs.flatMap met
    rw [Applicator.each, Finding.faults_flatMap, ← map_numbered 0 xs, List.flatMap_map, map_numbered]
    exact congrArg ((numbered 0 xs).flatMap ·) (funext fun e => h.onPart ha hd hst _ e.2)
  | _ => rfl

theorem map_itemsOf (met : Value → List Fault) (v : Value) (key : String) :
    ((v.get? key).map fun w => (itemsOf w).flatMap met).getD [] = (itemsUnder v key).flatMap met := by
  unfold itemsUnder
  rcases v.get? key with _ | w
  · rfl
  · cases w <;> rfl

/-- The fault of a text that is asked to be a pattern. -/
def patternFault? (s : String) : Option Fault :=
  match Format.isPattern s with
  | .ok _ => none
  | .error f => some f

/-- The fault of a text that has to be a pattern. -/
theorem faulting_pattern (hfs : isQuietBut k depth "format" fs = true)
    (hf : Value.lookup "format" fs = some (.str "regex")) :
    Faulting k (depth + 1) (.obj fs) fun v => (v.str?.bind patternFault?).toList := by
  intro fuel st v hd hst
  obtain ⟨fuel, rfl⟩ := Nat.exists_eq_add_one_of_ne_zero (Nat.ne_zero_of_lt hd)
  rw [faults_but hfs hf (Nat.le_of_succ_le_succ hd) hst]
  cases v with
  | str s =>
    change faults (Finding.deciding (Format.isPattern s) _) = (patternFault? s).toList
    unfold patternFault?
    cases Format.isPattern s with
    | ok b => exact Finding.faults_ite rfl rfl
    | error f => rfl
  | _ => rfl

end OnePart

/-! ## What a validation comes to -/

/-- A value has no issues when it meets a fault, the first of which is the answer. -/
theorem issues_eq_error {d : Dialect} {schema data : Value} {f : Fault} :
    issues d schema data = .error f ↔ (faults (validate .known d schema data)).head? = some f := by
  rw [issues, bind_eq_error, Finding.collect, Finding.fault?_eq_head?]
  cases (faults (validate .known d schema data)).head? with
  | none => simp [pure, Except.pure]
  | some e => simp

/-- A document of a kind has no verdict when it meets a fault, the first of which is the answer. -/
theorem issues_eq_error_iff (h : Faulting k depth k.schema met) (hd : depth ≤ depthLimit)
    {document : Value} {f : Fault} :
    k.issues document = .error f ↔ (met document).head? = some f := by
  obtain ⟨st, hst, hvalidate⟩ := exists_validate k
  rw [Kind.issues, issues_eq_error, hvalidate, h _ st document hd hst]

end Schema

end SuiteEngine
