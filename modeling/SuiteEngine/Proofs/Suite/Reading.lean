import Mathlib.Data.List.Forall2
import SuiteEngine.Proofs.Document.Interpolate
import SuiteEngine.Proofs.Suite.Shape

/-!
# Reading and filling in

A test is read twice: once as declared, and once for each attempt with its placeholders filled in.
The second reading is not checked against the schema again. Where a field has the kind that reading
takes it for, it need not be: reading the filled document gives what was read before, filled in.

Headlines:
* `needText_reads`, `items_reads`, `textFields_reads`: the ways in which fields are read.
* **`Reads`**: a document can be read, and reading it commutes with filling it in.
* `mapM_reads`, `filled_reads`: arrays of records, and records that may be left out.
-/

namespace SuiteEngine.Suite

/-! ## Fields -/

section Fields

variable {d : Value} {name : String} (vars : Variables)

theorem field?_interpolate (d : Value) (name : String) :
    field? (d.interpolate vars) name = (field? d name).map (Value.interpolate vars) := by
  unfold field?
  rw [Value.get?_interpolate]
  cases hv : d.get? name with
  | none => rfl
  | some v => cases v <;> rfl

theorem field?_eq_some {v : Value} (h : field? d name = some v) : d.get? name = some v := by
  unfold field? at h
  split at h
  · cases h
  · rename_i w _ hw
    rw [hw, ← h]
  · cases h

theorem text?_interpolate (h : Optional IsText d name) :
    text? (d.interpolate vars) name = (text? d name).map (interpolateText vars) := by
  unfold text?
  rw [field?_interpolate]
  cases hv : field? d name with
  | none => rfl
  | some v =>
    obtain ⟨s, rfl⟩ := h v (field?_eq_some hv)
    rfl

theorem orMissing_interpolate (d : Value) (name : String) :
    orMissing (d.interpolate vars) name = (orMissing d name).interpolate vars := by
  unfold orMissing
  rw [Value.get?_interpolate]
  cases d.get? name <;> rfl

theorem getD_interpolate {w : Value} (o : Option Value) (hw : w.interpolate vars = w) :
    (o.map (Value.interpolate vars)).getD w = (o.getD w).interpolate vars := by
  cases o with
  | none => exact hw.symm
  | some v => rfl

theorem flag_interpolate (h : Optional IsFlag d name) (otherwise : Bool) :
    flag (d.interpolate vars) name otherwise = flag d name otherwise := by
  unfold flag
  rw [Value.get?_interpolate]
  cases hv : d.get? name with
  | none => rfl
  | some v => exact congrArg Value.truthy (Value.interpolate_of_isBool vars (h v hv))

theorem mayHaveFields_of_isObject (h : IsObject d) : mayHaveFields d = .ok () := by
  obtain ⟨fs, rfl⟩ := h
  rfl

theorem IsObject.interpolate (h : IsObject d) : IsObject (d.interpolate vars) := by
  obtain ⟨fs, rfl⟩ := h
  exact ⟨_, rfl⟩

theorem Required.isObject {P : Value → Prop} (h : Required P d name) : IsObject d := by
  obtain ⟨v, hv, _⟩ := h
  cases d with
  | obj fs => exact ⟨fs, rfl⟩
  | _ => cases hv

theorem need_of_get? {v : Value} (h : d.get? name = some v) : need d name = .ok v := by
  cases d with
  | obj fs =>
    change Value.lookup name fs = some v at h
    simp only [need, h]
  | _ => cases h

/-- A field that has to be there can be read, and is filled in as a whole. -/
theorem need_reads {P : Value → Prop} (h : Required P d name) :
    ∃ v, P v ∧ need d name = .ok v ∧
      ∀ vars, need (d.interpolate vars) name = .ok (v.interpolate vars) := by
  obtain ⟨v, hv, hP⟩ := h
  refine ⟨v, hP, need_of_get? hv, fun vars => need_of_get? ?_⟩
  rw [Value.get?_interpolate, hv]
  rfl

/-- A text that has to be there can be read, and is filled in. -/
theorem needText_reads {P : Value → Prop} (h : Required P d name) (hP : ∀ v, P v → IsText v) :
    ∃ s, P (.str s) ∧ needText d name = .ok s ∧
      ∀ vars, needText (d.interpolate vars) name = .ok (interpolateText vars s) := by
  obtain ⟨v, hv, hn, hn'⟩ := need_reads h
  obtain ⟨s, rfl⟩ := hP v hv
  refine ⟨s, hv, ?_, fun vars => ?_⟩
  · rw [needText, hn]
    rfl
  · rw [needText, hn' vars]
    rfl

theorem filled?_interpolate (h : Optional (fun v => v.str? = none) d name) :
    filled? (d.interpolate vars) name = (filled? d name).map (Value.interpolate vars) := by
  unfold filled?
  rw [field?_interpolate]
  cases hv : field? d name with
  | none => rfl
  | some v =>
    simp only [Option.map_some, Option.filter_some,
      Value.truthy_interpolate vars (h v (field?_eq_some hv))]
    cases v.truthy <;> rfl

theorem filled?_eq_some {v : Value} (h : filled? d name = some v) : d.get? name = some v :=
  field?_eq_some (Option.filter_eq_some_iff.mp h).1

theorem Optional.imp {P Q : Value → Prop} (h : Optional P d name) (hPQ : ∀ v, P v → Q v) :
    Optional Q d name := fun v hv => hPQ v (h v hv)

theorem IsArray.str? {P : Value → Prop} {v : Value} (h : IsArray P v) : v.str? = none := by
  obtain ⟨xs, rfl, _⟩ := h
  rfl

theorem IsObject.str? {v : Value} (h : IsObject v) : v.str? = none := by
  obtain ⟨fs, rfl⟩ := h
  rfl

theorem IsMap.isObject {P : Value → Prop} {v : Value} (h : IsMap P v) : IsObject v := by
  obtain ⟨fs, rfl, _⟩ := h
  exact ⟨fs, rfl⟩

/-- An array that may be left out can be read, and is filled in item by item. -/
theorem items_reads {P : Value → Prop} (h : Optional (IsArray P) d name) :
    ∃ xs, (∀ x ∈ xs, P x) ∧ items d name = .ok xs ∧
      ∀ vars, items (d.interpolate vars) name = .ok (xs.map (Value.interpolate vars)) := by
  have hs : Optional (fun v => v.str? = none) d name := h.imp fun _ => IsArray.str?
  cases hv : filled? d name with
  | none =>
    refine ⟨[], fun x hx => absurd hx List.not_mem_nil, ?_, fun vars => ?_⟩
    · rw [items, hv]
    · rw [items, filled?_interpolate vars hs, hv]
      rfl
  | some v =>
    obtain ⟨xs, rfl, hxs⟩ := h v (filled?_eq_some hv)
    refine ⟨xs, hxs, ?_, fun vars => ?_⟩
    · rw [items, hv]
      rfl
    · rw [items, filled?_interpolate vars hs, hv, ← Value.interpolateItems_eq_map]
      rfl

/-- Texts that may be left out can be read, and are filled in one by one. -/
theorem texts_reads (h : Optional (IsArray IsText) d name) :
    ∃ ts, texts d name = .ok ts ∧
      ∀ vars, texts (d.interpolate vars) name = .ok (ts.map (interpolateText vars)) := by
  obtain ⟨xs, hxs, hi, hi'⟩ := items_reads h
  refine ⟨xs.map Value.text, ?_, fun vars => ?_⟩
  · rw [texts, hi]
    rfl
  · rw [texts, hi' vars]
    refine congrArg Except.ok ?_
    rw [List.map_map, List.map_map]
    refine List.map_congr_left fun x hx => ?_
    obtain ⟨s, rfl⟩ := hxs x hx
    rfl

/-- An object that may be left out can be read, and is filled in field by field. -/
theorem fields_reads {P : Value → Prop} (h : Optional P d name) (hP : ∀ v, P v → IsObject v) :
    ∃ fs, (fs = [] ∨ P (.obj fs)) ∧ fields d name = .ok fs ∧
      ∀ vars, fields (d.interpolate vars) name = .ok (Value.interpolateFields vars fs) := by
  have hs : Optional (fun v => v.str? = none) d name := h.imp fun v hv => (hP v hv).str?
  cases hv : filled? d name with
  | none =>
    refine ⟨[], .inl rfl, ?_, fun vars => ?_⟩
    · rw [fields, hv]
    · rw [fields, filled?_interpolate vars hs, hv]
      rfl
  | some v =>
    have hPv := h v (filled?_eq_some hv)
    obtain ⟨fs, rfl⟩ := hP v hPv
    refine ⟨fs, .inr hPv, ?_, fun vars => ?_⟩
    · rw [fields, hv]
    · rw [fields, filled?_interpolate vars hs, hv]
      rfl

/-- The texts of an object, filled in. -/
def fillTexts (vars : Variables) (fs : List (String × String)) : List (String × String) :=
  fs.map fun f => (f.1, interpolateText vars f.2)

/-- An object of texts that may be left out can be read, and is filled in text by text. -/
theorem textFields_reads (h : Optional (IsMap IsText) d name) :
    ∃ fs, textFields d name = .ok fs ∧
      ∀ vars, textFields (d.interpolate vars) name = .ok (fillTexts vars fs) := by
  obtain ⟨fs, hfs, hf, hf'⟩ := fields_reads h fun _ => IsMap.isObject
  have ht : ∀ f ∈ fs, IsText f.2 := by
    rcases hfs with rfl | ⟨gs, hg, hgs⟩
    · exact fun f hf => absurd hf List.not_mem_nil
    · obtain rfl := Value.obj.inj hg
      exact hgs
  refine ⟨asTexts fs, ?_, fun vars => ?_⟩
  · rw [textFields, hf]
    rfl
  · rw [textFields, hf' vars]
    refine congrArg Except.ok ?_
    rw [Value.interpolateFields_eq_map, asTexts, asTexts, fillTexts, List.map_map, List.map_map]
    refine List.map_congr_left fun f hf => ?_
    obtain ⟨s, hs⟩ := ht f hf
    simp only [Function.comp_apply, hs]
    rfl

end Fields

/-! ## Records -/

theorem ok_bind {α β : Type} (a : α) (f : α → Except ReadFault β) :
    (Except.ok a >>= f) = f a := rfl

/-- A document can be read, and reading it commutes with filling it in. -/
structure Reads {α : Type} (read : Value → Except ReadFault α) (fill : Variables → α → α)
    (d : Value) (a : α) : Prop where
  plain : read d = .ok a
  filled : ∀ vars, read (d.interpolate vars) = .ok (fill vars a)

section Reads

variable {α : Type} {read : Value → Except ReadFault α} {fill : Variables → α → α} {d : Value}
  {name : String} {P : Value → Prop} {Q : Value → α → Prop} {C : α → Prop}

/-- Where each item can be read, so can the array of them. -/
theorem mapM_reads {xs : List Value} (h : ∀ x ∈ xs, ∃ a, Q x a ∧ Reads read fill x a) :
    ∃ as, List.Forall₂ Q xs as ∧ xs.mapM read = .ok as ∧
      ∀ vars, (xs.map (Value.interpolate vars)).mapM read = .ok (as.map (fill vars)) := by
  induction xs with
  | nil => exact ⟨[], .nil, rfl, fun _ => rfl⟩
  | cons x xs ih =>
    obtain ⟨a, hQ, hr⟩ := h x List.mem_cons_self
    obtain ⟨as, hQs, hm, hm'⟩ := ih fun y hy => h y (List.mem_cons_of_mem _ hy)
    refine ⟨a :: as, .cons hQ hQs, ?_, fun vars => ?_⟩
    · rw [List.mapM_cons, hr.plain, hm]
      rfl
    · rw [List.map_cons, List.mapM_cons, hr.filled vars, hm' vars]
      rfl

/-- Where a record can be read and filled in, so can one that may be left out. -/
theorem filled_reads (h : Optional P d name)
    (hP : ∀ v, P v → IsObject v) (hr : ∀ v, P v → ∃ a, C a ∧ Reads read fill v a) :
    ∃ o : Option α, (∀ a ∈ o, C a) ∧ (filled? d name).mapM read = .ok o ∧
      ∀ vars, (filled? (d.interpolate vars) name).mapM read = .ok (o.map (fill vars)) := by
  have hs : Optional (fun v => v.str? = none) d name := h.imp fun v hv => (hP v hv).str?
  cases hv : filled? d name with
  | none =>
    refine ⟨none, fun a ha => absurd ha (Option.not_mem_none a), rfl, fun vars => ?_⟩
    rw [filled?_interpolate vars hs, hv]
    rfl
  | some v =>
    obtain ⟨a, hC, hra⟩ := hr v (h v (filled?_eq_some hv))
    refine ⟨some a, fun b hb => ?_, ?_, fun vars => ?_⟩
    · exact Option.some.inj hb ▸ hC
    · rw [Option.mapM_some, hra.plain]
      rfl
    · rw [filled?_interpolate vars hs, hv, Option.map_some, Option.mapM_some, hra.filled vars]
      rfl

/-- Where a record can be read, so can one that may be left out. -/
theorem filled_mapM (h : Optional P d name) (hr : ∀ v, P v → ∃ a, read v = .ok a) :
    ∃ o, (filled? d name).mapM read = .ok o := by
  cases hv : filled? d name with
  | none => exact ⟨none, rfl⟩
  | some v =>
    obtain ⟨a, ha⟩ := hr v (h v (filled?_eq_some hv))
    refine ⟨some a, ?_⟩
    rw [Option.mapM_some, ha]
    rfl

end Reads

/-! ## Lists of what was read -/

section Lists

variable {α : Type} {P : α → Prop} {xs : List Value} {as : List α}

theorem forall_of_forall₂ (h : List.Forall₂ (fun _ => P) xs as) : ∀ a ∈ as, P a := by
  induction h with
  | nil => exact fun a ha => absurd ha List.not_mem_nil
  | cons ha _ ih => exact List.forall_mem_cons.mpr ⟨ha, ih⟩

theorem map_of_forall₂ {f : α → Value} (h : List.Forall₂ (fun x a => x = f a ∧ P a) xs as) :
    xs = as.map f ∧ ∀ a ∈ as, P a := by
  induction h with
  | nil => exact ⟨rfl, fun a ha => absurd ha List.not_mem_nil⟩
  | cons ha _ ih =>
    obtain ⟨rfl, hP⟩ := ha
    obtain ⟨rfl, hPs⟩ := ih
    exact ⟨rfl, List.forall_mem_cons.mpr ⟨hP, hPs⟩⟩

end Lists

end SuiteEngine.Suite
