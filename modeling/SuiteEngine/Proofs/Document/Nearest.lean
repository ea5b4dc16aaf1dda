import Mathlib.Algebra.Group.Nat.Defs
import SuiteEngine.Document.Display
import SuiteEngine.Proofs.Document.Compare
import SuiteEngine.Proofs.Document.Filled

/-!
# The nearest value of JSON

JSON has no form for what is absent, for bytes, for tuples and for floats that are not finite.
`Value.jsonable` leaves none of them, however deep, and changes nothing else: an array stays as long as
it is, item by item, and of an object the keys stay that are bound to something. So the nearest value of
a value that JSON has a form for is the value itself. It can be written, but for integers that are too
long for that.

Headlines:
* `strict_jsonable`: JSON has a form for the nearest value.
* `jsonable_of_strict`: what JSON has a form for is its own nearest value.
* **`isNearest_jsonable`**: what the nearest value is.
* `fault?_of_strict`: what can be wrong with a value that JSON has a form for.
* **`dump_jsonable`**: whether the nearest value can be written, and as what.
-/

namespace SuiteEngine

namespace Value

variable {v w : Value} {xs : List Value} {fs : List (String × Value)}

/-! ## Arrays and objects -/

theorem jsonableItems_eq (xs : List Value) : jsonableItems xs = xs.map jsonable := by
  induction xs with
  | nil => rfl
  | cons x xs ih => rw [jsonableItems, ih, List.map_cons]

theorem jsonableFields_eq (fs : List (String × Value)) :
    jsonableFields fs =
      (fs.filter fun f => !f.2.isMissing).map fun f => (f.1, f.2.jsonable) := by
  induction fs with
  | nil => rfl
  | cons f fs ih =>
    obtain ⟨k, v⟩ := f
    rw [jsonableFields, ih, List.filter_cons]
    cases hm : v.isMissing with
    | true => rfl
    | false => rfl

/-- The nearest value of an array is a list of the nearest values of its items. -/
theorem jsonable_array (hv : v.items? = some xs) : v.jsonable = list (xs.map jsonable) := by
  cases v with
  | list ys =>
    obtain rfl := Option.some.inj hv
    exact congrArg list (jsonableItems_eq ys)
  | tuple ys =>
    obtain rfl := Option.some.inj hv
    exact congrArg list (jsonableItems_eq ys)
  | _ => cases hv

/-- The nearest value of an object has the fields that are there. -/
theorem jsonable_obj (fs : List (String × Value)) :
    (obj fs).jsonable =
      obj ((fs.filter fun f => !f.2.isMissing).map fun f => (f.1, f.2.jsonable)) :=
  congrArg obj (jsonableFields_eq fs)

theorem everywhere_obj {P : Value → Prop} (here : P (obj fs)) :
    (obj fs).Everywhere P ↔ ∀ f ∈ fs, f.2.Everywhere P :=
  ⟨fun h _ hf => h.field hf, .ofFields here⟩

/-! ## What JSON has a form for -/

/-- What the parts of a value are that JSON has a form for: none is absent, bytes or a tuple, and every
float is finite. -/
def IsStrictPart : Value → Prop
  | missing => False
  | bytes _ => False
  | tuple _ => False
  | float x => x.isNaN = false ∧ x.isInf = false
  | _ => True

/-- The nearest value of a float: the float if it is finite, else null. -/
theorem jsonable_float (x : Float) :
    x.isNaN = false ∧ x.isInf = false ∧ (float x).jsonable = float x ∨
      ¬(x.isNaN = false ∧ x.isInf = false) ∧ (float x).jsonable = null := by
  rw [jsonable]
  cases hn : x.isNaN <;> cases hi : x.isInf <;> simp

/-- **JSON has a form for the nearest value.** -/
theorem strict_jsonable (v : Value) : v.jsonable.Everywhere IsStrictPart := by
  induction v using induction_parts with
  | step v items fields =>
    have harray : ∀ xs, v.items? = some xs → v.jsonable.Everywhere IsStrictPart := fun xs hxs => by
      rw [jsonable_array hxs]
      exact .ofList trivial (List.forall_mem_map.mpr (items xs hxs))
    cases v with
    | list xs => exact harray xs rfl
    | tuple xs => exact harray xs rfl
    | obj fs =>
      rw [jsonable_obj]
      exact .ofFields trivial
        (List.forall_mem_map.mpr fun f hf => fields f (List.mem_filter.mp hf).1)
    | float x =>
      obtain ⟨hn, hi, hx⟩ | ⟨-, hx⟩ := jsonable_float x
      · rw [hx]
        exact .leaf ⟨hn, hi⟩ rfl rfl
      · rw [hx]
        exact .leaf trivial rfl rfl
    | _ => exact .leaf trivial rfl rfl

/-- **What JSON has a form for is its own nearest value.** -/
theorem jsonable_of_strict (h : v.Everywhere IsStrictPart) : v.jsonable = v := by
  induction h with
  | @intro v here _ fields ihi ihf =>
    cases v with
    | missing => cases here
    | bytes b => cases here
    | tuple xs => cases here
    | float x =>
      obtain ⟨-, -, hx⟩ | ⟨hx, -⟩ := jsonable_float x
      · exact hx
      · exact absurd here hx
    | list xs =>
      rw [jsonable_array rfl, List.map_congr_left (ihi xs rfl), List.map_id']
    | obj fs =>
      -- No field is absent, since nothing in the value is.
      have hthere : ∀ f ∈ fs, (!f.2.isMissing) = true := fun f hf => by
        have hstrict := (fields f hf).here
        cases hv : f.2 with
        | missing =>
          rw [hv] at hstrict
          cases hstrict
        | _ => rfl
      have hsame : ∀ f ∈ fs, (f.1, f.2.jsonable) = f := fun f hf => Prod.ext rfl (ihf f hf)
      rw [jsonable_obj, List.filter_eq_self.mpr hthere, List.map_congr_left hsame, List.map_id']
    | _ => rfl

/-- What the nearest value of JSON is, beside the value. -/
structure IsNearest (v w : Value) : Prop where
  /-- JSON has a form for all of it. -/
  strict : w.Everywhere IsStrictPart
  /-- It is its own nearest value. -/
  settled : w.jsonable = w
  /-- An array is a list of as many items, each the nearest value of the item in its place. -/
  array : ∀ xs, v.items? = some xs →
    ∃ ys, w = list ys ∧ ys.length = xs.length ∧ ∀ i : Nat, ys[i]? = xs[i]?.map jsonable
  /-- An object keeps the fields that are not absent, each with the nearest value of its own. -/
  object : ∀ fs, v = obj fs →
    w = obj ((fs.filter fun f => !f.2.isMissing).map fun f => (f.1, f.2.jsonable))
  /-- What JSON has a form for stays as it is. -/
  same : v.Everywhere IsStrictPart → w = v
  /-- So it equals what it was, if every object in it binds each key once. -/
  equal : v.Everywhere IsStrictPart → v.IsJson → v.deepEqual w = true ∧ w.deepEqual v = true

/-- **What the nearest value of JSON is.** -/
theorem isNearest_jsonable (v : Value) : IsNearest v v.jsonable where
  strict := strict_jsonable v
  settled := jsonable_of_strict (strict_jsonable v)
  array xs hxs := ⟨xs.map jsonable, jsonable_array hxs, List.length_map _, fun _ => List.getElem?_map⟩
  object fs hfs := hfs ▸ jsonable_obj fs
  same := jsonable_of_strict
  equal hs hj := by
    rw [jsonable_of_strict hs]
    exact ⟨deepEqual_refl hj, deepEqual_refl hj⟩

/-! ## Integers that are not too long -/

/-- What the parts of a value are that can be written as far as its integers go. -/
def IsShortPart : Value → Prop
  | int n => n.natAbs < 10 ^ Text.digitLimit
  | _ => True

instance : DecidablePred IsShortPart
  | int n => inferInstanceAs (Decidable (n.natAbs < 10 ^ Text.digitLimit))
  | missing => isTrue trivial
  | null => isTrue trivial
  | bool _ => isTrue trivial
  | float _ => isTrue trivial
  | str _ => isTrue trivial
  | bytes _ => isTrue trivial
  | list _ => isTrue trivial
  | tuple _ => isTrue trivial
  | obj _ => isTrue trivial

/-- A value in which no integer is too long to be written. -/
def IsShort : Value → Prop := Everywhere IsShortPart

instance : DecidablePred IsShort := fun v => inferInstanceAs (Decidable (Everywhere IsShortPart v))

theorem intFits_iff {n : Int} : Json.intFits n = true ↔ n.natAbs < 10 ^ Text.digitLimit := by
  unfold Json.intFits
  rw [decide_eq_true_eq]
  exact Nat.length_toDigits_le_iff (by decide) (by decide)

theorem writable_iff : Json.writable v = true ↔ v.IsShort := by
  have hpart : ∀ w : Value, (match w with
      | .int n => Json.intFits n
      | _ => true) = true ↔ IsShortPart w := fun w => by
    cases w with
    | int n => exact intFits_iff
    | _ => exact iff_of_true rfl trivial
  unfold Json.writable IsShort
  rw [← everywhere_iff]
  exact ⟨fun h => h.imp fun w => (hpart w).mp, fun h => h.imp fun w => (hpart w).mpr⟩

theorem isShort_int {n : Int} : (int n).IsShort ↔ n.natAbs < 10 ^ Text.digitLimit :=
  ⟨fun h => h.here, fun h => .leaf h rfl rfl⟩

theorem isShort_array (hv : v.items? = some xs) : v.IsShort ↔ ∀ x ∈ xs, x.IsShort := by
  constructor
  · rintro ⟨-, items, -⟩
    exact items xs hv
  · intro h
    cases v with
    | list ys =>
      obtain rfl := Option.some.inj hv
      exact .ofList trivial h
    | tuple ys =>
      obtain rfl := Option.some.inj hv
      exact .intro trivial (fun _ hx => Option.some.inj hx ▸ h) fun _ hf => absurd hf List.not_mem_nil
    | _ => cases hv

theorem isShort_obj : (obj fs).IsShort ↔ ∀ f ∈ fs, f.2.IsShort := everywhere_obj trivial

theorem isShort_of_isMissing (h : v.isMissing = true) : v.IsShort := by
  cases v with
  | missing => exact .leaf trivial rfl rfl
  | _ => cases h

/-- The integers of the nearest value are those of the value. -/
theorem isShort_jsonable (v : Value) : v.jsonable.IsShort ↔ v.IsShort := by
  induction v using induction_parts with
  | step v items fields =>
    have harray : ∀ xs, v.items? = some xs → (v.jsonable.IsShort ↔ v.IsShort) := fun xs hxs => by
      rw [jsonable_array hxs, isShort_array rfl, isShort_array hxs, List.forall_mem_map]
      exact forall₂_congr (items xs hxs)
    cases v with
    | list xs => exact harray xs rfl
    | tuple xs => exact harray xs rfl
    | obj fs =>
      rw [jsonable_obj, isShort_obj, isShort_obj, List.forall_mem_map]
      refine ⟨fun h f hf => ?_, fun h f hf => ?_⟩
      · -- A field that is left out is absent, and has no integers.
        by_cases hm : f.2.isMissing = true
        · exact isShort_of_isMissing hm
        · exact (fields f hf).mp (h f (List.mem_filter.mpr ⟨hf, by simpa using hm⟩))
      · have hmem := (List.mem_filter.mp hf).1
        exact (fields f hmem).mpr (h f hmem)
    | float x =>
      refine iff_of_true ?_ (.leaf trivial rfl rfl)
      obtain ⟨-, -, hx⟩ | ⟨-, hx⟩ := jsonable_float x
      · rw [hx]
        exact .leaf trivial rfl rfl
      · rw [hx]
        exact .leaf trivial rfl rfl
    | int n => exact Iff.rfl
    | _ => exact iff_of_true (.leaf trivial rfl rfl) (.leaf trivial rfl rfl)

end Value

/-! ## Writing it -/

namespace Json

open Value (IsShort IsStrictPart)

variable {v : Value} {xs : List Value} {fs : List (String × Value)}

theorem faultOfItems?_eq
    (h : ∀ x ∈ xs, fault? x = if x.IsShort then none else some .longInteger) :
    faultOfItems? xs = if ∀ x ∈ xs, x.IsShort then none else some .longInteger := by
  induction xs with
  | nil => rfl
  | cons x xs ih =>
    obtain ⟨hx, hxs⟩ := List.forall_mem_cons.mp h
    rw [faultOfItems?, hx, ih hxs]
    by_cases hs : x.IsShort <;> simp [hs]

theorem faultOfFields?_eq (fs : List (String × Value)) :
    faultOfFields? fs = faultOfItems? (fs.map Prod.snd) := by
  induction fs with
  | nil => rfl
  | cons f fs ih => rw [faultOfFields?, ih, List.map_cons, faultOfItems?]

/-- **What can be wrong with a value that JSON has a form for.** -/
theorem fault?_of_strict (h : v.Everywhere IsStrictPart) :
    fault? v = if v.IsShort then none else some .longInteger := by
  induction h with
  | @intro v here _ _ ihi ihf =>
    have hleaf : v.IsShort → fault? v = none →
        fault? v = if v.IsShort then none else some .longInteger := fun hs hf => by
      rw [if_pos hs, hf]
    cases v with
    | missing => cases here
    | bytes b => cases here
    | tuple xs => cases here
    | list xs =>
      rw [fault?, faultOfItems?_eq (ihi xs rfl)]
      simp only [Value.isShort_array (v := .list xs) rfl]
    | obj fs =>
      have hvalues : ∀ x ∈ fs.map Prod.snd, fault? x = if x.IsShort then none else some .longInteger :=
        List.forall_mem_map.mpr ihf
      rw [fault?, faultOfFields?_eq, faultOfItems?_eq hvalues]
      simp only [Value.isShort_obj, List.forall_mem_map]
    | int n =>
      rw [fault?]
      simp only [Value.intFits_iff, Value.isShort_int]
    | float x =>
      refine hleaf (.leaf trivial rfl rfl) ?_
      rw [fault?, here.1, here.2]
      rfl
    | _ => exact hleaf (.leaf trivial rfl rfl) rfl

/-- What JSON has a form for is written, unless an integer in it is too long. -/
theorem dump_of_strict (h : v.Everywhere IsStrictPart) (indent : Option Nat) :
    dump indent v =
      if v.IsShort then .ok (render ⟨false, indent⟩ v)
      else .error (Unwritable.longInteger.failure indent) := by
  unfold dump
  rw [fault?_of_strict h]
  by_cases hs : v.IsShort
  · rw [if_pos hs, if_pos hs]
  · rw [if_neg hs, if_neg hs]

theorem dump_isOk_iff (h : v.Everywhere IsStrictPart) (indent : Option Nat) :
    (∃ text, dump indent v = .ok text) ↔ v.IsShort := by
  rw [dump_of_strict h]
  by_cases hs : v.IsShort
  · rw [if_pos hs]
    exact iff_of_true ⟨_, rfl⟩ hs
  · rw [if_neg hs]
    exact iff_of_false (fun ⟨_, ht⟩ => nomatch ht) hs

/-- **Whether the nearest value can be written, and as what.** -/
theorem dump_jsonable (indent : Option Nat) (v : Value) :
    dump indent v.jsonable =
      if v.IsShort then .ok (render ⟨false, indent⟩ v.jsonable)
      else .error (Unwritable.longInteger.failure indent) := by
  rw [dump_of_strict (Value.strict_jsonable v)]
  exact if_congr (Value.isShort_jsonable v) rfl rfl

end Json

end SuiteEngine
