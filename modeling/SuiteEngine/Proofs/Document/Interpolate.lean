import SuiteEngine.Document.Interpolate

/-!
# Filling in placeholders, part by part

Filling in a value fills in its parts: the fields of an object keep their keys, an array keeps its
length, and what is no text stays as it is. So what is read from the fields of a value is read from
the filled value, filled in.

Headlines:
* `get?_interpolate`: a field of the filled value is the filled field.
* `truthy_interpolate`: whether a condition holds only changes for texts.
* **`interpolateText_of_not_mem`**: a text without braces stays as it is.
-/

namespace SuiteEngine

/-! ## Texts -/

theorem placeholder?_of_ne {c : Char} (hc : c ≠ '\x7b') (cs : List Char) :
    placeholder? (c :: cs) = none := by
  unfold placeholder?
  split
  · rename_i h
    exact absurd (List.cons.inj h).1 hc
  · rfl

theorem interpolateFrom_of_not_mem (vars : Variables) {cs : List Char} (h : '\x7b' ∉ cs) :
    interpolateFrom vars 0 cs = cs := by
  induction cs with
  | nil => rfl
  | cons c cs ih =>
    have hc : c ≠ '\x7b' := fun hc => h (hc ▸ List.mem_cons_self)
    rw [interpolateFrom, placeholder?_of_ne hc]
    exact congrArg (c :: ·) (ih fun hm => h (List.mem_cons_of_mem _ hm))

/-- **A text without braces stays as it is.** -/
theorem interpolateText_of_not_mem (vars : Variables) {s : String} (h : '\x7b' ∉ s.toList) :
    interpolateText vars s = s := by
  rw [interpolateText, interpolateFrom_of_not_mem vars h, String.ofList_toList]

namespace Value

variable (vars : Variables)

/-! ## Values -/

theorem interpolateItems_eq_map (xs : List Value) :
    interpolateItems vars xs = xs.map (interpolate vars) := by
  induction xs with
  | nil => rfl
  | cons x xs ih => rw [interpolateItems, ih, List.map_cons]

theorem interpolateFields_eq_map (fs : List (String × Value)) :
    interpolateFields vars fs = fs.map fun f => (f.1, f.2.interpolate vars) := by
  induction fs with
  | nil => rfl
  | cons f fs ih => rw [interpolateFields, ih, List.map_cons]

theorem lookup_interpolateFields (key : String) (fs : List (String × Value)) :
    lookup key (interpolateFields vars fs) = (lookup key fs).map (interpolate vars) := by
  induction fs with
  | nil => rfl
  | cons f fs ih =>
    obtain ⟨k, v⟩ := f
    rw [interpolateFields, lookup, lookup]
    split
    · rfl
    · exact ih

/-- A field of the filled value is the filled field. -/
theorem get?_interpolate (v : Value) (key : String) :
    (v.interpolate vars).get? key = (v.get? key).map (interpolate vars) := by
  cases v with
  | obj fs => exact lookup_interpolateFields vars key fs
  | _ => rfl

theorem isMissing_interpolate (v : Value) : (v.interpolate vars).isMissing = v.isMissing := by
  cases v <;> rfl

/-- Whether a condition on a value holds only changes for texts. -/
theorem truthy_interpolate {v : Value} (h : v.str? = none) :
    (v.interpolate vars).truthy = v.truthy := by
  cases v with
  | str s => cases h
  | list xs => cases xs <;> rfl
  | tuple xs => cases xs <;> rfl
  | obj fs => cases fs <;> rfl
  | _ => rfl

theorem interpolate_of_isNumber {v : Value} (h : v.isNumber = true) : v.interpolate vars = v := by
  cases v with
  | int n => rfl
  | float x => rfl
  | _ => cases h

theorem interpolate_of_isBool {v : Value} (h : v.bool?.isSome = true) : v.interpolate vars = v := by
  cases v with
  | bool b => rfl
  | _ => cases h

end Value

end SuiteEngine
