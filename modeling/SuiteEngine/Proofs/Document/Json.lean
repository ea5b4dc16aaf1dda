import SuiteEngine.Document.Value

/-!
# JSON values

A document value may hold what JSON has no word for: what is absent, bytes, tuples, a number that is
none, a key bound twice. `Everywhere P` says that `P` holds of a value and of all its parts, so that a
condition on the parts of a value is an induction over the value; `IsJson` and `IsPlain` are two such
conditions.

Headlines:
* `lookup_of_mem`, `mem_of_lookup`: with distinct keys, a field is what is bound to its key.
* **`Everywhere`**: a property of all parts of a value.
* `everywhere_iff`: it can be decided, so `IsJson` can.
* `Exact.eq_iff`, `intExact_inj`, `Exact.le_int`: numbers are compared by what they denote.
-/

namespace SuiteEngine

/-! ## Numbers -/

theorem floatExact_ne_nan {x : Float} (h : x.isNaN = false) : floatExact x ≠ .nan := by
  unfold floatExact
  split
  · exact fun hx => Exact.noConfusion hx
  · rw [if_neg (Bool.eq_false_iff.mp h)]
    split <;> exact fun hx => Exact.noConfusion hx

theorem intExact_ne_nan (n : Int) : intExact n ≠ .nan := fun h => Exact.noConfusion h

/-- An integer is known by what it denotes. -/
theorem intExact_inj {m n : Int} : intExact m = intExact n ↔ m = n := by
  constructor
  · intro h
    have hd : Dyadic.ofInt m = Dyadic.ofInt n := Exact.finite.inj h
    have hr := congrArg Dyadic.toRat hd
    exact Rat.intCast_inj.mp ((Dyadic.toRat_intCast m).symm.trans (hr.trans (Dyadic.toRat_intCast n)))
  · rintro rfl
    rfl

/-- Integers are compared by what they denote. -/
theorem Exact.le_int (m n : Int) : Exact.le (intExact m) (intExact n) = decide (m ≤ n) := by
  have h : Dyadic.ofInt m ≤ Dyadic.ofInt n ↔ m ≤ n := by
    rw [← Dyadic.toRat_le_toRat_iff]
    exact Dyadic.toRat_intCast m ▸ Dyadic.toRat_intCast n ▸ Rat.intCast_le_intCast
  exact decide_eq_decide.mpr h

theorem Exact.eq_comm (x y : Exact) : Exact.eq x y = Exact.eq y x := by
  cases x <;> cases y <;> simp [Exact.eq, Bool.beq_comm]

/-- Numbers that are any are equal when they are the same. -/
theorem Exact.eq_iff {x y : Exact} (hx : x ≠ .nan) : Exact.eq x y = true ↔ x = y := by
  cases x with
  | nan => exact absurd rfl hx
  | _ => cases y <;> simp [Exact.eq]

namespace Value

/-! ## Fields -/

variable {fs gs : List (String × Value)} {key : String} {v : Value}

theorem mem_of_lookup (h : lookup key fs = some v) : (key, v) ∈ fs := by
  induction fs with
  | nil => cases h
  | cons f fs ih =>
    obtain ⟨k, w⟩ := f
    rw [lookup] at h
    split at h
    · rename_i hk
      obtain rfl := Option.some.inj h
      exact hk ▸ List.mem_cons_self
    · exact List.mem_cons_of_mem _ (ih h)

/-- With distinct keys, a field is what is bound to its key. -/
theorem lookup_of_mem (hd : (fs.map Prod.fst).Nodup) (hf : (key, v) ∈ fs) :
    lookup key fs = some v := by
  induction fs with
  | nil => cases hf
  | cons f fs ih =>
    obtain ⟨k, w⟩ := f
    obtain ⟨hk, hd⟩ := List.nodup_cons.mp hd
    rw [lookup]
    rcases List.mem_cons.mp hf with h | h
    · cases h
      exact if_pos rfl
    · have hne : k ≠ key := by
        rintro rfl
        exact hk (List.mem_map.mpr ⟨_, h, rfl⟩)
      rw [if_neg hne]
      exact ih hd h

/-- A key is bound if and only if there is a field with it. -/
theorem exists_lookup_iff : (∃ v, lookup key fs = some v) ↔ key ∈ fs.map Prod.fst := by
  induction fs with
  | nil => simp [lookup]
  | cons f fs ih =>
    obtain ⟨k, w⟩ := f
    rw [lookup, List.map_cons, List.mem_cons, ← ih]
    by_cases hk : k = key
    · simp [hk]
    · simp [hk, Ne.symm hk]

/-- A key that is not there is bound at the end. -/
theorem insert_new (h : key ∉ fs.map Prod.fst) (v : Value) :
    insert key v fs = fs ++ [(key, v)] := by
  induction fs with
  | nil => rfl
  | cons f fs ih =>
    have hk : f.1 ≠ key := fun he => h (List.mem_map.mpr ⟨f, List.mem_cons_self, he⟩)
    have ht : key ∉ fs.map Prod.fst := fun hm => h (List.mem_cons_of_mem f.1 hm)
    rw [insert, if_neg hk, ih ht]
    rfl

/-! ## All parts of a value -/

/-- The property holds of the value, of the items of each array in it and of the fields of each
object in it. -/
inductive Everywhere (P : Value → Prop) : Value → Prop
  | intro {v : Value} (here : P v) (items : ∀ xs, v.items? = some xs → ∀ x ∈ xs, Everywhere P x)
      (fields : ∀ f ∈ v.fields, Everywhere P f.2) : Everywhere P v

namespace Everywhere

variable {P Q : Value → Prop} {xs : List Value}

theorem here (h : Everywhere P v) : P v := by
  cases h
  assumption

theorem item (h : Everywhere P (.list xs)) {x : Value} (hx : x ∈ xs) : Everywhere P x := by
  cases h with
  | intro _ hi _ => exact hi xs rfl x hx

theorem tupleItem (h : Everywhere P (.tuple xs)) {x : Value} (hx : x ∈ xs) : Everywhere P x := by
  cases h with
  | intro _ hi _ => exact hi xs rfl x hx

theorem field (h : Everywhere P (.obj fs)) {f : String × Value} (hf : f ∈ fs) :
    Everywhere P f.2 := by
  cases h with
  | intro _ _ hf' => exact hf' f hf

/-- A list has the property everywhere if it has it, and all its items have it everywhere. -/
theorem ofList (here : P (.list xs)) (h : ∀ x ∈ xs, Everywhere P x) : Everywhere P (.list xs) :=
  .intro here (fun _ hx => Option.some.inj hx ▸ h) fun _ hf => absurd hf List.not_mem_nil

/-- An object has the property everywhere if it has it, and all its fields have it everywhere. -/
theorem ofFields (here : P (.obj fs)) (h : ∀ f ∈ fs, Everywhere P f.2) : Everywhere P (.obj fs) :=
  .intro here (fun _ hx => nomatch hx) h

/-- A value without parts has a property everywhere if it has it. -/
theorem leaf (here : P v) (hi : v.items? = none) (hf : v.fields = []) : Everywhere P v :=
  .intro here (fun _ hx => nomatch hi.symm.trans hx) fun _ h => absurd (hf ▸ h) List.not_mem_nil

theorem imp (h : Everywhere P v) (hPQ : ∀ w, P w → Q w) : Everywhere Q v := by
  induction h with
  | intro here _ _ ihi ihf => exact .intro (hPQ _ here) ihi ihf

end Everywhere

/-! ## Deciding a property of all parts -/

section Decide

variable {p : Value → Bool} {xs : List Value}

theorem holdsOfItems_iff : holdsOfItems p xs = true ↔ ∀ x ∈ xs, holdsEverywhere p x = true := by
  induction xs with
  | nil => simp [holdsOfItems]
  | cons x xs ih => rw [holdsOfItems, Bool.and_eq_true, ih, List.forall_mem_cons]

theorem holdsOfFields_iff :
    holdsOfFields p fs = true ↔ ∀ f ∈ fs, holdsEverywhere p f.2 = true := by
  induction fs with
  | nil => simp [holdsOfFields]
  | cons f fs ih =>
    obtain ⟨k, v⟩ := f
    rw [holdsOfFields, Bool.and_eq_true, ih, List.forall_mem_cons]

theorem holdsEverywhere_iff :
    holdsEverywhere p v = true ↔ p v = true ∧
      (∀ xs, v.items? = some xs → ∀ x ∈ xs, holdsEverywhere p x = true) ∧
      ∀ f ∈ v.fields, holdsEverywhere p f.2 = true := by
  cases v with
  | list xs => simp [holdsEverywhere, items?, Value.fields, holdsOfItems_iff]
  | tuple xs => simp [holdsEverywhere, items?, Value.fields, holdsOfItems_iff]
  | obj fs => simp [holdsEverywhere, items?, Value.fields, holdsOfFields_iff]
  | _ => simp [holdsEverywhere, items?, Value.fields]

theorem sizeOf_item_lt (hv : v.items? = some xs) {x : Value} (hx : x ∈ xs) :
    sizeOf x < sizeOf v := by
  have hlt := List.sizeOf_lt_of_mem hx
  cases v with
  | list ys =>
    obtain rfl := Option.some.inj hv
    simp only [list.sizeOf_spec]
    omega
  | tuple ys =>
    obtain rfl := Option.some.inj hv
    simp only [tuple.sizeOf_spec]
    omega
  | _ => cases hv

theorem sizeOf_field_lt {f : String × Value} (hf : f ∈ v.fields) : sizeOf f.2 < sizeOf v := by
  cases v with
  | obj fs =>
    have hlt := List.sizeOf_lt_of_mem (show f ∈ fs from hf)
    obtain ⟨k, w⟩ := f
    simp only [obj.sizeOf_spec, Prod.mk.sizeOf_spec] at hlt ⊢
    omega
  | _ => cases hf

theorem everywhere_of_holds (v : Value) (h : holdsEverywhere p v = true) :
    Everywhere (fun w => p w = true) v := by
  obtain ⟨hv, hi, hf⟩ := holdsEverywhere_iff.mp h
  exact .intro hv (fun xs hxs x hx => everywhere_of_holds x (hi xs hxs x hx))
    fun f hm => everywhere_of_holds f.2 (hf f hm)
termination_by sizeOf v
decreasing_by
  · exact sizeOf_item_lt hxs hx
  · exact sizeOf_field_lt hm

/-- The condition holds everywhere if and only if it is found to. -/
theorem everywhere_iff : Everywhere (fun w => p w = true) v ↔ holdsEverywhere p v = true := by
  refine ⟨fun h => ?_, everywhere_of_holds v⟩
  induction h with
  | intro here _ _ ihi ihf => exact holdsEverywhere_iff.mpr ⟨here, ihi, ihf⟩

end Decide

instance {P : Value → Prop} [DecidablePred P] (v : Value) : Decidable (Everywhere P v) :=
  decidable_of_iff (holdsEverywhere (fun w => decide (P w)) v = true) (by
    simp only [← everywhere_iff, decide_eq_true_eq])

/-- What the parts of a JSON value are: none is absent, bytes, a tuple or a number that is none, and
an object binds each key once. -/
def IsJsonPart : Value → Prop
  | missing => False
  | bytes _ => False
  | tuple _ => False
  | float x => x.isNaN = false
  | obj fs => (fs.map Prod.fst).Nodup
  | _ => True

instance : DecidablePred IsJsonPart
  | missing => isFalse id
  | bytes _ => isFalse id
  | tuple _ => isFalse id
  | float x => inferInstanceAs (Decidable (x.isNaN = false))
  | obj fs => inferInstanceAs (Decidable (fs.map Prod.fst).Nodup)
  | null => isTrue trivial
  | bool _ => isTrue trivial
  | int _ => isTrue trivial
  | str _ => isTrue trivial
  | list _ => isTrue trivial

/-- A value that JSON has words for, the infinities being numbers. -/
def IsJson : Value → Prop := Everywhere IsJsonPart

instance : DecidablePred IsJson := fun v => inferInstanceAs (Decidable (Everywhere IsJsonPart v))

/-- What the parts of a plain value are: as those of a JSON value, a number that is none included. -/
def IsPlainPart : Value → Prop
  | missing => False
  | bytes _ => False
  | tuple _ => False
  | obj fs => (fs.map Prod.fst).Nodup
  | _ => True

instance : DecidablePred IsPlainPart
  | missing => isFalse id
  | bytes _ => isFalse id
  | tuple _ => isFalse id
  | obj fs => inferInstanceAs (Decidable (fs.map Prod.fst).Nodup)
  | float _ => isTrue trivial
  | null => isTrue trivial
  | bool _ => isTrue trivial
  | int _ => isTrue trivial
  | str _ => isTrue trivial
  | list _ => isTrue trivial

/-- A value that has a text of its own: a JSON value, but with any floats. -/
def IsPlain : Value → Prop := Everywhere IsPlainPart

instance : DecidablePred IsPlain := fun v => inferInstanceAs (Decidable (Everywhere IsPlainPart v))

end Value

end SuiteEngine
