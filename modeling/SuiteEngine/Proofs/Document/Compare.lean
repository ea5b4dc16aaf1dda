import Mathlib.Data.List.Forall2
import Mathlib.Data.List.Perm.Subperm
import Mathlib.Logic.Relation
import SuiteEngine.Matching.Evaluate
import SuiteEngine.Proofs.Document.Json

/-!
# Laws of comparison

On JSON values equality is an equivalence and containment a preorder that it refines. Both are read
constructor by constructor: a scalar equals and contains what denotes the same, arrays are compared
place by place or item by item, objects key by key. `Somewhere R` is a change by `R` at one place of
a value, however deep.

Headlines:
* `deepEqual_list`, `deepEqual_obj`, `contained_list`, `contained_obj`: what the comparisons ask of
  arrays and objects.
* `deepEqual_symm`, `deepEqual_trans`, `contained_trans`: by induction over the value that the
  comparison walks through.
* `deepEqual_of_somewhere`, `contained_of_somewhere`: a change of a part is a change of the whole.
* **`comparison_laws`**: the laws together.
-/

namespace SuiteEngine.Value

variable {a b c : Value} {xs ys : List Value} {fs gs : List (String × Value)}

/-! ## Scalars -/

/-- What a value that is neither an array nor an object stands for. -/
inductive Scalar where
  | null
  | truth (b : Bool)
  | number (x : Exact)
  | text (s : String)
deriving DecidableEq

/-- What the value stands for, if it is a scalar of JSON. -/
def scalar? : Value → Option Scalar
  | null => some .null
  | bool b => some (.truth b)
  | int n => some (.number (intExact n))
  | float x => some (.number (floatExact x))
  | str s => some (.text s)
  | _ => none

theorem scalarsEqual_comm (a b : Value) : scalarsEqual a b = scalarsEqual b a := by
  cases a <;> cases b <;> simp [scalarsEqual, denoted?, Bool.beq_comm, Exact.eq_comm]

/-- **Scalars are equal when they stand for the same**: a truth value is no number, and an integer
and a float are equal only as numbers. -/
theorem scalarsEqual_iff (ha : a.IsJson) (hs : a.scalar?.isSome) :
    scalarsEqual a b = true ↔ a.scalar? = b.scalar? := by
  have hp := ha.here
  cases a with
  | null => cases b <;> simp [scalarsEqual, denoted?, scalar?]
  | bool t => cases b <;> simp [scalarsEqual, denoted?, scalar?]
  | str s => cases b <;> simp [scalarsEqual, denoted?, scalar?]
  | int n =>
    have hn := intExact_ne_nan n
    cases b <;> simp [scalarsEqual, denoted?, scalar?, Exact.eq_iff hn, intExact_inj]
  | float x =>
    have hx := floatExact_ne_nan (show x.isNaN = false from hp)
    cases b <;> simp [scalarsEqual, denoted?, scalar?, Exact.eq_iff hx]
  | _ => cases hs

theorem deepEqual_scalar (ha : a.IsJson) (hs : a.scalar?.isSome) :
    a.deepEqual b = true ↔ a.scalar? = b.scalar? := by
  rw [← scalarsEqual_iff ha hs]
  cases a with
  | null => rw [deepEqual] <;> simp
  | bool t => rw [deepEqual] <;> simp
  | str s => rw [deepEqual] <;> simp
  | int n => rw [deepEqual] <;> simp
  | float x => rw [deepEqual] <;> simp
  | _ => cases hs

theorem contained_scalar (hb : b.IsJson) (hs : b.scalar?.isSome) :
    contained a b = true ↔ a.scalar? = b.scalar? := by
  rw [eq_comm (a := a.scalar?), ← scalarsEqual_iff hb hs, scalarsEqual_comm]
  cases b with
  | null => cases a <;> simp [contained, isNull, scalarsEqual, denoted?]
  | bool t => rw [contained] <;> simp
  | str s => rw [contained] <;> simp
  | int n => rw [contained] <;> simp
  | float x => rw [contained] <;> simp
  | _ => cases hs

/-! ## Arrays and objects -/

theorem itemsEqual_iff {ys : Option (List Value)} :
    itemsEqual xs ys = true ↔
      ∃ zs, ys = some zs ∧ List.Forall₂ (fun x y => deepEqual x y = true) xs zs := by
  induction xs generalizing ys with
  | nil => rcases ys with _ | _ | ⟨y, ys⟩ <;> simp [itemsEqual]
  | cons x xs ih => rcases ys with _ | _ | ⟨y, ys⟩ <;> simp [itemsEqual, ih]

theorem fieldsEqual_iff :
    fieldsEqual fs gs = true ↔ ∀ f ∈ fs, ∃ w, lookup f.1 gs = some w ∧ deepEqual f.2 w = true := by
  induction fs with
  | nil => simp [fieldsEqual]
  | cons f fs ih =>
    obtain ⟨k, v⟩ := f
    rw [fieldsEqual, Bool.and_eq_true, ih, List.forall_mem_cons]
    refine and_congr_left fun _ => ?_
    cases lookup k gs <;> simp

theorem itemsContained_iff {candidates : List Value} :
    itemsContained candidates xs = true ↔
      ∀ x ∈ xs, ∃ y ∈ candidates, contained y x = true := by
  induction xs with
  | nil => simp [itemsContained]
  | cons x xs ih => rw [itemsContained, Bool.and_eq_true, ih, List.forall_mem_cons, List.any_eq_true]

theorem fieldsContained_iff :
    fieldsContained gs fs = true ↔
      ∀ f ∈ fs, contained ((lookup f.1 gs).getD missing) f.2 = true := by
  induction fs with
  | nil => simp [fieldsContained]
  | cons f fs ih =>
    obtain ⟨k, v⟩ := f
    rw [fieldsContained, Bool.and_eq_true, ih, List.forall_mem_cons]

/-- A JSON value is a scalar, a list or an object. -/
theorem IsJson.cases (h : a.IsJson) :
    a.scalar?.isSome ∨ (∃ xs, a = list xs) ∨ ∃ fs, a = obj fs := by
  have hp := h.here
  cases a with
  | list xs => exact .inr (.inl ⟨xs, rfl⟩)
  | obj fs => exact .inr (.inr ⟨fs, rfl⟩)
  | missing => cases hp
  | bytes b => cases hp
  | tuple xs => cases hp
  | _ => exact .inl rfl

/-- Arrays are equal place by place. -/
theorem deepEqual_list (hb : b.IsJson) :
    (list xs).deepEqual b = true ↔
      ∃ ys, b = list ys ∧ List.Forall₂ (fun x y => deepEqual x y = true) xs ys := by
  rw [deepEqual, itemsEqual_iff]
  have hp := hb.here
  cases b with
  | tuple ys => cases hp
  | _ => simp [items?]

/-- Objects are equal key by key, and have as many keys. -/
theorem deepEqual_obj :
    (obj fs).deepEqual b = true ↔ ∃ gs, b = obj gs ∧ fs.length = gs.length ∧
      ∀ f ∈ fs, ∃ w, lookup f.1 gs = some w ∧ deepEqual f.2 w = true := by
  cases b <;> simp [deepEqual, fieldsEqual_iff]

/-- An array contains what has a place in it for each of its items. -/
theorem contained_list (ha : a.IsJson) :
    contained a (list ys) = true ↔
      ∃ xs, a = list xs ∧ ∀ y ∈ ys, ∃ x ∈ xs, contained x y = true := by
  have hp := ha.here
  cases a with
  | tuple xs => cases hp
  | _ => simp [contained, items?, itemsContained_iff]

theorem contained_missing (hb : b.IsJson) : contained missing b = false := by
  have hp := hb.here
  cases b with
  | missing => cases hp
  | _ => simp [contained, isNull, items?, scalarsEqual, denoted?]

/-- An object contains what has, for each of its keys, a value that contains the one there. -/
theorem contained_obj (hb : (obj gs).IsJson) :
    contained a (obj gs) = true ↔
      ∃ fs, a = obj fs ∧ ∀ g ∈ gs, ∃ v, lookup g.1 fs = some v ∧ contained v g.2 = true := by
  cases a with
  | obj fs =>
    simp only [contained, fieldsContained_iff, obj.injEq, exists_eq_left']
    refine forall₂_congr fun g hg => ?_
    cases lookup g.1 fs with
    | none => simp [contained_missing (hb.field hg)]
    | some v => simp
  | _ => simp [contained]

/-! ## Equality -/

/-- Where an object equals another, each field of the other has its like. -/
theorem exists_of_deepEqual (hf : (fs.map Prod.fst).Nodup) (hg : (gs.map Prod.fst).Nodup)
    (h : (obj fs).deepEqual (obj gs) = true) :
    ∀ g ∈ gs, ∃ f ∈ fs, f.1 = g.1 ∧ deepEqual f.2 g.2 = true := by
  obtain ⟨_, hgs, hl, h⟩ := deepEqual_obj.mp h
  obtain rfl := obj.inj hgs
  have hsub : fs.map Prod.fst ⊆ gs.map Prod.fst := by
    intro k hk
    obtain ⟨f, hf, rfl⟩ := List.mem_map.mp hk
    obtain ⟨w, hw, _⟩ := h f hf
    exact exists_lookup_iff.mp ⟨w, hw⟩
  -- As many keys, all of them there: no key of the other object is left over.
  have hperm : (fs.map Prod.fst).Perm (gs.map Prod.fst) :=
    (List.subperm_of_subset hf hsub).perm_of_length_le (by simp [hl])
  intro g hgm
  obtain ⟨f, hfm, hk⟩ := List.mem_map.mp (hperm.mem_iff.mpr (List.mem_map_of_mem hgm))
  obtain ⟨w, hw, he⟩ := h f hfm
  rw [hk, lookup_of_mem hg hgm] at hw
  obtain rfl := Option.some.inj hw
  exact ⟨f, hfm, hk, he⟩

theorem deepEqual_refl (h : a.IsJson) : a.deepEqual a = true := by
  induction h with
  | @intro v here hi hf ihi ihf =>
    have hv : v.IsJson := .intro here hi hf
    obtain hs | ⟨xs, rfl⟩ | ⟨fs, rfl⟩ := hv.cases
    · exact (deepEqual_scalar hv hs).mpr rfl
    · exact (deepEqual_list hv).mpr ⟨xs, rfl, List.forall₂_same.mpr (ihi xs rfl)⟩
    · exact deepEqual_obj.mpr
        ⟨fs, rfl, rfl, fun f hm => ⟨f.2, lookup_of_mem here hm, ihf f hm⟩⟩

theorem deepEqual_symm (ha : a.IsJson) (hb : b.IsJson) (h : a.deepEqual b = true) :
    b.deepEqual a = true := by
  induction ha generalizing b with
  | @intro v here hi hf ihi ihf =>
    have hv : v.IsJson := .intro here hi hf
    obtain hs | ⟨xs, rfl⟩ | ⟨fs, rfl⟩ := hv.cases
    · have he := (deepEqual_scalar hv hs).mp h
      exact (deepEqual_scalar hb (he ▸ hs)).mpr he.symm
    · obtain ⟨ys, rfl, hall⟩ := (deepEqual_list hb).mp h
      refine (deepEqual_list hv).mpr ⟨xs, rfl, ?_⟩
      rw [List.forall₂_iff_get] at hall ⊢
      refine ⟨hall.1.symm, fun i hy hx => ?_⟩
      exact ihi xs rfl _ (List.get_mem xs ⟨i, hx⟩) (hb.item (List.get_mem ys ⟨i, hy⟩))
        (hall.2 i hx hy)
    · obtain ⟨gs, rfl, hl, _⟩ := deepEqual_obj.mp h
      refine deepEqual_obj.mpr ⟨fs, rfl, hl.symm, fun g hg => ?_⟩
      obtain ⟨f, hm, hk, he⟩ := exists_of_deepEqual here hb.here h g hg
      exact ⟨f.2, hk ▸ lookup_of_mem here hm, ihf f hm (hb.field hg) he⟩

theorem deepEqual_comm (ha : a.IsJson) (hb : b.IsJson) : a.deepEqual b = b.deepEqual a :=
  Bool.eq_iff_iff.mpr ⟨deepEqual_symm ha hb, deepEqual_symm hb ha⟩

theorem deepEqual_trans (ha : a.IsJson) (hb : b.IsJson) (hc : c.IsJson)
    (hab : a.deepEqual b = true) (hbc : b.deepEqual c = true) : a.deepEqual c = true := by
  induction ha generalizing b c with
  | @intro v here hi hf ihi ihf =>
    have hv : v.IsJson := .intro here hi hf
    obtain hs | ⟨xs, rfl⟩ | ⟨fs, rfl⟩ := hv.cases
    · have he := (deepEqual_scalar hv hs).mp hab
      exact (deepEqual_scalar hv hs).mpr (he.trans ((deepEqual_scalar hb (he ▸ hs)).mp hbc))
    · obtain ⟨ys, rfl, hxy⟩ := (deepEqual_list hb).mp hab
      obtain ⟨zs, rfl, hyz⟩ := (deepEqual_list hc).mp hbc
      refine (deepEqual_list hc).mpr ⟨zs, rfl, ?_⟩
      rw [List.forall₂_iff_get] at hxy hyz ⊢
      refine ⟨hxy.1.trans hyz.1, fun i hx hz => ?_⟩
      have hy : i < ys.length := hxy.1 ▸ hx
      exact ihi xs rfl _ (List.get_mem xs ⟨i, hx⟩) (hb.item (List.get_mem ys ⟨i, hy⟩))
        (hc.item (List.get_mem zs ⟨i, hz⟩)) (hxy.2 i hx hy) (hyz.2 i hy hz)
    · obtain ⟨gs, rfl, hfg, hgs⟩ := deepEqual_obj.mp hab
      obtain ⟨hs, rfl, hgh, hhs⟩ := deepEqual_obj.mp hbc
      refine deepEqual_obj.mpr ⟨hs, rfl, hfg.trans hgh, fun f hm => ?_⟩
      obtain ⟨w, hw, he⟩ := hgs f hm
      obtain ⟨u, hu, he'⟩ := hhs (f.1, w) (mem_of_lookup hw)
      exact ⟨u, hu, ihf f hm (hb.field (mem_of_lookup hw)) (hc.field (mem_of_lookup hu)) he he'⟩

/-! ## Containment -/

theorem contained_trans (ha : a.IsJson) (hb : b.IsJson) (hc : c.IsJson)
    (hab : contained a b = true) (hbc : contained b c = true) : contained a c = true := by
  induction hc generalizing a b with
  | @intro v here hi hf ihi ihf =>
    have hv : v.IsJson := .intro here hi hf
    obtain hs | ⟨zs, rfl⟩ | ⟨hs, rfl⟩ := hv.cases
    · have he := (contained_scalar hv hs).mp hbc
      exact (contained_scalar hv hs).mpr (((contained_scalar hb (he ▸ hs)).mp hab).trans he)
    · obtain ⟨ys, rfl, hys⟩ := (contained_list hb).mp hbc
      obtain ⟨xs, rfl, hxs⟩ := (contained_list ha).mp hab
      refine (contained_list ha).mpr ⟨xs, rfl, fun z hz => ?_⟩
      obtain ⟨y, hy, hyz⟩ := hys z hz
      obtain ⟨x, hx, hxy⟩ := hxs y hy
      exact ⟨x, hx, ihi zs rfl z hz (ha.item hx) (hb.item hy) hxy hyz⟩
    · obtain ⟨gs, rfl, hgs⟩ := (contained_obj hv).mp hbc
      obtain ⟨fs, rfl, hfs⟩ := (contained_obj hb).mp hab
      refine (contained_obj hv).mpr ⟨fs, rfl, fun f hm => ?_⟩
      obtain ⟨w, hw, hwf⟩ := hgs f hm
      obtain ⟨u, hu, huw⟩ := hfs (f.1, w) (mem_of_lookup hw)
      exact ⟨u, hu, ihf f hm (ha.field (mem_of_lookup hu)) (hb.field (mem_of_lookup hw)) huw hwf⟩

/-- A value contains what it equals. -/
theorem contained_of_deepEqual (ha : a.IsJson) (hb : b.IsJson) (h : a.deepEqual b = true) :
    contained a b = true := by
  induction ha generalizing b with
  | @intro v here hi hf ihi ihf =>
    have hv : v.IsJson := .intro here hi hf
    obtain hs | ⟨xs, rfl⟩ | ⟨fs, rfl⟩ := hv.cases
    · have he := (deepEqual_scalar hv hs).mp h
      exact (contained_scalar hb (he ▸ hs)).mpr he
    · obtain ⟨ys, rfl, hall⟩ := (deepEqual_list hb).mp h
      refine (contained_list hv).mpr ⟨xs, rfl, fun y hy => ?_⟩
      rw [List.forall₂_iff_get] at hall
      obtain ⟨⟨i, hi'⟩, rfl⟩ := List.get_of_mem hy
      have hx : i < xs.length := hall.1 ▸ hi'
      exact ⟨_, List.get_mem xs ⟨i, hx⟩,
        ihi xs rfl _ (List.get_mem xs ⟨i, hx⟩) (hb.item hy) (hall.2 i hx hi')⟩
    · obtain ⟨gs, rfl, _, _⟩ := deepEqual_obj.mp h
      refine (contained_obj hb).mpr ⟨fs, rfl, fun g hg => ?_⟩
      obtain ⟨f, hm, hk, he⟩ := exists_of_deepEqual here hb.here h g hg
      exact ⟨f.2, hk ▸ lookup_of_mem here hm, ihf f hm (hb.field hg) he⟩

theorem contained_refl (h : a.IsJson) : contained a a = true :=
  contained_of_deepEqual h h (deepEqual_refl h)

/-! ## Changes at one place -/

/-- Two values differ at one place, however deep, and there by `R`. -/
inductive Somewhere (R : Value → Value → Prop) : Value → Value → Prop
  | here {v w : Value} (h : R v w) : Somewhere R v w
  | item (before after : List Value) {v w : Value} (h : Somewhere R v w) :
      Somewhere R (list (before ++ v :: after)) (list (before ++ w :: after))
  | field (before after : List (String × Value)) (key : String) {v w : Value}
      (h : Somewhere R v w) :
      Somewhere R (obj (before ++ (key, v) :: after)) (obj (before ++ (key, w) :: after))

/-- The fields of an object in another order. -/
inductive Reordered : Value → Value → Prop
  | intro {fs gs : List (String × Value)} (h : fs.Perm gs) : Reordered (obj fs) (obj gs)

/-- Keys more in an object, wherever they stand, or items more at the end of a list. -/
inductive Enlarged : Value → Value → Prop
  | keys {fs gs : List (String × Value)} (h : fs.Sublist gs) : Enlarged (obj fs) (obj gs)
  | items (xs more : List Value) : Enlarged (list xs) (list (xs ++ more))

section Somewhere

variable {R Q : Value → Value → Prop}

theorem Somewhere.symm (h : Somewhere R a b) : Somewhere (fun v w => R w v) b a := by
  induction h with
  | here h => exact .here h
  | item before after _ ih => exact .item before after ih
  | field before after key _ ih => exact .field before after key ih

/-- What holds of all parts still does after a change at one place, if it holds there and asks of
arrays nothing and of objects no more than their keys. -/
theorem Everywhere.of_somewhere {P : Value → Prop} (hlist : ∀ xs, P (list xs))
    (hobj : ∀ fs gs, fs.map Prod.fst = gs.map Prod.fst → P (obj fs) → P (obj gs))
    (hR : ∀ v w, R v w → Everywhere P v → Everywhere P w) (h : Somewhere R a b)
    (ha : Everywhere P a) : Everywhere P b := by
  induction h with
  | here h => exact hR _ _ h ha
  | item before after _ ih =>
    refine .ofList (hlist _) fun x hx => ?_
    rcases List.mem_append.mp hx with hx | hx
    · exact ha.item (List.mem_append_left _ hx)
    rcases List.mem_cons.mp hx with rfl | hx
    · exact ih (ha.item (by simp))
    · exact ha.item (by simp [hx])
  | field before after key _ ih =>
    refine .ofFields (hobj _ _ (by simp) ha.here) fun f hf => ?_
    rcases List.mem_append.mp hf with hf | hf
    · exact ha.field (List.mem_append_left _ hf)
    rcases List.mem_cons.mp hf with rfl | hf
    · exact ih (ha.field (f := (key, _)) (by simp))
    · exact ha.field (by simp [hf])

theorem isJson_of_somewhere (hR : ∀ v w, R v w → v.IsJson → w.IsJson) (h : Somewhere R a b)
    (ha : a.IsJson) : b.IsJson :=
  Everywhere.of_somewhere (fun _ => trivial)
    (fun fs gs hk (hd : (fs.map Prod.fst).Nodup) => show (gs.map Prod.fst).Nodup from hk ▸ hd) hR h ha

/-- What holds of a value and itself, and of arrays and objects whose parts it holds of. -/
structure IsCongruence (Q : Value → Value → Prop) : Prop where
  refl : ∀ v, v.IsJson → Q v v
  list : ∀ xs ys, (list xs).IsJson → (list ys).IsJson → List.Forall₂ Q xs ys → Q (list xs) (list ys)
  obj : ∀ fs gs, (obj fs).IsJson → (obj gs).IsJson →
    List.Forall₂ (fun f g => f.1 = g.1 ∧ Q f.2 g.2) fs gs → Q (obj fs) (obj gs)

/-- **A change of a part is a change of the whole.** -/
theorem IsCongruence.of_somewhere (hQ : IsCongruence Q)
    (hR : ∀ v w, R v w → v.IsJson → w.IsJson → Q v w) (h : Somewhere R a b) (ha : a.IsJson)
    (hb : b.IsJson) : Q a b := by
  induction h with
  | here h => exact hR _ _ h ha hb
  | item before after _ ih =>
    refine hQ.list _ _ ha hb (List.rel_append ?_ (.cons ?_ ?_))
    · exact List.forall₂_same.mpr fun x hx => hQ.refl x (ha.item (by simp [hx]))
    · exact ih (ha.item (by simp)) (hb.item (by simp))
    · exact List.forall₂_same.mpr fun x hx => hQ.refl x (ha.item (by simp [hx]))
  | field before after key _ ih =>
    refine hQ.obj _ _ ha hb (List.rel_append ?_ (.cons ⟨rfl, ?_⟩ ?_))
    · exact List.forall₂_same.mpr fun f hf => ⟨rfl, hQ.refl f.2 (ha.field (by simp [hf]))⟩
    · exact ih (ha.field (f := (key, _)) (by simp)) (hb.field (f := (key, _)) (by simp))
    · exact List.forall₂_same.mpr fun f hf => ⟨rfl, hQ.refl f.2 (ha.field (by simp [hf]))⟩

/-- Fields that correspond are found under their keys. -/
theorem exists_lookup_of_forall₂ (hg : (gs.map Prod.fst).Nodup)
    (h : List.Forall₂ (fun f g => f.1 = g.1 ∧ Q f.2 g.2) fs gs) :
    ∀ f ∈ fs, ∃ w, lookup f.1 gs = some w ∧ Q f.2 w := by
  rw [List.forall₂_iff_get] at h
  intro f hf
  obtain ⟨⟨i, hi⟩, rfl⟩ := List.get_of_mem hf
  have hi' : i < gs.length := h.1 ▸ hi
  obtain ⟨hk, hq⟩ := h.2 i hi hi'
  exact ⟨_, hk ▸ lookup_of_mem hg (List.get_mem gs ⟨i, hi'⟩), hq⟩

theorem isCongruence_deepEqual : IsCongruence fun v w => v.deepEqual w = true where
  refl v hv := deepEqual_refl hv
  list xs ys _ hys h := (deepEqual_list hys).mpr ⟨ys, rfl, h⟩
  obj fs gs _ hgs h := by
    have hl := exists_lookup_of_forall₂ (Q := fun v w => v.deepEqual w = true) hgs.here h
    exact deepEqual_obj.mpr ⟨gs, rfl, h.length_eq, hl⟩

theorem isCongruence_contained : IsCongruence fun v w => contained w v = true where
  refl v hv := contained_refl hv
  list xs ys _ hys h := by
    refine (contained_list hys).mpr ⟨ys, rfl, fun x hx => ?_⟩
    rw [List.forall₂_iff_get] at h
    obtain ⟨⟨i, hi⟩, rfl⟩ := List.get_of_mem hx
    have hi' : i < ys.length := h.1 ▸ hi
    exact ⟨_, List.get_mem ys ⟨i, hi'⟩, h.2 i hi hi'⟩
  obj fs gs hfs hgs h := by
    have hl := exists_lookup_of_forall₂ (Q := fun v w => contained w v = true) hgs.here h
    exact (contained_obj hfs).mpr ⟨gs, rfl, hl⟩

end Somewhere

theorem Reordered.isJson (h : Reordered a b) (ha : a.IsJson) : b.IsJson := by
  obtain ⟨hp⟩ := h
  exact .ofFields ((hp.map Prod.fst).nodup ha.here) fun f hf => ha.field (hp.mem_iff.mpr hf)

theorem Reordered.deepEqual (h : Reordered a b) (ha : a.IsJson) (hb : b.IsJson) :
    a.deepEqual b = true := by
  obtain ⟨hp⟩ := h
  refine deepEqual_obj.mpr ⟨_, rfl, hp.length_eq, fun f hf => ?_⟩
  exact ⟨f.2, lookup_of_mem hb.here (hp.mem_iff.mp hf), deepEqual_refl (ha.field hf)⟩

/-- **The order of keys does not count**, however deep. -/
theorem deepEqual_of_reordered (h : Relation.ReflTransGen (Somewhere Reordered) a b)
    (ha : a.IsJson) : b.IsJson ∧ a.deepEqual b = true := by
  induction h with
  | refl => exact ⟨ha, deepEqual_refl ha⟩
  | tail _ hs ih =>
    obtain ⟨hb, he⟩ := ih
    have hc := isJson_of_somewhere (fun _ _ => Reordered.isJson) hs hb
    have hbc := isCongruence_deepEqual.of_somewhere (fun _ _ => Reordered.deepEqual) hs hb hc
    exact ⟨hc, deepEqual_trans ha hb hc he hbc⟩

theorem Enlarged.isJson (h : Enlarged a b) (hb : b.IsJson) : a.IsJson := by
  cases h with
  | keys hs =>
    have hk := (hs.map Prod.fst).nodup hb.here
    exact .ofFields hk fun f hf => hb.field (hs.subset hf)
  | items xs more => exact .ofList trivial fun x hx => hb.item (List.mem_append_left _ hx)

theorem Enlarged.contained (h : Enlarged a b) (ha : a.IsJson) (hb : b.IsJson) :
    contained b a = true := by
  cases h with
  | keys hs =>
    refine (contained_obj ha).mpr ⟨_, rfl, fun f hf => ?_⟩
    exact ⟨f.2, lookup_of_mem hb.here (hs.subset hf), contained_refl (ha.field hf)⟩
  | items xs more =>
    refine (contained_list hb).mpr ⟨_, rfl, fun x hx => ?_⟩
    exact ⟨x, List.mem_append_left _ hx, contained_refl (ha.item hx)⟩

/-- **What is added, however deep, takes nothing away**: the larger value contains the smaller. -/
theorem contained_of_enlarged (h : Relation.ReflTransGen (Somewhere Enlarged) a b)
    (hb : b.IsJson) : a.IsJson ∧ contained b a = true := by
  induction h using Relation.ReflTransGen.head_induction_on with
  | refl => exact ⟨hb, contained_refl hb⟩
  | head hs _ ih =>
    obtain ⟨hc, hbc⟩ := ih
    have ha := isJson_of_somewhere (fun _ _ => Enlarged.isJson) hs.symm hc
    have hca := isCongruence_contained.of_somewhere (fun _ _ => Enlarged.contained) hs ha hc
    exact ⟨ha, contained_trans hb hc ha hbc hca⟩

/-! ## The laws -/

/-- **The laws of comparison.** Equality of JSON values is an equivalence that the order of keys
does not matter to. Containment is a preorder; equal values contain each other, so either side of a
containment may be replaced by an equal value, and a value to which something is added still
contains what it did. So a body that is the expected value also contains it. -/
theorem comparison_laws (ha : a.IsJson) (hb : b.IsJson) (hc : c.IsJson) :
    (a.deepEqual a = true ∧ a.deepEqual b = b.deepEqual a ∧
      (a.deepEqual b = true → b.deepEqual c = true → a.deepEqual c = true)) ∧
    (∀ a', Relation.ReflTransGen (Somewhere Reordered) a a' →
      a'.deepEqual b = a.deepEqual b ∧ b.deepEqual a' = b.deepEqual a) ∧
    (a.deepContains a = true ∧
      (a.deepContains b = true → b.deepContains c = true → a.deepContains c = true)) ∧
    (a.deepEqual b = true → a.deepContains b = true ∧ b.deepContains a = true ∧
      a.deepContains c = b.deepContains c ∧ c.deepContains a = c.deepContains b) ∧
    (Relation.ReflTransGen (Somewhere Enlarged) a b → a.deepContains c = true →
      b.deepContains c = true) ∧
    ((Matching.checkBodyExact a b).passed = true →
      (Matching.checkBodyContains a b).passed = true) := by
  refine ⟨⟨deepEqual_refl ha, deepEqual_comm ha hb, deepEqual_trans ha hb hc⟩, ?_,
    ⟨contained_refl ha, contained_trans ha hb hc⟩, ?_, ?_, contained_of_deepEqual hb ha⟩
  · intro a' h
    obtain ⟨ha', he⟩ := deepEqual_of_reordered h ha
    have hab : a'.deepEqual b = a.deepEqual b := Bool.eq_iff_iff.mpr
      ⟨deepEqual_trans ha ha' hb he, deepEqual_trans ha' ha hb (deepEqual_symm ha ha' he)⟩
    exact ⟨hab, by rw [deepEqual_comm hb ha', deepEqual_comm hb ha, hab]⟩
  · intro he
    have hab := contained_of_deepEqual ha hb he
    have hba := contained_of_deepEqual hb ha (deepEqual_symm ha hb he)
    refine ⟨hab, hba, Bool.eq_iff_iff.mpr ?_, Bool.eq_iff_iff.mpr ?_⟩
    · exact ⟨contained_trans hb ha hc hba, contained_trans ha hb hc hab⟩
    · exact ⟨fun h => contained_trans hc ha hb h hab, fun h => contained_trans hc hb ha h hba⟩
  · intro h hac
    obtain ⟨_, hba⟩ := contained_of_enlarged h hb
    exact contained_trans hb ha hc hba hac

/-- An order, whose total is an integer. -/
def order : Value :=
  obj [("total", int 3), ("lines", list [str "pen", obj [("note", null), ("count", int 2)]])]

/-- The same order with its keys in another order, the total as a float. -/
def sameOrder : Value :=
  obj [("lines", list [str "pen", obj [("count", float 2.0), ("note", null)]]), ("total", float 3.0)]

/-- A line of the order. -/
def orderLine : Value := obj [("lines", list [obj [("note", null)]])]

/-- The laws at an order: it is the same with its keys elsewhere, so it still contains its line. -/
theorem comparison_laws_order :
    (order.IsJson ∧ sameOrder.IsJson ∧ orderLine.IsJson) ∧ order.deepEqual sameOrder = true ∧
      sameOrder.deepContains order = true ∧
      sameOrder.deepContains orderLine = order.deepContains orderLine := by
  have ho : order.IsJson := by decide
  have hs : sameOrder.IsJson := by decide
  have hl : orderLine.IsJson := by decide
  have he : order.deepEqual sameOrder = true := by decide
  obtain ⟨_, _, _, hequal, _⟩ := comparison_laws ho hs hl
  obtain ⟨_, hc, hsame, _⟩ := hequal he
  exact ⟨⟨ho, hs, hl⟩, he, hc, hsame.symm⟩

end SuiteEngine.Value
