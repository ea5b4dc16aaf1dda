import SuiteEngine.Json.Print
import SuiteEngine.Proofs.Document.Compare

/-!
# Values with their keys sorted

`sortKeys` puts the fields of every object of a value in the order of their keys. Where no key is bound
twice there is one such order, so two values become the same if and only if one is the other with its
keys in another order, however deep: sorted values stand for values up to the order of keys.

Headlines:
* `changed_list`, `changed_fields`: parts that change are a whole that changes.
* `sortKeys_reordered`: a value is reordered into the sorted one.
* **`sortKeys_eq_iff`**: what it means that two values are the same when sorted.
* `isPlain_of_reordered`, `everywhere_of_reordered`: what does not ask for an order is kept.
-/

namespace SuiteEngine.Value

open Relation (ReflTransGen)

variable {a b : Value} {xs ys : List Value} {fs gs : List (String × Value)}

/-! ## Sorting -/

mutual
/-- The value with the fields of all its objects in the order of their keys. -/
def sortKeys : Value → Value
  | .list xs => .list (sortItems xs)
  | .tuple xs => .tuple (sortItems xs)
  | .obj fs => .obj (Json.sortFields (sortEntries fs))
  | v => v
/-- The items with the fields of their objects sorted. -/
def sortItems : List Value → List Value
  | [] => []
  | x :: xs => sortKeys x :: sortItems xs
/-- The fields with those of their own objects sorted. -/
def sortEntries : List (String × Value) → List (String × Value)
  | [] => []
  | (k, v) :: fs => (k, sortKeys v) :: sortEntries fs
end

theorem sortItems_eq (xs : List Value) : sortItems xs = xs.map sortKeys := by
  induction xs with
  | nil => rfl
  | cons x xs ih => rw [sortItems, ih, List.map_cons]

theorem sortEntries_eq (fs : List (String × Value)) :
    sortEntries fs = fs.map fun f => (f.1, sortKeys f.2) := by
  induction fs with
  | nil => rfl
  | cons f fs ih =>
    obtain ⟨k, v⟩ := f
    rw [sortEntries, ih, List.map_cons]

theorem sortEntries_keys (fs : List (String × Value)) :
    (sortEntries fs).map Prod.fst = fs.map Prod.fst := by
  rw [sortEntries_eq, List.map_map]
  rfl

theorem sortFields_perm (fs : List (String × Value)) : (Json.sortFields fs).Perm fs :=
  List.mergeSort_perm _ _

theorem pairwise_sortFields (fs : List (String × Value)) :
    (Json.sortFields fs).Pairwise fun f g => f.1 ≤ g.1 := by
  have htrans : ∀ f g h : String × Value, decide (f.1 ≤ g.1) = true → decide (g.1 ≤ h.1) = true →
      decide (f.1 ≤ h.1) = true := fun f g h hfg hgh =>
    decide_eq_true (String.le_trans (of_decide_eq_true hfg) (of_decide_eq_true hgh))
  have htotal : ∀ f g : String × Value, (decide (f.1 ≤ g.1) || decide (g.1 ≤ f.1)) = true := fun f g => by
    simpa using String.le_total f.1 g.1
  exact (List.pairwise_mergeSort htrans htotal fs).imp of_decide_eq_true

/-- With distinct keys, a field is known by its key. -/
theorem field_ext (hd : (fs.map Prod.fst).Nodup) {f g : String × Value} (hf : f ∈ fs) (hg : g ∈ fs)
    (h : f.1 = g.1) : f = g := by
  have hl := lookup_of_mem hd (show (f.1, f.2) ∈ fs from hf)
  rw [h, lookup_of_mem hd (show (g.1, g.2) ∈ fs from hg)] at hl
  exact Prod.ext h (Option.some.inj hl).symm

/-- **There is one order of distinct keys.** -/
theorem sortFields_eq_of_perm (hp : fs.Perm gs) (hd : (fs.map Prod.fst).Nodup) :
    Json.sortFields fs = Json.sortFields gs := by
  have hperm : (Json.sortFields fs).Perm (Json.sortFields gs) :=
    (sortFields_perm fs).trans (hp.trans (sortFields_perm gs).symm)
  refine hperm.eq_of_pairwise (fun f g hf hg hfg hgf => ?_) (pairwise_sortFields fs)
    (pairwise_sortFields gs)
  exact field_ext hd ((sortFields_perm fs).mem_iff.mp hf)
    (hp.mem_iff.mpr ((sortFields_perm gs).mem_iff.mp hg)) (String.le_antisymm hfg hgf)

/-! ## Reordering -/

section Lift

variable {R : Value → Value → Prop}

/-- Items that change, each by itself, are a list that changes. -/
theorem changed_list (before : List Value) (h : List.Forall₂ (ReflTransGen (Somewhere R)) xs ys) :
    ReflTransGen (Somewhere R) (list (before ++ xs)) (list (before ++ ys)) := by
  induction h generalizing before with
  | nil => exact .refl
  | @cons x y xs ys hxy _ ih =>
    have hfirst : ReflTransGen (Somewhere R) (list (before ++ x :: xs)) (list (before ++ y :: xs)) :=
      ReflTransGen.lift (fun v => list (before ++ v :: xs))
        (fun _ _ hvw => Somewhere.item before xs hvw) _ _ hxy
    have hrest := ih (before ++ [y])
    rw [List.append_assoc, List.append_assoc] at hrest
    exact hfirst.trans hrest

/-- Fields whose values change are an object that changes. -/
theorem changed_fields (before : List (String × Value))
    (h : List.Forall₂ (fun f g => f.1 = g.1 ∧ ReflTransGen (Somewhere R) f.2 g.2) fs gs) :
    ReflTransGen (Somewhere R) (obj (before ++ fs)) (obj (before ++ gs)) := by
  induction h generalizing before with
  | nil => exact .refl
  | @cons f g fs gs hfg _ ih =>
    obtain ⟨k, v⟩ := f
    obtain ⟨k', w⟩ := g
    obtain ⟨rfl, hvw⟩ : k = k' ∧ ReflTransGen (Somewhere R) v w := hfg
    have hfirst : ReflTransGen (Somewhere R) (obj (before ++ (k, v) :: fs))
        (obj (before ++ (k, w) :: fs)) :=
      ReflTransGen.lift (fun u => obj (before ++ (k, u) :: fs))
        (fun _ _ hu => Somewhere.field before fs k hu) _ _ hvw
    have hrest := ih (before ++ [(k, w)])
    rw [List.append_assoc, List.append_assoc] at hrest
    exact hfirst.trans hrest

end Lift

theorem Reordered.symm (h : Reordered a b) : Reordered b a := by
  obtain ⟨hp⟩ := h
  exact .intro hp.symm

theorem reordered_symm (h : ReflTransGen (Somewhere Reordered) a b) :
    ReflTransGen (Somewhere Reordered) b a := by
  have hback : (fun v w => Reordered w v) = Reordered := by
    funext v w
    exact propext ⟨Reordered.symm, Reordered.symm⟩
  induction h with
  | refl => exact .refl
  | tail _ hs ih => exact .head (hback ▸ hs.symm) ih

/-- What holds of all parts still does with the keys in another order. -/
theorem everywhere_of_reordered {P : Value → Prop} (hlist : ∀ xs, P (list xs))
    (hobj : ∀ fs gs, (fs.map Prod.fst).Perm (gs.map Prod.fst) → P (obj fs) → P (obj gs))
    (h : ReflTransGen (Somewhere Reordered) a b) (ha : Everywhere P a) : Everywhere P b := by
  induction h with
  | refl => exact ha
  | tail _ hs ih =>
    refine Everywhere.of_somewhere hlist (fun fs gs hk => hobj fs gs (hk ▸ .refl _)) ?_ hs ih
    rintro _ _ ⟨hp⟩ hv
    exact .ofFields (hobj _ _ (hp.map Prod.fst) hv.here) fun f hf => hv.field (hp.mem_iff.mpr hf)

theorem isPlain_of_reordered (h : ReflTransGen (Somewhere Reordered) a b) (ha : a.IsPlain) :
    b.IsPlain :=
  everywhere_of_reordered (fun _ => trivial)
    (fun _ _ hk (hd : (List.map _ _).Nodup) => hk.nodup hd) h ha

/-- **A value is reordered into the one with its keys sorted.** -/
theorem sortKeys_reordered (h : a.IsPlain) : ReflTransGen (Somewhere Reordered) a a.sortKeys := by
  induction h with
  | @intro v here _ _ ihi ihf =>
    cases v with
    | tuple xs => exact absurd here id
    | list xs =>
      rw [sortKeys, sortItems_eq]
      refine changed_list [] (List.forall₂_map_right_iff.mpr (List.forall₂_same.mpr fun x hx => ?_))
      exact ihi xs rfl x hx
    | obj fs =>
      have hall : List.Forall₂ (fun f g => f.1 = g.1 ∧ ReflTransGen (Somewhere Reordered) f.2 g.2)
          fs (sortEntries fs) := by
        rw [sortEntries_eq]
        exact List.forall₂_map_right_iff.mpr (List.forall₂_same.mpr fun f hf => ⟨rfl, ihf f hf⟩)
      rw [sortKeys]
      exact (changed_fields [] hall).tail (.here (.intro (sortFields_perm _).symm))
    | _ => exact .refl

/-- A value with its keys in another order is the same when sorted. -/
theorem sortKeys_of_somewhere (h : Somewhere Reordered a b) (ha : a.IsPlain) :
    a.sortKeys = b.sortKeys := by
  induction h with
  | here h =>
    obtain ⟨hp⟩ := h
    have hd := ha.here
    rw [sortKeys, sortKeys, sortFields_eq_of_perm]
    · rw [sortEntries_eq, sortEntries_eq]
      exact hp.map _
    · rw [sortEntries_keys]
      exact hd
  | item before after _ ih =>
    rw [sortKeys, sortKeys, sortItems_eq, sortItems_eq]
    simp only [List.map_append, List.map_cons, ih (ha.item (by simp))]
  | field before after key _ ih =>
    rw [sortKeys, sortKeys, sortEntries_eq, sortEntries_eq]
    simp only [List.map_append, List.map_cons, ih (ha.field (f := (key, _)) (by simp))]

theorem sortKeys_of_reordered (h : ReflTransGen (Somewhere Reordered) a b) (ha : a.IsPlain) :
    a.sortKeys = b.sortKeys := by
  induction h with
  | refl => rfl
  | tail hab hs ih => exact ih.trans (sortKeys_of_somewhere hs (isPlain_of_reordered hab ha))

/-- **Two values are the same when sorted if and only if one is the other with its keys in another
order.** -/
theorem sortKeys_eq_iff (ha : a.IsPlain) (hb : b.IsPlain) :
    a.sortKeys = b.sortKeys ↔ ReflTransGen (Somewhere Reordered) a b := by
  refine ⟨fun h => ?_, fun h => sortKeys_of_reordered h ha⟩
  exact (sortKeys_reordered ha).trans (h ▸ reordered_symm (sortKeys_reordered hb))

end SuiteEngine.Value
