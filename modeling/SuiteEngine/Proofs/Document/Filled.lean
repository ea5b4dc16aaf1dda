import Mathlib.Data.List.Forall2
import SuiteEngine.Proofs.Document.Interpolate
import SuiteEngine.Proofs.Document.Json
import SuiteEngine.Proofs.Document.Placeholder

/-!
# Filled values

Filling in a value keeps its shape. The keys of objects stay with their order, arrays stay as long as
they are, leaves other than texts stay as they are, and every text is passed over once, from the
leftmost placeholder to the next. `Filled` states this of any two values, and it determines the second
one. What is bound matters for the names that occur, and for nothing else.

Headlines:
* `induction_parts`: what holds of a value if it holds of its parts holds of every value.
* `filled_iff`: the filled value, by its shape and its texts.
* `interpolate_congr`: only the bindings of names that occur matter.
* `lookup_merge`: a case's own binding comes before that of its suite.
* **`interpolate_fills`**: these together.
-/

namespace SuiteEngine

open Placeholder (IsName Pass Piece pass_iff exists_reads)

namespace Value

/-- **Induction over the parts of a value.** -/
theorem induction_parts {P : Value → Prop}
    (step : ∀ v : Value, (∀ xs, v.items? = some xs → ∀ x ∈ xs, P x) → (∀ f ∈ v.fields, P f.2) → P v)
    (v : Value) : P v :=
  step v (fun _ _ x _ => induction_parts step x) fun f _ => induction_parts step f.2
termination_by sizeOf v
decreasing_by
  · exact sizeOf_item_lt ‹_› ‹_›
  · exact sizeOf_field_lt ‹_›

/-! ## The shape of a filled value -/

/-- The second value is the first one filled in. -/
inductive Filled (vars : Variables) : Value → Value → Prop
  /-- A text is passed over once. -/
  | text {s t : String} (h : Pass vars s.toList t.toList) : Filled vars (str s) (str t)
  /-- Every item of an array is filled in. -/
  | array {v : Value} {xs ys : List Value} (hv : v.items? = some xs)
      (h : List.Forall₂ (Filled vars) xs ys) : Filled vars v (list ys)
  /-- Every field of an object is filled in, under its key. -/
  | object {fs gs : List (String × Value)} (keys : fs.map Prod.fst = gs.map Prod.fst)
      (h : List.Forall₂ (Filled vars) (fs.map Prod.snd) (gs.map Prod.snd)) :
      Filled vars (obj fs) (obj gs)
  /-- What is no text and has no parts is left as it is. -/
  | leaf {v : Value} (ht : v.str? = none) (hi : v.items? = none) (hf : ∀ fs, v ≠ obj fs) :
      Filled vars v v

variable {vars vars' : Variables} {v w : Value}

theorem interpolate_array {xs : List Value} (hv : v.items? = some xs) :
    v.interpolate vars = list (xs.map (interpolate vars)) := by
  cases v with
  | list ys =>
    obtain rfl := Option.some.inj hv
    exact congrArg list (interpolateItems_eq_map vars ys)
  | tuple ys =>
    obtain rfl := Option.some.inj hv
    exact congrArg list (interpolateItems_eq_map vars ys)
  | _ => cases hv

theorem interpolate_obj (fs : List (String × Value)) :
    (obj fs).interpolate vars = obj (fs.map fun f => (f.1, f.2.interpolate vars)) :=
  congrArg obj (interpolateFields_eq_map vars fs)

theorem interpolate_leaf (ht : v.str? = none) (hi : v.items? = none) (hf : ∀ fs, v ≠ obj fs) :
    v.interpolate vars = v := by
  cases v with
  | str s => cases ht
  | list xs => cases hi
  | tuple xs => cases hi
  | obj fs => exact absurd rfl (hf fs)
  | _ => rfl

theorem filled_interpolate (vars : Variables) (v : Value) : Filled vars v (v.interpolate vars) := by
  induction v using induction_parts with
  | step v items fields =>
    cases v with
    | str s => exact .text (pass_iff.mpr (String.toList_ofList ..))
    | list xs =>
      rw [interpolate_array rfl]
      exact .array rfl (List.forall₂_map_right_iff.mpr (List.forall₂_same.mpr (items xs rfl)))
    | tuple xs =>
      rw [interpolate_array rfl]
      exact .array rfl (List.forall₂_map_right_iff.mpr (List.forall₂_same.mpr (items xs rfl)))
    | obj fs =>
      rw [interpolate_obj]
      refine .object (by simp) ?_
      rw [List.map_map, List.forall₂_map_left_iff, List.forall₂_map_right_iff]
      exact List.forall₂_same.mpr fields
    | _ => exact .leaf rfl rfl fun _ => nofun

/-- Items that are filled in one by one. -/
theorem map_of_filled {xs ys : List Value} (h : List.Forall₂ (Filled vars) xs ys)
    (hx : ∀ x ∈ xs, ∀ y, Filled vars x y → y = x.interpolate vars) :
    ys = xs.map (interpolate vars) := by
  induction h with
  | nil => rfl
  | cons hxy _ ih =>
    rw [List.map_cons, hx _ List.mem_cons_self _ hxy,
      ih fun x hm => hx x (List.mem_cons_of_mem _ hm)]

/-- **The filled value**, by its shape and its texts. -/
theorem filled_iff : Filled vars v w ↔ w = v.interpolate vars := by
  refine ⟨fun h => ?_, fun h => h ▸ filled_interpolate vars v⟩
  induction v using induction_parts generalizing w with
  | step v items fields =>
    cases h with
    | text h =>
      exact congrArg str (String.toList_inj.mp ((pass_iff.mp h).trans (String.toList_ofList ..).symm))
    | array hv h => rw [interpolate_array hv, map_of_filled h fun x hx y => items _ hv x hx]
    | @object fs gs keys h =>
      have hsnd := map_of_filled h fun x hx y hy => by
        obtain ⟨f, hf, rfl⟩ := List.mem_map.mp hx
        exact fields f hf hy
      rw [interpolate_obj, ← List.zip_unzip gs, List.unzip_fst, List.unzip_snd, ← keys, hsnd]
      simp only [List.map_map, List.zip_map', Function.comp_def]
    | leaf ht hi hf => exact (interpolate_leaf ht hi hf).symm

/-! ## What matters for a filled value -/

/-- The value is a text, or some part of it is that text. -/
inductive HasText (s : String) : Value → Prop
  | here : HasText s (str s)
  | item {v x : Value} {xs : List Value} (hv : v.items? = some xs) (hx : x ∈ xs)
      (h : HasText s x) : HasText s v
  | field {v : Value} {f : String × Value} (hf : f ∈ v.fields) (h : HasText s f.2) : HasText s v

/-- A placeholder of the name occurs in some text of the value. -/
def Mentions (v : Value) (name : String) : Prop :=
  IsName name.toList ∧ ∃ s, HasText s v ∧ Placeholder.written name.toList <:+: s.toList

/-- Values with the same texts filled in alike are filled in alike. -/
theorem interpolate_eq_of_texts (h : ∀ s, HasText s v → interpolateText vars' s = interpolateText vars s) :
    v.interpolate vars' = v.interpolate vars := by
  induction v using induction_parts with
  | step v items fields =>
    cases v with
    | str s => exact congrArg str (h s .here)
    | list xs =>
      rw [interpolate_array rfl, interpolate_array rfl]
      exact congrArg list (List.map_congr_left fun x hx =>
        items xs rfl x hx fun s hs => h s (.item rfl hx hs))
    | tuple xs =>
      rw [interpolate_array rfl, interpolate_array rfl]
      exact congrArg list (List.map_congr_left fun x hx =>
        items xs rfl x hx fun s hs => h s (.item rfl hx hs))
    | obj fs =>
      rw [interpolate_obj, interpolate_obj]
      exact congrArg obj (List.map_congr_left fun f hf =>
        Prod.ext rfl (fields f hf fun s hs => h s (.field hf hs)))
    | _ => rfl

/-- **Only the bindings of names that occur matter.** -/
theorem interpolate_congr (h : ∀ name, v.Mentions name → vars'.text? name = vars.text? name) :
    v.interpolate vars' = v.interpolate vars := by
  refine interpolate_eq_of_texts fun s hs => ?_
  obtain ⟨ps, hps⟩ := exists_reads s.toList
  rw [interpolateText, interpolateText, hps.interpolateFrom, hps.interpolateFrom]
  refine congrArg String.ofList (List.flatMap_congr fun p hp => ?_)
  cases p with
  | char c => rfl
  | placeholder name =>
    have hn := hps.isName hp
    have hname : (String.ofList name).toList = name := String.toList_ofList ..
    have hm : v.Mentions (String.ofList name) :=
      ⟨hname.symm ▸ hn, s, hs, hname.symm ▸ (hps.mem_iff hn).mp hp⟩
    simp only [Piece.shown, Placeholder.shown, h _ hm]

end Value

/-! ## Bindings of a case and of its suite -/

namespace Value

variable {fs : List (String × Value)} {key k : String} {v : Value}

theorem lookup_insert : lookup key (insert k v fs) = if k = key then some v else lookup key fs := by
  induction fs with
  | nil => rfl
  | cons f fs ih =>
    obtain ⟨k', w⟩ := f
    rw [insert]
    split
    · rename_i hk
      subst hk
      rw [lookup, lookup]
      split <;> rfl
    · rename_i hk
      rw [lookup, lookup, ih]
      split
      · rename_i h
        rw [if_neg (h ▸ Ne.symm hk)]
      · rfl

/-- A key that is bound again stays in its place, a new one comes last. -/
theorem keys_insert (key : String) (v : Value) (fs : List (String × Value)) :
    (insert key v fs).map Prod.fst =
      if key ∈ fs.map Prod.fst then fs.map Prod.fst else fs.map Prod.fst ++ [key] := by
  induction fs with
  | nil => rfl
  | cons f fs ih =>
    obtain ⟨k, w⟩ := f
    by_cases hk : k = key
    · subst hk
      rw [insert, if_pos rfl, if_pos (by simp)]
      rfl
    · have hmem : key ∈ (((k, w) :: fs).map Prod.fst) ↔ key ∈ fs.map Prod.fst := by
        simp [Ne.symm hk]
      rw [insert, if_neg hk, List.map_cons, ih, if_congr hmem rfl rfl]
      split <;> rfl

theorem mem_keys_insert (key : String) (v : Value) (fs : List (String × Value)) :
    key ∈ (insert key v fs).map Prod.fst :=
  exists_lookup_iff.mp ⟨v, lookup_insert.trans (if_pos rfl)⟩

theorem nodup_keys_insert (h : (fs.map Prod.fst).Nodup) :
    ((insert key v fs).map Prod.fst).Nodup := by
  rw [keys_insert]
  split
  · exact h
  · rename_i hk
    exact List.nodup_append.mpr ⟨h, List.pairwise_singleton _ key, fun a ha b hb => by
      rintro rfl
      exact hk (List.mem_singleton.mp hb ▸ ha)⟩

theorem lookup_eq_none (h : key ∉ fs.map Prod.fst) : lookup key fs = none :=
  Option.eq_none_iff_forall_ne_some.mpr fun _ hv => h (exists_lookup_iff.mp ⟨_, hv⟩)

end Value

/-- **A case's own binding comes before that of its suite.** -/
theorem lookup_merge {vars injection : Variables} (hd : (injection.map Prod.fst).Nodup)
    (name : String) : Value.lookup name (vars.merge injection) =
      (Value.lookup name injection).or (Value.lookup name vars) := by
  induction injection generalizing vars with
  | nil => rfl
  | cons e injection ih =>
    obtain ⟨k, v⟩ := e
    obtain ⟨hk, hd⟩ := List.nodup_cons.mp hd
    have hstep : vars.merge ((k, v) :: injection) = Variables.merge (Value.insert k v vars) injection := rfl
    rw [hstep, ih hd, Value.lookup_insert, Value.lookup]
    split
    · rename_i h
      subst h
      rw [Value.lookup_eq_none hk]
      rfl
    · rfl

theorem text?_merge {vars injection : Variables} (hd : (injection.map Prod.fst).Nodup)
    (name : String) : (vars.merge injection).text? name =
      if name ∈ injection.map Prod.fst then injection.text? name else vars.text? name := by
  by_cases hm : name ∈ injection.map Prod.fst
  · obtain ⟨v, hv⟩ := Value.exists_lookup_iff.mpr hm
    rw [if_pos hm, Variables.text?, Variables.text?, lookup_merge hd, hv, Option.some_or]
  · rw [if_neg hm, Variables.text?, Variables.text?, lookup_merge hd, Value.lookup_eq_none hm,
      Option.none_or]

/-! ## Filling in -/

/-- **What filling in does.** A value is the filled one if and only if it has its shape, with every text
passed over once. Only the bindings of the names that occur in some text matter; and where a case binds
a name, that is what counts, whatever its suite has bound. -/
theorem interpolate_fills (vars : Variables) (v : Value) :
    (∀ w, Value.Filled vars v w ↔ w = v.interpolate vars) ∧
    (∀ vars' : Variables, (∀ name, v.Mentions name → vars'.text? name = vars.text? name) →
      v.interpolate vars' = v.interpolate vars) ∧
    ∀ injection : Variables, (injection.map Prod.fst).Nodup → ∀ name,
      (vars.merge injection).text? name =
        if name ∈ injection.map Prod.fst then injection.text? name else vars.text? name :=
  ⟨fun _ => Value.filled_iff, fun _ => Value.interpolate_congr, fun _ => text?_merge⟩

/-- What a suite has bound. -/
def suiteVariables : Variables := [("user", .str "alice"), ("token", .str "\x7b\x7buser\x7d\x7d")]

/-- What a case of the suite binds. -/
def caseVariables : Variables := [("user", .str "bob"), ("empty", .null)]

/-- A value with placeholders beside braces, with and without a binding, and with one that is open. -/
def bracedValue : Value :=
  .obj [("\x7b\x7buser\x7d\x7d", .tuple [
    .str "\x7b\x7b\x7buser\x7d\x7d\x7d \x7b\x7btoken\x7d\x7d\x7b\x7bempty\x7d\x7d",
    .str "\x7b\x7b user \x7d\x7d \x7b\x7buser", .int 7])]

/-- The same value filled in. -/
def filledValue : Value :=
  .obj [("\x7b\x7buser\x7d\x7d", .list [
    .str "\x7bbob\x7d \x7b\x7buser\x7d\x7d\x7b\x7bempty\x7d\x7d",
    .str "\x7b\x7b user \x7d\x7d \x7b\x7buser", .int 7])]

/-- A case's name comes before that of the suite, and what is put in is not read again. -/
theorem interpolate_fills_braces :
    (caseVariables.map Prod.fst).Nodup ∧
      (suiteVariables.merge caseVariables).text? "user" = some "bob" ∧
      Value.Filled (suiteVariables.merge caseVariables) bracedValue filledValue := by
  have hd : (caseVariables.map Prod.fst).Nodup := by decide
  refine ⟨hd, ?_, ?_⟩
  · rw [(interpolate_fills suiteVariables bracedValue).2.2 caseVariables hd]
    decide
  · rw [(interpolate_fills (suiteVariables.merge caseVariables) bracedValue).1]
    rfl

end SuiteEngine
