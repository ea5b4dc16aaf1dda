import Mathlib.Data.List.Flatten
import Mathlib.Data.List.Forall2
import Mathlib.Data.List.Nodup
import Mathlib.Data.List.Perm.Basic
import SuiteEngine.Proofs.Document.Filled
import SuiteEngine.Proofs.Matching.Declared

/-!
# Expectations that are put together

The checks of an expectation do not know of each other. So two expectations can be put together, key by
key, with their parts of the body and their headers one after the other; and a response is found to meet
both exactly as it is found to meet each of them: every check has the outcome that it has without the
other expectation, in the order that checks are made in.

Reading and checking the combined expectation is compared with the two step by step. `Both` says of a
computation that it does what two others do, and is kept by doing one thing after the other; `OneOf`
says of what only one of the two expectations has that the combined one has it from there.

Headlines:
* `Both.bind`, `Both.mapM`: computations that do what two others do.
* `combine`: two documents as one.
* `ofDocument_both`, `evaluate_both`: the combined expectation is read, and checked, as the two are.
* `grouped_perm`, `grouped_sections`: outcomes in the order of the rules that they belong to.
* **`assess_combine`**: what a combined expectation finds is what the two find.
-/

namespace SuiteEngine

/-! ## What two computations do -/

section Both

variable {ε ε' α β γ α' β' γ' : Type}

/-- At most one of two things is there, the other being nothing; and the third is that one. -/
def OneOf (nothing a b c : α) : Prop := b = nothing ∧ c = a ∨ a = nothing ∧ c = b

theorem OneOf.map {z a b c : α} (f : α → β) (h : OneOf z a b c) : OneOf (f z) (f a) (f b) (f c) := by
  rcases h with ⟨rfl, rfl⟩ | ⟨rfl, rfl⟩
  · exact .inl ⟨rfl, rfl⟩
  · exact .inr ⟨rfl, rfl⟩

theorem OneOf.eq_append {as bs cs : List α} (h : OneOf [] as bs cs) : cs = as ++ bs := by
  rcases h with ⟨rfl, rfl⟩ | ⟨rfl, rfl⟩
  · exact (List.append_nil _).symm
  · rfl

/-- The third computation does what the other two do: it has a result if they have, which stands in the
relation to theirs, and fails with the error of one of them otherwise. -/
inductive Both (R : α → β → γ → Prop) : Except ε α → Except ε β → Except ε γ → Prop
  | ok {a : α} {b : β} {c : γ} (h : R a b c) : Both R (.ok a) (.ok b) (.ok c)
  | left {e : ε} {y : Except ε β} : Both R (.error e) y (.error e)
  | right {e : ε} {x : Except ε α} : Both R x (.error e) (.error e)

/-- The third list is the first with the second behind it, and their items are as said. -/
structure Joined (P : α → Prop) (as bs cs : List α) : Prop where
  append : cs = as ++ bs
  left : ∀ a ∈ as, P a
  right : ∀ b ∈ bs, P b

namespace Both

variable {R : α → β → γ → Prop} {S : α' → β' → γ' → Prop} {x : Except ε α} {y : Except ε β}
  {z : Except ε γ}

theorem bind {f : α → Except ε α'} {g : β → Except ε β'} {h : γ → Except ε γ'} (hx : Both R x y z)
    (hf : ∀ a b c, R a b c → Both S (f a) (g b) (h c)) : Both S (x >>= f) (y >>= g) (z >>= h) := by
  cases hx with
  | ok hr => exact hf _ _ _ hr
  | left => exact .left
  | right => exact .right

theorem imp {R' : α → β → γ → Prop} (h : Both R x y z) (hR : ∀ a b c, R a b c → R' a b c) :
    Both R' x y z := by
  cases h with
  | ok hr => exact .ok (hR _ _ _ hr)
  | left => exact .left
  | right => exact .right

theorem mapError (f : ε → ε') (h : Both R x y z) :
    Both R (x.mapError f) (y.mapError f) (z.mapError f) := by
  cases h with
  | ok hr => exact .ok hr
  | left => exact .left
  | right => exact .right

/-- Where the relation settles the third result, that is the result. -/
theorem eq_ok_iff {F : α → β → γ} (h : Both (fun a b c => c = F a b) x y z) {c : γ} :
    z = .ok c ↔ ∃ a b, x = .ok a ∧ y = .ok b ∧ c = F a b := by
  cases h with
  | ok hr =>
    constructor
    · rintro ⟨⟩
      exact ⟨_, _, rfl, rfl, hr⟩
    · rintro ⟨_, _, ⟨⟩, ⟨⟩, rfl⟩
      rw [hr]
  | left => simp
  | right => simp

theorem related {a : α} {b : β} (h : Both R (.ok a : Except ε α) (.ok b) z) : ∃ c, R a b c := by
  cases h with
  | ok hr => exact ⟨_, hr⟩

theorem eq_error {e : ε} (h : Both R x y z) (hz : z = .error e) : x = .error e ∨ y = .error e := by
  cases h with
  | ok hr => cases hz
  | left =>
    obtain rfl := Except.error.inj hz
    exact .inl rfl
  | right =>
    obtain rfl := Except.error.inj hz
    exact .inr rfl

/-- What is done by one of the two alone is done once. -/
theorem ofOneOf {u : β} {x y z : Except ε β} (h : OneOf (.ok u) x y z) : Both (OneOf u) x y z := by
  rcases h with ⟨rfl, rfl⟩ | ⟨rfl, rfl⟩
  · cases z with
    | ok c => exact .ok (.inl ⟨rfl, rfl⟩)
    | error e => exact .left
  · cases z with
    | ok c => exact .ok (.inr ⟨rfl, rfl⟩)
    | error e => exact .right

/-- **Two lists are gone through as the one that they make up.** -/
theorem mapM {f : α → Except ε β} {P : β → Prop} (hf : ∀ a b, f a = .ok b → P b) (as as' : List α) :
    Both (Joined P) (as.mapM f) (as'.mapM f) ((as ++ as').mapM f) := by
  induction as with
  | nil =>
    rw [List.nil_append]
    cases h : as'.mapM f with
    | ok bs =>
      have hbs : ∀ b ∈ bs, P b := by
        replace h := mapM_eq_ok.mp h
        induction h with
        | nil => exact List.forall_mem_nil _
        | cons hb _ ih => exact List.forall_mem_cons.mpr ⟨hf _ _ hb, ih⟩
      exact .ok ⟨rfl, List.forall_mem_nil _, hbs⟩
    | error e => exact .right
  | cons a as ih =>
    rw [List.cons_append, List.mapM_cons, List.mapM_cons]
    cases ha : f a with
    | error e => exact .left
    | ok b =>
      have h := ih.bind (S := Joined P) (f := fun bs => pure (b :: bs)) (g := pure)
        (h := fun cs => pure (b :: cs)) fun bs bs' cs hr =>
          .ok ⟨by rw [hr.append]; rfl, List.forall_mem_cons.mpr ⟨hf a b ha, hr.left⟩, hr.right⟩
      rwa [bind_pure] at h

end Both

end Both

/-! ## Two documents as one -/

namespace Value

variable {fs gs : List (String × Value)} {key : String}

/-- Two values of one key, as one value: lists and objects one after the other. -/
def joined : Value → Value → Value
  | list xs, list ys => list (xs ++ ys)
  | obj fs, obj gs => obj (fs ++ gs)
  | v, _ => v

/-- A field together with the field of the same key among the others. -/
def joinedField (gs : List (String × Value)) : String × Value → String × Value
  | (k, v) => (k, match lookup k gs with
    | some w => v.joined w
    | none => v)

/-- The fields of two objects as those of one: what both have is joined. -/
def combine (fs gs : List (String × Value)) : List (String × Value) :=
  fs.map (joinedField gs) ++ gs.filter fun g => (lookup g.1 fs).isNone

theorem lookup_append : lookup key (fs ++ gs) = (lookup key fs).or (lookup key gs) := by
  induction fs with
  | nil => rfl
  | cons f fs ih =>
    obtain ⟨k, v⟩ := f
    rw [List.cons_append, lookup, lookup]
    split
    · rfl
    · exact ih

theorem lookup_filter (p : String → Bool) :
    lookup key (fs.filter fun f => p f.1) = if p key then lookup key fs else none := by
  induction fs with
  | nil => simp [lookup]
  | cons f fs ih =>
    obtain ⟨k, v⟩ := f
    rw [List.filter_cons, lookup]
    by_cases hk : k = key
    · subst hk
      split
      · rw [lookup, if_pos rfl, if_pos rfl]
      · rename_i hp
        rw [ih, if_neg hp]
    · rw [if_neg hk]
      split
      · rw [lookup, if_neg hk, ih]
      · exact ih

theorem lookup_map_joinedField : lookup key (fs.map (joinedField gs)) =
    (lookup key fs).map fun v => (joinedField gs (key, v)).2 := by
  induction fs with
  | nil => rfl
  | cons f fs ih =>
    obtain ⟨k, v⟩ := f
    rw [List.map_cons, joinedField, lookup, lookup]
    split
    · rename_i hk
      subst hk
      rfl
    · exact ih

/-- What the combined object has under a key that only one of the two has. -/
theorem lookup_combine (h : lookup key fs = none ∨ lookup key gs = none) :
    OneOf none (lookup key fs) (lookup key gs) (lookup key (combine fs gs)) := by
  have hc : lookup key (combine fs gs) = _ := lookup_append
  rw [lookup_map_joinedField, lookup_filter fun k => (lookup k fs).isNone] at hc
  rcases h with h | h
  · exact .inr ⟨h, by rw [hc, h]; rfl⟩
  · refine .inl ⟨h, ?_⟩
    rw [hc, h]
    cases lookup key fs with
    | none => rfl
    | some v => simp only [joinedField, h, Option.map_some, Option.some_or]

/-- What the combined object has under a key that both have. -/
theorem lookup_combine_shared {v w : Value} (hv : lookup key fs = some v)
    (hw : lookup key gs = some w) : lookup key (combine fs gs) = some (v.joined w) := by
  rw [combine, lookup_append, lookup_map_joinedField, hv]
  simp only [joinedField, hw, Option.map_some, Option.some_or]

/-- With distinct keys in each of the two, the combined object has distinct keys. -/
theorem combine_nodup (hf : (fs.map Prod.fst).Nodup) (hg : (gs.map Prod.fst).Nodup) :
    ((combine fs gs).map Prod.fst).Nodup := by
  have hkeys : (fs.map (joinedField gs)).map Prod.fst = fs.map Prod.fst := by
    rw [List.map_map]
    rfl
  rw [combine, List.map_append, hkeys]
  refine hf.append (hg.sublist (List.filter_sublist.map _)) fun key hm hm' => ?_
  obtain ⟨g, hg', rfl⟩ := List.mem_map.mp hm'
  obtain ⟨v, hv⟩ := exists_lookup_iff.mpr hm
  have hnone := (List.mem_filter.mp hg').2
  rw [hv] at hnone
  cases hnone

end Value

/-! ## Reading -/

namespace Suite

open Value (combine lookup)

variable {fs gs : List (String × Value)}

/-- Two expectations that can be put together: what both declare are parts of the body, or headers of
different names. -/
structure Combinable (fs gs : List (String × Value)) : Prop where
  apart : ∀ key ∈ fs.map Prod.fst, key ∈ gs.map Prod.fst → key = "bodyPath" ∨ key = "headers"
  bodyPath : ∀ v w, lookup "bodyPath" fs = some v → lookup "bodyPath" gs = some w →
    ∃ xs ys, v = .list xs ∧ w = .list ys
  headers : ∀ v w, lookup "headers" fs = some v → lookup "headers" gs = some w →
    ∃ hs ks, v = .obj hs ∧ w = .obj ks ∧ ∀ name ∈ hs.map Prod.fst, name ∉ ks.map Prod.fst

/-- The third expectation has what one of the first two has, and of both the parts of the body and the
headers. -/
structure Combination (a b c : Expectation) : Prop where
  status : OneOf none a.status b.status c.status
  statusRange : OneOf none a.statusRange b.statusRange c.statusRange
  bodyContains : OneOf .missing a.bodyContains b.bodyContains c.bodyContains
  bodyExact : OneOf .missing a.bodyExact b.bodyExact c.bodyExact
  bodySchema : OneOf none a.bodySchema b.bodySchema c.bodySchema
  bodyPath : c.bodyPath = a.bodyPath ++ b.bodyPath
  headers : c.headers = a.headers ++ b.headers
  responseTime : OneOf none a.responseTime b.responseTime c.responseTime

/-- What reads one field of a document, and nothing else of it. -/
def ReadsField {α : Type} (name : String) (f : Value → α) : Prop :=
  ∀ d d' : Value, d.get? name = d'.get? name → f d = f d'

theorem readsField_field? (name : String) : ReadsField name (field? · name) :=
  fun d d' h => by simp only [field?, h]

theorem readsField_orMissing (name : String) : ReadsField name (orMissing · name) :=
  fun d d' h => by simp only [orMissing, h]

theorem readsField_filled? (name : String) : ReadsField name (filled? · name) :=
  fun d d' h => congrArg (Option.filter Value.truthy) (readsField_field? name d d' h)

theorem readsField_items (name : String) : ReadsField name (items · name) :=
  fun d d' h => by simp only [items, readsField_filled? name d d' h]

theorem readsField_textFields (name : String) : ReadsField name (textFields · name) :=
  fun d d' h => by simp only [textFields, fields, readsField_filled? name d d' h]

theorem ReadsField.oneOf {α : Type} {name : String} {f : Value → α} (hf : ReadsField name f)
    (h : OneOf none (lookup name fs) (lookup name gs) (lookup name (combine fs gs))) :
    OneOf (f (.obj [])) (f (.obj fs)) (f (.obj gs)) (f (.obj (combine fs gs))) := by
  rcases h with ⟨hg, hc⟩ | ⟨hf', hc⟩
  · exact .inl ⟨hf _ _ hg, hf _ _ hc⟩
  · exact .inr ⟨hf _ _ hf', hf _ _ hc⟩

/-- A field that only one of two documents has is read from there. -/
theorem Combinable.reads {α : Type} (h : Combinable fs gs) {name : String} {f : Value → α}
    (hf : ReadsField name f) (hparts : name ≠ "bodyPath") (hheaders : name ≠ "headers") :
    OneOf (f (.obj [])) (f (.obj fs)) (f (.obj gs)) (f (.obj (combine fs gs))) := by
  refine hf.oneOf (Value.lookup_combine ?_)
  by_cases hm : name ∈ fs.map Prod.fst
  · refine .inr (Value.lookup_eq_none fun hm' => ?_)
    rcases h.apart name hm hm' with he | he
    · exact hparts he
    · exact hheaders he
  · exact .inl (Value.lookup_eq_none hm)

/-- A list that both documents may have is read from both. -/
theorem ReadsField.both {α : Type} {name : String} {f : Value → Except ReadFault (List α)}
    (hf : ReadsField name f) (hnone : f (.obj []) = .ok [])
    (hshared : ∀ v w, lookup name fs = some v → lookup name gs = some w →
      ∃ xs ys, f (.obj fs) = .ok xs ∧ f (.obj gs) = .ok ys ∧
        f (.obj (combine fs gs)) = .ok (xs ++ ys)) :
    Both (fun xs ys zs => zs = xs ++ ys) (f (.obj fs)) (f (.obj gs)) (f (.obj (combine fs gs))) := by
  have hone (h : lookup name fs = none ∨ lookup name gs = none) :
      Both (fun xs ys zs => zs = xs ++ ys) (f (.obj fs)) (f (.obj gs)) (f (.obj (combine fs gs))) := by
    have hr := hf.oneOf (Value.lookup_combine h)
    rw [hnone] at hr
    exact (Both.ofOneOf hr).imp fun _ _ _ => OneOf.eq_append
  cases hv : lookup name fs with
  | none => exact hone (.inl hv)
  | some v =>
    cases hw : lookup name gs with
    | none => exact hone (.inr hw)
    | some w =>
      obtain ⟨xs, ys, hx, hy, hz⟩ := hshared v w hv hw
      rw [hx, hy, hz]
      exact .ok rfl

theorem items_list {name : String} {xs : List Value} (h : lookup name fs = some (.list xs)) :
    items (.obj fs) name = .ok xs := by
  have hfield : field? (.obj fs) name = some (.list xs) := by
    simp only [field?, Value.get?, Value.fields, h]
  rw [items, filled?, hfield]
  cases xs <;> rfl

theorem textFields_obj {name : String} {hs : List (String × Value)}
    (h : lookup name fs = some (.obj hs)) : textFields (.obj fs) name = .ok (asTexts hs) := by
  have hfield : field? (.obj fs) name = some (.obj hs) := by
    simp only [field?, Value.get?, Value.fields, h]
  rw [textFields, fields, filled?, hfield]
  cases hs <;> rfl

theorem Combinable.items_both (h : Combinable fs gs) :
    Both (fun xs ys zs => zs = xs ++ ys) (items (.obj fs) "bodyPath") (items (.obj gs) "bodyPath")
      (items (.obj (combine fs gs)) "bodyPath") := by
  refine (readsField_items "bodyPath").both rfl fun v w hv hw => ?_
  obtain ⟨xs, ys, rfl, rfl⟩ := h.bodyPath v w hv hw
  exact ⟨xs, ys, items_list hv, items_list hw, items_list (Value.lookup_combine_shared hv hw)⟩

theorem Combinable.headers_both (h : Combinable fs gs) :
    Both (fun xs ys zs => zs = xs ++ ys) (textFields (.obj fs) "headers")
      (textFields (.obj gs) "headers") (textFields (.obj (combine fs gs)) "headers") := by
  refine (readsField_textFields "headers").both rfl fun v w hv hw => ?_
  obtain ⟨hs, ks, rfl, rfl, -⟩ := h.headers v w hv hw
  refine ⟨asTexts hs, asTexts ks, textFields_obj hv, textFields_obj hw, ?_⟩
  rw [textFields_obj (Value.lookup_combine_shared hv hw)]
  exact congrArg Except.ok List.map_append

/-- What is put together is a document again. -/
theorem Combinable.isJson (h : Combinable fs gs) (hf : Value.IsJson (.obj fs))
    (hg : Value.IsJson (.obj gs)) : Value.IsJson (.obj (combine fs gs)) := by
  refine Value.Everywhere.ofFields (Value.combine_nodup hf.here hg.here) fun f hm => ?_
  rcases List.mem_append.mp hm with hm | hm
  · obtain ⟨⟨k, v⟩, hv, rfl⟩ := List.mem_map.mp hm
    have hlookup := Value.lookup_of_mem hf.here hv
    rw [Value.joinedField]
    cases hw : lookup k gs with
    | none => exact hf.field hv
    | some w =>
      have hw' := hg.field (Value.mem_of_lookup hw)
      have hboth := h.apart k (List.mem_map.mpr ⟨_, hv, rfl⟩) (Value.exists_lookup_iff.mp ⟨w, hw⟩)
      rcases hboth with rfl | rfl
      · obtain ⟨xs, ys, rfl, rfl⟩ := h.bodyPath v w hlookup hw
        exact .ofList trivial fun x hx => (List.mem_append.mp hx).elim (hf.field hv).item hw'.item
      · obtain ⟨hs, ks, rfl, rfl, hd⟩ := h.headers v w hlookup hw
        refine .ofFields ?_ fun x hx => (List.mem_append.mp hx).elim (hf.field hv).field hw'.field
        show ((hs ++ ks).map Prod.fst).Nodup
        rw [List.map_append]
        exact List.Nodup.append (hf.field hv).here hw'.here hd
  · exact hg.field (List.mem_of_mem_filter hm)

/-- **Two expectations that are put together are read as the two are.** -/
theorem ofDocument_both (h : Combinable fs gs) :
    Both Combination (Expectation.ofDocument (.obj fs)) (Expectation.ofDocument (.obj gs))
      (Expectation.ofDocument (.obj (combine fs gs))) := by
  unfold Expectation.ofDocument
  refine Both.bind (R := fun _ _ _ => True) (.ok trivial) fun _ _ _ _ => ?_
  have hrange := (h.reads (readsField_filled? "statusRange") (by decide) (by decide)).map
    (Option.mapM StatusRange.ofDocument)
  refine (Both.ofOneOf (u := none) hrange).bind fun _ _ _ hrange => ?_
  refine h.items_both.bind fun xs ys _ hitems => ?_
  subst hitems
  have hparts := Both.mapM (f := PathExpectation.ofDocument) (P := fun _ => True)
    (fun _ _ _ => trivial) xs ys
  refine hparts.bind fun _ _ _ hparts => ?_
  refine h.headers_both.bind fun _ _ _ hheaders => .ok ?_
  exact {
    status := h.reads (readsField_field? "status") (by decide) (by decide)
    statusRange := hrange
    bodyContains := h.reads (readsField_orMissing "bodyContains") (by decide) (by decide)
    bodyExact := h.reads (readsField_orMissing "bodyExact") (by decide) (by decide)
    bodySchema := h.reads (readsField_field? "bodySchema") (by decide) (by decide)
    bodyPath := hparts.append
    headers := hheaders
    responseTime := h.reads (readsField_field? "responseTime") (by decide) (by decide) }

end Suite

/-! ## Checking -/

namespace Matching

open Suite (Expectation PathExpectation ReadFault Combinable Combination)
open Value (combine)

/-- The rule that a check belongs to: what its name says before a part of the body, or a header. -/
def ruleOf (check : String) : String := String.ofList (check.toList.takeWhile fun c => c != '[')

/-- The rules, in the order that their checks are made in. -/
def rules : List String :=
  ["status", "statusRange", "bodyContains", "bodyExact", "bodySchema", "bodyPath", "headers",
    "responseTime"]

/-- The outcomes that belong to these rules, for one rule after the other. -/
def Report.grouped (rules : List String) (r : Report) : Report :=
  rules.flatMap fun rule => r.filter fun o => ruleOf o.check == rule

/-- The outcomes in the order that checks are made in; those of one rule are left in their order. -/
def Report.inOrder (r : Report) : Report := r.grouped rules

/-- The outcomes all belong to the rule. -/
def Belong (rule : String) (r : Report) : Prop := ∀ o ∈ r, ruleOf o.check = rule

theorem ruleOf_bracket (name rest : String) (h : ∀ c ∈ name.toList, (c != '[') = true) :
    ruleOf (name ++ "[" ++ rest) = name := by
  have hchars : (name ++ "[" ++ rest).toList = name.toList ++ '[' :: rest.toList := by
    rw [String.toList_append, String.toList_append, List.append_assoc]
    rfl
  rw [ruleOf, hchars, List.takeWhile_append_of_pos h, List.takeWhile_cons_of_neg (by decide),
    List.append_nil, String.ofList_toList]

/-! ### Outcomes by rule -/

section Order

variable {ks : List String} {k : String} {r : Report} {as bs : List Report}

theorem grouped_cons :
    r.grouped (k :: ks) = (r.filter fun o => ruleOf o.check == k) ++ r.grouped ks := rfl

/-- The outcomes of one rule do not matter for the others. -/
theorem grouped_filter (hk : k ∉ ks) :
    Report.grouped ks (r.filter fun o => ruleOf o.check != k) = r.grouped ks := by
  refine List.flatMap_congr fun k' hk' => ?_
  have hne : k' ≠ k := fun h => hk (h ▸ hk')
  rw [List.filter_filter]
  refine List.filter_congr fun o _ => ?_
  by_cases h : ruleOf o.check = k'
  · simp [h, hne]
  · simp [h]

theorem grouped_perm (hd : ks.Nodup) (h : ∀ o ∈ r, ruleOf o.check ∈ ks) : (r.grouped ks).Perm r := by
  induction ks generalizing r with
  | nil =>
    obtain rfl := List.eq_nil_iff_forall_not_mem.mpr fun o ho => List.not_mem_nil (h o ho)
    exact .refl _
  | cons k ks ih =>
    obtain ⟨hk, hd⟩ := List.nodup_cons.mp hd
    have hrest : (r.grouped ks).Perm (r.filter fun o => ruleOf o.check != k) := by
      rw [← grouped_filter hk]
      refine ih hd fun o ho => ?_
      obtain ⟨ho, hne⟩ := List.mem_filter.mp ho
      exact (List.mem_cons.mp (h o ho)).resolve_left (by simpa using hne)
    rw [grouped_cons]
    exact (hrest.append_left _).trans (List.filter_append_perm _ r)

theorem rule_mem (h : List.Forall₂ Belong ks as) : ∀ o ∈ as.flatten, ruleOf o.check ∈ ks := by
  induction h with
  | nil => exact fun o ho => absurd ho List.not_mem_nil
  | cons ha _ ih =>
    intro o ho
    rw [List.flatten_cons, List.mem_append] at ho
    rcases ho with ho | ho
    · exact ha o ho ▸ List.mem_cons_self
    · exact List.mem_cons_of_mem _ (ih o ho)

/-- The outcomes of one rule among those of all, and what is left. -/
theorem filter_section {a : Report} (ha : Belong k a) (hk : k ∉ ks)
    (h : List.Forall₂ Belong ks as) :
    ((a ++ as.flatten).filter fun o => ruleOf o.check == k) = a ∧
      ((a ++ as.flatten).filter fun o => ruleOf o.check != k) = as.flatten := by
  have hne (o : Outcome) (ho : o ∈ as.flatten) : ruleOf o.check ≠ k := fun he =>
    hk (he ▸ rule_mem h o ho)
  rw [List.filter_append, List.filter_append]
  constructor
  · rw [List.filter_eq_self.mpr fun o ho => beq_iff_eq.mpr (ha o ho),
      List.filter_eq_nil_iff.mpr fun o ho he => hne o ho (beq_iff_eq.mp he), List.append_nil]
  · rw [List.filter_eq_nil_iff.mpr fun o ho he => bne_iff_ne.mp he (ha o ho),
      List.filter_eq_self.mpr fun o ho => bne_iff_ne.mpr (hne o ho), List.nil_append]

/-- Two reports that go through the rules are put into order by going through the rules once. -/
theorem grouped_sections (hd : ks.Nodup) (ha : List.Forall₂ Belong ks as)
    (hb : List.Forall₂ Belong ks bs) :
    Report.grouped ks (as.flatten ++ bs.flatten) = (List.zipWith (· ++ ·) as bs).flatten := by
  induction ha generalizing bs with
  | nil => rfl
  | @cons k a ks as hka has ih =>
    obtain ⟨hk, hd⟩ := List.nodup_cons.mp hd
    cases hb with
    | @cons _ b _ bs hkb hbs =>
      obtain ⟨hthis, hrest⟩ := filter_section hka hk has
      obtain ⟨hthis', hrest'⟩ := filter_section hkb hk hbs
      rw [grouped_cons, ← grouped_filter hk, List.flatten_cons, List.flatten_cons,
        List.filter_append (a ++ as.flatten), List.filter_append (a ++ as.flatten), hthis, hthis',
        hrest, hrest', ih hd hbs]
      rfl

theorem failures_inOrder : r.inOrder.failures = Report.inOrder r.failures := by
  unfold Report.failures Report.inOrder Report.grouped
  rw [List.filter_flatMap]
  refine List.flatMap_congr fun k _ => ?_
  rw [List.filter_filter, List.filter_filter]
  exact List.filter_congr fun o _ => Bool.and_comm _ _

end Order

/-! ### One rule after the other -/

section Sections

variable {a b c e : Expectation} {observed : Http.Response} {schema schema' time time' : Report}
  {paths paths' : List Report} {rule : String}

theorem ruleOf_whole : ∀ rule ∈ rules, ruleOf rule = rule := by decide

theorem belong_option {α : Type} {check : α → Outcome} (rule : String) (hrule : rule ∈ rules)
    (h : ∀ x, (check x).check = rule) (o : Option α) : Belong rule (o.toList.map check) :=
  fun outcome ho => by
    obtain ⟨x, -, rfl⟩ := List.mem_map.mp ho
    rw [h, ruleOf_whole rule hrule]

theorem belong_whenPresent {check : Value → Outcome} (rule : String) (hrule : rule ∈ rules)
    (h : ∀ v, (check v).check = rule) (v : Value) : Belong rule (whenPresent v check) :=
  fun outcome ho => by
    rw [whenPresent] at ho
    split at ho
    · cases ho
    · rw [List.mem_singleton.mp ho, h, ruleOf_whole rule hrule]

theorem belong_flatten {rs : List Report} (h : ∀ r ∈ rs, Belong rule r) : Belong rule rs.flatten :=
  fun o ho => by
    obtain ⟨r, hr, ho⟩ := List.mem_flatten.mp ho
    exact h r hr o ho

theorem checkPath_belong {e : PathExpectation} {body : Value} {r : Report}
    (h : checkPath e body = .ok r) : Belong "bodyPath" r := fun o ho => by
  have hm : o.check ∈ r.map Outcome.check := List.mem_map.mpr ⟨o, ho, rfl⟩
  rw [checkPath_checks h] at hm
  obtain ⟨check, -, hcheck⟩ := List.mem_map.mp hm
  rw [← hcheck, pathCheck, show "bodyPath[" = "bodyPath" ++ "[" from rfl, String.append_assoc,
    String.append_assoc]
  exact ruleOf_bracket "bodyPath" _ (List.all_eq_true.mp (by decide))

theorem checkHeader_rule (name expected : String) :
    ruleOf (checkHeader name expected observed).check = "headers" := by
  have hcheck : (checkHeader name expected observed).check =
      "headers" ++ "[" ++ (Text.lower name ++ "]") := by
    simp only [checkHeader, show "headers[" = "headers" ++ "[" from rfl, String.append_assoc]
  rw [hcheck]
  exact ruleOf_bracket "headers" _ (List.all_eq_true.mp (by decide))

/-- The outcomes of an expectation, for one rule after the other, with those that are found by checks
that may fail to be made. -/
def sections (e : Expectation) (observed : Http.Response) (schema : Report) (paths : List Report)
    (time : Report) : List Report :=
  [e.status.toList.map (checkStatus · observed.status),
    e.statusRange.toList.map (checkStatusRange · observed.status),
    whenPresent e.bodyContains (checkBodyContains · observed.body),
    whenPresent e.bodyExact (checkBodyExact · observed.body),
    schema,
    paths.flatten,
    e.headers.map fun (name, expected) => checkHeader name expected observed,
    time]

theorem sections_belong (hs : Belong "bodySchema" schema) (hp : ∀ r ∈ paths, Belong "bodyPath" r)
    (ht : Belong "responseTime" time) :
    List.Forall₂ Belong rules (sections e observed schema paths time) := by
  refine .cons ?status (.cons ?range (.cons ?contains (.cons ?exact (.cons hs (.cons
    (belong_flatten hp) (.cons ?headers (.cons ht .nil)))))))
  case status => exact belong_option "status" (by decide) (fun _ => rfl) _
  case range => exact belong_option "statusRange" (by decide) (fun _ => rfl) _
  case contains => exact belong_whenPresent "bodyContains" (by decide) (fun _ => rfl) _
  case exact => exact belong_whenPresent "bodyExact" (by decide) (fun _ => rfl) _
  case headers =>
    intro o ho
    obtain ⟨⟨name, expected⟩, -, rfl⟩ := List.mem_map.mp ho
    exact checkHeader_rule name expected

theorem sections_flatten : (sections e observed schema paths time).flatten =
    e.status.toList.map (checkStatus · observed.status)
      ++ e.statusRange.toList.map (checkStatusRange · observed.status)
      ++ whenPresent e.bodyContains (checkBodyContains · observed.body)
      ++ whenPresent e.bodyExact (checkBodyExact · observed.body)
      ++ schema
      ++ paths.flatten
      ++ e.headers.map (fun (name, expected) => checkHeader name expected observed)
      ++ time := by
  simp only [sections, List.flatten_cons, List.flatten_nil, List.append_nil, List.append_assoc]

/-- Each rule finds in the combined expectation what it finds in the two. -/
theorem Combination.sections (h : Combination a b c) :
    sections c observed (schema ++ schema') (paths ++ paths') (time ++ time') =
      List.zipWith (· ++ ·) (sections a observed schema paths time)
        (sections b observed schema' paths' time') := by
  have hstatus := (h.status.map fun o => o.toList.map (checkStatus · observed.status)).eq_append
  have hrange :=
    (h.statusRange.map fun o => o.toList.map (checkStatusRange · observed.status)).eq_append
  have hcontains :=
    (h.bodyContains.map fun v => whenPresent v (checkBodyContains · observed.body)).eq_append
  have hexact := (h.bodyExact.map fun v => whenPresent v (checkBodyExact · observed.body)).eq_append
  simp only [Matching.sections, List.zipWith_cons_cons, List.zipWith_nil_left, hstatus, hrange,
    hcontains, hexact, h.headers, List.map_append, List.flatten_append]

/-- The third report is what the first two find, for one rule after the other. -/
def Merged (ra rb rc : Report) : Prop :=
  ∃ as bs, List.Forall₂ Belong rules as ∧ List.Forall₂ Belong rules bs ∧
    ra = as.flatten ∧ rb = bs.flatten ∧ rc = (List.zipWith (· ++ ·) as bs).flatten

/-- **The combined expectation is checked as the two are.** -/
theorem evaluate_both (h : Combination a b c) (observed : Http.Response) :
    Both Merged (evaluate a observed) (evaluate b observed) (evaluate c observed) := by
  have hschema : c.bodySchema.toList = _ := (h.bodySchema.map Option.toList).eq_append
  have htime : c.responseTime.toList = _ := (h.responseTime.map Option.toList).eq_append
  simp only [evaluate, ← sections_flatten, hschema, h.bodyPath, htime]
  refine (Both.mapM (P := fun o => ruleOf o.check = "bodySchema")
    (fun _ _ ho => by rw [checkBodySchema_check ho]; decide) _ _).bind fun _ _ _ hs => ?_
  refine (Both.mapM (P := Belong "bodyPath") (fun _ _ ho => checkPath_belong ho) _ _).bind
    fun _ _ _ hp => ?_
  refine (Both.mapM (P := fun o => ruleOf o.check = "responseTime")
    (fun _ _ ho => by rw [checkResponseTime_check ho]; decide) _ _).bind fun _ _ _ ht => .ok ?_
  refine ⟨_, _, sections_belong hs.left hp.left ht.left, sections_belong hs.right hp.right ht.right,
    rfl, rfl, ?_⟩
  rw [hs.append, hp.append, ht.append, Combination.sections h]

end Sections

/-! ### Documents -/

/-- Reads an expectation and puts a response to it. -/
def assess (document : Value) (observed : Http.Response) : Except Failure Report := do
  let e ← (Expectation.ofDocument document).mapError ReadFault.failure
  evaluate e observed

variable {fs gs : List (String × Value)}

theorem assess_both (h : Combinable fs gs) (observed : Http.Response) :
    Both Merged (assess (.obj fs) observed) (assess (.obj gs) observed)
      (assess (.obj (combine fs gs)) observed) :=
  ((Suite.ofDocument_both h).mapError ReadFault.failure).bind fun _ _ _ hc =>
    evaluate_both hc observed

theorem rules_nodup : rules.Nodup := by decide

theorem Merged.eq_inOrder {ra rb rc : Report} (h : Merged ra rb rc) :
    rc = Report.inOrder (ra ++ rb) := by
  obtain ⟨as, bs, ha, hb, rfl, rfl, rfl⟩ := h
  exact (grouped_sections rules_nodup ha hb).symm

theorem Merged.perm {ra rb rc : Report} (h : Merged ra rb rc) :
    (Report.inOrder (ra ++ rb)).Perm (ra ++ rb) := by
  obtain ⟨as, bs, ha, hb, rfl, rfl, rfl⟩ := h
  refine grouped_perm rules_nodup fun o ho => ?_
  rcases List.mem_append.mp ho with ho | ho
  · exact rule_mem ha o ho
  · exact rule_mem hb o ho

/-- **A combined expectation finds what the two find.** For every response, there is a report on the
combined document if and only if there is one on each of the two; it is then made of the same outcomes,
in the order of checks. So it passes if and only if both pass, and its failures are theirs; and it fails
to be made only with the error of one of them. An expectation of nothing is met by every response. -/
theorem assess_combine (h : Combinable fs gs) (observed : Http.Response) :
    (∀ rc, assess (.obj (combine fs gs)) observed = .ok rc ↔
      ∃ ra rb, assess (.obj fs) observed = .ok ra ∧ assess (.obj gs) observed = .ok rb ∧
        rc = Report.inOrder (ra ++ rb)) ∧
    (∀ ra rb, assess (.obj fs) observed = .ok ra → assess (.obj gs) observed = .ok rb →
      (Report.inOrder (ra ++ rb)).Perm (ra ++ rb) ∧
      (Report.inOrder (ra ++ rb)).passed = (ra.passed && rb.passed) ∧
      (Report.inOrder (ra ++ rb)).failures = Report.inOrder (ra.failures ++ rb.failures)) ∧
    (∀ f, assess (.obj (combine fs gs)) observed = .error f →
      assess (.obj fs) observed = .error f ∨ assess (.obj gs) observed = .error f) ∧
    assess (.obj []) observed = .ok [] ∧ Report.passed [] = true := by
  have hboth := assess_both h observed
  refine ⟨fun rc => (hboth.imp fun _ _ _ hm => hm.eq_inOrder).eq_ok_iff, fun ra rb ha hb => ?_,
    fun f hf => hboth.eq_error hf, rfl, rfl⟩
  rw [ha, hb] at hboth
  obtain ⟨rc, hm⟩ := hboth.related
  have hperm := hm.perm
  refine ⟨hperm, ?_, ?_⟩
  · rw [Report.passed, hperm.all_eq, List.all_append]
    rfl
  · rw [failures_inOrder]
    exact congrArg Report.inOrder (List.filter_append ra rb)

/-- What a creation promises, and what is asked of every response: parts of the body and headers are
declared by both. The status and the header of a trace are not as wanted; the explicit null is. -/
theorem assess_combine_creation :
    let creation : List (String × Value) :=
      [("status", .int 201),
        ("bodyPath", .list [.obj [("path", .str "id"), ("type", .str "integer")]]),
        ("headers", .obj [("Location", .str "/7")])]
    let always : List (String × Value) :=
      [("bodyPath", .list [.obj [("path", .str "error"), ("equals", .null)]]),
        ("headers", .obj [("X-Trace", .str "on")])]
    let response : Http.Response :=
      ⟨.int 200, [("location", "/7")], .obj [("id", .int 7), ("error", .null)], .int 3⟩
    Combinable creation always ∧ ∃ rc, assess (.obj (combine creation always)) response = .ok rc ∧
      rc.map (fun o => (o.check, o.passed)) =
        [("status", false), ("bodyPath[id].type", true), ("bodyPath[error].equals", true),
          ("headers[location]", true), ("headers[x-trace]", false)] := by
  intro creation always response
  have h : Combinable creation always := by
    refine ⟨by decide, ?_, ?_⟩
    · rintro v w ⟨⟩ ⟨⟩
      exact ⟨_, _, rfl, rfl⟩
    · rintro v w ⟨⟩ ⟨⟩
      exact ⟨_, _, rfl, rfl, by decide⟩
  exact ⟨h, _, ((assess_combine h response).1 _).mpr ⟨_, _, rfl, rfl, rfl⟩, by decide +kernel⟩

end Matching

end SuiteEngine
