import Mathlib.Algebra.Order.BigOperators.Group.List
import Mathlib.Algebra.Order.Group.Nat
import SuiteEngine.Proofs.Document.Filled

/-!
# Filling in twice

What is put in for a placeholder is not read again, so filling in a second time can only find
placeholders that the first time has put together. Where no value has a brace, their braces stand in the
text itself, around a placeholder that was replaced: in `{{{{a}}b}}` the value of `a` becomes the start
of a name. `Encloses` says when a text has such a stretch, and filling in a second time changes nothing
exactly if no text has one.

Headlines:
* `unchanged_iff`: a text is left as it is if and only if none of its placeholders is bound.
* `encloses_iff`: the placeholders that filling in puts together.
* **`interpolate_twice_iff`**: when filling in a second time changes nothing.
* `interpolate_twice_nested`: it does change a nested placeholder.
-/

namespace SuiteEngine

namespace Placeholder

/-- The name has a value. -/
def IsBound (vars : Variables) (name : List Char) : Prop :=
  ∃ t, vars.text? (String.ofList name) = some t

/-- No value has a brace in its text. -/
def Braceless (vars : Variables) : Prop :=
  ∀ e ∈ vars, '\x7b' ∉ e.2.text.toList ∧ '\x7d' ∉ e.2.text.toList

instance (vars : Variables) : Decidable (Braceless vars) :=
  inferInstanceAs (Decidable (∀ e ∈ vars, '\x7b' ∉ e.2.text.toList ∧ '\x7d' ∉ e.2.text.toList))

/-- Some stretch of the text has a placeholder in it that gives way to its value, and then reads as a
placeholder whose name is bound as well. -/
def Encloses (vars : Variables) (s : List Char) : Prop :=
  ∃ before inner after name, Reads s (before ++ (inner ++ after)) ∧ IsName name ∧ IsBound vars name ∧
    inner.flatMap (Piece.shown vars) = written name ∧ ∃ n, .placeholder n ∈ inner ∧ IsBound vars n

variable {vars : Variables} {s name a b z : List Char} {ps qs : List Piece}

/-! ## What is shown -/

theorem Braceless.shown (hv : Braceless vars) (hb : IsBound vars name) :
    '\x7b' ∉ Placeholder.shown vars name ∧ '\x7d' ∉ Placeholder.shown vars name := by
  obtain ⟨t, ht⟩ := hb
  rw [Placeholder.shown, ht]
  unfold Variables.text? at ht
  split at ht
  · cases ht
  · cases ht
  · rename_i v _ hl
    obtain rfl := Option.some.inj ht
    exact hv _ (Value.mem_of_lookup hl)

theorem shown_unbound (hb : ¬ IsBound vars name) : shown vars name = written name := by
  rw [shown, Option.eq_none_iff_forall_ne_some.mpr fun t ht => hb ⟨t, ht⟩]

theorem flatMap_shown_unbound (h : ∀ name, .placeholder name ∈ ps → ¬ IsBound vars name) :
    ps.flatMap (Piece.shown vars) = ps.flatMap Piece.written :=
  shown_of_unbound fun name hm =>
    Option.eq_none_iff_forall_ne_some.mpr fun t ht => h name hm ⟨t, ht⟩

/-- No piece has more opening braces when it is filled in, and a bound placeholder has fewer. -/
theorem count_shown (hv : Braceless vars) (p : Piece) :
    (p.shown vars).count '\x7b' ≤ p.written.count '\x7b' ∧
      ∀ name, p = .placeholder name → IsBound vars name →
        (p.shown vars).count '\x7b' < p.written.count '\x7b' := by
  cases p with
  | char c => exact ⟨le_rfl, nofun⟩
  | placeholder name =>
    by_cases hb : IsBound vars name
    · have hzero : (shown vars name).count '\x7b' = 0 := List.count_eq_zero.mpr (hv.shown hb).1
      have hpos : 0 < (written name).count '\x7b' := List.count_pos_iff.mpr (by simp [written])
      exact ⟨by simp only [Piece.shown, hzero, Nat.zero_le], fun _ _ _ => by
        simp only [Piece.shown, Piece.written, hzero, hpos]⟩
    · refine ⟨by rw [Piece.shown, shown_unbound hb]; rfl, ?_⟩
      intro _ heq hb'
      cases heq
      exact absurd hb' hb

/-- **A text is left as it is if and only if none of its placeholders is bound.** -/
theorem unchanged_iff (hv : Braceless vars) (h : Reads s ps) :
    interpolateFrom vars 0 s = s ↔ ∀ name, .placeholder name ∈ ps → ¬ IsBound vars name := by
  rw [h.interpolateFrom]
  constructor
  · intro heq name hm hb
    have hlt := List.sum_lt_sum (fun p => (p.shown vars).count '\x7b')
      (fun p => p.written.count '\x7b') (fun p (_ : p ∈ ps) => (count_shown hv p).1)
      ⟨_, hm, (count_shown hv _).2 name rfl hb⟩
    have hcount := congrArg (List.count '\x7b') (heq.trans h.flatMap_written.symm)
    rw [List.count_flatMap, List.count_flatMap] at hcount
    exact absurd hcount hlt.ne
  · intro hall
    rw [flatMap_shown_unbound hall, h.flatMap_written]

/-! ## Placeholders that are put together -/

/-- A placeholder in what is shown starts where a piece does, so some pieces begin with it. -/
theorem exists_start (hv : Braceless vars) (hp : ∀ n, .placeholder n ∈ ps → IsName n)
    (h : ps.flatMap (Piece.shown vars) = a ++ (written name ++ b)) :
    ∃ before rest, ps = before ++ rest ∧ rest.flatMap (Piece.shown vars) = written name ++ b := by
  induction ps generalizing a with
  | nil => cases (List.append_eq_nil_iff.mp (List.append_eq_nil_iff.mp h.symm).2).1
  | cons p ps ih =>
    cases a with
    | nil => exact ⟨[], p :: ps, rfl, h⟩
    | cons d a =>
      have hrest : ∃ a', ps.flatMap (Piece.shown vars) = a' ++ (written name ++ b) := by
        cases p with
        | char c => exact ⟨a, (List.cons.inj h).2⟩
        | placeholder n =>
          by_cases hb : IsBound vars n
          · obtain ⟨a', -, ha'⟩ := append_of_not_mem (hv.shown hb).1 h
            exact ⟨a', ha'⟩
          · rw [List.flatMap_cons, Piece.shown, shown_unbound hb] at h
            rcases written_separate (hp n List.mem_cons_self) h with ha | ha
            · cases ha
            · exact ha
      obtain ⟨a', ha'⟩ := hrest
      obtain ⟨before, rest, rfl, hr⟩ := ih (fun n hm => hp n (List.mem_cons_of_mem _ hm)) ha'
      exact ⟨p :: before, rest, rfl, hr⟩

/-- An opening brace that is shown is one of the text, or starts a placeholder that is unbound; pieces
that show nothing may come before it. -/
theorem exists_open (hv : Braceless vars) (h : ps.flatMap (Piece.shown vars) = '\x7b' :: z) :
    ∃ before p rest, ps = before ++ p :: rest ∧ before.flatMap (Piece.shown vars) = [] ∧
      (p = .char '\x7b' ∧ rest.flatMap (Piece.shown vars) = z ∨
        ∃ n, p = .placeholder n ∧ ¬ IsBound vars n ∧
          written n ++ rest.flatMap (Piece.shown vars) = '\x7b' :: z) := by
  induction ps with
  | nil => cases h
  | cons p ps ih =>
    cases p with
    | char c =>
      obtain ⟨rfl, hz⟩ := List.cons.inj h
      exact ⟨[], _, ps, rfl, rfl, .inl ⟨rfl, hz⟩⟩
    | placeholder n =>
      by_cases hb : IsBound vars n
      · obtain ⟨a', ha, hz⟩ := append_of_not_mem (a := []) (hv.shown hb).1 h
        obtain ⟨hn, rfl⟩ := List.append_eq_nil_iff.mp ha.symm
        obtain ⟨before, p, rest, rfl, hbefore, hrest⟩ := ih hz
        refine ⟨_ :: before, p, rest, rfl, ?_, hrest⟩
        rw [List.flatMap_cons, hbefore, List.append_nil]
        exact hn
      · rw [List.flatMap_cons, Piece.shown, shown_unbound hb] at h
        exact ⟨[], _, ps, rfl, rfl, .inr ⟨n, rfl, hb, h⟩⟩

/-- What is shown up to a closing brace, with no opening one before it, ends where a piece does. -/
theorem exists_close (hv : Braceless vars) (hz : '\x7b' ∉ z)
    (h : ps.flatMap (Piece.shown vars) = z ++ '\x7d' :: b) :
    ∃ inner rest, ps = inner ++ rest ∧ inner.flatMap (Piece.shown vars) = z ++ ['\x7d'] := by
  induction ps generalizing z with
  | nil => cases (List.append_eq_nil_iff.mp h.symm).2
  | cons p ps ih =>
    cases p with
    | char c =>
      cases z with
      | nil =>
        obtain ⟨rfl, -⟩ := List.cons.inj h
        exact ⟨[_], ps, rfl, rfl⟩
      | cons d z =>
        obtain ⟨rfl, hrest⟩ := List.cons.inj h
        obtain ⟨inner, rest, rfl, hi⟩ := ih (fun hm => hz (List.mem_cons_of_mem _ hm)) hrest
        exact ⟨.char c :: inner, rest, rfl, congrArg (c :: ·) hi⟩
    | placeholder n =>
      by_cases hb : IsBound vars n
      · obtain ⟨z', rfl, hrest⟩ := append_of_not_mem (hv.shown hb).2 h
        obtain ⟨inner, rest, rfl, hi⟩ := ih (fun hm => hz (List.mem_append_right _ hm)) hrest
        refine ⟨_ :: inner, rest, rfl, ?_⟩
        rw [List.flatMap_cons, hi, List.append_assoc]
        rfl
      · rw [List.flatMap_cons, Piece.shown, shown_unbound hb] at h
        cases z with
        | nil => cases h
        | cons d z =>
          obtain ⟨rfl, -⟩ := List.cons.inj h
          exact absurd List.mem_cons_self hz

/-- A bound placeholder that is shown from the start of some pieces on is what some of them show. -/
theorem exists_inner (hv : Braceless vars) (hp : ∀ n, .placeholder n ∈ ps → IsName n)
    (hn : IsName name) (hb : IsBound vars name)
    (h : ps.flatMap (Piece.shown vars) = written name ++ b) :
    ∃ inner after, ps = inner ++ after ∧ inner.flatMap (Piece.shown vars) = written name := by
  have hopen : ps.flatMap (Piece.shown vars) =
      '\x7b' :: '\x7b' :: ((name ++ ['\x7d']) ++ '\x7d' :: b) := by
    rw [h]
    simp [written]
  obtain ⟨empty₁, p₁, rest₁, rfl, hempty₁, hfirst⟩ := exists_open hv hopen
  rcases hfirst with ⟨rfl, hfirst⟩ | ⟨n, rfl, hunbound, hfirst⟩
  swap
  · -- An unbound placeholder would have the same name.
    obtain ⟨rfl, -⟩ := written_append_inj (hp n (by simp)) hn (hfirst.trans (hopen.symm.trans h))
    exact absurd hb hunbound
  obtain ⟨empty₂, p₂, rest₂, rfl, hempty₂, hsecond⟩ := exists_open hv hfirst
  rcases hsecond with ⟨rfl, hsecond⟩ | ⟨n, rfl, hunbound, hsecond⟩
  swap
  · -- The second brace of an unbound placeholder would be in the name.
    obtain ⟨c, name', rfl⟩ := List.exists_cons_of_ne_nil hn.ne_nil
    simp only [written, List.cons_append, List.cons.injEq] at hsecond
    exact absurd (hsecond.2.1 ▸ List.mem_cons_self) hn.open_not_mem
  obtain ⟨name', after, rfl, hname'⟩ := exists_close hv (by simp [hn.open_not_mem]) hsecond
  refine ⟨empty₁ ++ .char '\x7b' :: (empty₂ ++ .char '\x7b' :: name'), after, by simp, ?_⟩
  simp only [List.flatMap_append, List.flatMap_cons, hempty₁, hempty₂, hname', Piece.shown, written,
    List.nil_append, List.cons_append, List.append_assoc]

/-- **The placeholders that filling in puts together.** One of a bound name occurs in the filled text if
and only if the text encloses a placeholder that gave way. -/
theorem encloses_iff (hv : Braceless vars) (h : Reads s ps) :
    Encloses vars s ↔ ∃ name, IsName name ∧ IsBound vars name ∧
      written name <:+: ps.flatMap (Piece.shown vars) := by
  constructor
  · rintro ⟨before, inner, after, name, hs, hn, hb, hi, -⟩
    obtain rfl := h.unique hs
    refine ⟨name, hn, hb, before.flatMap (Piece.shown vars), after.flatMap (Piece.shown vars), ?_⟩
    rw [List.flatMap_append, List.flatMap_append, hi, List.append_assoc]
  · rintro ⟨name, hn, hb, a, b, hab⟩
    have hp : ∀ n, .placeholder n ∈ ps → IsName n := fun n => h.isName
    rw [List.append_assoc] at hab
    obtain ⟨before, rest, rfl, hrest⟩ := exists_start hv hp hab.symm
    have hp' : ∀ n, .placeholder n ∈ rest → IsName n := fun n hm => hp n (List.mem_append_right _ hm)
    obtain ⟨inner, after, rfl, hi⟩ := exists_inner hv hp' hn hb hrest
    refine ⟨before, inner, after, name, h, hn, hb, hi, ?_⟩
    by_contra hnone
    -- Otherwise the stretch stands in the text as it is shown, and is read as that placeholder.
    have hall : ∀ n, .placeholder n ∈ inner → ¬ IsBound vars n := fun n hm hn => hnone ⟨n, hm, hn⟩
    rw [flatMap_shown_unbound hall] at hi
    have hreads := h.suffix
    rw [List.flatMap_append, hi] at hreads
    obtain ⟨qs, hqs, -⟩ := hreads.of_placeholder hn
    cases inner with
    | nil => cases hi
    | cons p inner =>
      obtain ⟨rfl, -⟩ := List.cons.inj hqs
      exact hall name List.mem_cons_self hb

/-- When filling in a text a second time changes nothing. -/
theorem interpolateText_twice_iff (hv : Braceless vars) (s : String) :
    interpolateText vars (interpolateText vars s) = interpolateText vars s ↔
      ¬ Encloses vars s.toList := by
  obtain ⟨ps, hps⟩ := exists_reads s.toList
  obtain ⟨qs, hqs⟩ := exists_reads (interpolateFrom vars 0 s.toList)
  have htwice : interpolateText vars (interpolateText vars s) = interpolateText vars s ↔
      interpolateFrom vars 0 (interpolateFrom vars 0 s.toList) = interpolateFrom vars 0 s.toList := by
    simp only [interpolateText, String.toList_ofList, String.ofList_inj]
  rw [htwice, unchanged_iff hv hqs, encloses_iff hv hps, ← hps.interpolateFrom]
  constructor
  · rintro hall ⟨name, hn, hb, hi⟩
    exact hall name ((hqs.mem_iff hn).mpr hi) hb
  · intro hnone name hm hb
    have hn := hqs.isName hm
    exact hnone ⟨name, hn, hb, (hqs.mem_iff hn).mp hm⟩

end Placeholder

open Placeholder (Braceless Encloses interpolateText_twice_iff)

namespace Value

variable {vars : Variables} {P : String → Prop}

/-! ## The texts of a value -/

theorem hasText_str {s t : String} : HasText t (str s) ↔ t = s := by
  constructor
  · intro h
    cases h with
    | here => rfl
    | item hv _ _ => cases hv
    | field hf _ => cases hf
  · rintro rfl
    exact .here

theorem hasText_array {v : Value} {xs : List Value} {t : String} (hv : v.items? = some xs) :
    HasText t v ↔ ∃ x ∈ xs, HasText t x := by
  constructor
  · intro h
    cases h with
    | here => cases hv
    | item hv' hx h => exact ⟨_, Option.some.inj (hv'.symm.trans hv) ▸ hx, h⟩
    | field hf _ =>
      cases v with
      | obj fs => cases hv
      | _ => cases hf
  · rintro ⟨x, hx, h⟩
    exact .item hv hx h

theorem hasText_obj {fs : List (String × Value)} {t : String} :
    HasText t (obj fs) ↔ ∃ f ∈ fs, HasText t f.2 := by
  constructor
  · intro h
    cases h with
    | item hv _ _ => cases hv
    | field hf h => exact ⟨_, hf, h⟩
  · rintro ⟨f, hf, h⟩
    exact .field hf h

theorem not_hasText_leaf {v : Value} {t : String} (ht : v.str? = none) (hi : v.items? = none)
    (hf : v.fields = []) : ¬ HasText t v := by
  intro h
  cases h with
  | here => cases ht
  | item hv _ _ => cases hi.symm.trans hv
  | field hm _ => exact absurd (hf ▸ hm) List.not_mem_nil

/-! ## Filling in a value twice -/

/-- The second time changes nothing. -/
def Settles (vars : Variables) (v : Value) : Prop :=
  (v.interpolate vars).interpolate vars = v.interpolate vars

theorem settles_array {v : Value} {xs : List Value} (hv : v.items? = some xs) :
    Settles vars v ↔ ∀ x ∈ xs, Settles vars x := by
  rw [Settles, interpolate_array hv, interpolate_array rfl, list.injEq, List.map_map,
    List.map_inj_left]
  rfl

theorem settles_obj (fs : List (String × Value)) :
    Settles vars (obj fs) ↔ ∀ f ∈ fs, Settles vars f.2 := by
  rw [Settles, interpolate_obj, interpolate_obj, obj.injEq, List.map_map, List.map_inj_left]
  simp [Settles]

/-- A value settles if and only if all its texts do. -/
theorem settles_iff (v : Value) :
    Settles vars v ↔ ∀ s, HasText s v → Settles vars (str s) := by
  have array : ∀ {v : Value} {xs : List Value}, v.items? = some xs →
      (∀ x ∈ xs, Settles vars x ↔ ∀ s, HasText s x → Settles vars (str s)) →
      (Settles vars v ↔ ∀ s, HasText s v → Settles vars (str s)) := by
    intro v xs hv items
    simp only [settles_array hv, hasText_array hv, forall_exists_index, and_imp]
    exact ⟨fun h s x hx => (items x hx).mp (h x hx) s, fun h x hx => (items x hx).mpr fun s => h s x hx⟩
  induction v using induction_parts with
  | step v items fields =>
    cases v with
    | str s => simp only [hasText_str, forall_eq]
    | list xs => exact array rfl (items xs rfl)
    | tuple xs => exact array rfl (items xs rfl)
    | obj fs =>
      simp only [settles_obj, hasText_obj, forall_exists_index, and_imp]
      exact ⟨fun h s f hf => (fields f hf).mp (h f hf) s,
        fun h f hf => (fields f hf).mpr fun s => h s f hf⟩
    | _ => exact ⟨fun _ _ h => absurd h (not_hasText_leaf rfl rfl rfl), fun _ => rfl⟩

/-- **When filling in a second time changes nothing.** Where no value has a brace, it does so for a
value if and only if none of its texts encloses a placeholder that gives way. -/
theorem interpolate_twice_iff (hv : Braceless vars) (v : Value) :
    (v.interpolate vars).interpolate vars = v.interpolate vars ↔
      ∀ s, HasText s v → ¬ Encloses vars s.toList := by
  refine (settles_iff v).trans (forall₂_congr fun s _ => ?_)
  rw [← interpolateText_twice_iff hv s]
  exact Value.str.injEq .. ▸ Iff.rfl

/-- A name, and the names that begin with its value. -/
def chainedVariables : Variables := [("a", str "x"), ("xb", str "y"), ("none", str "")]

/-- Adjacent placeholders, an unbound one, and braces that close around nothing that gives way. -/
def settledValue : Value :=
  list [str "\x7b\x7ba\x7d\x7d\x7b\x7bxb\x7d\x7d \x7b\x7bghost\x7d\x7d",
    str "\x7b\x7b\x7b\x7ba\x7d\x7dc\x7d\x7d \x7b\x7b\x7b\x7bnone\x7d\x7d\x7d\x7d"]

/-- Such a value is filled in once and for all, so none of its texts encloses a placeholder. -/
theorem interpolate_twice_iff_settled :
    Braceless chainedVariables ∧
      (settledValue.interpolate chainedVariables).interpolate chainedVariables =
        settledValue.interpolate chainedVariables ∧
      ∀ s, HasText s settledValue → ¬ Encloses chainedVariables s.toList := by
  have hv : Braceless chainedVariables := by decide
  have htwice : (settledValue.interpolate chainedVariables).interpolate chainedVariables =
      settledValue.interpolate chainedVariables := rfl
  exact ⟨hv, htwice, (interpolate_twice_iff hv settledValue).mp htwice⟩

/-- **A nested placeholder changes a second time**: the value of the inner one completes the name of the
outer one, which is bound as well. -/
theorem interpolate_twice_nested :
    Braceless chainedVariables ∧
      (str "\x7b\x7b\x7b\x7ba\x7d\x7db\x7d\x7d").interpolate chainedVariables = str "\x7b\x7bxb\x7d\x7d" ∧
      ((str "\x7b\x7b\x7b\x7ba\x7d\x7db\x7d\x7d").interpolate chainedVariables).interpolate
          chainedVariables = str "y" ∧
      ¬ ∀ (v : Value) (vars : Variables), Braceless vars →
        (v.interpolate vars).interpolate vars = v.interpolate vars := by
  have hv : Braceless chainedVariables := by decide
  have honce : (str "\x7b\x7b\x7b\x7ba\x7d\x7db\x7d\x7d").interpolate chainedVariables =
      str "\x7b\x7bxb\x7d\x7d" := rfl
  have htwice : ((str "\x7b\x7b\x7b\x7ba\x7d\x7db\x7d\x7d").interpolate chainedVariables).interpolate
      chainedVariables = str "y" := rfl
  refine ⟨hv, honce, htwice, fun h => ?_⟩
  have heq := htwice.symm.trans ((h _ _ hv).trans honce)
  exact absurd (Value.str.inj heq) (by decide)

end Value

end SuiteEngine
