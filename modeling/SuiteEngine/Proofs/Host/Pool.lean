import Mathlib.Data.List.Forall2
import SuiteEngine.Host.Program
import SuiteEngine.Proofs.Host.Trace

/-!
# Programs that take turns

`SideBySide places ps log rs` says what may happen when programs go on side by side, as a relation
of single steps: at any moment one of those that have a place asks its next question, and nothing is
said about which. `Interleaves ls l` says that `l` is made of the lists `ls`, each in its order.

Headlines:
* **`exists_turns_iff`**: the traces of a pool, over all lists of turns, are exactly the runs side
  by side. So a fact about all turns is a fact about every order in which threads can be served.
* **`SideBySide.threads`**: every program has a trace of its own, the log interleaves their logs,
  and the results are theirs, in the order in which the programs were given, not that in which they
  ended.
* `underWay_length_le`: no more programs are under way than there are places.
-/

namespace SuiteEngine.Host

/-! ## Interleavings -/

/-- The list is made of the lists, each in its order, and uses them up. -/
inductive Interleaves {ε : Type} : List (List ε) → List ε → Prop
  | nil {ls : List (List ε)} (h : ∀ l ∈ ls, l = []) : Interleaves ls []
  | cons (before : List (List ε)) (e : ε) (l : List ε) (after : List (List ε)) {rest : List ε}
      (h : Interleaves (before ++ l :: after) rest) :
      Interleaves (before ++ (e :: l) :: after) (e :: rest)

namespace Interleaves

variable {ε : Type} {ls : List (List ε)} {l : List ε}

/-- Nothing is added, and nothing is lost. -/
theorem perm (h : Interleaves ls l) : l.Perm ls.flatten := by
  induction h with
  | nil h => rw [List.flatten_eq_nil_iff.mpr h]
  | cons before e l after _ ih =>
    simp only [List.flatten_append, List.flatten_cons, List.cons_append] at ih ⊢
    exact (ih.cons e).trans List.perm_middle.symm

theorem mem_iff (h : Interleaves ls l) {e : ε} : e ∈ l ↔ ∃ m ∈ ls, e ∈ m := by
  rw [h.perm.mem_iff, List.mem_flatten]

/-- Each of the lists stands in its order. -/
theorem sublist (h : Interleaves ls l) : ∀ m ∈ ls, m.Sublist l := by
  induction h with
  | nil h => intro m hm; rw [h m hm]
  | cons before e l after _ ih =>
    intro m hm
    rcases List.mem_append.mp hm with hm | hm
    · exact (ih m (by simp [hm])).cons e
    · rcases List.mem_cons.mp hm with rfl | hm
      · exact (ih l (by simp)).cons_cons e
      · exact (ih m (by simp [hm])).cons e

end Interleaves

namespace Program

variable {α : Type} {places : Nat}

/-! ## Places -/

/-- **No more programs are under way than there are places.** -/
theorem underWay_length_le (places : Nat) (ps : List (Program α)) :
    (underWay places ps).length ≤ places := List.length_take_le _ _

theorem mem_unfinished {ps : List (Program α)} {i : Nat} (h : i ∈ unfinished ps) :
    ∃ before q next after, ps = before ++ ask q next :: after ∧ before.length = i := by
  simp only [unfinished, List.mem_filter, List.mem_range] at h
  obtain ⟨hi, hp⟩ := h
  rw [List.getElem?_eq_getElem hi] at hp
  have hs : ps = ps.take i ++ ps[i] :: ps.drop (i + 1) := by simp
  cases hq : ps[i] with
  | done a => simp [hq, isDone] at hp
  | ask q next =>
    exact ⟨ps.take i, q, next, ps.drop (i + 1), by rw [← hq]; exact hs, by simp; omega⟩

theorem mem_underWay {ps : List (Program α)} {i : Nat} (h : i ∈ underWay places ps) :
    ∃ before q next after, ps = before ++ ask q next :: after ∧ before.length = i :=
  mem_unfinished (List.mem_of_mem_take h)

/-- The first program that is not finished is under way. -/
theorem first_mem_underWay (hp : 1 ≤ places) (rs : List α) (q : Question)
    (next : q.Answer → Program α) (after : List (Program α)) :
    rs.length ∈ underWay places (rs.map done ++ ask q next :: after) := by
  have hu : ∃ tail, unfinished (rs.map done ++ ask q next :: after) = rs.length :: tail := by
    unfold unfinished
    rw [List.length_append, List.length_map, List.length_cons, Nat.add_comm after.length,
      ← Nat.add_assoc, List.range_add, List.range_succ, List.append_assoc, List.filter_append]
    have h0 : (List.range rs.length).filter (fun i =>
        ((rs.map done ++ ask q next :: after)[i]?).any fun p => !p.isDone) = [] := by
      refine List.filter_eq_nil_iff.mpr fun i hi => ?_
      have hi : i < rs.length := List.mem_range.mp hi
      simp [List.getElem?_append_left, hi, isDone]
    rw [h0, List.nil_append, List.singleton_append, List.filter_cons_of_pos (by simp [isDone])]
    exact ⟨_, rfl⟩
  obtain ⟨tail, hu⟩ := hu
  obtain ⟨n, rfl⟩ : ∃ n, places = n + 1 := ⟨places - 1, by omega⟩
  rw [underWay, hu, List.take_succ_cons]
  exact List.mem_cons_self

/-! ## Runs side by side -/

/-- What programs may ask, be told and end with when they go on side by side. -/
inductive SideBySide (places : Nat) : List (Program α) → Log → List α → Prop
  | finished (rs : List α) : SideBySide places (rs.map done) [] rs
  | turn {before : List (Program α)} {q : Question} {next : q.Answer → Program α}
      {after : List (Program α)} {a : q.Answer} {log : Log} {rs : List α}
      (hi : before.length ∈ underWay places (before ++ ask q next :: after))
      (h : SideBySide places (before ++ next a :: after) log rs) :
      SideBySide places (before ++ ask q next :: after) (⟨q, a⟩ :: log) rs

theorem set_middle (before : List (Program α)) (p p' : Program α) (after : List (Program α)) :
    (before ++ p :: after).set before.length p' = before ++ p' :: after := by simp

theorem advance_middle (before : List (Program α)) (q : Question) (next : q.Answer → Program α)
    (after : List (Program α)) :
    advance (before ++ ask q next :: after) before.length =
      ask q fun a => done (before ++ next a :: after) := by
  simp only [advance, List.getElem?_append_right (Nat.le_refl _), Nat.sub_self,
    List.getElem?_cons_zero]
  exact congrArg (ask q) (funext fun a => congrArg done (set_middle before _ _ after))

/-- The first program that is not finished may go on to its end. -/
theorem SideBySide.first (hp : 1 ≤ places) {p : Program α} {l : Log} {a : α} (ht : p.Traces l a)
    {rs as : List α} {after : List (Program α)} {log : Log}
    (h : SideBySide places (rs.map done ++ done a :: after) log as) :
    SideBySide places (rs.map done ++ p :: after) (l ++ log) as := by
  induction p generalizing l with
  | done b =>
    obtain ⟨rfl, rfl⟩ := ht
    exact h
  | ask q next ih =>
    obtain ⟨b, rest, rfl, ht⟩ := ht
    have hi := first_mem_underWay hp rs q next after
    rw [← List.length_map (f := done)] at hi
    exact .turn hi (ih b ht)

/-- Programs may be finished one after the other. -/
theorem SideBySide.inOrder (hp : 1 ≤ places) {ps : List (Program α)} {log : Log} {as : List α}
    (h : (ps.mapM id).Traces log as) (rs : List α) :
    SideBySide places (rs.map done ++ ps) log (rs ++ as) := by
  induction ps generalizing log as rs with
  | nil =>
    obtain ⟨rfl, rfl⟩ := traces_mapM_nil.mp h
    rw [List.append_nil, List.append_nil]
    exact .finished rs
  | cons p ps ih =>
    obtain ⟨l₁, a, l₂, as, rfl, rfl, h₁, h₂⟩ := traces_mapM_cons.mp h
    have hr := ih h₂ (rs ++ [a])
    simp only [List.map_append, List.map_cons, List.map_nil, List.append_assoc,
      List.singleton_append] at hr
    exact .first hp h₁ hr

/-- A pool runs its programs side by side. -/
theorem sideBySide_of_traces (hp : 1 ≤ places) {turns : List Nat} {ps : List (Program α)}
    {log : Log}
    {rs : List α} (h : (pool places turns ps).Traces log rs) : SideBySide places ps log rs := by
  induction turns generalizing ps log with
  | nil => exact .inOrder hp h []
  | cons i turns ih =>
    rw [pool] at h
    split at h
    · rename_i hi
      have hi : i ∈ underWay places ps := by simpa using hi
      obtain ⟨before, q, next, after, rfl, rfl⟩ := mem_underWay hi
      rw [advance_middle, traces_bind] at h
      obtain ⟨_, _, l₂, rfl, ⟨a, _, rfl, rfl, rfl⟩, h⟩ := h
      exact .turn hi (ih h)
    · exact ih h

/-- Every run side by side is that of a pool, with some turns. -/
theorem SideBySide.exists_turns {ps : List (Program α)} {log : Log} {rs : List α}
    (h : SideBySide places ps log rs) : ∃ turns, (pool places turns ps).Traces log rs := by
  induction h with
  | finished rs =>
    refine ⟨[], ?_⟩
    change ((rs.map done).mapM id).Traces [] rs
    induction rs with
    | nil => exact traces_mapM_nil.mpr ⟨rfl, rfl⟩
    | cons r rs ih => exact traces_mapM_cons.mpr ⟨[], r, [], rs, rfl, rfl, ⟨rfl, rfl⟩, ih⟩
  | @turn before q next after a log rs hi _ ih =>
    obtain ⟨turns, ht⟩ := ih
    refine ⟨before.length :: turns, ?_⟩
    rw [pool, if_pos (by simpa using hi), advance_middle, traces_bind]
    exact ⟨[⟨q, a⟩], _, log, rfl, ⟨a, [], rfl, rfl, rfl⟩, ht⟩

/-- **The turns of a pool are the orders of steps of programs side by side.** -/
theorem exists_turns_iff (hp : 1 ≤ places) {ps : List (Program α)} {log : Log} {rs : List α} :
    (∃ turns, (pool places turns ps).Traces log rs) ↔ SideBySide places ps log rs :=
  ⟨fun ⟨_, h⟩ => sideBySide_of_traces hp h, SideBySide.exists_turns⟩

theorem forall₂_middle {β γ : Type} {R : β → γ → Prop} {before : List β} {b : β} {after : List β}
    {cs : List γ} (h : List.Forall₂ R (before ++ b :: after) cs) :
    ∃ before' c after', cs = before' ++ c :: after' ∧ List.Forall₂ R before before' ∧ R b c ∧
      List.Forall₂ R after after' := by
  induction before generalizing cs with
  | nil =>
    obtain ⟨c, after', hb, ha, rfl⟩ := List.forall₂_cons_left_iff.mp h
    exact ⟨[], c, after', rfl, .nil, hb, ha⟩
  | cons x before ih =>
    obtain ⟨y, cs', hx, ht, rfl⟩ := List.forall₂_cons_left_iff.mp h
    obtain ⟨before', c, after', rfl, h₁, h₂, h₃⟩ := ih ht
    exact ⟨y :: before', c, after', rfl, .cons hx h₁, h₂, h₃⟩

/-- **Each program runs by itself**: it has a trace of its own, the logs of these are interleaved,
and the results stand in the order of the programs. -/
theorem SideBySide.threads {ps : List (Program α)} {log : Log} {rs : List α}
    (h : SideBySide places ps log rs) :
    ∃ ts : List (Log × α), List.Forall₂ (fun p t => p.Traces t.1 t.2) ps ts ∧
      Interleaves (ts.map Prod.fst) log ∧ rs = ts.map Prod.snd := by
  induction h with
  | finished rs =>
    refine ⟨rs.map fun r => ([], r), ?_, .nil (by simp), by simp [Function.comp_def]⟩
    rw [List.forall₂_map_left_iff, List.forall₂_map_right_iff, List.forall₂_same]
    exact fun r _ => ⟨rfl, rfl⟩
  | @turn before q next after a log rs _ _ ih =>
    obtain ⟨ts, ht, hl, rfl⟩ := ih
    obtain ⟨before', t, after', rfl, h₁, h₂, h₃⟩ := forall₂_middle ht
    refine ⟨before' ++ (⟨q, a⟩ :: t.1, t.2) :: after', ?_, ?_, by simp⟩
    · exact List.rel_append h₁ (.cons ⟨a, t.1, rfl, h₂⟩ h₃)
    · rw [List.map_append, List.map_cons] at hl ⊢
      exact .cons _ _ _ _ hl

end Program

end SuiteEngine.Host
