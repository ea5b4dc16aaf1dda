import Mathlib.Data.List.Lex
import Mathlib.Data.String.Basic
import SuiteEngine.Proofs.Files.Tree
import SuiteEngine.Suite.File

/-!
# The suite files that a path stands for

A path that leads to a directory stands for everything below it whose name ends like that of a suite
file, each once and in the order of the names on the way; any other path stands for itself.

Headlines:
* `mem_suiteFilesBelow`, `suiteFilesBelow_sorted`: what is found below a place, and in which order.
* **`discover_discovered`**: what a path stands for.
-/

namespace SuiteEngine.Suite

open Files (Path Place Tree)

variable {files : Tree} {path : Path} {place : Place} {ns ms : List String}

/-- Something was put at a place or below it. -/
def Occupied (files : Tree) (place : Place) : Prop :=
  (files.entry? place).isSome = true ∨ files.hasBelow place = true

theorem occupied_iff : Occupied files place ↔ ∃ e ∈ files.entries, place <+: e.1 := by
  rw [Occupied, Tree.hasBelow_eq_true_iff, Tree.entry?, List.lookup_isSome_iff]
  constructor
  · rintro (⟨e, he, hp⟩ | ⟨e, he, hp⟩)
    · exact ⟨e, he, eq_of_beq hp ▸ List.prefix_rfl⟩
    · exact ⟨e, he, hp.1⟩
  · rintro ⟨e, he, hp⟩
    rcases Nat.lt_or_ge place.length e.1.length with hl | hl
    · exact .inr ⟨e, he, hp, hl⟩
    · exact .inl ⟨e, he, by rw [hp.eq_of_length_le hl, beq_self_eq_true]⟩

theorem mem_beginnings : ms ∈ beginnings ns ↔ ms <+: ns := by
  induction ns generalizing ms with
  | nil => simp [beginnings]
  | cons n ns ih =>
    cases ms with
    | nil => simp [beginnings]
    | cons m ms => simp [beginnings, ih, List.cons_prefix_cons, and_comm, eq_comm]

/-- The names end with the name of a suite file. -/
def NamedAsSuite (ns : List String) : Prop := (ns.getLast?.getD "").endsWith fileSuffix = true

/-- **What is found below a place**: everything there that is named like a suite file. -/
theorem mem_suiteFilesBelow :
    ns ∈ suiteFilesBelow files place ↔ NamedAsSuite ns ∧ Occupied files (place ++ ns) := by
  have hbelow : (∃ ms ∈ files.entries.filterMap fun e =>
      if place.isPrefixOf e.1 then some (e.1.drop place.length) else none, ns <+: ms) ↔
      ∃ e ∈ files.entries, place ++ ns <+: e.1 := by
    simp only [List.mem_filterMap, Option.ite_none_right_eq_some, Option.some.injEq,
      List.isPrefixOf_iff_prefix]
    constructor
    · rintro ⟨_, ⟨e, he, ⟨rest, hrest⟩, rfl⟩, hns⟩
      rw [← hrest, List.drop_left] at hns
      exact ⟨e, he, hrest ▸ (List.prefix_append_right_inj place).mpr hns⟩
    · rintro ⟨e, he, rest, hrest⟩
      refine ⟨_, ⟨e, he, ⟨ns ++ rest, by rw [← hrest, List.append_assoc]⟩, rfl⟩, ?_⟩
      rw [← hrest, List.append_assoc, List.drop_left]
      exact List.prefix_append ns rest
  rw [occupied_iff, ← hbelow]
  simp only [suiteFilesBelow, List.mem_mergeSort, List.mem_eraseDups, List.mem_filter,
    List.mem_flatMap, mem_beginnings, NamedAsSuite, and_comm]

theorem nodup_eraseDups {α : Type} [BEq α] [LawfulBEq α] (l : List α) : l.eraseDups.Nodup := by
  cases l with
  | nil => exact List.nodup_nil
  | cons a l =>
    rw [List.eraseDups_cons, List.nodup_cons, List.mem_eraseDups]
    exact ⟨by simp, nodup_eraseDups _⟩
termination_by l.length
decreasing_by exact Nat.lt_succ_of_le (List.length_filter_le _ l)

/-- Whether a list of names does not come after another one: the first names that differ decide. -/
def notAfter (a b : List String) : Bool := !List.lex b a fun s t => decide (s < t)

theorem notAfter_iff {a b : List String} : notAfter a b = true ↔ a ≤ b := by
  rw [notAfter, Bool.not_eq_true', ← Bool.not_eq_true, ← not_lt, List.lex_eq_true_iff_lex]
  simp only [decide_eq_true_iff]
  exact Iff.rfl

/-- **What is found below a place comes in order**, each once. -/
theorem suiteFilesBelow_sorted : (suiteFilesBelow files place).Pairwise (· < ·) := by
  have htrans : ∀ a b c, notAfter a b = true → notAfter b c = true → notAfter a c = true := by
    simp only [notAfter_iff]
    exact fun a b c => le_trans
  have htotal : ∀ a b, (notAfter a b || notAfter b a) = true := by
    simp only [Bool.or_eq_true, notAfter_iff]
    exact le_total
  have hsorted : (suiteFilesBelow files place).Pairwise (notAfter · · = true) :=
    List.pairwise_mergeSort htrans htotal _
  have hne : (suiteFilesBelow files place).Nodup :=
    (List.mergeSort_perm _ _).nodup_iff.mpr (nodup_eraseDups _)
  exact hsorted.imp₂ (fun a b hab hne => lt_of_le_of_ne (notAfter_iff.mp hab) hne) hne

/-- What a path stands for. -/
structure Discovered (files : Tree) (path : Path) (found : List Path) : Prop where
  /-- A path that leads to no directory stands for itself. -/
  single : files.isDirectory path = false → found = [path]
  /-- A directory stands for what is below it and named like a suite file, in order and each once. -/
  below : ∀ place, files.place path = .ok place → files.isDirectory path = true →
    ∃ names : List (List String),
      found = names.map (fun ns => { path with names := path.names ++ ns }) ∧
      names.Pairwise (· < ·) ∧
      ∀ ns, ns ∈ names ↔ NamedAsSuite ns ∧ Occupied files (place ++ ns)

/-- **What a path stands for.** -/
theorem discover_discovered (files : Tree) (path : Path) :
    Discovered files path (discover files path) where
  single h := by
    unfold discover
    split
    · rw [h]
      rfl
    · rfl
  below place hp hd := by
    refine ⟨suiteFilesBelow files place, ?_, suiteFilesBelow_sorted, fun ns => mem_suiteFilesBelow⟩
    rw [discover, hp]
    exact if_pos hd

end SuiteEngine.Suite
