import Mathlib.Data.List.TakeWhile
import SuiteEngine.Text.Blank

/-!
# Trimmed lists

What is trimmed away at both ends of a list satisfies the predicate, and the first and the last of what is
left do not. This determines what is left.

Headlines:
* `exists_trimList`: what is trimmed away stands around what is left.
* **`trimList_surrounded`**: what is left of a list.
-/

namespace SuiteEngine.Text

variable {p : Char → Bool} {l m u v : List Char}

theorem mem_of_mem_trimList {c : Char} (h : c ∈ trimList p l) : c ∈ l := by
  have h := (List.dropWhile_suffix p).subset (List.mem_reverse.mp h)
  exact (List.dropWhile_suffix p).subset (List.mem_reverse.mp h)

theorem dropWhile_of_head (h : ∀ c ∈ l.head?, p c = false) : l.dropWhile p = l := by
  cases l with
  | nil => rfl
  | cons c l => exact List.dropWhile_cons_of_neg (by rw [h c rfl]; exact Bool.false_ne_true)

/-- **What is left of a list** is what stands between two stretches to be trimmed away, if it does not
begin or end with such a character. -/
theorem trimList_surrounded (hu : ∀ c ∈ u, p c = true) (hv : ∀ c ∈ v, p c = true)
    (hhead : ∀ c ∈ m.head?, p c = false) (hlast : ∀ c ∈ m.getLast?, p c = false) :
    trimList p (u ++ (m ++ v)) = m := by
  rw [trimList, List.dropWhile_append_of_pos hu]
  cases m with
  | nil =>
    rw [List.nil_append, List.dropWhile_eq_nil_iff.mpr hv]
    rfl
  | cons c m =>
    rw [dropWhile_of_head (l := c :: m ++ v) hhead, List.reverse_append,
      List.dropWhile_append_of_pos fun d hd => hv d (List.mem_reverse.mp hd),
      dropWhile_of_head (by rwa [List.head?_reverse]), List.reverse_reverse]

theorem trimList_of_ends (hhead : ∀ c ∈ m.head?, p c = false) (hlast : ∀ c ∈ m.getLast?, p c = false) :
    trimList p m = m := by
  have h := trimList_surrounded (u := []) (v := []) (fun c hc => absurd hc List.not_mem_nil)
    (fun c hc => absurd hc List.not_mem_nil) hhead hlast
  rwa [List.nil_append, List.append_nil] at h

/-- What is trimmed away stands around what is left. -/
theorem exists_trimList (p : Char → Bool) (l : List Char) :
    ∃ u v, l = u ++ (trimList p l ++ v) ∧ (∀ c ∈ u, p c = true) ∧ (∀ c ∈ v, p c = true) ∧
      (∀ c ∈ (trimList p l).head?, p c = false) ∧
      ∀ c ∈ (trimList p l).getLast?, p c = false := by
  have hfront : ∀ {l : List Char} {c}, c ∈ (l.dropWhile p).head? → p c = false := by
    intro l c hc
    have hnot := List.head?_dropWhile_not p l
    rw [Option.mem_def.mp hc] at hnot
    simpa using hnot
  have hsplit : trimList p l ++ ((l.dropWhile p).reverse.takeWhile p).reverse =
      l.dropWhile p := by
    rw [trimList, ← List.reverse_append, List.takeWhile_append_dropWhile, List.reverse_reverse]
  refine ⟨l.takeWhile p, ((l.dropWhile p).reverse.takeWhile p).reverse, ?_,
    fun c hc => List.mem_takeWhile_imp hc,
    fun c hc => List.mem_takeWhile_imp (List.mem_reverse.mp hc), fun c hc => ?_, fun c hc => ?_⟩
  · rw [hsplit, List.takeWhile_append_dropWhile]
  · refine hfront (l := l) ?_
    rw [← hsplit, List.head?_append, Option.mem_def.mp hc]
    rfl
  · rw [trimList, List.getLast?_reverse] at hc
    exact hfront hc

end SuiteEngine.Text
