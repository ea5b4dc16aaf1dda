import SuiteEngine.Proofs.Document.Sorted
import SuiteEngine.Proofs.Json.Ascii
import SuiteEngine.Schema.Compile

/-!
# The text that a schema is known by

A schema is known by one line of ASCII with its keys sorted. To print with sorted keys is to print the
sorted value, and what is printed is read back; so the text tells two schemas apart unless one is the
other with its keys in another order, and it is compiled to the schema with its keys sorted.

Headlines:
* `renderAt_sortKeys`: printing with sorted keys.
* `parse_canonical`, `compile_canonical`: what the text is read as.
* **`canonical_eq_iff`**: which schemas have the same text.
-/

namespace SuiteEngine

open Relation (ReflTransGen)
open Value (Reordered Somewhere)

namespace Json

open Value

/-! ## Printing with sorted keys -/

theorem enclose_sortedLine : Layout.sortedLine.enclose = Layout.line.enclose := rfl

/-- The order that fields are sorted in does not depend on their values. -/
theorem map_sortFields {α : Type} (f : Value → α) (fs : List (String × Value)) :
    (sortFields fs).map (fun e => (e.1, f e.2)) =
      (fs.map fun e => (e.1, f e.2)).mergeSort fun a b => decide (a.1 ≤ b.1) :=
  List.map_mergeSort fun _ _ _ _ => rfl

mutual
/-- **To print with sorted keys is to print the sorted value.** -/
theorem renderAt_sortKeys : ∀ (v : Value) (depth : Nat),
    renderAt .sortedLine depth v = renderAt .line depth v.sortKeys
  | .list xs, depth => by
    rw [sortKeys, renderAt, renderAt, renderItems_sortItems xs, enclose_sortedLine]
  | .tuple xs, depth => by
    rw [sortKeys, renderAt, renderAt, renderItems_sortItems xs, enclose_sortedLine]
  | .obj fs, depth => by
    rw [sortKeys, renderAt, renderAt, renderFields_sortEntries fs, enclose_sortedLine,
      renderFields_eq, renderFields_eq, map_sortFields]
    rfl
  | .null, _ | .bool _, _ | .int _, _ | .float _, _ | .str _, _ | .bytes _, _ | .missing, _ => rfl
theorem renderItems_sortItems : ∀ (xs : List Value) (depth : Nat),
    renderItems .sortedLine depth xs = renderItems .line depth (sortItems xs)
  | [], _ => rfl
  | x :: xs, depth => by
    rw [sortItems, renderItems, renderItems, renderAt_sortKeys x, renderItems_sortItems xs]
theorem renderFields_sortEntries : ∀ (fs : List (String × Value)) (depth : Nat),
    renderFields .sortedLine depth fs = renderFields .line depth (sortEntries fs)
  | [], _ => rfl
  | (k, v) :: fs, depth => by
    rw [sortEntries, renderFields, renderFields, renderAt_sortKeys v, renderFields_sortEntries fs]
end

/-- The integers of a value do not depend on the order of its keys. -/
theorem writable_of_reordered {a b : Value} (h : ReflTransGen (Somewhere Reordered) a b)
    (ha : writable a = true) : writable b = true :=
  everywhere_iff.mp (everywhere_of_reordered (fun _ => rfl) (fun _ _ _ _ => rfl) h
    (everywhere_iff.mpr ha))

end Json

namespace Schema

/-! ## The text of a schema -/

theorem canonical_eq (schema : Value) :
    canonical schema = Json.ascii (Json.render .line schema.sortKeys) :=
  congrArg Json.ascii (Json.renderAt_sortKeys schema 0)

section Text

variable {schema other : Value} (h : schema.IsPlain) (hw : Json.writable schema = true)

include h hw

/-- **The text of a schema is read as the schema with its keys sorted.** -/
theorem parse_canonical : Json.parse (canonical schema) = .ok schema.sortKeys := by
  have hsort := Value.sortKeys_reordered h
  rw [canonical_eq]
  exact Json.parse_ascii (Value.isPlain_of_reordered hsort h) (Json.writable_of_reordered hsort hw)

theorem compile_canonical : compile (canonical schema) = compileValue schema.sortKeys := by
  unfold compile
  rw [parse_canonical h hw]

/-- **Two schemas have the same text if and only if one is the other with its keys in another
order.** -/
theorem canonical_eq_iff (h' : other.IsPlain) (hw' : Json.writable other = true) :
    canonical schema = canonical other ↔ ReflTransGen (Somewhere Reordered) schema other := by
  rw [← Value.sortKeys_eq_iff h h']
  constructor
  · intro heq
    have hread := parse_canonical h hw
    rw [heq, parse_canonical h' hw'] at hread
    exact (Except.ok.inj hread).symm
  · intro heq
    rw [canonical_eq, canonical_eq, heq]

end Text

example : canonical (.int 1) ≠ canonical (.bool true) ∧ canonical (.int 1) ≠ canonical (.float 1.0) := by
  decide

end Schema

end SuiteEngine
