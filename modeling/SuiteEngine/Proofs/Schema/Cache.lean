import SuiteEngine.Proofs.Schema.Canonical
import SuiteEngine.Schema.Check

/-!
# What is kept of compiled schemas does not show

A compiled schema is kept under its text, and nothing but the text decides what it is compiled to. So
whatever was asked before, a schema is checked as if nothing were kept, and with what it is compiled to
itself; only schemas that differ in the order of their keys share what is kept.

Headlines:
* `compileValue_ok_iff`: when a schema is compiled, and to what.
* `Kept.compile_spec`, `Kept.check_spec`: one call. `Kept.after_isFaithful`: any number of them.
* **`check_kept`**: a check after any history.
-/

namespace SuiteEngine.Schema

open Relation (ReflTransGen)
open Value (Reordered Somewhere)

/-! ## One call -/

/-- A schema is compiled to itself and its dialect, if the dialect finds nothing wrong with it. -/
theorem compileValue_ok_iff {schema : Value} {c : Compiled} : compileValue schema = .ok c ↔
    dialectOf schema = .ok c.dialect ∧ c.dialect.findings schema = [] ∧ c.schema = schema := by
  obtain ⟨d, found⟩ := c
  unfold compileValue
  cases dialectOf schema with
  | error f => simp
  | ok e =>
    dsimp only
    split
    · rename_i f fs hf
      constructor
      · rintro ⟨⟩
      · rintro ⟨⟨⟩, hnone, -⟩
        exact absurd (hf.symm.trans hnone) (List.cons_ne_nil _ _)
    · rename_i v vs hv
      constructor
      · rintro ⟨⟩
      · rintro ⟨⟨⟩, hnone, -⟩
        exact absurd (hv.symm.trans hnone) (List.cons_ne_nil _ _)
    · rename_i hnone
      constructor
      · rintro ⟨⟩
        exact ⟨rfl, hnone, rfl⟩
      · rintro ⟨⟨⟩, -, rfl⟩
        rfl

/-- Each schema that is kept is the one that its text is compiled to. -/
def Kept.IsFaithful (kept : Kept) : Prop := ∀ e ∈ kept, Schema.compile e.1 = .ok e.2

theorem Kept.nil_isFaithful : Kept.IsFaithful [] := List.forall_mem_nil _

variable {kept : Kept}

/-- **One schema is compiled as if nothing were kept**, and what is kept then is faithful again. -/
theorem Kept.compile_spec (h : kept.IsFaithful) (text : String) :
    (kept.compile text).1 = Schema.compile text ∧ (kept.compile text).2.IsFaithful := by
  unfold Kept.compile
  cases hfound : kept.lookup text with
  | some c =>
    have hc : Schema.compile text = .ok c := by
      obtain ⟨before, after, rfl, -⟩ := List.lookup_eq_some_iff.mp hfound
      exact h (text, c) (by simp)
    exact ⟨hc.symm, List.forall_mem_cons.mpr ⟨hc, fun e he => h e (List.mem_of_mem_filter he)⟩⟩
  | none =>
    cases hc : Schema.compile text with
    | error r => exact ⟨rfl, h⟩
    | ok c =>
      refine ⟨rfl, fun e he => ?_⟩
      rcases List.mem_cons.mp (List.mem_of_mem_take he) with rfl | he
      · exact hc
      · exact h e he

/-- What was compiled last comes first. -/
theorem Kept.compile_head (h : kept.IsFaithful) {text : String} {c : Compiled}
    (hc : Schema.compile text = .ok c) : (kept.compile text).2.head? = some (text, c) := by
  have hnow := (Kept.compile_spec h text).1.trans hc
  unfold Kept.compile at hnow ⊢
  cases hfound : kept.lookup text with
  | some c' =>
    rw [hfound] at hnow
    obtain rfl := Except.ok.inj hnow
    rfl
  | none =>
    dsimp only
    rw [hc]
    rfl

section Check

variable {schema : Value} (data : Value)

/-- A schema that can be written is compiled, and the value is put to it. -/
theorem Kept.check_eq (hw : Json.writable schema = true) : kept.check schema data =
    (answer data (kept.compile (canonical schema)).1, (kept.compile (canonical schema)).2) := by
  unfold Kept.check
  rw [if_pos hw]

theorem Kept.check_unwritable (hw : ¬ Json.writable schema = true) :
    kept.check schema data = (.error .unwritable, kept) := by
  unfold Kept.check
  rw [if_neg hw]

/-- A value is checked against what the text of the schema is compiled to. -/
theorem check_eq (schema : Value) : check schema data =
    if Json.writable schema then answer data (compile (canonical schema)) else .error .unwritable := by
  obtain ⟨hnew, -⟩ := Kept.compile_spec Kept.nil_isFaithful (canonical schema)
  unfold check
  split
  · rename_i hw
    rw [Kept.check_eq data hw, hnew]
  · rename_i hw
    rw [Kept.check_unwritable data hw]

/-- One value is checked as if nothing were kept. -/
theorem Kept.check_spec (h : kept.IsFaithful) (schema data : Value) :
    (kept.check schema data).1 = Schema.check schema data ∧ (kept.check schema data).2.IsFaithful := by
  obtain ⟨hkept, hfaithful⟩ := Kept.compile_spec h (canonical schema)
  rw [Schema.check_eq]
  by_cases hw : Json.writable schema = true
  · rw [Kept.check_eq data hw, if_pos hw, hkept]
    dsimp only
    exact ⟨rfl, hfaithful⟩
  · rw [Kept.check_unwritable data hw, if_neg hw]
    exact ⟨rfl, h⟩

end Check

/-! ## Any history -/

/-- What is kept after values were checked, each pair being a schema and the data. -/
def Kept.after (calls : List (Value × Value)) : Kept :=
  calls.foldl (fun kept call => (kept.check call.1 call.2).2) []

theorem Kept.after_isFaithful (calls : List (Value × Value)) : (Kept.after calls).IsFaithful :=
  List.foldlRecOn calls _ Kept.nil_isFaithful fun _ h call _ => (Kept.check_spec h call.1 call.2).2

/-- **What is kept does not show.** After any history of checks a value is checked as if there were
none: against what the schema is compiled to with its keys sorted, unless it has an integer that
cannot be written. Two schemas have one text if and only if one is the other with its keys in another
order, however deep; so what is kept under the text of a schema was compiled from this schema, as what
is kept after the check is, and schemas that differ in the order of their keys have the same issues in
the same order. -/
theorem check_kept {schema : Value} (h : schema.IsPlain) (calls : List (Value × Value)) (data : Value) :
    ((Kept.after calls).check schema data).1 = check schema data ∧
    check schema data = (if Json.writable schema then answer data (compileValue schema.sortKeys)
      else .error .unwritable) ∧
    (∀ other : Value, other.IsPlain → Json.writable schema = true → Json.writable other = true →
      (canonical schema = canonical other ↔ ReflTransGen (Somewhere Reordered) schema other)) ∧
    (∀ e ∈ Kept.after calls, Json.writable schema = true → e.1 = canonical schema →
      compileValue schema.sortKeys = .ok e.2 ∧ e.2.schema = schema.sortKeys) ∧
    (∀ c, Json.writable schema = true → compileValue schema.sortKeys = .ok c →
      ((Kept.after calls).check schema data).2.head? = some (canonical schema, c)) ∧
    ∀ other, ReflTransGen (Somewhere Reordered) schema other →
      ((Kept.after calls).check other data).1 = check schema data := by
  have hcheck : ∀ other : Value, other.IsPlain → check other data =
      if Json.writable other then answer data (compileValue other.sortKeys)
      else .error .unwritable := by
    intro other hother
    rw [check_eq]
    split
    · rename_i hw
      rw [compile_canonical hother hw]
    · rfl
  have hkept := Kept.after_isFaithful calls
  refine ⟨(Kept.check_spec hkept schema data).1, hcheck schema h, ?_, ?_, ?_, ?_⟩
  · intro other h' hw hw'
    exact canonical_eq_iff h hw h' hw'
  · intro e he hw htext
    have hc := hkept e he
    rw [htext, compile_canonical h hw] at hc
    exact ⟨hc, (compileValue_ok_iff.mp hc).2.2⟩
  · intro c hw hc
    rw [Kept.check_eq data hw]
    exact Kept.compile_head hkept ((compile_canonical h hw).trans hc)
  · intro other hr
    have hw : Json.writable other = Json.writable schema := Bool.eq_iff_iff.mpr
      ⟨Json.writable_of_reordered (Value.reordered_symm hr), Json.writable_of_reordered hr⟩
    rw [(Kept.check_spec hkept other data).1, hcheck other (Value.isPlain_of_reordered hr h),
      hcheck schema h, Value.sortKeys_of_reordered hr h, hw]

/-- A schema of objects with an identifier. -/
def identified : Value := .obj [("type", .str "object"), ("required", .list [.str "id"])]

/-- The same schema with its keys in another order. -/
def identifiedTurned : Value := .obj [("required", .list [.str "id"]), ("type", .str "object")]

/-- At the schema after the other was asked for: they have one text, so what is kept of the other is
used, which does not show. -/
theorem check_kept_turned :
    (identified.IsPlain ∧ Json.writable identified = true) ∧
      canonical identified = canonical identifiedTurned ∧
      ((Kept.after [(identifiedTurned, .null)]).check identified (.obj [])).1 =
        check identified (.obj []) ∧
      ((Kept.after [(identified, .null)]).check identifiedTurned (.obj [])).1 =
        check identified (.obj []) := by
  have hplain : identified.IsPlain := by decide
  have hplain' : identifiedTurned.IsPlain := by decide
  have hwritable : Json.writable identified = true := by decide
  have hturned : ReflTransGen (Somewhere Reordered) identified identifiedTurned :=
    .single (.here (.intro (.swap _ _ _)))
  obtain ⟨hsame, -, htext, -, -, -⟩ := check_kept hplain [(identifiedTurned, .null)] (.obj [])
  obtain ⟨-, -, -, -, -, horder⟩ := check_kept hplain [(identified, .null)] (.obj [])
  exact ⟨⟨hplain, hwritable⟩, (htext identifiedTurned hplain' hwritable (by decide)).mpr hturned, hsame,
    horder identifiedTurned hturned⟩

end SuiteEngine.Schema
