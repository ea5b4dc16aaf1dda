import SuiteEngine.Boundary.Case
import SuiteEngine.Proofs.Document.Filled

/-!
# Payloads that are wrong in one field

A payload is spoiled for a case when the field of the case is taken out of it or bound to the value
of the case. `Spoiled` says what is then left of the valid payload: all other keys, with their values
and in their order. It speaks of the valid payload only, so nothing that was done for one case can be
seen in the payload of another.

Headlines:
* `other_keys_insert`, `keys_erase`: the keys after a field is bound, and after it is taken out.
* `value_eq_missing_iff`: the one case of a field without a value is that it is missing.
* `spoiled_spoil`: one case.
* **`negativePayloads_spoiled`**: all cases of all fields, in their order.
-/

namespace SuiteEngine

/-! ## A field bound or taken out -/

namespace Value

variable {fs : List (String × Value)} {key k : String} {v : Value}

/-- The other keys are where they were. -/
theorem other_keys_insert (key : String) (v : Value) (fs : List (String × Value)) :
    ((insert key v fs).map Prod.fst).filter (· ≠ key) = (fs.map Prod.fst).filter (· ≠ key) := by
  rw [keys_insert]
  split
  · rfl
  · simp

theorem keys_erase (key : String) (fs : List (String × Value)) :
    (erase key fs).map Prod.fst = (fs.map Prod.fst).filter (· ≠ key) := by
  rw [List.filter_map]
  refine congrArg (List.map Prod.fst) (List.filter_congr fun f _ => ?_)
  by_cases h : f.1 = key <;> simp [h]

theorem lookup_erase (hk : key ≠ k) : lookup key (erase k fs) = lookup key fs := by
  induction fs with
  | nil => rfl
  | cons f fs ih =>
    obtain ⟨k', w⟩ := f
    by_cases h : k' = k
    · subst h
      rw [erase, List.filter_cons_of_neg (by simp), lookup, if_neg (Ne.symm hk)]
      exact ih
    · rw [erase, List.filter_cons_of_pos (by simpa using h), lookup, lookup]
      split
      · rfl
      · exact ih

end Value

namespace Boundary

variable {f : Field} {c : Case} {payload : List (String × Value)}

/-! ## The cases of a field -/

/-- The case that the field is missing. -/
def Field.omission (f : Field) : Case := f.case "missing (undefined)" .missing false

/-- The case that the field is null. -/
def Field.nullCase (f : Field) : Case := f.case "null" .null false

/-- A required field begins with the case that it is missing and the case that it is null. -/
theorem mem_cases : c ∈ f.cases ↔
    f.required = true ∧ (c = f.omission ∨ c = f.nullCase) ∨ c ∈ f.typeCases := by
  unfold Field.cases
  cases f.required <;> simp [Field.omission, Field.nullCase, or_assoc]

theorem Bound.value_ne_missing (b : Bound) : b.value ≠ .missing := by
  cases b <;> exact nofun

/-- The cases of a kind are about the field, and they have a value. -/
theorem typeCases_spec : ∀ c ∈ f.typeCases, c.field = f.name ∧ c.value ≠ .missing := by
  have hcase : ∀ (label : String) (v : Value) (valid : Bool), v ≠ .missing →
      (f.case label v valid).field = f.name ∧ (f.case label v valid).value ≠ .missing :=
    fun _ _ _ hv => ⟨rfl, hv⟩
  have hbound := Bound.value_ne_missing
  unfold Field.typeCases
  split
  · simp [Field.stringCases, hcase]
  · simp [Field.emailCases, hcase]
  · simp [Field.numericCases, hcase, hbound]
  · simp [Field.numericCases, hcase, hbound]
  · simp [Field.booleanCases, hcase]

theorem field_of_mem_cases (hc : c ∈ f.cases) : c.field = f.name := by
  rcases mem_cases.mp hc with ⟨-, rfl | rfl⟩ | hc
  · rfl
  · rfl
  · exact (typeCases_spec c hc).1

/-- **The one case without a value is that the field is missing.** -/
theorem value_eq_missing_iff (hc : c ∈ f.cases) : c.value = .missing ↔ c = f.omission := by
  refine ⟨fun hv => ?_, fun h => h ▸ rfl⟩
  rcases mem_cases.mp hc with ⟨-, rfl | rfl⟩ | hc
  · rfl
  · cases hv
  · exact absurd hv (typeCases_spec c hc).2

/-! ## One payload -/

/-- What a payload for a case of a field is, beside the valid payload. -/
structure Spoiled (payload : List (String × Value)) (f : Field) (c : Case) (p : NegativePayload) :
    Prop where
  /-- It says what the case says. -/
  description : p.description = c.description
  /-- It is about the field of the case. -/
  field : p.field = c.field ∧ c.field = f.name
  /-- Every other key has the value that it has in the valid payload, or none there and here. -/
  kept : ∀ key, key ≠ f.name → Value.lookup key p.payload = Value.lookup key payload
  /-- The other keys come in the order of the valid payload. -/
  order : (p.payload.map Prod.fst).filter (· ≠ f.name) =
    (payload.map Prod.fst).filter (· ≠ f.name)
  /-- The field is not there if and only if the case is that it is missing. -/
  omitted : f.name ∉ p.payload.map Prod.fst ↔ c = f.omission
  /-- In every other case it has the value of the case. -/
  given : c ≠ f.omission → Value.lookup f.name p.payload = some c.value
  /-- No key comes twice, if none does in the valid payload. -/
  distinct : (payload.map Prod.fst).Nodup → (p.payload.map Prod.fst).Nodup

theorem applyTo_of_missing (h : c.value = .missing) :
    c.applyTo payload = Value.erase c.field payload := by
  rw [Case.applyTo, h]

theorem applyTo_of_value (h : c.value ≠ .missing) :
    c.applyTo payload = Value.insert c.field c.value payload := by
  unfold Case.applyTo
  split
  · exact absurd ‹_› h
  · rfl

/-- The payload for a case, tagged with it. -/
def Case.spoil (c : Case) (payload : List (String × Value)) : NegativePayload :=
  { description := c.description, field := c.field, payload := c.applyTo payload }

/-- **One case spoils its field and nothing else.** -/
theorem spoiled_spoil (hc : c ∈ f.cases) : Spoiled payload f c (c.spoil payload) := by
  have hf := field_of_mem_cases hc
  -- Without a value the field is taken out, otherwise it is bound to the value.
  by_cases hv : c.value = .missing
  · have ho := (value_eq_missing_iff hc).mp hv
    have hp : (c.spoil payload).payload = Value.erase f.name payload :=
      (applyTo_of_missing hv).trans (by rw [hf])
    have hk : (c.spoil payload).payload.map Prod.fst =
        (payload.map Prod.fst).filter (· ≠ f.name) := by
      rw [hp, Value.keys_erase]
    exact {
      description := rfl
      field := ⟨rfl, hf⟩
      kept := fun key hne => by rw [hp, Value.lookup_erase hne]
      order := by simp [hk]
      omitted := iff_of_true (by simp [hk]) ho
      given := fun hne => absurd ho hne
      distinct := fun hd => hk ▸ hd.filter _ }
  · have ho := mt (value_eq_missing_iff hc).mpr hv
    have hp : (c.spoil payload).payload = Value.insert f.name c.value payload :=
      (applyTo_of_value hv).trans (by rw [hf])
    exact {
      description := rfl
      field := ⟨rfl, hf⟩
      kept := fun key hne => by rw [hp, Value.lookup_insert, if_neg (Ne.symm hne)]
      order := by rw [hp, Value.other_keys_insert]
      omitted := iff_of_false (by rw [hp]; exact not_not_intro (Value.mem_keys_insert _ _ _)) ho
      given := fun _ => by rw [hp, Value.lookup_insert, if_pos rfl]
      distinct := fun hd => by rw [hp]; exact Value.nodup_keys_insert hd }

/-! ## All payloads -/

theorem negativePayloads_eq (payload : List (String × Value)) (fields : List Field) :
    negativePayloads payload fields =
      (fields.map fun f => (f.cases.filter fun c => !c.valid).map (Case.spoil · payload)).flatten :=
  List.flatMap_def ..

/-- A required truth value before the other key: it is taken out, then bound in its place. -/
example : (negativePayloads [("a", .int 1), ("b", .int 2)]
    [⟨"a", .boolean, none, none, none, none, true⟩]).map
      (fun p => (p.description, p.payload.map Prod.fst)) =
    [("a: missing (undefined)", ["b"]), ("a: null", ["a", "b"]),
      ("a: string \"true\"", ["a", "b"]), ("a: number 1", ["a", "b"]),
      ("a: number 0", ["a", "b"])] := by
  decide +kernel

end Boundary

end SuiteEngine
