import SuiteEngine.Cli.Program
import SuiteEngine.Proofs.Boundary.Payloads
import SuiteEngine.Proofs.Http.RoundTrip
import SuiteEngine.Proofs.Json.Lengths

/-!
# Values at boundaries in strict JSON

Whatever value a case has, it is written as the nearest value of JSON. What is left to go wrong is that a
whole number is too long to be written: a bound of a field, what lies next to it, or a length that a case
is named after. The program does not foresee that, so it comes through as it is; in all other cases it
prints.

Headlines:
* `Field.isShort_iff`, `Field.isShort_iff_refused`: the fields of which all cases can be written, and all
  those that are not allowed.
* `cases_written_iff`, `payloads_written_iff`: cases and negative payloads, one by one.
* `boundaries_cases`, `boundaries_payloads`: what the program prints.
* **`strictly_written`**: the nearest value of JSON, and what is written by way of it.
-/

namespace SuiteEngine

open Value (IsStrictPart)

/-! ## Cases of a field -/

namespace Boundary

variable {f : Field} {c : Case} {payload : List (String × Value)} {fields : List Field}

/-- The least number that the field may have; that of the safe integers if none is given. -/
def Field.least (f : Field) : Bound := f.min.getD (.int (-maxSafeInteger))

/-- The greatest number that the field may have. -/
def Field.greatest (f : Field) : Bound := f.max.getD (.int maxSafeInteger)

/-- What is written of a number field: its bounds, and what lies next to them outside of the range. -/
def Field.edges (f : Field) : List Value :=
  [f.least.value, (f.least.shift (-1)).value, f.greatest.value, (f.greatest.shift 1).value]

/-- What is written of a field and depends on it: the lengths that the cases of a text are named after,
or the edges of a number. -/
def Field.written (f : Field) : List Value :=
  match f.type with
  | .string => (f.minLength.toList ++ f.maxLength.toList).map fun n : Nat => .int n
  | .number => f.edges
  | .integer => f.edges
  | .email => []
  | .boolean => []

/-- No whole number that is written of the field is too long for that. -/
def Field.IsShort (f : Field) : Prop := ∀ v ∈ f.written, v.IsShort

instance : DecidablePred Field.IsShort := fun f =>
  inferInstanceAs (Decidable (∀ v ∈ f.written, v.IsShort))

theorem Bound.nameable_iff {b : Bound} : b.nameable = true ↔ b.value.IsShort := by
  cases b with
  | int n => exact Value.intFits_iff.trans Value.isShort_int.symm
  | float x => exact iff_of_true rfl (.leaf trivial rfl rfl)

/-- The safe integers are short. -/
theorem isShort_of_small {n : Int} (h : n.natAbs < 10 ^ 16) : (Value.int n).IsShort :=
  Value.isShort_int.mpr (lt_of_lt_of_le h (Nat.pow_le_pow_right (by decide) (by decide)))

theorem isShort_str (s : String) : (Value.str s).IsShort := .leaf trivial rfl rfl

theorem isShort_bool (b : Bool) : (Value.bool b).IsShort := .leaf trivial rfl rfl

theorem isShort_float (x : Float) : (Value.float x).IsShort := .leaf trivial rfl rfl

/-- The numbers that are tried for any bounds are short. -/
theorem isShort_tried : (Value.int 0).IsShort ∧ (Value.int 1).IsShort ∧ (Value.int (-1)).IsShort :=
  ⟨isShort_of_small (by decide), isShort_of_small (by decide), isShort_of_small (by decide)⟩

/-- The bounds that are given can be named if and only if both bounds can be written. -/
theorem all_nameable_iff : (f.min.toList ++ f.max.toList).all Bound.nameable = true ↔
    f.least.value.IsShort ∧ f.greatest.value.IsShort := by
  have hleast : (Bound.int (-maxSafeInteger)).value.IsShort := isShort_of_small (by decide)
  have hgreatest : (Bound.int maxSafeInteger).value.IsShort := isShort_of_small (by decide)
  unfold Field.least Field.greatest
  cases f.min <;> cases f.max <;> simp [Bound.nameable_iff, hleast, hgreatest]

section Numbers

variable {integral : Bool}

/-- The cases of a number can be written if and only if the edges can. -/
theorem forall_numericCases_iff :
    (∀ c ∈ f.numericCases integral, c.value.IsShort) ↔ ∀ v ∈ f.edges, v.IsShort := by
  unfold Field.numericCases Field.edges Field.least Field.greatest
  cases integral <;> simp [Field.case, isShort_str, isShort_float, isShort_tried]

/-- Of the cases that are not allowed, only those beyond the bounds can be too long. -/
theorem forall_refused_iff :
    (∀ c ∈ f.numericCases integral, c.valid = false → c.value.IsShort) ↔
      (f.least.shift (-1)).value.IsShort ∧ (f.greatest.shift 1).value.IsShort := by
  unfold Field.numericCases Field.least Field.greatest
  cases integral <;> simp [Field.case, isShort_str, isShort_float, isShort_tried]

end Numbers

theorem forall_edges_iff : (∀ v ∈ f.edges, v.IsShort) ↔
    (f.least.value.IsShort ∧ f.greatest.value.IsShort) ∧
      (f.least.shift (-1)).value.IsShort ∧ (f.greatest.shift 1).value.IsShort := by
  unfold Field.edges
  simp only [List.forall_mem_cons]
  exact ⟨fun ⟨a, a', b, b', _⟩ => ⟨⟨a, b⟩, a', b'⟩,
    fun ⟨⟨a, b⟩, a', b'⟩ => ⟨a, a', b, b', List.forall_mem_nil _⟩⟩

/-- The lengths that are given can be written if and only if they can be named. -/
theorem forall_lengths_iff {ns : List Nat} :
    (∀ v ∈ ns.map (fun n : Nat => Value.int n), v.IsShort) ↔
      (ns.all fun n => Json.intFits n) = true := by
  simp [Value.isShort_int, Value.intFits_iff]

/-- The cases of the kind can be named and written. -/
theorem typeCases_of_isShort :
    f.IsShort → f.nameable = true ∧ ∀ c ∈ f.typeCases, c.value.IsShort := by
  unfold Field.IsShort Field.written Field.nameable Field.typeCases
  cases f.type with
  | string =>
    exact fun h => ⟨forall_lengths_iff.mp h, by simp [Field.stringCases, Field.case, isShort_str]⟩
  | number | integer =>
    intro h
    exact ⟨all_nameable_iff.mpr (forall_edges_iff.mp h).1, forall_numericCases_iff.mpr h⟩
  | email => exact fun _ => ⟨rfl, by simp [Field.emailCases, Field.case, isShort_str]⟩
  | boolean =>
    exact fun _ =>
      ⟨rfl, by simp [Field.booleanCases, Field.case, isShort_str, isShort_bool, isShort_tried]⟩

/-- The cases that are not allowed tell, beside the names, whether anything is too long. -/
theorem isShort_of_refused : f.nameable = true →
    (∀ c ∈ f.typeCases, c.valid = false → c.value.IsShort) → f.IsShort := by
  unfold Field.IsShort Field.written Field.nameable Field.typeCases
  cases f.type with
  | string => exact fun hn _ => forall_lengths_iff.mpr hn
  | number | integer =>
    exact fun hn hc => forall_edges_iff.mpr ⟨all_nameable_iff.mp hn, forall_refused_iff.mp hc⟩
  | email => exact fun _ _ => List.forall_mem_nil _
  | boolean => exact fun _ _ => List.forall_mem_nil _

theorem isShort_cases (h : f.IsShort) : ∀ c ∈ f.cases, c.value.IsShort := by
  intro c hc
  rcases mem_cases.mp hc with ⟨-, rfl | rfl⟩ | hc
  · exact .leaf trivial rfl rfl
  · exact .leaf trivial rfl rfl
  · exact (typeCases_of_isShort h).2 c hc

/-- **The fields of which all cases can be written.** -/
theorem Field.isShort_iff :
    f.IsShort ↔ f.nameable = true ∧ ∀ c ∈ f.cases, c.value.IsShort :=
  ⟨fun h => ⟨(typeCases_of_isShort h).1, isShort_cases h⟩, fun ⟨hn, hc⟩ =>
    isShort_of_refused hn fun c hm _ => hc c (mem_cases.mpr (.inr hm))⟩

/-- They are the ones of which those cases can be written that are not allowed. -/
theorem Field.isShort_iff_refused :
    f.IsShort ↔ f.nameable = true ∧ ∀ c ∈ f.cases, c.valid = false → c.value.IsShort :=
  ⟨fun h => ⟨(typeCases_of_isShort h).1, fun c hc _ => isShort_cases h c hc⟩, fun ⟨hn, hc⟩ =>
    isShort_of_refused hn fun c hm => hc c (mem_cases.mpr (.inr hm))⟩

theorem forall_isShort_iff_cases : (∀ f ∈ fields, f.IsShort) ↔
    fields.all Field.nameable = true ∧ ∀ c ∈ fields.flatMap Field.cases, c.value.IsShort := by
  simp only [Field.isShort_iff, List.all_eq_true, List.forall_mem_flatMap, imp_and, forall_and]

theorem casesOf_eq_ok {cases : List Case} : casesOf fields = .ok cases ↔
    fields.all Field.nameable = true ∧ cases = fields.flatMap Field.cases := by
  unfold casesOf
  cases fields.all Field.nameable <;> simp [eq_comm]

/-! ## Negative payloads -/

/-- A payload for a case can be written if the value of the case can. -/
theorem isShort_applyTo_iff (hp : (Value.obj payload).IsShort) :
    (Value.obj (c.applyTo payload)).IsShort ↔ c.value.IsShort := by
  have hfields := Value.isShort_obj.mp hp
  -- Without a value the field is taken out, otherwise the value is one of those in the payload.
  by_cases hv : c.value = .missing
  · rw [applyTo_of_missing hv, hv]
    refine iff_of_true (Value.isShort_obj.mpr fun f hf => ?_) (.leaf trivial rfl rfl)
    exact hfields f (List.mem_filter.mp hf).1
  · rw [applyTo_of_value hv]
    refine ⟨fun h => ?_, fun h => Value.isShort_obj.mpr (Json.isShort_insert _ h hfields)⟩
    have hmem : (c.field, c.value) ∈ Value.insert c.field c.value payload :=
      Value.mem_of_lookup (by rw [Value.lookup_insert, if_pos rfl])
    exact Value.isShort_obj.mp h _ hmem

/-- The payloads can be written if the values can that are not allowed. -/
theorem forall_isShort_iff_payloads (hp : (Value.obj payload).IsShort) :
    (∀ f ∈ fields, f.IsShort) ↔ fields.all Field.nameable = true ∧
      ∀ p ∈ negativePayloads payload fields, (Value.obj p.payload).IsShort := by
  simp only [Field.isShort_iff_refused, negativePayloads, List.all_eq_true, List.forall_mem_flatMap,
    List.forall_mem_map, List.mem_filter, and_imp, Bool.not_eq_true', isShort_applyTo_iff hp, imp_and,
    forall_and]

theorem payloadsOf_eq_ok {payloads : List NegativePayload} :
    payloadsOf payload fields = .ok payloads ↔
      fields.all Field.nameable = true ∧ payloads = negativePayloads payload fields := by
  unfold payloadsOf
  cases fields.all Field.nameable <;> simp [eq_comm]

end Boundary

/-! ## What is printed -/

namespace Cli

open Boundary (Case Field NegativePayload)
open Files (Tree)

variable {fields : List Field} {payload : List (String × Value)}

section Entries

variable {P : Value → Prop} (htext : ∀ s, P (.str s)) (htruth : ∀ b, P (.bool b))
  (hobj : ∀ fs, P (.obj fs))
include htext hobj

include htruth in
/-- What texts and truth values have is had by all parts of an entry if it is by those of the value. -/
theorem everywhere_caseEntry (c : Case) :
    (caseEntry c).Everywhere P ↔ c.value.jsonable.Everywhere P := by
  have ht : ∀ s, (Value.str s).Everywhere P := fun s => .leaf (htext s) rfl rfl
  have hb : ∀ b, (Value.bool b).Everywhere P := fun b => .leaf (htruth b) rfl rfl
  unfold caseEntry
  rw [Value.everywhere_obj (hobj _)]
  cases c.value.isMissing <;> simp [ht, hb]

theorem everywhere_payloadEntry (p : NegativePayload) :
    (payloadEntry p).Everywhere P ↔ (Value.obj p.payload).jsonable.Everywhere P := by
  have ht : ∀ s, (Value.str s).Everywhere P := fun s => .leaf (htext s) rfl rfl
  unfold payloadEntry
  rw [Value.everywhere_obj (hobj _)]
  simp [ht]

end Entries

theorem strict_caseEntry (c : Case) : (caseEntry c).Everywhere IsStrictPart :=
  (everywhere_caseEntry (fun _ => trivial) (fun _ => trivial) (fun _ => trivial) c).mpr
    (Value.strict_jsonable _)

theorem isShort_caseEntry (c : Case) : (caseEntry c).IsShort ↔ c.value.IsShort :=
  (everywhere_caseEntry (fun _ => trivial) (fun _ => trivial) (fun _ => trivial) c).trans
    (Value.isShort_jsonable _)

theorem strict_payloadEntry (p : NegativePayload) : (payloadEntry p).Everywhere IsStrictPart :=
  (everywhere_payloadEntry (fun _ => trivial) (fun _ => trivial) p).mpr (Value.strict_jsonable _)

theorem isShort_payloadEntry (p : NegativePayload) :
    (payloadEntry p).IsShort ↔ (Value.obj p.payload).IsShort :=
  (everywhere_payloadEntry (fun _ => trivial) (fun _ => trivial) p).trans (Value.isShort_jsonable _)

/-! ### Entries one by one -/

/-- **The fields of which all cases can be had and written.** -/
theorem cases_written_iff (fields : List Field) :
    (∃ cases, Boundary.casesOf fields = .ok cases ∧
      ∀ c ∈ cases, ∀ indent, ∃ text, Json.dump indent (caseEntry c) = .ok text) ↔
        ∀ f ∈ fields, f.IsShort := by
  simp only [Boundary.casesOf_eq_ok, Json.dump_isOk_iff (strict_caseEntry _), isShort_caseEntry,
    Boundary.forall_isShort_iff_cases, forall_const, and_assoc, exists_and_left, exists_eq_left]

/-- **The fields for which all negative payloads can be had and written.** -/
theorem payloads_written_iff (hp : (Value.obj payload).IsShort) (fields : List Field) :
    (∃ payloads, Boundary.payloadsOf payload fields = .ok payloads ∧
      ∀ p ∈ payloads, ∀ indent, ∃ text, Json.dump indent (payloadEntry p) = .ok text) ↔
        ∀ f ∈ fields, f.IsShort := by
  simp only [Boundary.payloadsOf_eq_ok, Json.dump_isOk_iff (strict_payloadEntry _),
    isShort_payloadEntry, Boundary.forall_isShort_iff_payloads hp, forall_const, and_assoc,
    exists_and_left, exists_eq_left]

/-! ### The program -/

/-- What is printed for values that JSON has a form for. -/
theorem printedList_of_strict {vs : List Value} (h : ∀ v ∈ vs, v.Everywhere IsStrictPart) :
    printedList vs =
      if ∀ v ∈ vs, v.IsShort then .ok (.printed (Json.render .indented (.list vs) ++ "\n"))
      else .error Boundary.unnameable := by
  unfold printedList
  rw [Json.dump_of_strict (.ofList trivial h)]
  by_cases hs : ∀ v ∈ vs, v.IsShort
  · rw [if_pos hs, if_pos ((Value.isShort_array rfl).mpr hs)]
    rfl
  · rw [if_neg hs, if_neg (mt (Value.isShort_array rfl).mp hs)]
    rfl

/-- What is printed, if all can be named. -/
theorem printed_named (named : Bool) {vs : List Value} (h : ∀ v ∈ vs, v.Everywhere IsStrictPart)
    (hs : (∀ f ∈ fields, f.IsShort) ↔ named = true ∧ ∀ v ∈ vs, v.IsShort) :
    (if named then printedList vs else .error Boundary.unnameable) =
      if ∀ f ∈ fields, f.IsShort then
        .ok (.printed (Json.render .indented (.list vs) ++ "\n"))
      else .error Boundary.unnameable := by
  rw [printedList_of_strict h]
  by_cases hn : named = true
  · -- With all names there, the entries decide.
    rw [if_pos hn]
    exact if_congr ((hs.trans (and_iff_right hn)).symm) rfl rfl
  · rw [if_neg hn, if_neg fun hf => hn (hs.mp hf).1]

/-- **What is printed of the cases of some fields.** -/
theorem printed_cases (fields : List Field) :
    (do printedList ((← Boundary.casesOf fields).map caseEntry)) =
      if ∀ f ∈ fields, f.IsShort then
        .ok (.printed
          (Json.render .indented (.list ((fields.flatMap Field.cases).map caseEntry)) ++ "\n"))
      else .error Boundary.unnameable := by
  have hstrict : ∀ v ∈ (fields.flatMap Field.cases).map caseEntry, v.Everywhere IsStrictPart :=
    List.forall_mem_map.mpr fun c _ => strict_caseEntry c
  rw [← printed_named (fields.all Field.nameable) hstrict]
  · unfold Boundary.casesOf
    cases fields.all Field.nameable <;> rfl
  · simp only [Boundary.forall_isShort_iff_cases, List.forall_mem_map, isShort_caseEntry]

/-- **What is printed of the negative payloads for some fields.** -/
theorem printed_payloads (hp : (Value.obj payload).IsShort) (fields : List Field) :
    (do printedList ((← Boundary.payloadsOf payload fields).map payloadEntry)) =
      if ∀ f ∈ fields, f.IsShort then
        .ok (.printed (Json.render .indented
          (.list ((Boundary.negativePayloads payload fields).map payloadEntry)) ++ "\n"))
      else .error Boundary.unnameable := by
  have hstrict : ∀ v ∈ (Boundary.negativePayloads payload fields).map payloadEntry,
      v.Everywhere IsStrictPart :=
    List.forall_mem_map.mpr fun p _ => strict_payloadEntry p
  rw [← printed_named (fields.all Field.nameable) hstrict]
  · unfold Boundary.payloadsOf
    cases fields.all Field.nameable <;> rfl
  · simp only [Boundary.forall_isShort_iff_payloads hp, List.forall_mem_map, isShort_payloadEntry]

/-- A payload that was read can be written. -/
theorem isShort_of_readPayload {files : Tree} {path : String}
    (h : readPayload files path = .ok (.ok payload)) : (Value.obj payload).IsShort := by
  obtain ⟨text, -, h⟩ := bind_eq_ok.mp h
  split at h
  · rename_i fs hparse
    obtain rfl := Except.ok.inj (Except.ok.inj h)
    exact Json.isShort_of_parse hparse
  · cases h
  · split at h <;> cases h

variable {files : Tree} {g : Given}

/-- **What the program prints of the cases of fields.** -/
theorem boundaries_cases
    (hf : Field.load files (.ofText ((g.last? "--fields").getD "")) = .ok fields)
    (hp : g.last? "--payload" = none) :
    boundaries files g =
      if ∀ f ∈ fields, f.IsShort then
        .ok (.printed
          (Json.render .indented (.list ((fields.flatMap Field.cases).map caseEntry)) ++ "\n"))
      else .error Boundary.unnameable := by
  rw [← printed_cases]
  unfold boundaries
  rw [hf, hp]
  rfl

/-- **What the program prints of the negative payloads for fields.** -/
theorem boundaries_payloads
    (hf : Field.load files (.ofText ((g.last? "--fields").getD "")) = .ok fields) {path : String}
    (hp : g.last? "--payload" = some path) (hr : readPayload files path = .ok (.ok payload)) :
    boundaries files g =
      if ∀ f ∈ fields, f.IsShort then
        .ok (.printed (Json.render .indented
          (.list ((Boundary.negativePayloads payload fields).map payloadEntry)) ++ "\n"))
      else .error Boundary.unnameable := by
  rw [← printed_payloads (isShort_of_readPayload hr)]
  unfold boundaries
  rw [hf, hp]
  change (readPayload files path >>= _) = _
  rw [hr]
  rfl

end Cli

/-! ## All together -/

open Boundary (Field) in
/-- **The nearest value of JSON, and what is written by way of it.** Whatever the value, JSON has a form
for all of its nearest value, which can be written unless an integer in it is too long. So the cases of
some fields can be had and written, and so can the negative payloads for them, unless a whole number is
too long that is written of a field. This way the bodies of requests are written, and the program
prints the cases and the payloads. -/
theorem strictly_written (v body : Value) (hs : Http.Headers) (fields : List Field)
    (payload : List (String × Value)) (files : Files.Tree) (g : Cli.Given) :
    Value.IsNearest v v.jsonable ∧
    (∀ indent, Json.dump indent v.jsonable =
      if v.IsShort then .ok (Json.render ⟨false, indent⟩ v.jsonable)
      else .error (Json.Unwritable.longInteger.failure indent)) ∧
    ((∃ cases, Boundary.casesOf fields = .ok cases ∧
      ∀ c ∈ cases, ∀ indent, ∃ text, Json.dump indent (Cli.caseEntry c) = .ok text) ↔
        ∀ f ∈ fields, f.IsShort) ∧
    ((Value.obj payload).IsShort →
      ((∃ payloads, Boundary.payloadsOf payload fields = .ok payloads ∧
        ∀ p ∈ payloads, ∀ indent, ∃ text, Json.dump indent (Cli.payloadEntry p) = .ok text) ↔
          ∀ f ∈ fields, f.IsShort)) ∧
    (Http.isDocument body = true → Http.encodeBody body hs =
      (Json.dump none body.jsonable).map fun text =>
        (some (Text.encode text), hs.orElse Http.contentTypeName Http.jsonContent)) ∧
    (Http.isDocument body = false → ∃ sent, Http.encodeBody body hs = .ok sent) ∧
    (Field.load files (.ofText ((g.last? "--fields").getD "")) = .ok fields →
      (g.last? "--payload" = none → Cli.boundaries files g =
        if ∀ f ∈ fields, f.IsShort then
          .ok (.printed (Json.render .indented
            (.list ((fields.flatMap Field.cases).map Cli.caseEntry)) ++ "\n"))
        else .error Boundary.unnameable) ∧
      ∀ path, g.last? "--payload" = some path → Cli.readPayload files path = .ok (.ok payload) →
        Cli.boundaries files g =
          if ∀ f ∈ fields, f.IsShort then
            .ok (.printed (Json.render .indented
              (.list ((Boundary.negativePayloads payload fields).map Cli.payloadEntry)) ++ "\n"))
          else .error Boundary.unnameable) := by
  refine ⟨Value.isNearest_jsonable v, fun indent => Json.dump_jsonable indent v,
    Cli.cases_written_iff fields, fun hp => Cli.payloads_written_iff hp fields,
    fun h => Http.encodeBody_dump h hs, fun h => Http.encodeBody_other h hs,
    fun hf => ⟨Cli.boundaries_cases hf, fun path hp hr => ?_⟩⟩
  exact Cli.boundaries_payloads hf hp hr

/-- An integer that can be written and is the greatest that a field may have; the next one cannot. -/
def longestField : Boundary.Field :=
  { name := "n", type := .integer, minLength := none, maxLength := none, min := none
    max := some (.int (10 ^ Text.digitLimit - 1)), required := false }

/-- All cases of this field can be had, but not all of them can be written. -/
theorem strictly_written_longest :
    (Value.obj []).IsShort ∧ longestField.nameable = true ∧ ¬longestField.IsShort ∧
      ¬(∃ cases, Boundary.casesOf [longestField] = .ok cases ∧
        ∀ c ∈ cases, ∀ indent, ∃ text, Json.dump indent (Cli.caseEntry c) = .ok text) ∧
      ¬∃ payloads, Boundary.payloadsOf [] [longestField] = .ok payloads ∧
        ∀ p ∈ payloads, ∀ indent, ∃ text, Json.dump indent (Cli.payloadEntry p) = .ok text := by
  have hempty : (Value.obj []).IsShort := by decide
  have hname : longestField.nameable = true := by decide +kernel
  have hlong : ¬longestField.IsShort := by decide +kernel
  obtain ⟨-, -, hcases, hpayloads, -⟩ :=
    strictly_written .null .null [] [longestField] [] ⟨[], []⟩ .nothing
  refine ⟨hempty, hname, hlong, fun h => hlong ?_, fun h => hlong ?_⟩
  · exact hcases.mp h longestField List.mem_cons_self
  · exact (hpayloads hempty).mp h longestField List.mem_cons_self

end SuiteEngine
