import Mathlib.Algebra.GroupWithZero.Nat
import SuiteEngine.Proofs.Except
import SuiteEngine.Report.Summary
import SuiteEngine.Report.Workbook

/-!
# Totals

Cases are counted in several places: one by one over all suites, suite by suite, and as rows of a sheet.
All of these give the same numbers.

Headlines:
* `Totals.get_of`: the totals of a run are the sums of the counts of its suites.
* `Totals.total_of`: together they are the number of all cases.
* `summary_counts`, `infoSheet_counts`, `resultsSheet_rows`: what the reports show.
* `anyFailure_iff`: when a run has failures.
-/

namespace SuiteEngine.Report

open Spreadsheet (Cell Sheet)

variable {suites : List SuiteResult} {s : SuiteResult} {st : Status} {t : Totals}

/-- How many cases of some suites ended in a way. -/
def countAll (suites : List SuiteResult) (st : Status) : Nat :=
  (suites.map (SuiteResult.count · st)).sum

/-- How many cases some suites have. -/
def caseCount (suites : List SuiteResult) : Nat := (suites.map fun s => s.cases.length).sum

/-! ## Counting -/

theorem Totals.get_add (t : Totals) (one st : Status) :
    (t.add one).get st = t.get st + if one = st then 1 else 0 := by
  cases one <;> cases st <;> rfl

theorem Totals.get_foldl_add (t : Totals) (ended : List Status) (st : Status) :
    (ended.foldl Totals.add t).get st = t.get st + ended.count st := by
  induction ended generalizing t with
  | nil => rfl
  | cons one ended ih =>
    rw [List.foldl_cons, ih, Totals.get_add, List.count_cons]
    simp only [beq_iff_eq]
    omega

theorem Totals.get_addSuite (t : Totals) (s : SuiteResult) (st : Status) :
    (t.addSuite s).get st = t.get st + s.count st := by
  rw [Totals.addSuite, Totals.get_foldl_add, List.count, List.countP_map]
  rfl

theorem Totals.get_foldl_addSuite (t : Totals) (suites : List SuiteResult) (st : Status) :
    (suites.foldl Totals.addSuite t).get st = t.get st + countAll suites st := by
  induction suites generalizing t with
  | nil => rfl
  | cons s suites ih =>
    rw [List.foldl_cons, ih, Totals.get_addSuite, countAll, countAll, List.map_cons, List.sum_cons,
      Nat.add_assoc]

/-- **The totals are the sums of the counts of the suites.** -/
theorem Totals.get_of (suites : List SuiteResult) (st : Status) :
    (Totals.of suites).get st = countAll suites st := by
  rw [Totals.of, Totals.get_foldl_addSuite]
  cases st <;> exact Nat.zero_add _

/-- A case ended in exactly one way. -/
theorem count_statuses (s : SuiteResult) :
    s.count .passed + s.count .failed + s.count .skipped + s.count .blocked = s.cases.length := by
  unfold SuiteResult.count
  induction s.cases with
  | nil => rfl
  | cons c cases ih =>
    simp only [List.countP_cons, List.length_cons, ← ih]
    cases c.status <;> simp <;> omega

theorem countAll_statuses (suites : List SuiteResult) :
    countAll suites .passed + countAll suites .failed + countAll suites .skipped +
      countAll suites .blocked = caseCount suites := by
  unfold countAll caseCount
  induction suites with
  | nil => rfl
  | cons s suites ih =>
    have := count_statuses s
    simp only [List.map_cons, List.sum_cons]
    omega

/-- **The totals together are the number of all cases.** -/
theorem Totals.total_of (suites : List SuiteResult) : (Totals.of suites).total = caseCount suites := by
  rw [← countAll_statuses, ← Totals.get_of, ← Totals.get_of, ← Totals.get_of, ← Totals.get_of]
  rfl

theorem countAll_append (suites more : List SuiteResult) (st : Status) :
    countAll (suites ++ more) st = countAll suites st + countAll more st := by
  rw [countAll, List.map_append, List.sum_append]
  rfl

/-! ## Failures -/

theorem hasFailures_iff : s.hasFailures = true ↔ 0 < s.count .failed + s.count .blocked := by
  rw [SuiteResult.hasFailures, List.any_eq_true, Nat.add_pos_iff_pos_or_pos, SuiteResult.count,
    SuiteResult.count, List.countP_pos_iff, List.countP_pos_iff, ← exists_or]
  simp only [CaseResult.isFailure, Bool.or_eq_true, and_or_left]

theorem countAll_pos_iff : 0 < countAll suites st ↔ ∃ s ∈ suites, 0 < s.count st := by
  rw [countAll, List.sum_pos_iff_exists_pos_nat]
  simp

/-- **Some suite has failures if and only if a case failed or was blocked.** -/
theorem anyFailure_iff :
    suites.any SuiteResult.hasFailures = true ↔
      0 < countAll suites .failed + countAll suites .blocked := by
  rw [List.any_eq_true, Nat.add_pos_iff_pos_or_pos, countAll_pos_iff, countAll_pos_iff, ← exists_or]
  simp only [hasFailures_iff, Nat.add_pos_iff_pos_or_pos, and_or_left]

/-! ## Reports -/

/-- What reports call the number of the cases that ended in a way. -/
def Status.label : Status → String
  | .passed => "passed"
  | .failed => "failed"
  | .skipped => "skipped"
  | .blocked => "blocked"

/-- **The numbers in the summary.** -/
theorem summary_counts (environment : String) (suites : List SuiteResult) (duration : Value)
    (timestamp : String) :
    (summary environment suites duration timestamp).get? "totalTests" =
        some (.int (caseCount suites)) ∧
      ∀ st, (summary environment suites duration timestamp).get? (Status.label st) =
        some (.int (countAll suites st)) := by
  refine ⟨?_, fun st => ?_⟩
  · rw [← Totals.total_of]
    rfl
  · rw [← Totals.get_of]
    cases st <;> rfl

/-- The rows with the numbers of the cases. -/
def countRows (suites : List SuiteResult) : List (List Cell) :=
  [.text "total", .int (caseCount suites)] ::
    Status.all.map fun st => [.text (Status.label st), .int (countAll suites st)]

/-- **The numbers in the sheet of the run.** -/
theorem infoSheet_counts {info : RunInfo} {sheet : Sheet} (h : infoSheet info suites = .ok sheet) :
    sheet.rows.drop 7 = countRows suites := by
  unfold infoSheet at h
  obtain ⟨start, -, h⟩ := bind_eq_ok.mp h
  obtain ⟨environment, -, h⟩ := bind_eq_ok.mp h
  obtain ⟨apiBaseUrl, -, h⟩ := bind_eq_ok.mp h
  obtain ⟨uiBaseUrl, -, h⟩ := bind_eq_ok.mp h
  obtain ⟨outputPath, -, h⟩ := bind_eq_ok.mp h
  obtain rfl := Except.ok.inj h
  simp only [countRows, ← Totals.total_of, ← Totals.get_of]
  rfl

theorem textCell_word (st : Status) : textCell st.word = .ok (.text st.word) := by
  cases st <;>
    simp [textCell, kept, Status.word, isIllegal, cellLimit, Cell.ofText, Spreadsheet.errorCodes,
      Spreadsheet.stored, Text.unifyLineEnds, String.startsWith_string_iff]

/-- The row of a case shows how it ended. -/
theorem caseRow_status {c : CaseResult} {row : List Cell} (h : caseRow s c = .ok row) :
    row[4]? = some (.text c.status.word) := by
  unfold caseRow at h
  obtain ⟨suite, -, h⟩ := bind_eq_ok.mp h
  obtain ⟨kind, -, h⟩ := bind_eq_ok.mp h
  obtain ⟨name, -, h⟩ := bind_eq_ok.mp h
  obtain ⟨tags, -, h⟩ := bind_eq_ok.mp h
  obtain ⟨status, hs, h⟩ := bind_eq_ok.mp h
  obtain ⟨failureKind, -, h⟩ := bind_eq_ok.mp h
  obtain ⟨message, -, h⟩ := bind_eq_ok.mp h
  obtain rfl := Except.ok.inj h
  rw [textCell_word] at hs
  obtain rfl := Except.ok.inj hs
  rfl

theorem rowAt_eq_ok {place : Nat} {c : CaseResult} {row : List Cell} :
    rowAt place s c = .ok row ↔ place ≤ rowLimit ∧ caseRow s c = .ok row := by
  unfold rowAt
  split <;> simp [*]

theorem forall₂_rowAt {cases : List (SuiteResult × CaseResult)} {rows : List (List Cell)} {k : Nat} :
    List.Forall₂ (fun p row => rowAt p.2 p.1.1 p.1.2 = .ok row) (cases.zipIdx k) rows ↔
      (∀ i < cases.length, k + i ≤ rowLimit) ∧
        List.Forall₂ (fun p row => caseRow p.1 p.2 = .ok row) cases rows := by
  induction cases generalizing k rows with
  | nil => cases rows <;> simp
  | cons p cases ih =>
    cases rows with
    | nil => simp
    | cons row rows =>
      rw [List.zipIdx_cons, List.forall₂_cons, List.forall₂_cons, ih, rowAt_eq_ok, List.length_cons,
        Nat.forall_lt_succ_left, Nat.add_zero]
      simp only [Nat.add_right_comm k 1, Nat.add_assoc]
      tauto

/-- The cases have rows when there is room for them and each of them has one. -/
theorem caseRows_eq_ok {rows : List (List Cell)} :
    caseRows suites = .ok rows ↔ (tabulated suites).length < rowLimit ∧
      List.Forall₂ (fun p row => caseRow p.1 p.2 = .ok row) (tabulated suites) rows := by
  rw [caseRows, mapM_eq_ok, forall₂_rowAt]
  refine and_congr_left fun _ => ⟨fun h => ?_, fun h i hi => by omega⟩
  by_contra hlt
  have := h (rowLimit - 1)
  simp only [rowLimit] at *
  omega

theorem tabulated_cases (suites : List SuiteResult) :
    (tabulated suites).map Prod.snd = suites.flatMap SuiteResult.cases := by
  simp [tabulated, List.map_flatMap, Function.comp_def]

theorem length_tabulated (suites : List SuiteResult) : (tabulated suites).length = caseCount suites := by
  simp [tabulated, caseCount, List.length_flatMap]

theorem map_status_of_rows {cases : List (SuiteResult × CaseResult)} {rows : List (List Cell)}
    (h : List.Forall₂ (fun p row => caseRow p.1 p.2 = .ok row) cases rows) :
    rows.map (·[4]?) = cases.map fun p => some (.text p.2.status.word) := by
  induction h with
  | nil => rfl
  | cons hr _ ih => rw [List.map_cons, List.map_cons, caseRow_status hr, ih]

/-- **The rows of the sheet of cases**: a heading, and one row for each case, which shows how it ended. -/
theorem resultsSheet_rows {sheet : Sheet} (h : resultsSheet suites = .ok sheet) :
    sheet.rows.length = 1 + caseCount suites ∧
      sheet.rows.tail.map (·[4]?) =
        (suites.flatMap SuiteResult.cases).map fun c => some (.text c.status.word) := by
  obtain ⟨rows, hrows, h⟩ := bind_eq_ok.mp h
  obtain rfl := Except.ok.inj h
  have hall := (caseRows_eq_ok.mp hrows).2
  constructor
  · rw [List.length_cons, ← hall.length_eq, length_tabulated, Nat.add_comm]
  · rw [← tabulated_cases, List.map_map]
    exact map_status_of_rows hall

end SuiteEngine.Report
