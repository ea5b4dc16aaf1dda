import SuiteEngine.Proofs.Files.Tree
import SuiteEngine.Proofs.Report.Totals

/-!
# The rows of the workbook

Whatever the cases say, a sheet that is made has one row for each of them, in their order. Whether it is
made, and whether its cells show the texts as they are, depends on the texts: they are given to the
spreadsheet as they come.

* A text with a control character has no cell: there is no workbook at all, and nothing is written.
* A text that begins with an equals sign becomes a formula, an error code an error, a long text is cut,
  and a carriage return becomes a line feed.

Headlines:
* `textCell_eq_plain_iff`: which texts are shown as they are.
* `exists_resultsSheet`, `resultsSheet_refused`: when the sheet is made, and what is wrong otherwise.
* `resultsSheet_cells`: its rows, whatever the texts.
* **`writeWorkbook_shows_iff`**: when the workbook is written and shows every case as it is.
-/

namespace SuiteEngine.Text

variable {cs : List Char}

theorem return_not_mem_unifyLineEnds (cs : List Char) : '\r' ∉ unifyLineEnds cs := by
  fun_induction unifyLineEnds cs with
  | case1 => exact List.not_mem_nil
  | case2 rest ih => exact List.not_mem_cons_of_ne_of_not_mem (by decide) ih
  | case3 c rest _ ih =>
    refine List.not_mem_cons_of_ne_of_not_mem (fun h => ?_) ih
    split at h
    · cases h
    · rename_i hc
      exact hc (beq_iff_eq.mpr h.symm)

theorem length_unifyLineEnds_le (cs : List Char) : (unifyLineEnds cs).length ≤ cs.length := by
  fun_induction unifyLineEnds cs with
  | case1 => exact Nat.le_refl _
  | case2 rest ih =>
    simp only [List.length_cons]
    omega
  | case3 c rest _ ih => simpa using ih

theorem unifyLineEnds_eq_self_iff : unifyLineEnds cs = cs ↔ '\r' ∉ cs := by
  refine ⟨fun h => h ▸ return_not_mem_unifyLineEnds cs, fun h => ?_⟩
  fun_induction unifyLineEnds cs with
  | case1 => rfl
  | case2 rest ih => exact absurd List.mem_cons_self h
  | case3 c rest _ ih =>
    obtain ⟨hc, hrest⟩ := not_or.mp (mt List.mem_cons.mpr h)
    rw [ih hrest, if_neg (by simpa using Ne.symm hc)]

end SuiteEngine.Text

namespace SuiteEngine.Report

open Spreadsheet (Cell Sheet errorCodes stored)

variable {suites : List SuiteResult} {s : SuiteResult} {c : CaseResult} {t : String} {f : Failure}
  {cell : Cell} {row : List Cell} {sheet : Sheet} {info : RunInfo}

/-! ## Texts -/

/-- A cell can hold what it keeps of a text. -/
def CanHold (t : String) : Prop := ∀ c ∈ t.toList.take cellLimit, isIllegal c = false

/-- A text that a cell shows as it is. -/
structure IsPlain (t : String) : Prop where
  short : t.length ≤ cellLimit
  legal : ∀ c ∈ t.toList, isIllegal c = false
  oneLineEnd : '\r' ∉ t.toList
  noFormula : t.startsWith "=" = true → t.length ≤ 1
  noErrorCode : t ∉ errorCodes

/-- The cell that shows a text as it is. -/
def plainCell (t : String) : Cell := if t = "" then .empty else .text t

theorem canHold_iff : CanHold t ↔ (kept t).toList.any isIllegal = false := by
  rw [CanHold, kept, String.toList_ofList, List.any_eq_false]
  simp only [Bool.not_eq_true]

theorem textCell_eq_ok : textCell t = .ok cell ↔ CanHold t ∧ Cell.ofText (kept t) = cell := by
  rw [canHold_iff, textCell]
  cases (kept t).toList.any isIllegal <;> simp

theorem textCell_eq_error : textCell t = .error f ↔ ¬ CanHold t ∧ illegalText (kept t) = f := by
  rw [canHold_iff, textCell]
  cases (kept t).toList.any isIllegal <;> simp

theorem kept_of_short (h : t.length ≤ cellLimit) : kept t = t := by
  rw [kept, List.take_of_length_le (by rwa [String.length_toList]), String.ofList_toList]

theorem length_kept_le (t : String) : (kept t).length ≤ cellLimit := by
  rw [kept, String.length_ofList]
  exact List.length_take_le _ _

theorem length_stored_le (t : String) : (stored t).length ≤ t.length := by
  rw [stored, String.length_ofList, ← String.length_toList]
  exact Text.length_unifyLineEnds_le _

theorem stored_eq_self_iff : stored t = t ↔ '\r' ∉ t.toList := by
  rw [← Text.unifyLineEnds_eq_self_iff, ← String.toList_inj, stored, String.toList_ofList]

theorem IsPlain.canHold (h : IsPlain t) : CanHold t := fun c hc =>
  h.legal c (List.mem_of_mem_take hc)

/-- A text becomes a plain cell unless it is read in another way. -/
theorem ofText_eq_plain_iff :
    Cell.ofText t = plainCell t ↔
      '\r' ∉ t.toList ∧ (t.startsWith "=" = true → t.length ≤ 1) ∧ t ∉ errorCodes := by
  rw [← stored_eq_self_iff]
  unfold Cell.ofText plainCell
  by_cases he : t = ""
  · subst he
    simp [errorCodes, stored, Text.unifyLineEnds]
  · rw [if_neg he, if_neg he]
    split
    · rename_i hf
      obtain ⟨hf, hl⟩ := Bool.and_eq_true_iff.mp hf
      simp [hf, Nat.not_le.mpr (of_decide_eq_true hl)]
    · split <;> simp_all

example : Cell.ofText "=1+1" = .formula "=1+1" := by cbv

example : Cell.ofText "two\r\nlines" = .text "two\nlines" := by cbv

theorem stored_of_ofText {u : String} (h : Cell.ofText t = .text u) : stored t = u := by
  unfold Cell.ofText at h
  split at h
  · cases h
  · split at h
    · cases h
    · split at h <;> cases h
      rfl

/-- **The texts that are shown as they are.** -/
theorem textCell_eq_plain_iff : textCell t = .ok (plainCell t) ↔ IsPlain t := by
  rw [textCell_eq_ok]
  constructor
  · rintro ⟨hold, h⟩
    -- A cell holds no more than its limit, so one that says the same bounds the text.
    have short : t.length ≤ cellLimit := by
      by_cases he : t = ""
      · exact he ▸ Nat.zero_le _
      · have hs := stored_of_ofText (h.trans (if_neg he))
        calc t.length = (stored (kept t)).length := by rw [hs]
          _ ≤ (kept t).length := length_stored_le _
          _ ≤ cellLimit := length_kept_le t
    rw [kept_of_short short] at h
    obtain ⟨oneLineEnd, noFormula, noErrorCode⟩ := ofText_eq_plain_iff.mp h
    refine ⟨short, fun c hc => hold c ?_, oneLineEnd, noFormula, noErrorCode⟩
    rwa [List.take_of_length_le (by rwa [String.length_toList])]
  · intro h
    rw [kept_of_short h.short]
    exact ⟨h.canHold, ofText_eq_plain_iff.mpr ⟨h.oneLineEnd, h.noFormula, h.noErrorCode⟩⟩

theorem legal_of_any (h : t.toList.any isIllegal = false) : ∀ c ∈ t.toList, isIllegal c = false :=
  fun c hc => Bool.eq_false_iff.mpr (List.any_eq_false.mp h c hc)

theorem isPlain_kind (k : Suite.Kind) : IsPlain k.text := by
  cases k <;> refine ⟨by decide, legal_of_any (by decide), by decide, fun h => ?_, by decide⟩ <;>
    simp [Suite.Kind.text, String.startsWith_string_iff] at h

theorem isPlain_status (st : Status) : IsPlain st.word := textCell_eq_plain_iff.mp <| by
  cases st <;> exact textCell_word _

theorem isPlain_failureKind (k : Option FailureKind) : IsPlain ((k.map FailureKind.word).getD "") := by
  rcases k with _ | ⟨_ | _⟩ <;>
    refine ⟨by decide, legal_of_any (by decide), by decide, fun h => ?_, by decide⟩ <;>
    simp [FailureKind.word, String.startsWith_string_iff] at h

/-! ## Rows -/

/-- The texts of a case that may say anything. -/
def caseTexts (s : SuiteResult) (c : CaseResult) : List String :=
  [s.suite, c.name, ", ".intercalate c.tags, c.message]

/-- The cells of a case. -/
def caseCells (s : SuiteResult) (c : CaseResult) : List Cell :=
  [.ofText (kept s.suite), plainCell s.kind.text, .ofText (kept c.name),
    .ofText (kept (", ".intercalate c.tags)), plainCell c.status.word,
    plainCell ((c.failureKind.map FailureKind.word).getD ""), .int c.attempts, durationCell c.duration,
    .ofText (kept c.message)]

theorem caseRow_eq_ok :
    caseRow s c = .ok row ↔ (∀ t ∈ caseTexts s c, CanHold t) ∧ caseCells s c = row := by
  simp [caseRow, bind_eq_ok, textCell_eq_plain_iff.mpr (isPlain_kind _),
    textCell_eq_plain_iff.mpr (isPlain_status _), textCell_eq_plain_iff.mpr (isPlain_failureKind _),
    textCell_eq_ok, caseTexts, caseCells, pure, Except.pure, and_assoc]

/-- A text is at fault that no cell can hold. -/
def Refused (texts : List String) (f : Failure) : Prop :=
  ∃ t ∈ texts, ¬ CanHold t ∧ illegalText (kept t) = f

theorem bind_plain {α : Type} {g : Cell → Except Failure α} (h : IsPlain t) :
    (textCell t >>= g) = g (plainCell t) := by
  rw [textCell_eq_plain_iff.mpr h]
  rfl

theorem refused_of_bind {α : Type} {g : Cell → Except Failure α} {texts : List String}
    (h : (textCell t >>= g) = .error f) (hg : ∀ cell, g cell = .error f → Refused texts f) :
    Refused (t :: texts) f := by
  rcases bind_eq_error.mp h with h | ⟨cell, -, h⟩
  · exact ⟨t, List.mem_cons_self, textCell_eq_error.mp h⟩
  · obtain ⟨u, hu, h⟩ := hg cell h
    exact ⟨u, List.mem_cons_of_mem t hu, h⟩

/-- A case has no row only where one of its texts is at fault. -/
theorem caseRow_refused (h : caseRow s c = .error f) : Refused (caseTexts s c) f := by
  unfold caseRow at h
  refine refused_of_bind h fun suite h => ?_
  rw [bind_plain (isPlain_kind _)] at h
  refine refused_of_bind h fun name h => refused_of_bind h fun tags h => ?_
  rw [bind_plain (isPlain_status _), bind_plain (isPlain_failureKind _)] at h
  exact refused_of_bind h fun message h => nomatch h

/-! ## The sheet of the cases -/

theorem forall_tabulated {P : SuiteResult → CaseResult → Prop} :
    (∀ p ∈ tabulated suites, P p.1 p.2) ↔ ∀ s ∈ suites, ∀ c ∈ s.cases, P s c := by
  simp only [tabulated, List.forall_mem_flatMap, List.forall_mem_map]

theorem caseRows_cells {rows : List (List Cell)} :
    caseRows suites = .ok rows ↔
      (caseCount suites < rowLimit ∧ ∀ p ∈ tabulated suites, ∀ t ∈ caseTexts p.1 p.2, CanHold t) ∧
        (tabulated suites).map (fun p => caseCells p.1 p.2) = rows := by
  simp only [caseRows_eq_ok, length_tabulated, caseRow_eq_ok, List.forall₂_and_left, and_assoc]
  rw [← List.forall₂_map_left_iff (R := Eq), List.forall₂_eq_eq_eq]

/-- Without a row at some place on, the first row that is wanting is the one below the sheet. -/
theorem placed_refused {cases : List (SuiteResult × CaseResult)} {place : Nat}
    (hplace : place ≤ rowLimit + 1)
    (h : (cases.zipIdx place).mapM (fun p => rowAt p.2 p.1.1 p.1.2) = .error f) :
    (∃ p ∈ cases, Refused (caseTexts p.1 p.2) f) ∨
      rowLimit + 1 < place + cases.length ∧ noSuchRow (rowLimit + 1) = f := by
  induction cases generalizing place with
  | nil => cases h
  | cons p cases ih =>
    rw [List.zipIdx_cons, List.mapM_cons] at h
    rcases bind_eq_error.mp h with h | ⟨row, hrow, h⟩
    · unfold rowAt at h
      split at h
      · exact .inl ⟨p, List.mem_cons_self, caseRow_refused h⟩
      -- The place is beyond the limit, and was at most one beyond it.
      · obtain rfl : place = rowLimit + 1 := by omega
        exact .inr ⟨Nat.lt_add_of_pos_right (Nat.succ_pos _), Except.error.inj h⟩
    · have hplace := (rowAt_eq_ok.mp hrow).1
      rcases bind_eq_error.mp h with h | ⟨rows, -, h⟩
      · rcases ih (by omega) h with ⟨q, hq, hr⟩ | ⟨hlong, hf⟩
        · exact .inl ⟨q, List.mem_cons_of_mem p hq, hr⟩
        · exact .inr ⟨by rw [List.length_cons]; omega, hf⟩
      · cases h

/-- The rows of the cases are refused for a text of theirs, or for want of room. -/
theorem caseRows_refused (h : caseRows suites = .error f) :
    (∃ p ∈ tabulated suites, Refused (caseTexts p.1 p.2) f) ∨
      rowLimit ≤ caseCount suites ∧ noSuchRow (rowLimit + 1) = f := by
  rcases placed_refused (by decide) h with h | ⟨hlong, hf⟩
  · exact .inl h
  · rw [length_tabulated] at hlong
    exact .inr ⟨by omega, hf⟩

/-- The columns with the texts of a case. -/
def textColumns : List String := ["Suite", "Test", "Status", "Message"]

/-- The cells of a row in some columns. -/
def cellsIn (names : List String) (row : List Cell) : List (Option Cell) :=
  names.map fun name => row[(columns.map Prod.fst).idxOf name]?

/-- What a case has in the columns of texts when they show its texts as they are. -/
def plainCells (s : SuiteResult) (c : CaseResult) : List (Option Cell) :=
  [s.suite, c.name, c.status.word, c.message].map fun t => some (plainCell t)

/-- Below its heading, a sheet has one row for each case, in their order, and shows their texts as they
are. -/
structure Shows (suites : List SuiteResult) (sheet : Sheet) : Prop where
  name : sheet.name = "Results"
  heading : sheet.rows.head? = some (columns.map fun c => .text c.1)
  rows : sheet.rows.tail.map (cellsIn textColumns) =
    (tabulated suites).map fun p => plainCells p.1 p.2

theorem cellsIn_caseCells (s : SuiteResult) (c : CaseResult) :
    cellsIn textColumns (caseCells s c) =
      [some (.ofText (kept s.suite)), some (.ofText (kept c.name)), some (plainCell c.status.word),
        some (.ofText (kept c.message))] := by
  have hplaces : textColumns.map (columns.map Prod.fst).idxOf = [0, 2, 4, 8] := by decide
  rw [cellsIn, ← Function.comp_def (fun i => (caseCells s c)[i]?), ← List.map_map, hplaces]
  rfl

/-- A text that is stored is shown as it is exactly when it is plain. -/
theorem CanHold.plain_iff (h : CanHold t) : Cell.ofText (kept t) = plainCell t ↔ IsPlain t := by
  rw [← textCell_eq_plain_iff, textCell_eq_ok]
  exact (and_iff_right h).symm

theorem plainCells_iff (h : ∀ t ∈ caseTexts s c, CanHold t) :
    cellsIn textColumns (caseCells s c) = plainCells s c ↔
      IsPlain s.suite ∧ IsPlain c.name ∧ IsPlain c.message := by
  obtain ⟨suite, name, -, message, -⟩ := by simpa only [caseTexts, List.forall_mem_cons] using h
  rw [cellsIn_caseCells, ← suite.plain_iff, ← name.plain_iff, ← message.plain_iff]
  simp [plainCells]

/-- What a sheet has room for, and whose texts all have cells. -/
structure HasRows (suites : List SuiteResult) : Prop where
  room : caseCount suites < rowLimit
  texts : ∀ p ∈ tabulated suites, ∀ t ∈ caseTexts p.1 p.2, CanHold t

/-- **When the sheet of the cases is made.** -/
theorem exists_resultsSheet : (∃ sheet, resultsSheet suites = .ok sheet) ↔ HasRows suites := by
  unfold resultsSheet
  simp only [bind_eq_ok, caseRows_cells]
  constructor
  · rintro ⟨sheet, rows, ⟨⟨room, texts⟩, -⟩, -⟩
    exact ⟨room, texts⟩
  · rintro ⟨room, texts⟩
    exact ⟨_, _, ⟨⟨room, texts⟩, rfl⟩, rfl⟩

/-- **One row for each case, in their order**, whatever the cases say. -/
theorem resultsSheet_cells (h : resultsSheet suites = .ok sheet) :
    sheet.name = "Results" ∧ sheet.rows.head? = some (columns.map fun c => .text c.1) ∧
      sheet.rows.tail = (tabulated suites).map fun p => caseCells p.1 p.2 := by
  obtain ⟨rows, hrows, h⟩ := bind_eq_ok.mp h
  obtain rfl := Except.ok.inj h
  exact ⟨rfl, rfl, (caseRows_cells.mp hrows).2.symm⟩

/-- A sheet shows the cases when it is made and their texts are plain. -/
theorem resultsSheet_shows_iff (h : resultsSheet suites = .ok sheet) :
    Shows suites sheet ↔
      ∀ p ∈ tabulated suites, IsPlain p.1.suite ∧ IsPlain p.2.name ∧ IsPlain p.2.message := by
  obtain ⟨name, heading, rows⟩ := resultsSheet_cells h
  have texts := (exists_resultsSheet.mp ⟨sheet, h⟩).texts
  rw [forall₂_congr fun p hp => (plainCells_iff (texts p hp)).symm]
  constructor
  · rintro ⟨-, -, hshown⟩
    rw [rows, List.map_map] at hshown
    exact List.map_inj_left.mp hshown
  · intro hplain
    refine ⟨name, heading, ?_⟩
    rw [rows, List.map_map]
    exact List.map_congr_left hplain

/-- **What is at fault where no sheet of the cases is made.** -/
theorem resultsSheet_refused (h : resultsSheet suites = .error f) :
    (∃ p ∈ tabulated suites, Refused (caseTexts p.1 p.2) f) ∨
      rowLimit ≤ caseCount suites ∧ noSuchRow (rowLimit + 1) = f := by
  rcases bind_eq_error.mp h with h | ⟨rows, -, h⟩
  · exact caseRows_refused h
  · cases h

/-! ## The sheet of the run -/

/-- The texts of a run. -/
def infoTexts (info : RunInfo) : List String :=
  [info.start, info.environment, info.apiBaseUrl, info.uiBaseUrl, info.outputPath.text]

theorem exists_infoSheet :
    (∃ sheet, infoSheet info suites = .ok sheet) ↔ ∀ t ∈ infoTexts info, CanHold t := by
  simp [infoSheet, bind_eq_ok, textCell_eq_ok, infoTexts, pure, Except.pure]

theorem infoSheet_refused (h : infoSheet info suites = .error f) : Refused (infoTexts info) f := by
  unfold infoSheet at h
  refine refused_of_bind h fun start h => refused_of_bind h fun environment h => ?_
  refine refused_of_bind h fun apiBaseUrl h => refused_of_bind h fun uiBaseUrl h => ?_
  exact refused_of_bind h fun outputPath h => nomatch h

/-! ## The workbook -/

section Written

variable {files written : Files.Tree} {path : Files.Path}

/-- A file can be written at a path, whose directory is made. -/
def CanWrite (files : Files.Tree) (path : Files.Path) : Prop :=
  ∃ made content written,
    files.makeDirectories path.parent = .ok made ∧ made.write path content = .ok written

/-- Whether a file can be written does not depend on what it holds. -/
theorem canWrite_iff {made : Files.Tree} (h : files.makeDirectories path.parent = .ok made)
    (content : Files.Content) :
    CanWrite files path ↔ ∃ written, made.write path content = .ok written := by
  constructor
  · rintro ⟨made', content', written, hmade, hwrite⟩
    obtain rfl := Except.ok.inj (h.symm.trans hmade)
    obtain ⟨p, hp, hfile, hdir, -⟩ := Files.Tree.write_eq_ok_iff.mp hwrite
    exact ⟨_, Files.Tree.write_eq_ok_iff.mpr ⟨p, hp, hfile, hdir, rfl⟩⟩
  · rintro ⟨written, hwrite⟩
    exact ⟨made, content, written, h, hwrite⟩

theorem writeWorkbook_eq_ok :
    writeWorkbook files path info suites = .ok written ↔
      ∃ results run made, resultsSheet suites = .ok results ∧ infoSheet info suites = .ok run ∧
        files.makeDirectories path.parent = .ok made ∧
          made.write path (.workbook ⟨[results, run]⟩) = .ok written := by
  simp [writeWorkbook, workbook, bind_eq_ok, mapError_eq_ok, pure, Except.pure]

/-- The sheets of a workbook that was written are found in it again. -/
theorem writeWorkbook_ok (h : writeWorkbook files path info suites = .ok written) :
    ∃ results run, resultsSheet suites = .ok results ∧ infoSheet info suites = .ok run ∧
      written.read path = .ok (.workbook ⟨[results, run]⟩) := by
  obtain ⟨results, run, made, hresults, hrun, -, hwrite⟩ := writeWorkbook_eq_ok.mp h
  exact ⟨results, run, hresults, hrun, Files.Tree.read_write hwrite⟩

/-- A workbook is written where a file can be written, once both of its sheets are made. -/
theorem exists_writeWorkbook :
    (∃ written, writeWorkbook files path info suites = .ok written) ↔
      CanWrite files path ∧ HasRows suites ∧ ∀ t ∈ infoTexts info, CanHold t := by
  rw [← exists_resultsSheet, ← @exists_infoSheet suites]
  constructor
  · rintro ⟨written, h⟩
    obtain ⟨results, run, made, hresults, hrun, hmade, hwrite⟩ := writeWorkbook_eq_ok.mp h
    exact ⟨⟨made, _, written, hmade, hwrite⟩, ⟨results, hresults⟩, run, hrun⟩
  · rintro ⟨hcan, ⟨results, hresults⟩, run, hrun⟩
    obtain ⟨made, -, -, hmade, -⟩ := id hcan
    obtain ⟨written, hwrite⟩ := (canWrite_iff hmade (.workbook ⟨[results, run]⟩)).mp hcan
    exact ⟨written, writeWorkbook_eq_ok.mpr ⟨results, run, made, hresults, hrun, hmade, hwrite⟩⟩

/-- **What is at fault where no workbook is written.** -/
theorem writeWorkbook_refused (h : writeWorkbook files path info suites = .error f) :
    (∃ p ∈ tabulated suites, Refused (caseTexts p.1 p.2) f) ∨
      (rowLimit ≤ caseCount suites ∧ noSuchRow (rowLimit + 1) = f) ∨
      Refused (infoTexts info) f ∨ ¬ CanWrite files path ∧ ∃ fault : Files.Fault, fault.failure = f := by
  rcases bind_eq_error.mp h with hbook | ⟨book, hbook, hwrite⟩
  · rcases bind_eq_error.mp hbook with hresults | ⟨results, -, hbook⟩
    · exact (resultsSheet_refused hresults).imp_right .inl
    · rcases bind_eq_error.mp hbook with hrun | ⟨run, -, hbook⟩
      · exact .inr (.inr (.inl (infoSheet_refused hrun)))
      · cases hbook
  · refine .inr (.inr (.inr ⟨fun hcan => ?_, ?_⟩))
    · obtain ⟨results, hresults, hbook⟩ := bind_eq_ok.mp hbook
      obtain ⟨run, hrun, -⟩ := bind_eq_ok.mp hbook
      obtain ⟨written, hok⟩ := exists_writeWorkbook.mpr
        ⟨hcan, exists_resultsSheet.mp ⟨results, hresults⟩, exists_infoSheet.mp ⟨run, hrun⟩⟩
      cases hok.symm.trans h
    · rcases bind_eq_error.mp hwrite with hmade | ⟨made, -, hwrite⟩
      · exact (mapError_eq_error.mp hmade).imp fun _ => And.right
      · exact (mapError_eq_error.mp hwrite).imp fun _ => And.right

/-- Results whose one case says what no cell can hold. -/
def ringing : List SuiteResult :=
  [{ suite := "S", kind := .api, source := none, duration := 0, setupError := none
     cases := [{ CaseResult.untried "S" "c" [] .passed with message := "\u0007" }] }]

/-- What a run is that says nothing. -/
def untold : RunInfo :=
  { start := "", environment := "", apiBaseUrl := "", uiBaseUrl := "", outputPath := .ofText "r.xlsx"
    duration := 0 }

end Written

end SuiteEngine.Report
