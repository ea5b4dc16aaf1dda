import SuiteEngine.Decimal.Rounded
import SuiteEngine.Failure
import SuiteEngine.Files.Tree
import SuiteEngine.Report.Result

/-!
# The workbook of a run

One sheet has a row for each case, another one what the run as a whole was. A text longer than a cell can
hold is cut; some characters no cell can hold, and a sheet has only so many rows.
-/

namespace SuiteEngine.Report

open Spreadsheet (Cell Sheet)

/-- What the run as a whole was. -/
structure RunInfo where
  start : String
  environment : String
  apiBaseUrl : String
  uiBaseUrl : String
  outputPath : Files.Path
  duration : Float

/-- The columns of the sheet of cases, with their widths. -/
def columns : List (String × Nat) := [
  ("Suite", 30), ("Kind", 8), ("Test", 45), ("Tags", 20), ("Status", 10), ("Failure Kind", 14),
  ("Attempts", 10), ("Duration (ms)", 14), ("Message", 80)]

/-- How many characters a cell holds. -/
def cellLimit : Nat := 32767

/-- How many rows a sheet has. -/
def rowLimit : Nat := 1048576

/-- Whether no cell can hold the character. -/
def isIllegal (c : Char) : Bool :=
  let n := c.toNat
  n < 9 || n == 11 || n == 12 || (14 ≤ n && n < 32)

/-- What a cell keeps of a text. -/
def kept (s : String) : String := String.ofList (s.toList.take cellLimit)

/-- The failure of a text that no cell can hold. -/
def illegalText (s : String) : Failure :=
  ⟨.other "IllegalCharacterError", s ++ " cannot be used in worksheets."⟩

/-- The cell of a text. -/
def textCell (s : String) : Except Failure Cell :=
  if (kept s).toList.any isIllegal then .error (illegalText (kept s)) else .ok (.ofText (kept s))

/-- The cell of a duration, which holds 16 digits; it is empty where there is no number. -/
def durationCell (x : Float) : Cell :=
  if x.isFinite then .float (floatSignificant (floatRound x 1) 16) else .empty

/-- The row of a case. -/
def caseRow (s : SuiteResult) (c : CaseResult) : Except Failure (List Cell) := do
  return [← textCell s.suite, ← textCell s.kind.text, ← textCell c.name,
    ← textCell (", ".intercalate c.tags), ← textCell c.status.word,
    ← textCell ((c.failureKind.map FailureKind.word).getD ""), .int c.attempts,
    durationCell c.duration, ← textCell c.message]

/-- The failure of a row that no sheet has. -/
def noSuchRow (row : Nat) : Failure :=
  ⟨.other "ValueError", "Row numbers must be between 1 and " ++ toString rowLimit ++
    ". Row number supplied was " ++ toString row⟩

/-- The row of a case at a place of the sheet. -/
def rowAt (row : Nat) (s : SuiteResult) (c : CaseResult) : Except Failure (List Cell) :=
  if row ≤ rowLimit then caseRow s c else .error (noSuchRow row)

/-- The cases with their suites, in the order of their rows. -/
def tabulated (suites : List SuiteResult) : List (SuiteResult × CaseResult) :=
  suites.flatMap fun s => s.cases.map fun c => (s, c)

/-- The rows of all cases, below the heading. -/
def caseRows (suites : List SuiteResult) : Except Failure (List (List Cell)) :=
  ((tabulated suites).zipIdx 2).mapM fun (p, row) => rowAt row p.1 p.2

/-- The sheet of the cases, whose messages are broken into lines. -/
def resultsSheet (suites : List SuiteResult) : Except Failure Sheet := do
  let rows ← caseRows suites
  return {
    name := "Results"
    rows := (columns.map fun c => Cell.text c.1) :: rows
    freeze := some "A2"
    widths := columns.map Prod.snd
    headerStyle := some "Headline 1"
    wrapped := (List.range rows.length).map fun i => "I" ++ toString (i + 2) }

/-- The sheet of the run. -/
def infoSheet (info : RunInfo) (suites : List SuiteResult) : Except Failure Sheet := do
  let t := Totals.of suites
  let entries : List (String × Cell) := [
    ("run_start", ← textCell info.start), ("environment", ← textCell info.environment),
    ("api_base_url", ← textCell info.apiBaseUrl), ("ui_base_url", ← textCell info.uiBaseUrl),
    ("output_path", ← textCell info.outputPath.text), ("duration_ms", durationCell info.duration),
    ("suites", .int suites.length), ("total", .int t.total), ("passed", .int t.passed),
    ("failed", .int t.failed), ("skipped", .int t.skipped), ("blocked", .int t.blocked)]
  return {
    name := "RunInfo"
    rows := entries.map fun e => [.text e.1, e.2]
    freeze := none
    widths := []
    headerStyle := none
    wrapped := [] }

/-- The workbook of a run. -/
def workbook (info : RunInfo) (suites : List SuiteResult) : Except Failure Spreadsheet.Workbook := do
  return { sheets := [← resultsSheet suites, ← infoSheet info suites] }

/-- Writes the workbook of a run into a file, whose directory is made. -/
def writeWorkbook (files : Files.Tree) (path : Files.Path) (info : RunInfo)
    (suites : List SuiteResult) : Except Failure Files.Tree := do
  let book ← workbook info suites
  let made ← (files.makeDirectories path.parent).mapError Files.Fault.failure
  (made.write path (.workbook book)).mapError Files.Fault.failure

end SuiteEngine.Report
