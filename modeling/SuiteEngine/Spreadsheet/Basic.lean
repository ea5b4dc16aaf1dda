import SuiteEngine.Text.Utf8

/-!
# Spreadsheets

A workbook is a list of sheets, a sheet a list of rows of cells with what is needed to show them. A text
that begins with an equals sign and does not end there is a formula, and some texts stand for the error of
a computation.
-/

namespace SuiteEngine.Spreadsheet

/-- A cell as it is found in the file. -/
inductive Cell where
  | empty
  | text (s : String)
  | formula (s : String)
  | error (code : String)
  | int (n : Int)
  | float (x : Float)

/-- The texts that stand for the error of a computation. -/
def errorCodes : List String :=
  ["#NULL!", "#DIV/0!", "#VALUE!", "#REF!", "#NAME?", "#NUM!", "#N/A"]

/-- A text as it is found in the file, which knows one kind of line end. -/
def stored (s : String) : String := String.ofList (Text.unifyLineEnds s.toList)

/-- The cell that a text becomes. -/
def Cell.ofText (s : String) : Cell :=
  if s.startsWith "=" && s.length > 1 then .formula (stored s)
  else if errorCodes.contains s then .error s
  else if s = "" then .empty
  else .text (stored s)

/-- A sheet. -/
structure Sheet where
  name : String
  rows : List (List Cell)
  /-- The first cell that moves when the sheet is scrolled. -/
  freeze : Option String
  /-- The widths of the columns that have one. -/
  widths : List Nat
  /-- The named style of the first row. -/
  headerStyle : Option String
  /-- The cells whose text is broken into lines. -/
  wrapped : List String

/-- Whether a cell is computed. -/
def Cell.isFormula : Cell → Bool
  | formula _ => true
  | _ => false

/-- The name of a cell: the letter of its column and the number of its row. -/
def cellName (row column : Nat) : String :=
  String.singleton (Char.ofNat (65 + column)) ++ toString (row + 1)

/-- The cells of a sheet that are computed. -/
def Sheet.formulas (s : Sheet) : List String :=
  s.rows.zipIdx.flatMap fun (row, r) =>
    row.zipIdx.filterMap fun (cell, c) => if cell.isFormula then some (cellName r c) else none

/-- A workbook. -/
structure Workbook where
  sheets : List Sheet

end SuiteEngine.Spreadsheet
