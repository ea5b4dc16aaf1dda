import SuiteEngine.Decimal.Rounded
import SuiteEngine.Files.Tree
import SuiteEngine.Report.Result
import SuiteEngine.Text.Word

/-!
# The summary of a run and the files of its attachments
-/

namespace SuiteEngine.Report

open Files (Path Tree)

/-- A duration to one place; one that is counted in whole numbers stays whole. -/
def shownDuration : Value → Value
  | .float x => .float (floatRound x 1)
  | .bool b => .int (if b then 1 else 0)
  | v => v

/-- The summary of a run that ended at `timestamp`. -/
def summary (environment : String) (suites : List SuiteResult) (duration : Value)
    (timestamp : String) : Value :=
  let t := Totals.of suites
  .obj [("environment", .str environment), ("totalTests", .int t.total), ("passed", .int t.passed),
    ("failed", .int t.failed), ("skipped", .int t.skipped), ("blocked", .int t.blocked),
    ("duration", shownDuration duration), ("timestamp", .str timestamp)]

/-- The name of the file of the summary. -/
def summaryFileName : String := "summary.json"

/-- Writes the summary into a directory, which is made, and gives the path of its file. -/
def writeSummary (files : Tree) (directory : Path) (s : Value) : Except Files.Fault (Path × Tree) := do
  let made ← files.makeDirectories directory
  let path := directory.child summaryFileName
  return (path, ← made.write path (.ofText (Json.render .indented s)))

/-- The name of the directory of the attachments. -/
def attachmentsName : String := "attachments"

/-- Whether the character may stand in the name of a file. -/
def isSafe (c : Char) : Bool := Text.isWord c || c == '.' || c == '-'

/-- The characters with an underscore in place of every stretch that is not safe; `inStretch` says
whether the character before was in one. -/
def replaceUnsafe (inStretch : Bool) : List Char → List Char
  | [] => []
  | c :: cs =>
    if isSafe c then c :: replaceUnsafe false cs
    else if inStretch then replaceUnsafe true cs
    else '_' :: replaceUnsafe true cs

/-- A name as the name of a file or directory. -/
def safeName (name : String) : String :=
  let cleaned := String.ofList (Text.trimList (· == '_') (replaceUnsafe false name.toList))
  if cleaned == "" then "unnamed" else cleaned

/-- A number with at least two digits. -/
def twoDigits (n : Nat) : String := if n < 10 then "0" ++ toString n else toString n

/-- The name of the file of the attachment with this number. -/
def Attachment.fileName (a : Attachment) (number : Nat) : String :=
  twoDigits number ++ "-" ++ safeName a.name ++ a.extension

/-- The directory of the attachments of a case. -/
def CaseResult.directory (c : CaseResult) (outputDir : Path) (suite : String) : Path :=
  ((outputDir.child attachmentsName).child (safeName suite)).child (safeName c.name)

/-- Writes attachments into a directory, numbered from `number` on. -/
def writeAll (files : Tree) (directory : Path) (number : Nat) :
    List Attachment → Except Files.Fault Tree
  | [] => .ok files
  | a :: rest => do
    let written ← files.write (directory.child (a.fileName number)) a.payload
    writeAll written directory (number + 1) rest

/-- Writes the attachments of a case; nothing is made for a case without any. -/
def writeCase (outputDir : Path) (suite : String) (files : Tree) (c : CaseResult) :
    Except Files.Fault Tree := do
  if c.attachments.isEmpty then return files
  let directory := c.directory outputDir suite
  writeAll (← files.makeDirectories directory) directory 1 c.attachments

/-- Writes every attachment of some suites, and gives their number. -/
def writeAttachments (files : Tree) (outputDir : Path) (suites : List SuiteResult) :
    Except Files.Fault (Nat × Tree) := do
  let cases := suites.flatMap fun s => s.cases.map fun c => (s.suite, c)
  let written ← cases.foldlM (fun t p => writeCase outputDir p.1 t p.2) files
  return ((cases.map fun p => p.2.attachments.length).foldl (· + ·) 0, written)

end SuiteEngine.Report
