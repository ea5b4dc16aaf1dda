import SuiteEngine.Calendar
import SuiteEngine.Config.Load
import SuiteEngine.Host.Machine
import SuiteEngine.Report.Summary
import SuiteEngine.Report.Workbook
import SuiteEngine.Run.Api
import SuiteEngine.Run.Ui
import SuiteEngine.Suite.File

/-!
# A whole run

A run has three parts. First the configuration and all suites are loaded, which only reads files. Then
the suites are run one after the other, those for APIs first. At last the results are written.

* `load`: the first part.
* `conduct`: the second.
* `writeOutputs`: the third.
* `execute`: a run on a machine.
-/

namespace SuiteEngine.Run

open Files (Path Tree)
open Host (Change Fallible Machine Program)
open Report (SuiteResult Totals)
open Suite (ApiSuite UiSuite)

/-- What a run is asked to do. -/
structure Request where
  configPath : String
  apiPaths : List String
  uiPaths : List String
  tags : List String
  outputDir : Option String

/-- What a run needs to begin. -/
structure Loaded where
  config : Config
  apiSuites : List ApiSuite
  uiSuites : List UiSuite

/-- What a run leaves. -/
structure Outcome where
  outputPath : Path
  summaryPath : Path
  suites : List SuiteResult

/-- How many cases of a run ended in each way. -/
def Outcome.totals (o : Outcome) : Totals := .of o.suites

/-- Whether a case of a run failed or was blocked. -/
def Outcome.hasFailures (o : Outcome) : Bool := o.suites.any SuiteResult.hasFailures

/-- The kind of the failures that a run is prepared for. -/
def runKind : Failure.Kind := .other "RunExecutionError"

/-- The failure of a run that cannot be completed. -/
def runFailure (message : String) : Failure := ⟨runKind, message⟩

/-- Whether a file could not be read or written. -/
def isFileFailure (f : Failure) : Bool :=
  match f.kind with
  | .file _ => true
  | _ => false

/-- Whether what a run is given is at fault. -/
def isGivenAtFault (f : Failure) : Bool :=
  isFileFailure f || f.kind == .other "ConfigurationError" ||
    f.kind == .other "SuiteValidationError"

/-- The failure of a run whose loading failed. -/
def loadFailure (f : Failure) : Failure := if isGivenAtFault f then runFailure f.message else f

/-- Loads the suites that some paths stand for. -/
def loadAll {α : Type} (load : Path → Except Suite.LoadError (List α)) (paths : List String) :
    Except Failure (List α) := do
  let found ← (paths.mapM fun p => load (.ofText p)).mapError Suite.LoadError.asFailure
  return found.flatten

/-- Reads the configuration and the suites. -/
def read (files : Tree) (environ : Config.Environ) (r : Request) : Except Failure Loaded := do
  let config ← (Config.load files (.ofText r.configPath) environ).mapError Config.Error.asFailure
  let apiSuites ← loadAll (Suite.loadApiSuites files) r.apiPaths
  let uiSuites ← loadAll (Suite.loadUiSuites files) r.uiPaths
  return { config, apiSuites, uiSuites }

/-- Loads all that a run needs, or says why it cannot begin. -/
def load (files : Tree) (environ : Config.Environ) (r : Request) : Except Failure Loaded := do
  if r.apiPaths.isEmpty && r.uiPaths.isEmpty then
    throw (runFailure "At least one API or UI suite path is required.")
  let l ← (read files environ r).mapError loadFailure
  if !l.apiSuites.isEmpty && l.config.environment.apiBaseUrl == "" then
    throw (runFailure "API suites require environment.api_base_url.")
  if !l.uiSuites.isEmpty && l.config.environment.uiBaseUrl == "" then
    throw (runFailure "UI suites require environment.ui_base_url.")
  return l

/-- The directory of the results where none is named. -/
def usualOutputDir : String := "test-results"

/-- The directory of the results. -/
def Request.output (r : Request) : Path :=
  .ofText ((r.outputDir.filter (· != "")).getD usualOutputDir)

/-- Runs API suites one after the other, the cases of each in the order of their declaration. -/
def runApiSuites (config : Config) (tags : List String) :
    List ApiSuite → Fallible (List SuiteResult)
  | [] => return []
  | suite :: rest => do
    let result ← runApiSuite config [] tags suite
    return result :: (← runApiSuites config tags rest)

/-- Runs UI suites one after the other, the cases of each in the order of their declaration. -/
def runUiSuites (config : Config) (shots : Path) (tags : List String) (suites : List UiSuite) :
    Program (List SuiteResult) := do
  if !suites.isEmpty then Program.question (.useBrowser (.ofConfig config))
  suites.mapM (runUiSuite config shots [] tags)

/-- Runs all suites and gives their results and the milliseconds it took. -/
def conduct (l : Loaded) (r : Request) : Fallible (List SuiteResult × Float) := do
  let start ← Fallible.lift Program.clock
  let api ← runApiSuites l.config r.tags l.apiSuites
  let shots := r.output.child "screenshots"
  let ui ← Fallible.lift (runUiSuites l.config shots r.tags l.uiSuites)
  let stop ← Fallible.lift Program.clock
  return (api ++ ui, elapsed start stop)

/-- The name of the file of the workbook. -/
def workbookName (m : Moment) : String := "results-" ++ m.stamp ++ ".xlsx"

/-- The run as its workbook describes it. -/
def runInfo (config : Config) (m : Moment) (outputPath : Path) (duration : Float) :
    Report.RunInfo :=
  let e := config.environment
  { start := m.text, environment := e.name, apiBaseUrl := e.apiBaseUrl, uiBaseUrl := e.uiBaseUrl
    outputPath, duration }

/-- Writes the workbook, the summary and the attachments. -/
def writeAllOutputs (config : Config) (m : Moment) (output : Path) (suites : List SuiteResult)
    (duration : Float) : Change Outcome := do
  let path := output.child (workbookName m)
  let full := path.resolve (← get).cwd
  let info := runInfo config m full duration
  Change.ofTree fun files => return ((), ← Report.writeWorkbook files path info suites)
  let summary := Report.summary config.environment.name suites (.float duration) m.text
  let summaryPath ← Change.ofTree fun files =>
    (Report.writeSummary files output summary).mapError Files.Fault.failure
  let _ ← Change.ofTree fun files =>
    (Report.writeAttachments files output suites).mapError Files.Fault.failure
  return { outputPath := full, summaryPath, suites }

/-- The failure of a run whose results cannot be written. -/
def outputFailure (f : Failure) : Failure :=
  if isFileFailure f then runFailure ("Failed to write run outputs: " ++ f.message) else f

/-- Writes the results of a run. -/
def writeOutputs (config : Config) (m : Moment) (output : Path) (suites : List SuiteResult)
    (duration : Float) : Change Outcome :=
  tryCatch (writeAllOutputs config m output suites duration) fun f => throw (outputFailure f)

/-- A run on a machine, which begins at a moment. -/
def execute {σ : Type} (machine : Machine σ) (environ : Config.Environ) (m : Moment) (r : Request)
    (s : σ) : Except Failure Outcome × σ :=
  match load (machine.files s) environ r with
  | .error f => (.error f, s)
  | .ok l =>
    match machine.perform (conduct l r).run s with
    | (.error f, s) => (.error f, s)
    | (.ok (suites, duration), s) =>
      machine.change (writeOutputs l.config m r.output suites duration) s

end SuiteEngine.Run
