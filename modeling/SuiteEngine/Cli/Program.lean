import SuiteEngine.Boundary.Case
import SuiteEngine.Boundary.Field
import SuiteEngine.Cli.Arguments
import SuiteEngine.Json.Parse
import SuiteEngine.Run.Execute

/-!
# The program

A call names a command and its options. It prints to the output and to the error output, and ends with a
status: 0 if all went well, 1 if something failed, 2 if the program was called wrongly.

* `call`: a call on a machine.
-/

namespace SuiteEngine.Cli

open Files (Path Tree)
open Host (Change Machine)

/-- How a call ends. -/
structure Ending where
  status : Nat
  output : String
  errors : String
deriving DecidableEq, Repr

namespace Ending

/-- The call succeeded. -/
def printed (output : String) : Ending := { status := 0, output, errors := "" }

/-- The call failed. -/
def failed (message : String) : Ending := { status := 1, output := "", errors := message ++ "\n" }

/-- The program was called wrongly. -/
def misused (errors : String) : Ending := { status := 2, output := "", errors }

end Ending

/-- Ends a call with a foreseen failure, and passes on any other. -/
def ended (foreseen : Failure → Bool) : Except Failure Ending → Except Failure Ending
  | .error f => if foreseen f then .ok (.failed f.message) else .error f
  | r => r

/-- Writes a configuration to start from. -/
def generateConfig (g : Given) : Change Ending := do
  let path := (g.last? "--output").getD Config.defaultFileName
  let full ← Change.ofTree fun files => Config.scaffold files (.ofText path)
  return .printed (full.text ++ "\n")

/-- What the check of a suite file prints, and whether the suite is valid. -/
def validateFile (files : Tree) (kind : Suite.Kind) (path : Path) : Except Failure (String × Bool) :=
  match Suite.loadDocument files path kind with
  | .ok _ => .ok ("OK " ++ path.text ++ "\n", true)
  | .error (.invalid _ issues) =>
    .ok ("FAILED " ++ path.text ++ "\n" ++ unlines (issues.map fun i => "  " ++ i.render), false)
  | .error (.failure f) => .error f

/-- What the check of the suites that a path stands for prints, and whether all are valid. -/
def validatePath (files : Tree) (kind : Suite.Kind) (path : String) :
    Except Failure (String × Bool) := do
  match Suite.discover files (.ofText path) with
  | [] => return ("FAILED " ++ path ++ "\n  no *.json suite files found\n", false)
  | found =>
    let checked ← found.mapM (validateFile files kind)
    return (String.join (checked.map (·.1)), checked.all (·.2))

/-- Checks suites. -/
def validate (files : Tree) (g : Given) : Except Failure Ending := do
  let apiPaths := g.all "--api-suite"
  let uiPaths := g.all "--ui-suite"
  if apiPaths.isEmpty && uiPaths.isEmpty then
    return .failed "Provide at least one --api-suite or --ui-suite path."
  let api ← apiPaths.mapM (validatePath files .api)
  let ui ← uiPaths.mapM (validatePath files .ui)
  let checked := api ++ ui
  return { status := if checked.all (·.2) then 0 else 1
           output := String.join (checked.map (·.1)), errors := "" }

/-- The run that a call asks for. -/
def runRequest (g : Given) : Run.Request :=
  { configPath := (g.last? "--config").getD "", apiPaths := g.all "--api-suite"
    uiPaths := g.all "--ui-suite", tags := g.all "--tag", outputDir := g.last? "--output-dir" }

/-- The counts of a run in one line. -/
def countsLine (t : Report.Totals) : String :=
  "passed: " ++ toString t.passed ++ ", failed: " ++ toString t.failed ++ ", skipped: " ++
    toString t.skipped ++ ", blocked: " ++ toString t.blocked ++ "\n"

/-- How a call ends whose run was completed. -/
def runEnding (o : Run.Outcome) : Ending :=
  { status := if o.hasFailures then 1 else 0, output := o.outputPath.text ++ "\n"
    errors := countsLine o.totals }

/-- The payload in a file. -/
def readPayload (files : Tree) (path : String) :
    Except Failure (Except String (List (String × Value))) := do
  let text ← (files.readText (.ofText path)).mapError Files.Fault.failure
  match Json.parse text with
  | .ok (.obj fields) => return .ok fields
  | .ok _ => return .error "Payload file must contain a JSON object."
  | .error e =>
    if e.isSyntax then return .error ("Payload file is not valid JSON: " ++ e.message text)
    else throw ⟨.other "ValueError", e.message text⟩

/-- A boundary case as it is printed. -/
def caseEntry (c : Boundary.Case) : Value :=
  .obj ([("description", .str c.description), ("field", .str c.field), ("value", c.value.jsonable),
    ("expectValid", .bool c.valid)] ++
      if c.value.isMissing then [("omitted", .bool true)] else [])

/-- A negative payload as it is printed. -/
def payloadEntry (p : Boundary.NegativePayload) : Value :=
  .obj [("description", .str p.description), ("field", .str p.field),
    ("payload", (Value.obj p.payload).jsonable)]

/-- Prints some values. -/
def printedList (vs : List Value) : Except Failure Ending := do
  return .printed ((← Json.dump (some 2) (.list vs)) ++ "\n")

/-- Prints values at the boundaries of fields, or payloads that are wrong in one field. -/
def boundaries (files : Tree) (g : Given) : Except Failure Ending := do
  let fields ← Boundary.Field.load files (.ofText ((g.last? "--fields").getD ""))
  match g.last? "--payload" with
  | none => printedList ((← Boundary.casesOf fields).map caseEntry)
  | some path =>
    match ← readPayload files path with
    | .error message => return .failed message
    | .ok payload => printedList ((← Boundary.payloadsOf payload fields).map payloadEntry)

/-- Whether the description of fields, or the access to it, is at fault. -/
def isFieldsFailure (f : Failure) : Bool := Run.isFileFailure f || f.kind == Boundary.specKind

/-- Where and when a call is made. -/
structure Surroundings where
  environ : Config.Environ
  moment : Moment

variable {σ : Type}

/-- Carries out a command. -/
def carryOut (m : Machine σ) (at_ : Surroundings) (command : String) (g : Given) (s : σ) :
    Except Failure Ending × σ :=
  match command with
  | "generate-config" =>
    let (result, s) := m.change (generateConfig g) s
    (ended Run.isFileFailure result, s)
  | "validate" => (validate (m.files s) g, s)
  | "run" =>
    let (result, s) := Run.execute m at_.environ at_.moment (runRequest g) s
    (ended (·.kind == Run.runKind) (result.map runEnding), s)
  | _ => (ended isFieldsFailure (boundaries (m.files s) g), s)

/-- A call of a command with the arguments behind its name. -/
def runCommand (m : Machine σ) (at_ : Surroundings) (c : CommandSpec) (arguments : List String)
    (s : σ) : Except Failure Ending × σ :=
  let path := programName ++ " " ++ c.name
  let misused (f : UsageFault) : Except Failure Ending × σ :=
    (.ok (.misused (f.text c.usage path)), s)
  match readOptions c.options true .nothing arguments with
  | .error f => misused f
  | .ok g =>
    if g.has "--help" then (.ok (.printed c.helpText), s)
    else match checkGiven c.options g with
      | .error f => misused f
      | .ok () => carryOut m at_ c.name g s

/-- The text that shows the version. -/
def versionText : String := programName ++ ", version " ++ version ++ "\n"

/-- A call of the program. -/
def call (m : Machine σ) (at_ : Surroundings) (arguments : List String) (s : σ) :
    Except Failure Ending × σ :=
  let misused (f : UsageFault) : Except Failure Ending × σ :=
    (.ok (.misused (f.text programUsage programName)), s)
  if arguments.isEmpty then (.ok (.misused programHelp), s)
  else match readOptions programOptions false .nothing arguments with
    | .error f => misused f
    | .ok g =>
      match g.switches.find? fun name => name == "--help" || name == "--version" with
      | some name =>
        (.ok (.printed (if name == "--help" then programHelp else versionText)), s)
      | none =>
        match g.rest with
        | [] => misused .missingCommand
        | name :: rest =>
          match commands.find? fun c => c.name == name with
          | some c => runCommand m at_ c rest s
          | none => misused (.noSuchCommand name)

end SuiteEngine.Cli
