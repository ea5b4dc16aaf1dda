import SuiteEngine.Config.Dotenv
import SuiteEngine.Config.Settings
import SuiteEngine.Files.Tree
import SuiteEngine.Text.Case
import SuiteEngine.Text.Numeral
import SuiteEngine.Yaml.Read

/-!
# Reading a configuration

A configuration is a file, or a directory with a file for each environment, of which a variable picks
one. Variables come from the process environment and, behind it, from a file beside the configuration;
some of them take the place of what the configuration says. What is read is checked: see `Config.load`.
-/

namespace SuiteEngine.Config

open Yaml (Datum)
open Files (Path Tree)

/-- Why there is no configuration. -/
inductive Error where
  | noFile (path : Path)
  | noEnvironment (name : String) (directory : Path) (available : List String)
  | malformed
  | rootNotMapping
  | noSection (name : String)
  | noBaseUrl
  | notString (field : String)
  | empty (field : String)
  | notInteger (field : String)
  | notPositive (field : String)
  | negative (field : String)
  | notMapping (field : String)
  | badEntries (field : String)
  | badOverride (var value : String)
  | badStrategy (given : Datum)
  | badBrowser
  | badRatio
  /-- The files could not be read, or a scalar in them could not be understood. -/
  | failure (f : Failure)

/-- The wording of what is wrong. -/
def Error.message : Error → String
  | noFile path => "Configuration file not found: " ++ path.text
  | noEnvironment name directory available =>
    "Environment config '" ++ name ++ "' not found in " ++ directory.text ++
      ". Available environments: " ++
      (if available.isEmpty then "none" else ", ".intercalate available)
  | malformed => "Failed to parse configuration file"
  | rootNotMapping => "Configuration root must be a mapping."
  | noSection name => "Configuration section '" ++ name ++ "' is required."
  | noBaseUrl => "environment.api_base_url or environment.ui_base_url must be provided."
  | notString field => field ++ " must be a string."
  | empty field => field ++ " must not be empty."
  | notInteger field => field ++ " must be an integer."
  | notPositive field => field ++ " must be greater than zero."
  | negative field => field ++ " must not be negative."
  | notMapping field => field ++ " must be a mapping."
  | badEntries field => field ++ " entries must map names to scalar values."
  | badOverride var value => var ++ " must be an integer, got '" ++ value ++ "'."
  | badStrategy given =>
    "auth.strategy '" ++ given.text ++ "' is not supported; expected one of " ++
      ", ".intercalate (Strategy.all.map Strategy.word) ++ "."
  | badBrowser => "browser.name must be one of " ++ ", ".intercalate browsers ++ "."
  | badRatio => "features.max_diff_pixel_ratio must be a number between 0 and 1."
  | failure f => f.message

/-- The failure that the lack of a configuration is. -/
def Error.asFailure : Error → Failure
  | failure f => f
  | e => { kind := .other "ConfigurationError", message := e.message }

/-- The failure that an integer with too many digits is where its text is wanted. -/
def Error.longInteger : Error := .failure ⟨.other "ValueError", Text.tooLongToWrite⟩

/-- The failure that a directory is whose name no directory can have. -/
def Error.nullCharacter : Error := .failure ⟨.other "ValueError", "embedded null byte"⟩

/-- Variables by name; of two with one name the first counts. -/
abbrev Environ := List (String × String)

/-- The variable with this name, unless it is empty. -/
def Environ.nonEmpty? (vars : Environ) (name : String) : Option String :=
  (vars.lookup name).filter (· != "")

/-! ## Finding the file -/

/-- The variables: those of the process, then those of the file beside the configuration. -/
def visibleVariables (files : Tree) (requested : Path) (environ : Environ) : Except Error Environ := do
  let directory := if files.isDirectory requested then requested else requested.parent
  let file := directory.child ".env"
  if files.isFile file then
    match files.readText file with
    | .ok text => return environ ++ Dotenv.parse environ text
    | .error f => throw (.failure f.failure)
  else return environ

/-- What the name of a file for an environment ends with, in the order in which files are looked for. -/
def suffixes : List String := [".yaml", ".yml", ".json"]

/-- The environments that a directory has files for, sorted. -/
def environments (files : Tree) (directory : Path) : List String :=
  if files.isDirectory directory then
    let found := (files.names directory).filter fun n =>
      suffixes.contains (Path.splitSuffix n).2 &&
        files.isFile { directory with names := directory.names ++ [n] }
    ((found.map fun n => (Path.splitSuffix n).1).eraseDups).mergeSort fun a b => decide (a ≤ b)
  else []

/-- The environment whose file is taken when no variable names one. -/
def defaultEnvironment : String := "dev"

/-- The file to read: the one requested, or that of an environment when a directory is. -/
def file (files : Tree) (requested : Path) (vars : Environ) : Except Error Path :=
  if files.isDirectory requested then
    let name := (vars.nonEmpty? "TEST_ENV").getD defaultEnvironment
    let candidates := suffixes.map fun s => requested.child (name ++ s)
    match candidates.find? files.isFile with
    | some path => .ok path
    | none => .error (.noEnvironment name requested (environments files requested))
  else if files.holds requested then .ok requested
  else .error (.noFile requested)

/-! ## Reading fields -/

/-- The entries of a mapping as a datum; a section that is no mapping is missing. -/
def requiredSection (name : String) (d : Option Datum) : Except Error Datum :=
  match d with
  | some d => if d.entries?.isSome then .ok d else .error (.noSection name)
  | none => .error (.noSection name)

/-- As `requiredSection`, an absent or empty section counting as one without fields. -/
def optionalSection (name : String) (d : Option Datum) : Except Error Datum :=
  requiredSection name (some ((d.filter Datum.truthy).getD (.map [])))

/-- A text without blanks around it, if there is one. -/
def text? (field : String) (d : Option Datum) : Except Error (Option String) :=
  match d with
  | none => .ok none
  | some (.plain .null) => .ok none
  | some (.plain (.str s)) => .ok ((some (Text.trim s)).filter (· != ""))
  | some _ => .error (.notString field)

/-- A text without blanks around it, which may not be empty. -/
def requiredText (field : String) (d : Datum) : Except Error String :=
  match d with
  | .plain (.str s) =>
    let t := Text.trim s
    if t == "" then .error (.empty field) else .ok t
  | _ => .error (.notString field)

/-- An integer. -/
def integer (field : String) (d : Datum) : Except Error Int :=
  match d with
  | .plain (.int n) => .ok n
  | _ => .error (.notInteger field)

/-- An integer above zero. -/
def positive (field : String) (d : Datum) : Except Error Int := do
  let n ← integer field d
  if n ≤ 0 then throw (.notPositive field) else return n

/-- An integer that is not below zero. -/
def nonNegative (field : String) (d : Datum) : Except Error Int := do
  let n ← integer field d
  if n < 0 then throw (.negative field) else return n

/-- The integer that a variable states, or else the field. -/
def overridden (vars : Environ) (var : String) (d : Datum) : Except Error Datum :=
  match vars.nonEmpty? var with
  | none => .ok d
  | some raw =>
    match Text.parseInt? raw with
    | some n => .ok (.plain (.int n))
    | none => .error (.badOverride var raw)

/-- Whether the datum is a collection that is no set. -/
def isCollection : Datum → Bool
  | .list _ => true
  | .map _ => true
  | .loop _ => true
  | _ => false

/-- The entry of a mapping from names to scalars. -/
def scalarEntry (field : String) (e : Datum × Datum) : Except Error (String × String) :=
  match e.1 with
  | .plain (.str k) =>
    if e.2.isNull || isCollection e.2 then .error (.badEntries field)
    else if e.2.writable then .ok (k, e.2.text)
    else .error .longInteger
  | _ => .error (.badEntries field)

/-- A mapping from names to scalars, which are taken as texts. -/
def texts (field : String) (d : Option Datum) : Except Error (List (String × String)) :=
  match d with
  | none => .ok []
  | some (.plain .null) => .ok []
  | some d =>
    match d.entries? with
    | some es => es.mapM (scalarEntry field)
    | none => .error (.notMapping field)

/-! ## Reading sections -/

/-- The field of a section, or a default for one that is absent. -/
def fieldOr (d : Datum) (key : String) (default : Value) : Datum :=
  (d.get? key).getD (.plain default)

/-- Reads the section on the environment; variables come before its addresses. -/
def readEnvironment (d : Option Datum) (defaultName : String) (vars : Environ) :
    Except Error Environment := do
  let s ← requiredSection "environment" d
  let name ← text? "environment.name" (s.get? "name")
  let url (var key : String) : Except Error String := do
    match vars.nonEmpty? var with
    | some v => return v
    | none => return (← text? ("environment." ++ key) (s.get? key)).getD ""
  let apiBaseUrl ← url "API_BASE_URL" "api_base_url"
  let uiBaseUrl ← url "UI_BASE_URL" "ui_base_url"
  if apiBaseUrl == "" && uiBaseUrl == "" then throw .noBaseUrl
  return { name := name.getD defaultName, apiBaseUrl, uiBaseUrl }

/-- Reads the section on execution; variables come before its limit and its number of retries. -/
def readExecution (d : Option Datum) (vars : Environ) : Except Error Execution := do
  let s ← optionalSection "execution" d
  let timeout ← overridden vars "TEST_TIMEOUT" (fieldOr s "timeout_ms" (.int 30000))
  let retries ← overridden vars "TEST_RETRIES" (fieldOr s "retries" (.int 0))
  return {
    timeout := ← positive "execution.timeout_ms" timeout
    retries := ← nonNegative "execution.retries" retries
    workers := ← positive "execution.workers" (fieldOr s "workers" (.int 4))
    actionTimeout :=
      ← positive "execution.action_timeout_ms" (fieldOr s "action_timeout_ms" (.int 15000))
    navigationTimeout :=
      ← positive "execution.navigation_timeout_ms" (fieldOr s "navigation_timeout_ms" (.int 30000)) }

/-- Reads the section on authentication. -/
def readAuth (d : Option Datum) : Except Error Auth := do
  let s ← optionalSection "auth" d
  let given := fieldOr s "strategy" (.str Strategy.none.word)
  match given.str?.bind Strategy.ofWord? with
  | none => throw (if given.writable then .badStrategy given else .longInteger)
  | some strategy =>
    return {
      strategy
      tokenEndpoint := ← text? "auth.token_endpoint" (s.get? "token_endpoint")
      credentials := ← texts "auth.credentials" (s.get? "credentials")
      apiKey := ← text? "auth.api_key" (s.get? "api_key")
      headerName := (← text? "auth.header_name" (s.get? "header_name")).getD defaultKeyHeader }

/-- Reads the section on the browser. -/
def readBrowser (d : Option Datum) : Except Error Browser := do
  let s ← optionalSection "browser" d
  let name := Text.lower (← requiredText "browser.name" (fieldOr s "name" (.str "chromium")))
  if !browsers.contains name then throw .badBrowser
  return { name, headless := (fieldOr s "headless" (.bool true)).truthy }

/-- The number between zero and one that the datum is, if it is one. -/
def ratio? (d : Datum) : Option Float :=
  let inRange (e : Exact) : Bool := Exact.le (intExact 0) e && Exact.le e (intExact 1)
  match d with
  | .plain (.int n) => if inRange (intExact n) then some (Float.ofInt n) else none
  | .plain (.float x) => if inRange (floatExact x) then some x else none
  | _ => none

/-- Reads the section on features; baselines are looked for from the directory `base`. -/
def readFeatures (cwd : Files.Place) (base : Path) (d : Option Datum) : Except Error Features := do
  let s ← optionalSection "features" d
  let raw ← requiredText "features.snapshot_dir" (fieldOr s "snapshot_dir" (.str "snapshots"))
  let dir := Path.ofText raw
  match ratio? (fieldOr s "max_diff_pixel_ratio" (.float 0.01)) with
  | none => throw .badRatio
  | some maxDiffPixelRatio =>
    if !dir.isAbsolute && raw.toList.contains '\x00' then throw .nullCharacter
    return {
      screenshots := (fieldOr s "screenshots" (.bool true)).truthy
      snapshots := (fieldOr s "snapshots" (.bool true)).truthy
      snapshotDir := if dir.isAbsolute then dir else (base.join dir).resolve cwd
      maxDiffPixelRatio }

/-- What the text of a configuration denotes; nothing counts as an empty mapping. -/
def parse (text : String) : Except Error Datum :=
  match Yaml.read text with
  | .error .malformed => .error .malformed
  | .error (.scalar f) => .error (.failure f.failure)
  | .ok d =>
    if d.isNull then .ok (.map [])
    else if d.entries?.isSome then .ok d
    else .error .rootNotMapping

/-- The configuration that a mapping from a file states. -/
def ofDatum (cwd : Files.Place) (path : Path) (vars : Environ) (d : Datum) : Except Error Config := do
  let defaultName := (vars.nonEmpty? "TEST_ENV").getD path.stem
  return {
    path
    environment := ← readEnvironment (d.get? "environment") defaultName vars
    execution := ← readExecution (d.get? "execution") vars
    auth := ← readAuth (d.get? "auth")
    headers := ← texts "headers" (d.get? "headers")
    browser := ← readBrowser (d.get? "browser")
    features := ← readFeatures cwd path.parent (d.get? "features") }

/-- Reads the configuration at a path. -/
def load (files : Tree) (requested : Path) (environ : Environ) : Except Error Config := do
  let vars ← visibleVariables files requested environ
  let path ← file files requested vars
  match files.readText path with
  | .error f => throw (.failure f.failure)
  | .ok text => ofDatum files.cwd path vars (← parse text)

end SuiteEngine.Config
