import SuiteEngine.Config.Scaffold

/-!
# The commands of the program

Each command has a name, a description and options. An option without a name for its value is a switch.
-/

namespace SuiteEngine.Cli

/-- An option. -/
structure OptionSpec where
  /-- The spellings, the short one first; the last one stands for the option. -/
  names : List String
  /-- What the help calls the value; a switch has none. -/
  valueName : Option String
  required : Bool
  /-- The value that counts when the option is left out. -/
  usual : Option String
  help : String

/-- The spelling that stands for the option. -/
def OptionSpec.name (o : OptionSpec) : String := o.names.getLastD ""

/-- A command. -/
structure CommandSpec where
  name : String
  /-- What the command does. -/
  about : String
  /-- The same in one line. -/
  summary : String
  options : List OptionSpec

/-- The name of the program. -/
def programName : String := "universal-test-engine"

/-- The version of the program. -/
def version : String := "0.1.0"

/-- The option that shows the help. -/
def helpOption : OptionSpec :=
  { names := ["-h", "--help"], valueName := none, required := false, usual := none
    help := "Show this message and exit." }

/-- An option whose value is a path. -/
def pathOption (name help : String) : OptionSpec :=
  { names := [name], valueName := some "PATH", required := false, usual := none, help }

/-- The option for paths of API suites. -/
def apiSuiteOption : OptionSpec :=
  pathOption "--api-suite" "API suite file or directory of *.json suites (repeatable)"

/-- The option for paths of UI suites. -/
def uiSuiteOption : OptionSpec :=
  pathOption "--ui-suite" "UI suite file or directory of *.json suites (repeatable)"

/-- The command that writes a configuration to start from. -/
def generateConfigSpec : CommandSpec :=
  { name := "generate-config"
    about := "Generate a placeholder YAML environment configuration with guidance comments."
    summary := "Generate a placeholder YAML environment configuration..."
    options := [
      { pathOption "--output" "Path to the YAML environment configuration template to write" with
        usual := some Config.defaultFileName },
      helpOption] }

/-- The command that checks suites. -/
def validateSpec : CommandSpec :=
  { name := "validate"
    about := "Validate suite documents against their schemas without running them."
    summary := "Validate suite documents against their schemas without..."
    options := [apiSuiteOption, uiSuiteOption, helpOption] }

/-- The command that runs suites. -/
def runSpec : CommandSpec :=
  { name := "run"
    about := "Execute the declared API and UI suites."
    summary := "Execute the declared API and UI suites."
    options := [
      { pathOption "--config"
          "Environment configuration file, or a directory selected through TEST_ENV" with
        required := true },
      apiSuiteOption, uiSuiteOption,
      { names := ["--tag"], valueName := some "TEXT", required := false, usual := none
        help := "Only run tests declaring this tag (repeatable, any tag matches)" },
      pathOption "--output-dir" "Directory for the results workbook, summary.json and attachments",
      helpOption] }

/-- The command that prints values at the boundaries of fields. -/
def boundariesSpec : CommandSpec :=
  { name := "boundaries"
    about := "Print boundary values per field, or negative payloads, as JSON."
    summary := "Print boundary values per field, or negative payloads,..."
    options := [
      { pathOption "--fields" "YAML/JSON list of field specs" with required := true },
      pathOption "--payload"
        "JSON file with a valid payload; prints negative payloads derived from it",
      helpOption] }

/-- All commands, by their names. -/
def commands : List CommandSpec := [boundariesSpec, generateConfigSpec, runSpec, validateSpec]

/-- The options before the command. -/
def programOptions : List OptionSpec := [
  { names := ["--version"], valueName := none, required := false, usual := none
    help := "Show the version and exit." },
  { names := ["-v", "--verbose"], valueName := none, required := false, usual := none
    help := "Enable debug logging." },
  helpOption]

/-- What the program is. -/
def programAbout : String := "Declarative API and UI test engine."

/-!
## Help texts

Help is set in lines of 78 characters. Options and commands are set in two columns, of which the second
is broken into lines of its own.
-/

/-- The characters of a line. -/
def lineWidth : Nat := 78

/-- Cuts a text into words, each with the number of blanks before it. -/
def wordsOf (blanks : Nat) (word : List Char) : List Char → List (Nat × String)
  | [] => if word.isEmpty then [] else [(blanks, String.ofList word.reverse)]
  | c :: rest =>
    if c == ' ' then
      if word.isEmpty then wordsOf (blanks + 1) [] rest
      else (blanks, String.ofList word.reverse) :: wordsOf 1 [] rest
    else wordsOf blanks (c :: word) rest

/-- Some blanks. -/
def blanks (n : Nat) : String := String.ofList (List.replicate n ' ')

/-- Sets words into lines of a width; `line` is the one that is being set. -/
def fill (width : Nat) (line : String) : List (Nat × String) → List String
  | [] => if line == "" then [] else [line]
  | (n, word) :: rest =>
    if line == "" then fill width word rest
    else
      let longer := line ++ blanks n ++ word
      if longer.length ≤ width then fill width longer rest else line :: fill width word rest

/-- The lines of a text. -/
def wrap (width : Nat) (s : String) : List String := fill width "" (wordsOf 0 [] s.toList)

/-- A text in lines, each after some blanks. -/
def indented (indent : Nat) (s : String) : List String :=
  (wrap (lineWidth - indent) s).map fun l => blanks indent ++ l

/-- Two columns; the first is as wide as its widest entry. -/
def twoColumns (rows : List (String × String)) : List String :=
  let first := ((rows.map fun r => r.1.length).max?.getD 0) + 2
  (rows.map fun (left, right) =>
    match wrap (lineWidth - first - 2) right with
    | [] => ["  " ++ left]
    | l :: rest =>
      ("  " ++ left ++ blanks (first - left.length) ++ l) ::
        rest.map fun l => blanks (first + 2) ++ l).flatten

/-- What is said about an option. -/
def OptionSpec.description (o : OptionSpec) : String :=
  let notes := (if o.required then ["required"] else []) ++
    (o.usual.toList.map fun v => "default: " ++ v)
  if notes.isEmpty then o.help else o.help ++ "  [" ++ "; ".intercalate notes ++ "]"

/-- An option and what is said about it. -/
def OptionSpec.row (o : OptionSpec) : String × String :=
  (", ".intercalate o.names ++ ((o.valueName.map (" " ++ ·)).getD ""), o.description)

/-- Lines as a text. -/
def unlines (lines : List String) : String := String.join (lines.map (· ++ "\n"))

/-- How the program is called. -/
def programUsage : String := "Usage: " ++ programName ++ " [OPTIONS] COMMAND [ARGS]..."

/-- How a command is called. -/
def CommandSpec.usage (c : CommandSpec) : String :=
  "Usage: " ++ programName ++ " " ++ c.name ++ " [OPTIONS]"

/-- The lines about some options. -/
def optionLines (options : List OptionSpec) : List String :=
  "Options:" :: twoColumns (options.map OptionSpec.row)

/-- The help of the program. -/
def programHelp : String :=
  unlines (programUsage :: "" :: indented 2 programAbout ++ "" :: optionLines programOptions ++
    "" :: "Commands:" :: twoColumns (commands.map fun c => (c.name, c.summary)))

/-- The help of a command. -/
def CommandSpec.helpText (c : CommandSpec) : String :=
  unlines (c.usage :: "" :: indented 2 c.about ++ "" :: optionLines c.options)

end SuiteEngine.Cli
