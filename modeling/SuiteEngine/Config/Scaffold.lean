import SuiteEngine.Files.Tree

/-!
# A configuration to start from

`Config.scaffold` writes a configuration with every field and notes on them, where no file is yet.
-/

namespace SuiteEngine.Config

open Files (Path Tree)

/-- The lines of the configuration. -/
def scaffoldLines : List String := [
  "# Environment configuration for universal-test-engine.",
  "# Save one file per environment (dev.yaml, staging.yaml, ...) in a directory and",
  "# pass the directory to --config to select the file through TEST_ENV.",
  "# API_BASE_URL, UI_BASE_URL, TEST_TIMEOUT and TEST_RETRIES override the values below.",
  "",
  "environment:",
  "  name: dev",
  "  # At least one base URL is required.",
  "  api_base_url: \"https://api.example.com\"",
  "  ui_base_url: \"https://app.example.com\"",
  "",
  "execution:",
  "  timeout_ms: 30000",
  "  retries: 0",
  "  # Cases of one suite run on this many worker threads.",
  "  workers: 4",
  "  action_timeout_ms: 15000",
  "  navigation_timeout_ms: 30000",
  "",
  "auth:",
  "  # bearer | basic | api-key | none",
  "  strategy: none",
  "  # bearer: credentials are POSTed to token_endpoint and the token is read from",
  "  # token, data.token, access_token or data.access_token.",
  "  # token_endpoint: /auth/login",
  "  # basic: credentials.username and credentials.password.",
  "  # credentials:",
  "  #   username: \"<OPTIONAL>\"",
  "  #   password: \"<OPTIONAL>\"",
  "  # api-key: api_key (or credentials.apiKey) sent in header_name.",
  "  # api_key: \"<OPTIONAL>\"",
  "  header_name: X-API-Key",
  "",
  "# Extra headers sent with every API request and browser page.",
  "headers: \x7b\x7d",
  "",
  "browser:",
  "  # chromium | firefox | webkit",
  "  name: chromium",
  "  headless: true",
  "",
  "features:",
  "  # Attach a full-page screenshot to failed UI cases.",
  "  screenshots: true",
  "  # Compare declared snapshots with the baselines in snapshot_dir.",
  "  snapshots: true",
  "  snapshot_dir: snapshots",
  "  max_diff_pixel_ratio: 0.01"]

/-- The text of the configuration. -/
def scaffoldText : String := String.join (scaffoldLines.map fun l => l ++ "\n")

/-- The name that the file has unless another one is given. -/
def defaultFileName : String := "config.yaml"

/-- Writes the configuration and gives the path from the root. -/
def scaffold (files : Tree) (path : Path) : Except Failure (Path × Tree) := do
  let full := path.resolve files.cwd
  if files.holds path then
    throw { kind := .file "FileExistsError"
            message := "Configuration file already exists: " ++ full.text }
  let made ← (files.makeDirectories path.parent).mapError Files.Fault.failure
  let written ← (made.write path (.ofText scaffoldText)).mapError Files.Fault.failure
  return (full, written)

end SuiteEngine.Config
