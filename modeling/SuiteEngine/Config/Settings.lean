import SuiteEngine.Files.Path

/-!
# What a run is configured with

The environment that suites run against, and how they are run. Times are in milliseconds.
-/

namespace SuiteEngine.Config

/-- How the headers that all requests of a suite carry are obtained. -/
inductive Strategy where
  | bearer
  | basic
  | apiKey
  | none
deriving DecidableEq, Repr

namespace Strategy

/-- All strategies, in the order in which messages list them. -/
def all : List Strategy := [bearer, basic, apiKey, none]

/-- The word for a strategy. -/
def word : Strategy → String
  | bearer => "bearer"
  | basic => "basic"
  | apiKey => "api-key"
  | none => "none"

/-- The strategy with this word. -/
def ofWord? (w : String) : Option Strategy := all.find? fun s => s.word == w

end Strategy

/-- The environment that suites run against. -/
structure Environment where
  name : String
  apiBaseUrl : String
  uiBaseUrl : String

/-- Time limits, repeated attempts, and how many cases run at a time. -/
structure Execution where
  timeout : Int
  retries : Int
  workers : Int
  actionTimeout : Int
  navigationTimeout : Int

/-- The header under which a key is sent unless another one is named. -/
def defaultKeyHeader : String := "X-API-Key"

/-- What a strategy needs. -/
structure Auth where
  strategy : Strategy
  tokenEndpoint : Option String
  credentials : List (String × String)
  apiKey : Option String
  headerName : String

/-- No header is obtained. -/
def Auth.off : Auth :=
  { strategy := .none, tokenEndpoint := .none, credentials := [], apiKey := .none
    headerName := defaultKeyHeader }

/-- The credential with this name. -/
def Auth.credential? (a : Auth) (name : String) : Option String := a.credentials.lookup name

/-- The browser that pages are opened in. -/
structure Browser where
  name : String
  headless : Bool

/-- The browsers there are. -/
def browsers : List String := ["chromium", "firefox", "webkit"]

/-- What is recorded and compared beyond the steps of a case. -/
structure Features where
  screenshots : Bool
  snapshots : Bool
  snapshotDir : Files.Path
  maxDiffPixelRatio : Float

end SuiteEngine.Config

namespace SuiteEngine

/-- What a run is configured with. -/
structure Config where
  path : Files.Path
  environment : Config.Environment
  execution : Config.Execution
  auth : Config.Auth
  headers : List (String × String)
  browser : Config.Browser
  features : Config.Features

end SuiteEngine
