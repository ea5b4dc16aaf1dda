import SuiteEngine.Document.Interpolate
import SuiteEngine.Host.Trial
import SuiteEngine.Matching.Evaluate
import SuiteEngine.Run.Attempts
import SuiteEngine.Run.Auth
import SuiteEngine.Suite.Selection

/-!
# Running API suites

A suite is prepared first: its headers are obtained and its setup request is sent. Then each selected
case sends its request, and the response is checked. The teardown request comes last. Where the
preparation does not succeed, the cases are blocked.

* `prepare`: the preparation.
* `runApiCase`: one case, with its attempts.
* `runApiSuite`: a suite.
-/

namespace SuiteEngine.Run

open Host (ClientContext Fallible Program Trial)
open Report (CaseResult SuiteResult)
open Suite (ApiCase ApiSuite SideCall)

/-- The milliseconds allowed for a request that has no limit of its own. -/
def timeoutOf (config : Config) (own : Option Value) : Value :=
  (own.filter Value.truthy).getD (.int config.execution.timeout)

/-- What requests are sent with: the configured headers, under those of the suite. -/
def clientContext (config : Config) (headers : Http.Headers) (timeout : Option Value) :
    ClientContext :=
  { baseUrl := config.environment.apiBaseUrl
    headers := Http.Headers.overlay config.headers headers
    timeout := timeoutOf config timeout }

/-- Turns the failures that a suite is prepared for into a reason. -/
def settle {α : Type} (lead : String) (foreseen : Failure → Bool) (p : Fallible α) :
    Fallible (Except String α) :=
  tryCatch (do return .ok (← p)) fun f =>
    if foreseen f then return .error (lead ++ f.message) else throw f

/-- Obtains headers with a client of its own. -/
def authentication (config : Config) : Fallible Grant :=
  let context := clientContext config [] none
  Fallible.withClient context
    (authenticate config.auth context.baseUrl (Fallible.send context))

/-- Obtains the headers that all requests of a suite carry. -/
def suiteHeaders (config : Config) : Fallible (Except String Http.Headers) :=
  match config.auth.strategy with
  | .none => return .ok []
  | _ => do
    let granted ← settle "Authentication failed: " (fun f => f.isHost || f.kind == authKind)
      (authentication config)
    return granted.map Grant.headers

/-- A declared call with the variables in their places. -/
def sideRequest (config : Config) (call : SideCall) (bindings : Variables) : Http.Request :=
  { method := call.method
    url := Http.buildUrl "" (interpolateText bindings call.endpoint) []
    headers := call.headers.map fun (name, text) => (name, interpolateText bindings text)
    body := call.body.interpolate bindings
    timeout := some (.int config.execution.timeout) }

/-- The variables from the answer to the setup request. -/
def setupVariables (call : SideCall) (response : Http.Response) : Except String Variables :=
  if response.isError then
    .error ("Setup request " ++ call.method ++ " " ++ call.endpoint ++ " returned status " ++
      response.status.text)
  else match call.extractToken with
    | none => .ok []
    | some extraction =>
      match (response.body.deepGet extraction.fromPath).str? with
      | some token => .ok [(extraction.variableName, .str token)]
      | none => .error ("Setup response has no string at '" ++ extraction.fromPath ++ "'")

/-- Makes a declared call with a client of its own. -/
def sideExchange (config : Config) (headers : Http.Headers) (bindings : Variables)
    (call : SideCall) : Fallible Http.Response :=
  Fallible.exchange (clientContext config headers none) (sideRequest config call bindings)

/-- Sends the setup request, if there is one. -/
def runSetup (config : Config) (setup : Option SideCall) (headers : Http.Headers) :
    Fallible (Except String Variables) :=
  match setup with
  | none => return .ok []
  | some call => do
    let sent ← settle "Setup request failed: " Failure.isHost (sideExchange config headers [] call)
    return sent.bind (setupVariables call)

/-- What is known after the preparation of a suite. -/
structure Preparation where
  headers : Http.Headers
  bindings : Variables
  /-- Why the cases cannot be run. -/
  obstacle : Option String

/-- Prepares a suite. -/
def prepare (config : Config) (suite : ApiSuite) : Fallible Preparation := do
  match ← suiteHeaders config with
  | .error reason => return { headers := [], bindings := [], obstacle := some reason }
  | .ok headers =>
    match ← runSetup config suite.setup headers with
    | .error reason => return { headers, bindings := [], obstacle := some reason }
    | .ok bindings => return { headers, bindings, obstacle := none }

/-- Sends the teardown request, if there is one; what goes wrong is only noted. -/
def runTeardown (config : Config) (suite : ApiSuite) (p : Preparation) : Fallible Unit :=
  match suite.teardown with
  | none => return ()
  | some call => do
    let warn (rest : String) : Fallible Unit :=
      Fallible.lift (Program.warn ("Teardown of API suite " ++ suite.name ++ rest))
    let sent ← settle " failed: " Failure.isHost (sideExchange config p.headers p.bindings call)
    match sent with
    | .error reason => warn reason
    | .ok response =>
      if response.isError then warn (" returned status " ++ response.status.text) else return ()

/-- The request of a case whose placeholders are filled in. -/
def caseRequest (suite : ApiSuite) (case : ApiCase) (timeout : Value) : Http.Request :=
  { method := case.method
    url := Http.buildUrl "" (suite.baseEndpoint ++ case.endpoint) case.query
    headers := match case.auth.filter (· != "") with
      | some token => Http.Headers.overlay case.headers [(authorization, bearer token)]
      | none => case.headers
    body := case.body
    timeout := some timeout }

/-- Sends the request of a case and checks the response; both are recorded. -/
def tryApiCase (config : Config) (suite : ApiSuite) (p : Preparation) (case : ApiCase) :
    Trial Unit := do
  let bindings := Variables.merge p.bindings case.dataInjection
  let document := case.document.interpolate bindings
  let filled ← Trial.ofExcept ((ApiCase.ofDocument document).mapError Suite.ReadFault.failure)
  let timeout := timeoutOf config filled.timeout
  let request := caseRequest suite filled timeout
  Trial.attach (.json "Request" request.diagnostic)
  let context := clientContext config p.headers (some timeout)
  let response ← Trial.ofFallible (Fallible.exchange context request)
  Trial.attach (.json "Response" response.diagnostic)
  let report ← Trial.ofExcept (Matching.evaluate filled.expect response)
  if !report.passed then throw ⟨.assertion, report.failureMessage⟩

/-- One attempt at a case. -/
def attemptApiCase (config : Config) (suite : ApiSuite) (p : Preparation) (case : ApiCase) :
    Program AttemptOutcome := do
  match ← (tryApiCase config suite p case).perform with
  | (.ok (), attachments) => return .success attachments
  | (.error f, attachments) => return .failure f attachments ""

/-- Runs a case of a suite that is prepared. -/
def runApiCase (config : Config) (suite : ApiSuite) (p : Preparation) (case : ApiCase) :
    Program CaseResult :=
  if case.skip then return .skipped suite.name case.name case.tags
  else
    let retries := retriesOf (case.retries.getD (.int config.execution.retries))
    runAttempts suite.name case.name case.tags retries fun _ => attemptApiCase config suite p case

/-- Runs the cases of a suite side by side, or blocks them when it could not be prepared. -/
def runApiCases (config : Config) (turns : List Nat) (suite : ApiSuite) (p : Preparation)
    (cases : List ApiCase) : Program (List CaseResult) :=
  match p.obstacle with
  | none => runSideBySide config.execution.workers turns (cases.map (runApiCase config suite p))
  | some reason => do
    Program.warn ("Setup of API suite " ++ suite.name ++ " failed: " ++ reason)
    return cases.map fun case => .blocked suite.name case.name case.tags reason

/-- Runs the cases of a suite that have one of the tags asked for; they take the given turns. -/
def runApiSuite (config : Config) (turns : List Nat) (tags : List String) (suite : ApiSuite) :
    Fallible SuiteResult := do
  let start ← Fallible.lift Program.clock
  let p ← prepare config suite
  let cases ← Fallible.lift (runApiCases config turns suite p (Suite.select tags suite.tests))
  runTeardown config suite p
  let stop ← Fallible.lift Program.clock
  return { suite := suite.name, kind := .api, cases, source := suite.source
           duration := elapsed start stop, setupError := p.obstacle }

end SuiteEngine.Run
