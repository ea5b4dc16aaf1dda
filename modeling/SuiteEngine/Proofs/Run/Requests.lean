import SuiteEngine.Proofs.Http.Headers
import SuiteEngine.Proofs.Http.Parameters
import SuiteEngine.Proofs.Run.Variables

/-!
# Requests of a test

All attempts at a test send one and the same request, that of the test with its placeholders filled in,
from a client with the configured headers under those that were granted to the suite. So what is said of this
request is said of all that is sent for the test.

The token of a test is put over the headers of the test, and the granted headers over the configured
ones, as they are spelled: a header of the same name in another spelling stays beside the new
one. The declared parameters are put behind the endpoint with a question mark, whether or not it has one.

Headlines:
* `runApiCase_sends`, `runApiCase_sends_or_refused`: what is sent for a test.
* **`runApiCase_authorization`**: when there is one header with credentials, and which.
* **`runApiCase_parameters`**: when the declared parameters arrive.
-/

namespace SuiteEngine.Run

open Host (ClientContext Event Log)
open Host.Fallible (Exchange)
open Http (Headers)
open Report (CaseResult)
open Suite (ApiCase ApiSuite)

variable {config : Config} {suite : ApiSuite} {p : Preparation} {c filled : ApiCase} {log : Log}
  {context : ClientContext} {request : Http.Request} {answer : Except Failure Http.Response}
  {result : CaseResult}

/-! ## What is sent -/

/-- What is asked by attempts is asked by one of them, or is a warning. -/
theorem mem_triesLog {suite name : String} {allowed made : Nat} {earlier : List Try} {last : Try}
    {e : Event} (h : e ∈ triesLog suite name allowed made earlier last) :
    (∃ t ∈ earlier ++ [last], e ∈ t.log) ∨ ∃ message, e = ⟨.warn message, ()⟩ := by
  induction earlier generalizing made with
  | nil => exact .inl ⟨last, List.mem_singleton_self last, h⟩
  | cons t earlier ih =>
    rw [triesLog, List.mem_append, List.mem_cons] at h
    obtain h | h | h := h
    · exact .inl ⟨t, List.mem_cons_self, h⟩
    · exact .inr ⟨_, h⟩
    · obtain ⟨u, hu, he⟩ | hwarn := ih h
      · exact .inl ⟨u, List.mem_cons_of_mem t hu, he⟩
      · exact .inr hwarn

/-- In an exchange one request is sent, with its client. -/
theorem exchange_sends {context' : ClientContext} {request' : Http.Request}
    {r : Except Failure Http.Response} (h : Exchange context' request' log r)
    (hs : ⟨.send context request, answer⟩ ∈ log) : context = context' ∧ request = request' := by
  cases h with
  | refused f =>
    cases List.mem_singleton.mp hs
  | answered r =>
    rw [List.mem_cons, List.mem_cons, List.mem_singleton] at hs
    obtain h | h | h := hs
    · cases h
    · cases h
      exact ⟨rfl, rfl⟩
    · cases h

/-- The client that a filled test is sent with. -/
def caseContext (config : Config) (p : Preparation) (filled : ApiCase) : ClientContext :=
  clientContext config p.headers (some (timeoutOf config filled.timeout))

/-- What is sent for a filled test. -/
def filledRequest (config : Config) (suite : ApiSuite) (filled : ApiCase) : Http.Request :=
  caseRequest suite filled (timeoutOf config filled.timeout)

/-- The test as it is read after its placeholders are filled in. -/
def ReadAs (p : Preparation) (c filled : ApiCase) : Prop :=
  ApiCase.ofDocument (c.document.interpolate (p.bindings.merge c.dataInjection)) = .ok filled

theorem attemptApiCase_exchange {o : AttemptOutcome} (hread : ReadAs p c filled)
    (h : (attemptApiCase config suite p c).Traces log o) :
    ∃ r, Exchange (caseContext config p filled) (filledRequest config suite filled) log r := by
  obtain ⟨_, _, ht, -⟩ := attemptApiCase_tried h
  exact tryApiCase_request hread ht

/-- **All that is sent for a test is its request**, filled in. -/
theorem runApiCase_sends (hread : ReadAs p c filled)
    (h : (runApiCase config suite p c).Traces log result)
    (hs : ⟨.send context request, answer⟩ ∈ log) :
    context = caseContext config p filled ∧ request = filledRequest config suite filled := by
  have hrun : CaseRun config suite p c (log, result) := caseRun_of_traces h
  cases hskip : c.skip with
  | true =>
    have hlog := congrArg Prod.fst (hrun.skipped hskip)
    rw [show log = [] from hlog] at hs
    cases hs
  | false =>
    obtain ⟨earlier, last, start, stop, htried, hlog, -⟩ := hrun.tried hskip
    rw [show log = _ from hlog, List.cons_append, List.mem_cons, List.mem_append,
      List.mem_singleton] at hs
    obtain h | h | h := hs
    · cases h
    · obtain ⟨t, ht, hmem⟩ | ⟨message, h⟩ := mem_triesLog h
      · obtain ⟨r, hx⟩ := attemptApiCase_exchange hread (htried.traces_of_mem ht)
        exact exchange_sends hx hmem
      · cases h
    · cases h

/-- It is sent, unless the client is refused. -/
theorem runApiCase_sends_or_refused (hread : ReadAs p c filled) (hskip : c.skip = false)
    (h : (runApiCase config suite p c).Traces log result) :
    (∃ f, ⟨.openClient (caseContext config p filled), .error f⟩ ∈ log) ∨
      ∃ answer, ⟨.send (caseContext config p filled) (filledRequest config suite filled), answer⟩ ∈
        log := by
  have hrun : CaseRun config suite p c (log, result) := caseRun_of_traces h
  obtain ⟨earlier, last, start, stop, htried, hlog, -⟩ := hrun.tried hskip
  have hlast : last ∈ earlier ++ [last] := by simp
  have hmem : last.log ⊆ log := fun e he => by
    rw [show log = _ from hlog, List.cons_append]
    exact List.mem_cons_of_mem _ (List.mem_append_left _ (triesLog_mem hlast he))
  obtain ⟨r, hx⟩ := attemptApiCase_exchange hread (htried.traces_of_mem hlast)
  generalize hl : last.log = l at hx hmem
  cases hx with
  | refused f => exact .inl ⟨f, hmem List.mem_cons_self⟩
  | answered r => exact .inr ⟨r, hmem (List.mem_cons_of_mem _ List.mem_cons_self)⟩

/-- There is a run in which it is sent: without a network no client is refused. -/
theorem exists_sends (config : Config) (suite : ApiSuite) (hread : ReadAs p c filled)
    (hskip : c.skip = false) :
    ∃ log result answer, (runApiCase config suite p c).Traces log result ∧
      ⟨.send (caseContext config p filled) (filledRequest config suite filled), answer⟩ ∈ log := by
  obtain ⟨htraces, hanswers⟩ := Host.Program.traces_run Host.Offline.answer
    (runApiCase config suite p c) ⟨⟨[], []⟩, 0.0, []⟩
  obtain ⟨f, hf⟩ | ⟨answer, ha⟩ := runApiCase_sends_or_refused hread hskip htraces
  · obtain ⟨s, hs⟩ := hanswers _ hf
    cases hs
  · exact ⟨_, _, answer, htraces, ha⟩

/-! ## Credentials -/

theorem filledRequest_token {token : String} (hauth : filled.auth = some token) (hne : token ≠ "") :
    (filledRequest config suite filled).headers =
      Headers.overlay filled.headers [(authorization, bearer token)] := by
  have htoken : filled.auth.filter (· != "") = some token := by
    rw [hauth, Option.filter_some, if_pos (bne_iff_ne.mpr hne)]
  rw [filledRequest, caseRequest, htoken]

theorem filledRequest_plain (hauth : ∀ token, filled.auth = some token → token = "") :
    (filledRequest config suite filled).headers = filled.headers := by
  have htoken : filled.auth.filter (· != "") = none := by
    cases ha : filled.auth with
    | none => rfl
    | some token => rw [hauth token ha, Option.filter_some, if_neg (by decide)]
  rw [filledRequest, caseRequest, htoken]

/-- The headers with credentials that a request is sent with: those of the client, and in the place of those
with the same names those of the request. -/
def credentials (context : ClientContext) (request : Http.Request) : Headers :=
  (context.headers.supersede request.headers).named authorization

/-- **When there is one header with credentials, and which.** Where the test has a token, the request has the
header for it and no other if and only if the headers of the test spell its name in no other way. Where it
has none, there is one such header at most if and only if those of the test that have its name spell
it in one way, or, if there are none, those that are configured and granted do. These are the
headers that go over the wire, unless the address itself names credentials. -/
theorem runApiCase_authorization (hread : ReadAs p c filled)
    (hconfig : (Headers.names config.headers).Nodup) (hcase : (Headers.names filled.headers).Nodup)
    (h : (runApiCase config suite p c).Traces log result)
    (hs : ⟨.send context request, answer⟩ ∈ log) :
    (∀ token, filled.auth = some token → token ≠ "" →
      ((credentials context request).map Prod.snd = [bearer token] ↔
        ∀ name ∈ Headers.names filled.headers, Http.sameName name authorization = true →
          name = authorization)) ∧
    ((∀ token, filled.auth = some token → token = "") →
      ((credentials context request).length ≤ 1 ↔
        Headers.SpelledOnce (if Headers.has filled.headers authorization then filled.headers
          else config.headers ++ p.headers) authorization)) ∧
    ∀ (client : Http.Client) (t : Http.Transmission), client.headers = context.headers →
      client.transmission request = .ok t → t.address.authorization? = none →
      t.headers.named authorization = credentials context request := by
  obtain ⟨rfl, rfl⟩ := runApiCase_sends hread h hs
  have hopen : (caseContext config p filled).headers.names.Nodup :=
    Headers.nodup_overlay hconfig p.headers
  refine ⟨fun token hauth hne => ?_, fun hauth => ?_, fun client t hclient ht hnone => ?_⟩
  · rw [credentials, filledRequest_token hauth hne]
    exact Headers.named_supersede_overlay_iff hcase _ authorization (bearer token)
  · have hnames : (caseContext config p filled).headers.SpelledOnce authorization ↔
        Headers.SpelledOnce (config.headers ++ p.headers) authorization := by
      refine Headers.SpelledOnce.congr fun name => ?_
      rw [caseContext, clientContext, Headers.mem_names_overlay, Headers.names, Headers.names,
        Headers.names, List.map_append, List.mem_append]
    rw [credentials, filledRequest_plain hauth,
      Headers.length_named_supersede_le_one_iff hopen hcase]
    split
    · exact Iff.rfl
    · exact hnames
  · rw [client.named_transmission (by decide) (by decide) (by decide) (by decide) ht fun _ => hnone,
      hclient, credentials]

/-- A test with a token and with other credentials of its own, under a name in small letters. -/
def signedCase : ApiCase :=
  { plainCase with
    headers := [("authorization", "Basic b2xkOnB3")], auth := some "tok"
    document := .obj [("name", .str "ping"), ("method", .str "GET"), ("endpoint", .str "/ping"),
      ("headers", .obj [("authorization", .str "Basic b2xkOnB3")]), ("auth", .str "tok"),
      ("expect", .obj [])] }

/-- Nothing that was prepared. -/
def unprepared : Preparation := { headers := [], bindings := [], obstacle := none }

theorem signedCase_readAs : ReadAs unprepared signedCase signedCase := by
  rfl

/-- Both credentials of the test go out with it. -/
theorem runApiCase_authorization_signed :
    ReadAs unprepared signedCase signedCase ∧ (Headers.names signedCase.headers).Nodup ∧
      ∃ log result context request answer,
        (runApiCase (bareConfig "http://api.test" "") framedSuite unprepared signedCase).Traces log
          result ∧
        ⟨.send context request, answer⟩ ∈ log ∧ signedCase.auth = some "tok" ∧
        (credentials context request).map Prod.snd ≠ [bearer "tok"] := by
  have hconfig : (Headers.names (bareConfig "http://api.test" "").headers).Nodup := List.nodup_nil
  have hcase : (Headers.names signedCase.headers).Nodup := by decide
  obtain ⟨log, result, answer, htraces, hs⟩ := exists_sends (bareConfig "http://api.test" "")
    framedSuite signedCase_readAs rfl
  have hone := (runApiCase_authorization signedCase_readAs hconfig hcase htraces hs).1 "tok" rfl
    (by decide)
  refine ⟨signedCase_readAs, hcase, log, result, _, _, answer, htraces, hs, rfl, fun heq => ?_⟩
  have hspelled := hone.mp heq "authorization" List.mem_cons_self (by decide)
  exact absurd hspelled (by decide)

/-! ## Parameters -/

/-- **When the declared parameters arrive.** What a form reads from the address of the request, behind its
first question mark, are the parameters of the endpoint and then those that the test declares if and
only if the endpoint has no question mark. A client, which takes the fragment away first, finds them there
if and only if the endpoint has no number sign either. -/
theorem runApiCase_parameters (hread : ReadAs p c filled) (hquery : filled.query ≠ [])
    (h : (runApiCase config suite p c).Traces log result)
    (hs : ⟨.send context request, answer⟩ ∈ log) :
    let endpoint := suite.baseEndpoint ++ filled.endpoint
    (Http.formPairs (Http.queryPart request.url.toList) =
        Http.formPairs (Http.queryPart endpoint.toList) ++ Http.declared filled.query ↔
      '?' ∉ endpoint.toList) ∧
    (Http.formPairs (Http.readQuery request.url.toList) =
        Http.formPairs (Http.readQuery (Http.buildUrl "" endpoint []).toList) ++
          Http.declared filled.query ↔
      '?' ∉ endpoint.toList ∧ '#' ∉ endpoint.toList) := by
  obtain ⟨rfl, rfl⟩ := runApiCase_sends hread h hs
  exact ⟨Http.buildUrl_arrives_iff _ hquery, Http.buildUrl_read_iff _ hquery⟩

/-- A test with parameters in its endpoint and with one that it declares. -/
def queriedCase : ApiCase :=
  { plainCase with
    endpoint := "/users?active=true", query := [("page", .int 2)]
    document := .obj [("name", .str "ping"), ("method", .str "GET"),
      ("endpoint", .str "/users?active=true"), ("query", .obj [("page", .int 2)]),
      ("expect", .obj [])] }

theorem queriedCase_readAs : ReadAs unprepared queriedCase queriedCase := by
  rfl

/-- The declared parameter is taken for a part of the other one. -/
theorem runApiCase_parameters_queried :
    ReadAs unprepared queriedCase queriedCase ∧ queriedCase.query ≠ [] ∧
      ∃ log result context request answer,
        (runApiCase (bareConfig "http://api.test" "") framedSuite unprepared queriedCase).Traces log
          result ∧
        ⟨.send context request, answer⟩ ∈ log ∧
        Http.formPairs (Http.queryPart request.url.toList) ≠
          [("active", "true"), ("page", "2")] := by
  have hquery : queriedCase.query ≠ [] := List.cons_ne_nil _ _
  obtain ⟨log, result, answer, htraces, hs⟩ := exists_sends (bareConfig "http://api.test" "")
    framedSuite queriedCase_readAs rfl
  have harrives := (runApiCase_parameters queriedCase_readAs hquery htraces hs).1
  refine ⟨queriedCase_readAs, hquery, log, result, _, _, answer, htraces, hs, fun heq => ?_⟩
  have hown : Http.formPairs (Http.queryPart "/users?active=true".toList) = [("active", "true")] := by
    decide +kernel
  exact absurd (harrives.mp (by rw [heq]; exact congrArg (· ++ _) hown.symm)) (by decide)

end SuiteEngine.Run
