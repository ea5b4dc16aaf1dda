import SuiteEngine.Proofs.Host.Alike
import SuiteEngine.Proofs.Run.Alone

/-!
# Credentials do not show in results

Two runs of a suite with different credentials obtain different headers. Once both have them, these
headers only stand in the contexts of the clients that are opened. So where setup, cases and teardown
are answered alike, whatever headers those contexts hold, the two runs send the same requests, case
by case, and come to the same results but for their durations.

Headlines:
* `runSetup_alike`, `runApiCase_alike`, `runTeardown_alike`: each part of a run is alike.
* `onward_of_traces`: what a run asks once it has its headers.
* `casesAlike_of_traces`: the cases are alike, in the same turns or in any.
* **`runApiSuite_withAuth`**: two runs that differ in their credentials send the same and come to
  the same.
-/

namespace SuiteEngine.Run

open Host (AlwaysAlike AnsweredAlike ClientContext Event Fallible Interleaves Log Program Trial)
open Host.Fallible (sent)
open Report (CaseResult SuiteResult)
open Suite (ApiCase ApiSuite SideCall)

variable {config : Config} {auth' : Config.Auth} {suite : ApiSuite} {p p' : Preparation}
  {turns turns' : List Nat} {tags : List String} {headers headers' : Http.Headers} {log log' : Log}

/-- The configuration with other credentials. -/
def withAuth (config : Config) (auth : Config.Auth) : Config := { config with auth }

/-- Preparations that differ in their headers at most. -/
structure Preparation.Alike (p p' : Preparation) : Prop where
  bindings : p.bindings = p'.bindings
  obstacle : p.obstacle = p'.obstacle

/-! ## The parts of a run -/

theorem clientContext_alike (timeout : Option Value) :
    (clientContext config headers timeout).Alike
      (clientContext (withAuth config auth') headers' timeout) := ⟨rfl, rfl⟩

theorem settle_alike {α : Type} {lead : String} {foreseen : Failure → Bool} {x x' : Fallible α}
    (h : Fallible.Alike x x') : Fallible.Alike (settle lead foreseen x) (settle lead foreseen x') := by
  refine Fallible.Alike.tryCatch (h.bind fun a => Fallible.alike_pure _) fun f => ?_
  split
  · exact Fallible.alike_pure _
  · exact Fallible.alike_throw f

theorem sideExchange_alike (bindings : Variables) (call : SideCall) :
    Fallible.Alike (sideExchange config headers bindings call)
      (sideExchange (withAuth config auth') headers' bindings call) :=
  Fallible.alike_exchange (clientContext_alike none) (sideRequest config call bindings)

/-- The setup request is the same whatever headers the suite carries. -/
theorem runSetup_alike (setup : Option SideCall) :
    Fallible.Alike (runSetup config setup headers)
      (runSetup (withAuth config auth') setup headers') := by
  cases setup with
  | none => exact Fallible.alike_pure _
  | some call =>
    exact (settle_alike (sideExchange_alike [] call)).bind fun sent => Fallible.alike_pure _

/-- So is the teardown request. -/
theorem runTeardown_alike (hp : p.Alike p') :
    Fallible.Alike (runTeardown config suite p)
      (runTeardown (withAuth config auth') suite p') := by
  unfold runTeardown
  rw [hp.bindings]
  cases suite.teardown with
  | none => exact Fallible.alike_pure _
  | some call =>
    refine (settle_alike (sideExchange_alike p'.bindings call)).bind fun sent => ?_
    cases sent with
    | error reason => exact Fallible.alike_lift (Program.Alike.warn _)
    | ok response =>
      dsimp only
      split
      · exact Fallible.alike_lift (Program.Alike.warn _)
      · exact Fallible.alike_pure _

/-- A trial of a case sends the same request and makes the same of the answer. -/
theorem tryApiCase_alike (hp : p.Alike p') (case : ApiCase) :
    Trial.Alike (tryApiCase config suite p case)
      (tryApiCase (withAuth config auth') suite p' case) := by
  unfold tryApiCase
  rw [hp.bindings]
  refine (Trial.alike_ofExcept _).bind fun filled => ?_
  refine (Trial.alike_attach _).bind fun _ => ?_
  refine Trial.Alike.bind ?_ fun response => ?_
  · exact Trial.alike_ofFallible (Fallible.alike_exchange (clientContext_alike _) _)
  refine (Trial.alike_attach _).bind fun _ => ?_
  refine (Trial.alike_ofExcept _).bind fun report => ?_
  split
  · exact Trial.alike_throw _
  · exact Trial.alike_pure ()

theorem attemptApiCase_alike (hp : p.Alike p') (case : ApiCase) :
    Program.Alike Eq (attemptApiCase config suite p case)
      (attemptApiCase (withAuth config auth') suite p' case) := by
  refine Program.Alike.bind (tryApiCase_alike hp case []) ?_
  rintro ⟨r, attachments⟩ _ rfl
  cases r with
  | ok => exact .done rfl
  | error f => exact .done rfl

/-- Alike attempts are made as often. -/
theorem attemptsFrom_alike {attempt attempt' : Nat → Program AttemptOutcome} (name : String)
    (suite : String) (allowed : Nat) (h : ∀ n, Program.Alike Eq (attempt n) (attempt' n))
    (made left : Nat) :
    Program.Alike Eq (attemptsFrom suite name allowed attempt made left)
      (attemptsFrom suite name allowed attempt' made left) := by
  induction left generalizing made with
  | zero =>
    refine (h (made + 1)).bind ?_
    rintro o _ rfl
    exact .done rfl
  | succ left ih =>
    rw [attemptsFrom, attemptsFrom]
    refine (h (made + 1)).bind ?_
    rintro o _ rfl
    split
    · refine (Program.Alike.warn _).bind ?_
      rintro _ _ rfl
      exact ih (made + 1)
    · exact .done rfl

/-- Results that differ in their durations at most. -/
def SameCase (r r' : CaseResult) : Prop := undated r = undated r'

/-- Alike attempts make the same of a case. -/
theorem runAttempts_alike {attempt attempt' : Nat → Program AttemptOutcome} (suite name : String)
    (tags : List String) (retries : Nat) (h : ∀ n, Program.Alike Eq (attempt n) (attempt' n)) :
    Program.Alike SameCase (runAttempts suite name tags retries attempt)
      (runAttempts suite name tags retries attempt') := by
  unfold runAttempts
  refine Program.Alike.clock.bind fun start start' _ => ?_
  refine (attemptsFrom_alike name suite _ h 0 retries).bind ?_
  rintro ⟨o, attempts⟩ _ rfl
  refine Program.Alike.clock.bind fun stop stop' _ => .done ?_
  unfold SameCase undated
  rfl

/-- **A case sends the same requests and ends in the same way**, whatever headers the suite carries.
-/
theorem runApiCase_alike (hp : p.Alike p') (case : ApiCase) :
    Program.Alike SameCase (runApiCase config suite p case)
      (runApiCase (withAuth config auth') suite p' case) := by
  unfold runApiCase
  split
  · exact .done rfl
  · exact runAttempts_alike _ _ _ _ fun _ => attemptApiCase_alike hp case

/-- Cases that are blocked are blocked for the same reason. -/
theorem runApiCases_alike_of_blocked (hp : p.Alike p') {reason : String}
    (ho : p.obstacle = some reason) (cases : List ApiCase) :
    Program.Alike Eq (runApiCases config turns suite p cases)
      (runApiCases (withAuth config auth') turns' suite p' cases) := by
  unfold runApiCases
  rw [← hp.obstacle, ho]
  refine (Program.Alike.warn _).bind ?_
  rintro _ _ rfl
  exact .done rfl

/-! ## Once the headers are there -/

/-- What is left of the preparation when the headers are there. -/
def preparedWith (config : Config) (suite : ApiSuite) (headers : Http.Headers) :
    Fallible Preparation := do
  match ← runSetup config suite.setup headers with
  | .error reason => return { headers, bindings := [], obstacle := some reason }
  | .ok bindings => return { headers, bindings, obstacle := none }

theorem prepare_eq (config : Config) (suite : ApiSuite) :
    prepare config suite = suiteHeaders config >>= fun r =>
      match r with
      | .error reason => return { headers := [], bindings := [], obstacle := some reason }
      | .ok headers => preparedWith config suite headers := rfl

theorem preparedWith_alike :
    Program.Alike (fun r r' => r.map Preparation.bindings = r'.map Preparation.bindings ∧
        r.map Preparation.obstacle = r'.map Preparation.obstacle)
      (preparedWith config suite headers).run
      (preparedWith (withAuth config auth') suite headers').run := by
  unfold preparedWith
  rw [ExceptT.run_bind, ExceptT.run_bind]
  refine Program.Alike.bind (runSetup_alike suite.setup) ?_
  rintro (f | reason | bindings) _ rfl
  · exact .done ⟨rfl, rfl⟩
  · exact .done ⟨rfl, rfl⟩
  · exact .done ⟨rfl, rfl⟩

/-- A suite's result without durations. -/
def undatedSuite (r : SuiteResult) : SuiteResult :=
  { r with cases := r.cases.map undated, duration := 0.0 }

theorem fromTeardown_alike (hp : p.Alike p') {start start' : Float}
    {results results' : List CaseResult} (hr : results.map undated = results'.map undated) :
    Program.Alike (fun r r' => r.map undatedSuite = r'.map undatedSuite)
      (fromTeardown config suite (start, p, results)).run
      (fromTeardown (withAuth config auth') suite (start', p', results')).run := by
  unfold fromTeardown
  rw [ExceptT.run_bind, ExceptT.run_bind]
  refine Program.Alike.bind (runTeardown_alike hp) ?_
  rintro (f | _) _ rfl
  · exact .done rfl
  · refine Program.Alike.clock.bind fun stop stop' _ => .done ?_
    simp only [Except.map, undatedSuite, hr, hp.obstacle]

/-- What a run asks once it has its headers, part by part: setup, the cases, and the rest. -/
structure Onward where
  setup : Log
  prepared : Except Failure Preparation
  cases : Log
  results : List CaseResult
  rest : Log

/-- The parts of a run that began so and has its headers. Where setup raises, nothing follows. -/
structure Onward.Of (config : Config) (turns : List Nat) (tags : List String) (suite : ApiSuite)
    (start : Float) (headers : Http.Headers) (log : Log) (r : Except Failure SuiteResult)
    (o : Onward) : Prop where
  order : log = o.setup ++ o.cases ++ o.rest
  setup : Fallible.Traces (preparedWith config suite headers) o.setup o.prepared
  raised : ∀ f, o.prepared = .error f →
    o.cases = [] ∧ o.results = [] ∧ o.rest = [] ∧ r = .error f
  cases : ∀ p, o.prepared = .ok p →
    (runApiCases config turns suite p (Suite.select tags suite.tests)).Traces o.cases o.results
  rest : ∀ p, o.prepared = .ok p →
    Fallible.Traces (fromTeardown config suite (start, p, o.results)) o.rest r

/-- The run has obtained its headers, and this is what it asks from then on. -/
structure HasHeaders (config : Config) (start : Float) (headers : Http.Headers)
    (log onward : Log) : Prop where
  order : ∃ auth, log = ⟨.clock, start⟩ :: (auth ++ onward) ∧
    Fallible.Traces (suiteHeaders config) auth (.ok (.ok headers))

/-- A run that has its headers goes on in its parts. -/
theorem onward_of_traces {r : Except Failure SuiteResult} {start : Float} {onward : Log}
    (h : Fallible.Traces (runApiSuite config turns tags suite) log r)
    (hh : HasHeaders config start headers log onward) :
    ∃ o : Onward, o.Of config turns tags suite start headers onward r := by
  obtain ⟨auth, rfl, hauth⟩ := hh.order
  obtain ⟨_, _, l₁, hl, hc, h₁⟩ := Fallible.traces_lift_bind.mp h
  obtain rfl := Program.traces_clock.mp hc
  obtain ⟨he, rfl⟩ := List.cons.inj hl
  cases he
  rw [prepare_eq, bind_assoc] at h₁
  rcases Fallible.traces_bind.mp h₁ with ⟨f, ha, rfl⟩ | ⟨a, l₂, l₃, hl, ha, h₂⟩
  · obtain ⟨_, hr, _⟩ := hauth.prefix_unique ha (List.append_nil _).symm
    cases hr
  obtain ⟨rfl, ha, rfl⟩ := hauth.prefix_unique ha hl
  obtain rfl := Except.ok.inj ha
  rcases Fallible.traces_bind.mp h₂ with ⟨f, hs, rfl⟩ | ⟨p, l₄, l₅, rfl, hs, h₃⟩
  · refine ⟨⟨onward, .error f, [], [], []⟩, ?_⟩
    exact {
      order := by simp
      setup := hs
      raised := fun g hg => ⟨rfl, rfl, rfl, by rw [Except.error.inj hg]⟩
      cases := fun p hp => by cases hp
      rest := fun p hp => by cases hp }
  · obtain ⟨results, l₆, l₇, rfl, hc, h₄⟩ := Fallible.traces_lift_bind.mp h₃
    refine ⟨⟨l₄, .ok p, l₆, results, l₇⟩, ?_⟩
    exact {
      order := by simp
      setup := hs
      raised := fun f hf => by cases hf
      cases := fun q hq => by
        obtain rfl := Except.ok.inj hq
        exact hc
      rest := fun q hq => by
        obtain rfl := Except.ok.inj hq
        exact h₄ }

/-! ## Two runs -/

/-- Two runs of a case: what both asked, and how it ended. -/
abbrev CaseTwin := Program.Twin CaseResult CaseResult

/-- Both runs of a case send the same requests and end in the same way. -/
structure CaseTwin.Of (config : Config) (auth' : Config.Auth) (suite : ApiSuite)
    (p p' : Preparation) (case : ApiCase) (t : CaseTwin) : Prop where
  traces : (runApiCase config suite p case).Traces t.log t.result
  traces' : (runApiCase (withAuth config auth') suite p' case).Traces t.log' t.result'
  sent_eq : sent t.log = sent t.log'
  same : SameCase t.result t.result'

/-- The cases of two runs of a suite: each of them sends the same requests in both runs and ends in
the same way, beside the others. -/
def CasesAlike (config : Config) (auth' : Config.Auth) (suite : ApiSuite) (p p' : Preparation)
    (cases : List ApiCase) (log log' : Log) (results results' : List CaseResult) : Prop :=
  ∃ ts : List CaseTwin, List.Forall₂ (CaseTwin.Of config auth' suite p p') cases ts ∧
    Interleaves (ts.map Program.Twin.log) log ∧ Interleaves (ts.map Program.Twin.log') log' ∧
    results = ts.map Program.Twin.result ∧ results' = ts.map Program.Twin.result'

theorem CasesAlike.undated_eq {cases : List ApiCase} {results results' : List CaseResult}
    (h : CasesAlike config auth' suite p p' cases log log' results results') :
    results.map undated = results'.map undated := by
  obtain ⟨ts, hts, -, -, rfl, rfl⟩ := h
  induction hts with
  | nil => rfl
  | cons ht _ ih => exact congrArg₂ List.cons ht.same ih

/-- **The cases of two runs are alike**, in the same turns, or in any where questions are answered
alike whenever they are asked. -/
theorem casesAlike_of_traces (hp : p.Alike p') (ho : p.obstacle = none) {cases : List ApiCase}
    {results results' : List CaseResult}
    (h : (runApiCases config turns suite p cases).Traces log results)
    (h' : (runApiCases (withAuth config auth') turns' suite p' cases).Traces log' results')
    (ha : AnsweredAlike log log') (ht : turns = turns' ∨ AlwaysAlike log log') :
    CasesAlike config auth' suite p p' cases log log' results results' ∧
      (turns = turns' → Log.Alike log log') := by
  unfold runApiCases runSideBySide at h h'
  rw [← hp.obstacle] at h'
  rw [ho, List.length_map] at h h'
  have hall : ∀ pp ∈ cases.map fun case => (runApiCase config suite p case,
      runApiCase (withAuth config auth') suite p' case), Program.Alike SameCase pp.1 pp.2 := by
    intro pp hpp
    obtain ⟨case, _, rfl⟩ := List.mem_map.mp hpp
    exact runApiCase_alike hp case
  have hfst : cases.map (runApiCase config suite p) = (cases.map fun case =>
      (runApiCase config suite p case, runApiCase (withAuth config auth') suite p' case)).map
        Prod.fst := by rw [List.map_map]; rfl
  have hsnd : cases.map (runApiCase (withAuth config auth') suite p') = (cases.map fun case =>
      (runApiCase config suite p case, runApiCase (withAuth config auth') suite p' case)).map
        Prod.snd := by rw [List.map_map]; rfl
  rw [hfst] at h
  rw [hsnd] at h'
  have htwins : Program.Twins SameCase (cases.map fun case => (runApiCase config suite p case,
      runApiCase (withAuth config auth') suite p' case)) log log' results results' ∧
        (turns = turns' → Log.Alike log log') := by
    by_cases he : turns = turns'
    · subst he
      obtain ⟨hts, hl⟩ := Program.Twins.of_pool hall h h' ha
      exact ⟨hts, fun _ => hl⟩
    · have hs := Program.sideBySide_of_traces (one_le_placesFor _ _) h
      have hs' := Program.sideBySide_of_traces (one_le_placesFor _ _) h'
      exact ⟨.of_sideBySide hall hs hs' (ht.resolve_left he), fun h => absurd h he⟩
  obtain ⟨⟨ts, hts, hi, hi', rfl, rfl⟩, hl⟩ := htwins
  rw [List.forall₂_map_left_iff] at hts
  refine ⟨⟨ts, hts.imp fun case t hc => ?_, hi, hi', rfl, rfl⟩, hl⟩
  exact {
    traces := hc.traces
    traces' := hc.traces'
    sent_eq := hc.alike.sent_eq
    same := hc.ends }

/-- Two runs that send the same in each of their parts, case by case, and come to the same. -/
structure RunsAlike (config : Config) (auth' : Config.Auth) (tags : List String) (suite : ApiSuite)
    (o o' : Onward) (r r' : Except Failure SuiteResult) : Prop where
  setup : sent o.setup = sent o'.setup
  blocked : ∀ p reason, o.prepared = .ok p → p.obstacle = some reason →
    sent o.cases = [] ∧ sent o'.cases = []
  cases : ∀ p, o.prepared = .ok p → p.obstacle = none → ∃ p', o'.prepared = .ok p' ∧
    CasesAlike config auth' suite p p' (Suite.select tags suite.tests) o.cases o'.cases o.results
      o'.results
  rest : sent o.rest = sent o'.rest
  result : r.map undatedSuite = r'.map undatedSuite

/-- Two preparations that went on from their headers alike ended alike. -/
theorem prepared_alike {start start' : Float} {o o' : Onward} {r r' : Except Failure SuiteResult}
    (h : o.Of config turns tags suite start headers log r)
    (h' : o'.Of (withAuth config auth') turns' tags suite start' headers' log' r')
    (ha : AnsweredAlike o.setup o'.setup) :
    Log.Alike o.setup o'.setup ∧
      ((∃ f, o.prepared = .error f ∧ o'.prepared = .error f) ∨
        ∃ p p', o.prepared = .ok p ∧ o'.prepared = .ok p' ∧ p.Alike p') := by
  obtain ⟨hl, hb, ho⟩ := preparedWith_alike.follow h.setup h'.setup ha
  refine ⟨hl, ?_⟩
  cases hp : o.prepared with
  | error f =>
    cases hp' : o'.prepared with
    | error f' =>
      rw [hp, hp'] at hb
      obtain rfl := Except.error.inj hb
      exact .inl ⟨f, rfl, rfl⟩
    | ok p' =>
      rw [hp, hp'] at hb
      cases hb
  | ok p =>
    cases hp' : o'.prepared with
    | error f' =>
      rw [hp, hp'] at hb
      cases hb
    | ok p' =>
      rw [hp, hp'] at hb ho
      exact .inr ⟨p, p', rfl, rfl, Except.ok.inj hb, Except.ok.inj ho⟩

/-- Two runs that have their headers and are answered alike are alike. -/
theorem runsAlike_of_onward {start start' : Float} {o o' : Onward}
    {r r' : Except Failure SuiteResult}
    (h : o.Of config turns tags suite start headers log r)
    (h' : o'.Of (withAuth config auth') turns' tags suite start' headers' log' r')
    (ha : AnsweredAlike log log') (ht : turns = turns' ∨ AlwaysAlike log log') :
    RunsAlike config auth' tags suite o o' r r' := by
  rw [h.order, h'.order] at ha ht
  obtain ⟨hl, ⟨f, hp, hp'⟩ | ⟨p, p', hp, hp', hpp⟩⟩ := prepared_alike h h' ha.left.left
  · obtain ⟨hc, _, hr, rfl⟩ := h.raised f hp
    obtain ⟨hc', _, hr', rfl⟩ := h'.raised f hp'
    refine ⟨hl.sent_eq, fun p _ hq => ?_, fun p hq => ?_, by rw [hr, hr'], rfl⟩
    · rw [hp] at hq
      cases hq
    · rw [hp] at hq
      cases hq
  have hac : AnsweredAlike o.cases o'.cases := ha.left.right hl
  have htc : turns = turns' ∨ AlwaysAlike o.cases o'.cases :=
    ht.imp_right fun hw => hw.mono (by simp) (by simp)
  -- Where the turns differ, what came before the rest need not be alike, only what is answered.
  have hrest : (turns = turns' → Log.Alike o.cases o'.cases) → AnsweredAlike o.rest o'.rest :=
    fun hcl => ht.elim (fun he => ha.right (List.rel_append hl (hcl he)))
      fun hw => (hw.mono (by simp) (by simp)).answered
  cases hobs : p.obstacle with
  | some reason =>
    obtain ⟨hcl, hres⟩ :=
      (runApiCases_alike_of_blocked hpp hobs _).follow (h.cases p hp) (h'.cases p' hp') hac
    obtain ⟨hrl, hr⟩ := (fromTeardown_alike hpp (congrArg (List.map undated) hres)).follow
      (h.rest p hp) (h'.rest p' hp') (hrest fun _ => hcl)
    refine ⟨hl.sent_eq, fun q reason hq hobs => ?_, fun q hq ho => ?_, hrl.sent_eq, hr⟩
    · obtain rfl := Except.ok.inj (hp.symm.trans hq)
      have hsent := (runApiCases_blocked hobs (h.cases _ hp)).1
      exact ⟨hsent, hcl.sent_eq.symm.trans hsent⟩
    · obtain rfl := Except.ok.inj (hp.symm.trans hq)
      cases hobs.symm.trans ho
  | none =>
    obtain ⟨hc, hcl⟩ :=
      casesAlike_of_traces hpp hobs (h.cases p hp) (h'.cases p' hp') hac htc
    obtain ⟨hrl, hr⟩ := (fromTeardown_alike hpp hc.undated_eq).follow (h.rest p hp)
      (h'.rest p' hp') (hrest hcl)
    refine ⟨hl.sent_eq, fun q reason hq hobs' => ?_, fun q hq _ => ?_, hrl.sent_eq, hr⟩
    · obtain rfl := Except.ok.inj (hp.symm.trans hq)
      cases hobs.symm.trans hobs'
    · obtain rfl := Except.ok.inj (hp.symm.trans hq)
      exact ⟨p', hp', hc⟩

/-- **Credentials do not show.** Two runs of a suite whose configurations differ in nothing but the
credentials, and which both obtained their headers, send the same requests from then on, in setup,
in each case and in teardown, and come to the same but for the durations: provided that questions
that differ in the headers of a context only are answered alike, by whoever answers, where the same
happened before. The cases of both take the same turns, or any turns where such questions are
answered alike whatever happened before. -/
theorem runApiSuite_withAuth {r r' : Except Failure SuiteResult} {start start' : Float}
    {onward onward' : Log}
    (h : Fallible.Traces (runApiSuite config turns tags suite) log r)
    (h' : Fallible.Traces (runApiSuite (withAuth config auth') turns' tags suite) log' r')
    (hh : HasHeaders config start headers log onward)
    (hh' : HasHeaders (withAuth config auth') start' headers' log' onward')
    (ha : AnsweredAlike onward onward') (ht : turns = turns' ∨ AlwaysAlike onward onward') :
    ∃ o o' : Onward, o.Of config turns tags suite start headers onward r ∧
      o'.Of (withAuth config auth') turns' tags suite start' headers' onward' r' ∧
      RunsAlike config auth' tags suite o o' r r' := by
  obtain ⟨o, ho⟩ := onward_of_traces h hh
  obtain ⟨o', ho'⟩ := onward_of_traces h' hh'
  exact ⟨o, o', ho, ho', runsAlike_of_onward ho ho' ha ht⟩

/-- A machine that has a response to every request, which sends the body back. -/
def mirror (q : Host.Question) (m : Host.Offline) : q.Answer × Host.Offline :=
  match q with
  | .send _ request =>
    (.ok { status := .int 200, headers := [], body := request.body, elapsed := .float 1.0 }, m)
  | q => Host.Offline.answer q m

theorem mirror_heedless : Host.Heedless (fun _ _ => True) mirror mirror := by
  intro q q' hq s t _
  refine ⟨?_, trivial⟩
  cases hq with
  | clock => exact .clock _ _
  | warn message => exact .warn message
  | openClient h => exact .openClient h _
  | send h request => exact .send h request _
  | closeClient => exact .closeClient

/-- The configuration that asks for a token with these credentials. -/
def tokenAuth (token : String) : Config.Auth :=
  { strategy := .bearer, tokenEndpoint := some "/token", credentials := [("token", token)]
    apiKey := none, headerName := "" }

/-- The configuration that asks for this token. -/
def tokenConfig (token : String) : Config :=
  withAuth (bareConfig "http://api.test" "") (tokenAuth token)

/-- What the two cases ask of that machine, and what they are told. -/
def mirrored (turns : List Nat) (token : String) : Log :=
  (runApiSuite (tokenConfig token) turns [] twoCases).run.logOf mirror ⟨⟨[], []⟩, 0.0, []⟩

/-- A run on a machine that grants the headers has them. -/
theorem hasHeaders_of_run {σ : Type} {answer : (q : Host.Question) → σ → q.Answer × σ} {s : σ}
    {start : Float} {onward : Log}
    (hr : ((suiteHeaders config).run.run answer s).1 = .ok (.ok headers))
    (hl : log = ⟨.clock, start⟩ :: ((suiteHeaders config).run.logOf answer s ++ onward)) :
    HasHeaders config start headers log onward :=
  ⟨_, hl, hr ▸ (Program.traces_run answer (suiteHeaders config).run s).1⟩

/-- With two tokens, and with their cases in different turns, two runs are alike. -/
theorem runApiSuite_withAuth_mirror :
    HasHeaders (tokenConfig "a") 0.0 [(authorization, "Bearer a")] (mirrored [1, 0, 1] "a")
        ((mirrored [1, 0, 1] "a").drop 4) ∧
      HasHeaders (tokenConfig "b") 0.0 [(authorization, "Bearer b")] (mirrored [] "b")
        ((mirrored [] "b").drop 4) ∧
      ∃ o o' r r', RunsAlike (tokenConfig "a") (tokenAuth "b") [] twoCases o o' r r' := by
  have hh : HasHeaders (tokenConfig "a") 0.0 [(authorization, "Bearer a")] (mirrored [1, 0, 1] "a")
      ((mirrored [1, 0, 1] "a").drop 4) := hasHeaders_of_run rfl rfl
  have hh' : HasHeaders (tokenConfig "b") 0.0 [(authorization, "Bearer b")] (mirrored [] "b")
      ((mirrored [] "b").drop 4) := hasHeaders_of_run rfl rfl
  obtain ⟨ht, hm⟩ := Program.traces_run mirror
    (runApiSuite (tokenConfig "a") [1, 0, 1] [] twoCases).run ⟨⟨[], []⟩, 0.0, []⟩
  obtain ⟨ht', hm'⟩ := Program.traces_run mirror
    (runApiSuite (tokenConfig "b") [] [] twoCases).run ⟨⟨[], []⟩, 0.0, []⟩
  have hall : AlwaysAlike ((mirrored [1, 0, 1] "a").drop 4) ((mirrored [] "b").drop 4) :=
    mirror_heedless.alwaysAlike (fun _ _ => trivial)
      (fun e he => hm e (List.mem_of_mem_drop he)) fun e he => hm' e (List.mem_of_mem_drop he)
  obtain ⟨o, o', -, -, ho⟩ := runApiSuite_withAuth ht ht' hh hh' hall.answered (.inr hall)
  exact ⟨hh, hh', o, o', _, _, ho⟩

end SuiteEngine.Run
