import SuiteEngine.Host.Machine
import SuiteEngine.Proofs.Host.Trial
import SuiteEngine.Proofs.Run.Attempts
import SuiteEngine.Proofs.Run.Preparation

/-!
# The order of a run

A run of an API suite has four parts: authentication, setup, the cases and teardown. `ApiSuiteRun`
says what each of them asks, in which order they come, and what the result is made of; `CaseRun`
says so of one case, `TornDown` of teardown. The cases may take their turns in any order. A run that
has no result is given up in one of the ways of `RunRaises`.

Headlines:
* `tryApiCase_log`: an attempt makes one exchange at most.
* `apiSuiteRun_or_raises`: what the parts are, whoever answers, unless the run is given up.
* **`runApiSuite_phases`**: on a machine whose clients fail only as the environment does, a run
  comes to an end, and its parts come in that order.
-/

namespace SuiteEngine.Run

open Host (Event Fallible Interleaves Log Program Trial)
open Host.Fallible (ClientsFailAsHosts Exchange Fails Foreseen sent)
open Report (Attachment CaseResult SuiteResult)
open Suite (ApiCase ApiSuite SideCall)

variable {config : Config} {suite : ApiSuite} {p : Preparation} {turns : List Nat}
  {tags : List String} {log : Log}

/-! ## One case -/

/-- Checking a response asks nothing. -/
theorem checkResponse_log {case : ApiCase} {response : Http.Response}
    {before after : List Attachment} {r : Except Failure Unit}
    (h : Trial.Traces (do
      Trial.attach (.json "Response" response.diagnostic)
      let report ← Trial.ofExcept (Matching.evaluate case.expect response)
      if !report.passed then throw ⟨.assertion, report.failureMessage⟩) before log r after) :
    log = [] := by
  rcases Trial.traces_ofExcept_bind.mp (Trial.traces_attach_bind.mp h) with
    ⟨_, _, rfl, _⟩ | ⟨report, _, h₂⟩
  · rfl
  split at h₂
  · exact (Trial.traces_throw.mp h₂).1
  · exact (Trial.traces_pure.mp h₂).1

/-- **An attempt makes one exchange at most**, and none where the case cannot be read. -/
theorem tryApiCase_log {case : ApiCase} {before after : List Attachment} {r : Except Failure Unit}
    (h : Trial.Traces (tryApiCase config suite p case) before log r after) :
    log = [] ∨ ∃ context request answer, Exchange context request log answer := by
  rcases Trial.traces_ofExcept_bind.mp h with ⟨_, _, rfl, _⟩ | ⟨filled, _, h₁⟩
  · exact .inl rfl
  have h₂ := Trial.traces_attach_bind.mp h₁
  rcases Trial.traces_bind.mp h₂ with ⟨_, hx, _⟩ | ⟨response, l₁, l₂, _, rfl, hx, h₃⟩
  · exact .inr ⟨_, _, _, Fallible.traces_exchange.mp (Trial.traces_ofFallible.mp hx).1⟩
  · obtain rfl := checkResponse_log h₃
    rw [List.append_nil]
    exact .inr ⟨_, _, _, Fallible.traces_exchange.mp (Trial.traces_ofFallible.mp hx).1⟩

/-- An attempt is one trial, and ends with its failure if it has one. -/
theorem attemptApiCase_tried {case : ApiCase} {o : AttemptOutcome}
    (h : (attemptApiCase config suite p case).Traces log o) :
    ∃ r attachments, Trial.Traces (tryApiCase config suite p case) [] log r attachments ∧
      ∀ f, r = .error f → o = .failure f attachments "" := by
  obtain ⟨l₁, ⟨r, attachments⟩, l₂, rfl, ht, h₂⟩ := Program.traces_bind.mp h
  have hl : l₂ = [] := by cases r <;> exact h₂.1
  subst hl
  rw [List.append_nil]
  refine ⟨r, attachments, Trial.traces_perform.mp ht, ?_⟩
  rintro f rfl
  exact h₂.2

theorem attemptApiCase_sent_le {case : ApiCase} {o : AttemptOutcome}
    (h : (attemptApiCase config suite p case).Traces log o) : (sent log).length ≤ 1 := by
  obtain ⟨_, _, ht, -⟩ := attemptApiCase_tried h
  rcases tryApiCase_log ht with rfl | ⟨_, _, _, hx⟩
  · exact Nat.zero_le 1
  · exact hx.sent_le

theorem sent_triesLog_le (suite name : String) (allowed made : Nat) {earlier : List Try}
    {last : Try}
    (h : ∀ t ∈ earlier ++ [last], (sent t.log).length ≤ 1) :
    (sent (triesLog suite name allowed made earlier last)).length ≤ earlier.length + 1 := by
  induction earlier generalizing made with
  | nil => exact h last (by simp)
  | cons t earlier ih =>
    have hs : (sent t.log).length ≤ 1 := h t (by simp)
    have hr := ih (made + 1) fun u hu => h u (List.mem_cons_of_mem t hu)
    rw [triesLog, Fallible.sent_append, List.length_append, List.length_cons]
    change (sent t.log).length +
      (sent (triesLog suite name allowed (made + 1) earlier last)).length ≤ _
    omega

/-- What a case of a prepared suite asks, and how it ends. -/
structure CaseRun (config : Config) (suite : ApiSuite) (p : Preparation) (case : ApiCase)
    (run : Log × CaseResult) : Prop where
  traces : (runApiCase config suite p case).Traces run.1 run.2
  skipped : case.skip = true → run = ([], .skipped suite.name case.name case.tags)
  tried : case.skip = false → ∃ earlier last start stop,
    Tried (fun _ => attemptApiCase config suite p case) 0 (retriesFor config case.retries) earlier
        last ∧
      run.1 = ⟨.clock, start⟩ :: triesLog suite.name case.name
        (retriesFor config case.retries + 1) 0 earlier last ++ [⟨.clock, stop⟩] ∧
      run.2.attempts = (earlier ++ [last]).length
  attempts : case.skip = false →
    1 ≤ run.2.attempts ∧ run.2.attempts ≤ 1 + retriesFor config case.retries
  sent_le : (sent run.1).length ≤ run.2.attempts

theorem caseRun_of_traces {case : ApiCase} {run : Log × CaseResult}
    (h : (runApiCase config suite p case).Traces run.1 run.2) :
    CaseRun config suite p case run := by
  obtain ⟨log, r⟩ := run
  have ht := h
  unfold runApiCase at h
  split at h
  · rename_i hs
    obtain ⟨rfl, rfl⟩ := h
    have hn : case.skip ≠ false := by simp [hs]
    exact ⟨ht, fun _ => rfl, fun h => absurd h hn, fun h => absurd h hn, Nat.le_refl 0⟩
  · rename_i hs
    obtain ⟨earlier, last, start, stop, htr, rfl, rfl⟩ := traces_runAttempts.mp h
    exact {
      traces := ht
      skipped := fun hy => absurd hy hs
      tried := fun _ => ⟨earlier, last, start, stop, htr, rfl, by simp [resultOf]⟩
      attempts := fun _ => by
        have hn : earlier.length + 1 = (earlier ++ [last]).length := by simp
        simp only [resultOf, hn]
        exact ⟨Tried.attempts_pos, Nat.add_comm 1 _ ▸ htr.attempts_le⟩
      sent_le := by
        have hl := sent_triesLog_le suite.name case.name (retriesFor config case.retries + 1) 0
          fun t ht => attemptApiCase_sent_le (htr.traces_of_mem ht)
        simpa [sent, resultOf, retriesFor] using hl }

/-! ## The cases of a suite -/

/-- Cases that cannot be run send nothing. -/
theorem runApiCases_blocked {reason : String} (hp : p.obstacle = some reason)
    {cases : List ApiCase} {results : List CaseResult}
    (h : (runApiCases config turns suite p cases).Traces log results) :
    sent log = [] ∧ results = cases.map fun c => .blocked suite.name c.name c.tags reason := by
  unfold runApiCases at h
  rw [hp] at h
  obtain ⟨_, _, _, rfl, hw, rfl, rfl⟩ := Program.traces_bind.mp h
  obtain rfl := Program.traces_warn.mp hw
  exact ⟨rfl, rfl⟩

/-- Cases that can be run all run. -/
theorem runApiCases_ready (hp : p.obstacle = none) {cases : List ApiCase}
    {results : List CaseResult}
    (h : (runApiCases config turns suite p cases).Traces log results) :
    ∃ runs : List (Log × CaseResult), List.Forall₂ (CaseRun config suite p) cases runs ∧
      Interleaves (runs.map Prod.fst) log ∧ results = runs.map Prod.snd := by
  unfold runApiCases at h
  rw [hp] at h
  obtain ⟨runs, hr, hi, rfl⟩ := runSideBySide_spec h
  rw [List.forall₂_map_left_iff] at hr
  exact ⟨runs, hr.imp fun _ _ => caseRun_of_traces, hi, rfl⟩

/-! ## Teardown -/

/-- What teardown asks: nothing when it is not declared, else one exchange, whose failure is only
noted. -/
inductive TornDown (config : Config) (suite : ApiSuite) (p : Preparation) : Log → Prop
  | undeclared (h : suite.teardown = none) : TornDown config suite p []
  | unanswered {call : SideCall} {log : Log} {f : Failure} (h : suite.teardown = some call)
      (hx : Exchange (clientContext config p.headers none) (sideRequest config call p.bindings) log
        (.error f)) :
      TornDown config suite p (log ++
        [⟨.warn ("Teardown of API suite " ++ suite.name ++ (" failed: " ++ f.message)), ()⟩])
  | refused {call : SideCall} {log : Log} {response : Http.Response}
      (h : suite.teardown = some call)
      (hx : Exchange (clientContext config p.headers none) (sideRequest config call p.bindings) log
        (.ok response))
      (hs : response.isError = true) :
      TornDown config suite p (log ++
        [⟨.warn ("Teardown of API suite " ++ suite.name ++
          (" returned status " ++ response.status.text)), ()⟩])
  | done {call : SideCall} {log : Log} {response : Http.Response} (h : suite.teardown = some call)
      (hx : Exchange (clientContext config p.headers none) (sideRequest config call p.bindings) log
        (.ok response))
      (hs : response.isError = false) : TornDown config suite p log

/-- **There is no other way for teardown to go**, unless it raises; what its client fails with is
foreseen otherwise. -/
theorem tornDown_or_raises {r : Except Failure Unit}
    (h : Fallible.Traces (runTeardown config suite p) log r) :
    (r = .ok () ∧ TornDown config suite p log ∧ ∀ f, Fails log f → f.isHost = true) ∨
      ∃ f, r = .error f ∧ CallRaises config p.headers p.bindings suite.teardown log f := by
  unfold runTeardown at h
  split at h
  · rename_i hd
    obtain ⟨rfl, rfl⟩ := h
    exact .inl ⟨rfl, .undeclared hd, fun f hf => absurd hf Fallible.not_fails_nil⟩
  rename_i call hd
  rcases Fallible.traces_bind.mp h with ⟨f, hs, rfl⟩ | ⟨settled, l₁, l₂, rfl, hs, h₂⟩
  · rcases traces_settle.mp hs with ⟨_, _, hr⟩ | ⟨e, hx, hr⟩
    · cases hr
    split at hr
    · cases hr
    · rename_i he
      obtain rfl := Except.error.inj hr
      rw [hd]
      exact .inr ⟨f, rfl, .unanswered (traces_sideExchange.mp hx) (by simpa using he)⟩
  rcases traces_settle.mp hs with ⟨response, hx, hr⟩ | ⟨e, hx, hr⟩
  · obtain rfl := Except.ok.inj hr
    have hx := traces_sideExchange.mp hx
    have hn : ∀ f, ¬ Fails l₁ f := fun f hf => by cases hx.fails_iff.mp hf
    dsimp only at h₂
    split at h₂
    · rename_i he
      obtain ⟨_, hw, rfl⟩ := Fallible.traces_lift.mp h₂
      obtain rfl := Program.traces_warn.mp hw
      refine .inl ⟨rfl, .refused hd hx he, fun f hf => absurd ?_ (hn f)⟩
      exact (Fallible.fails_append.mp hf).resolve_right Fallible.not_fails_warn
    · rename_i he
      obtain ⟨rfl, rfl⟩ := h₂
      rw [List.append_nil]
      exact .inl ⟨rfl, .done hd hx (by simpa using he), fun f hf => absurd hf (hn f)⟩
  · split at hr
    · rename_i he
      obtain rfl := Except.ok.inj hr
      obtain ⟨_, hw, rfl⟩ := Fallible.traces_lift.mp h₂
      obtain rfl := Program.traces_warn.mp hw
      have hx := traces_sideExchange.mp hx
      refine .inl ⟨rfl, .unanswered hd hx, fun f hf => ?_⟩
      have hf := (Fallible.fails_append.mp hf).resolve_right Fallible.not_fails_warn
      obtain rfl := Except.error.inj (hx.fails_iff.mp hf)
      exact he
    · cases hr

/-- A teardown can raise what does not come from the environment. -/
theorem traces_teardown_of_raises {f : Failure}
    (h : CallRaises config p.headers p.bindings suite.teardown log f) :
    Fallible.Traces (runTeardown config suite p) log (.error f) := by
  obtain ⟨call, hd⟩ : ∃ call, suite.teardown = some call := by
    cases hd : suite.teardown with
    | none =>
      rw [hd] at h
      cases h
    | some call => exact ⟨call, rfl⟩
  rw [hd] at h
  unfold runTeardown
  rw [hd]
  cases h with
  | unanswered hx hf =>
    refine Fallible.traces_bind.mpr (.inl ⟨f, traces_settle.mpr (.inr ⟨f, ?_, ?_⟩), rfl⟩)
    · exact traces_sideExchange.mpr hx
    · simp [hf]

/-- **The teardown request is sent exactly once if there is one**, unless no client can be opened.
-/
theorem TornDown.sent_eq (h : TornDown config suite p log)
    (ho : ∀ context f, (⟨.openClient context, .error f⟩ : Event) ∉ log) :
    sent log = (suite.teardown.map fun call => sideRequest config call p.bindings).toList := by
  cases h with
  | undeclared hd => rw [hd]; rfl
  | unanswered hd hx =>
    rw [hd]
    cases hx with
    | refused => exact absurd (List.mem_cons_self) (ho _ _)
    | answered => rfl
  | refused hd hx _ => rw [hd]; cases hx; rfl
  | done hd hx _ => rw [hd]; cases hx; rfl

/-! ## A whole run -/

/-- The parts of a run: what each of them asks, and what is known after the preparation. -/
structure Phases where
  auth : Log
  setup : Log
  cases : Log
  teardown : Log
  preparation : Preparation

/-- What a run of a suite asks, part by part, and what its result is made of. -/
structure ApiSuiteRun (config : Config) (tags : List String) (suite : ApiSuite) (φ : Phases)
    (log : Log) (result : SuiteResult) : Prop where
  order : ∃ start stop, log = ⟨.clock, start⟩ ::
    (φ.auth ++ φ.setup ++ φ.cases ++ φ.teardown ++ [⟨.clock, stop⟩])
  prepared : Prepared config suite φ.auth φ.setup φ.preparation
  auth_le : (sent φ.auth).length ≤ 1
  setup_le : (sent φ.setup).length ≤ 1
  setupError : result.setupError = φ.preparation.obstacle
  blocked : ∀ reason, φ.preparation.obstacle = some reason → sent φ.cases = [] ∧
    result.cases = (Suite.select tags suite.tests).map fun c =>
      .blocked suite.name c.name c.tags reason
  ready : φ.preparation.obstacle = none → ∃ runs : List (Log × CaseResult),
    List.Forall₂ (CaseRun config suite φ.preparation) (Suite.select tags suite.tests) runs ∧
      Interleaves (runs.map Prod.fst) φ.cases ∧ result.cases = runs.map Prod.snd
  tornDown : TornDown config suite φ.preparation φ.teardown
  teardown_once : (∀ context f, (⟨.openClient context, .error f⟩ : Event) ∉ φ.teardown) →
    sent φ.teardown =
      (suite.teardown.map fun call => sideRequest config call φ.preparation.bindings).toList

theorem Prepared.auth_le {auth setup : Log} (h : Prepared config suite auth setup p) :
    (sent auth).length ≤ 1 := by
  cases h with
  | unauthenticated ha => exact ha.sent_le
  | notSetUp ha _ => exact ha.sent_le
  | ready ha _ => exact ha.sent_le

theorem Prepared.setup_le {auth setup : Log} (h : Prepared config suite auth setup p) :
    (sent setup).length ≤ 1 := by
  cases h with
  | unauthenticated _ => exact Nat.zero_le 1
  | notSetUp _ hs => exact hs.sent_le
  | ready _ hs => exact hs.sent_le

/-- How a run may be given up: in its preparation, when neither cases nor teardown have asked
anything, or in its teardown, when all cases have ended. -/
inductive RunRaises (config : Config) (turns : List Nat) (tags : List String) (suite : ApiSuite) :
    Log → Failure → Prop
  | preparing {start : Float} {auth setup : Log} {f : Failure}
      (h : PreparationRaises config suite auth setup f) :
      RunRaises config turns tags suite (⟨.clock, start⟩ :: (auth ++ setup)) f
  | tearingDown {start : Float} {φ : Phases} {results : List CaseResult} {f : Failure}
      (hp : Prepared config suite φ.auth φ.setup φ.preparation)
      (hc : (runApiCases config turns suite φ.preparation
        (Suite.select tags suite.tests)).Traces φ.cases results)
      (ht : CallRaises config φ.preparation.headers φ.preparation.bindings suite.teardown
        φ.teardown f) :
      RunRaises config turns tags suite
        (⟨.clock, start⟩ :: (φ.auth ++ φ.setup ++ φ.cases ++ φ.teardown)) f

/-- **A run is its parts or is given up**, whoever answers. -/
theorem apiSuiteRun_or_raises {r : Except Failure SuiteResult}
    (h : Fallible.Traces (runApiSuite config turns tags suite) log r) :
    (∃ φ result, r = .ok result ∧ ApiSuiteRun config tags suite φ log result ∧
        ∀ f, Fails φ.teardown f → f.isHost = true) ∨
      ∃ f, r = .error f ∧ RunRaises config turns tags suite log f := by
  obtain ⟨start, _, l₁, rfl, hc, h₁⟩ := Fallible.traces_lift_bind.mp h
  obtain rfl := Program.traces_clock.mp hc
  rcases Fallible.traces_bind.mp h₁ with ⟨f, hp, rfl⟩ | ⟨p, _, l₂, rfl, hp, h₂⟩
  · rcases traces_prepare.mp hp with ⟨_, _, _, _, hr, _⟩ | ⟨auth, setup, _, rfl, hr, hp⟩
    · cases hr
    · obtain rfl := Except.error.inj hr
      have hr : RunRaises config turns tags suite (⟨.clock, start⟩ :: (auth ++ setup)) f :=
        .preparing hp
      exact .inr ⟨f, rfl, hr⟩
  rcases traces_prepare.mp hp with ⟨auth, setup, _, rfl, hr, hp⟩ | ⟨_, _, _, _, hr, _⟩
  rotate_left
  · cases hr
  obtain rfl := Except.ok.inj hr
  obtain ⟨results, cases, l₃, rfl, hc, h₃⟩ := Fallible.traces_lift_bind.mp h₂
  rcases Fallible.traces_bind.mp h₃ with ⟨f, ht, rfl⟩ | ⟨_, teardown, l₄, rfl, ht, h₄⟩
  · rcases tornDown_or_raises ht with ⟨hr, _⟩ | ⟨_, hr, ht⟩
    · cases hr
    · obtain rfl := Except.error.inj hr
      have hr : RunRaises config turns tags suite
          (⟨.clock, start⟩ :: (auth ++ setup ++ cases ++ l₃)) f :=
        @RunRaises.tearingDown config turns tags suite start ⟨auth, setup, cases, l₃, p⟩ results f
          hp hc ht
      exact .inr ⟨f, rfl, by simpa using hr⟩
  rcases tornDown_or_raises ht with ⟨_, ht, hf⟩ | ⟨_, hr, _⟩
  rotate_left
  · cases hr
  obtain ⟨stop, _, _, rfl, hs, rfl, rfl⟩ := Fallible.traces_lift_bind.mp h₄
  obtain rfl := Program.traces_clock.mp hs
  refine .inl ⟨⟨auth, setup, cases, teardown, p⟩, _, rfl, ?_, hf⟩
  exact {
    order := ⟨start, stop, by simp⟩
    prepared := hp
    auth_le := hp.auth_le
    setup_le := hp.setup_le
    setupError := rfl
    blocked := fun reason ho => runApiCases_blocked ho hc
    ready := fun ho => runApiCases_ready ho hc
    tornDown := ht
    teardown_once := ht.sent_eq }

/-- A run can be given up in these ways. -/
theorem RunRaises.traces {f : Failure} (h : RunRaises config turns tags suite log f) :
    Fallible.Traces (runApiSuite config turns tags suite) log (.error f) := by
  cases h with
  | @preparing start auth setup _ hp =>
    refine Fallible.traces_lift_bind.mpr ⟨start, [_], _, rfl, Program.traces_clock.mpr rfl, ?_⟩
    exact Fallible.traces_bind.mpr
      (.inl ⟨f, traces_prepare.mpr (.inr ⟨auth, setup, f, rfl, rfl, hp⟩), rfl⟩)
  | @tearingDown start φ results _ hp hc ht =>
    refine Fallible.traces_lift_bind.mpr ⟨start, [_], _, rfl, Program.traces_clock.mpr rfl, ?_⟩
    have hq := traces_prepare.mpr (.inl ⟨φ.auth, φ.setup, φ.preparation, rfl, rfl, hp⟩)
    refine Fallible.traces_bind.mpr (.inr ⟨_, _, φ.cases ++ φ.teardown, by simp, hq, ?_⟩)
    refine Fallible.traces_lift_bind.mpr ⟨results, _, _, rfl, hc, ?_⟩
    exact Fallible.traces_bind.mpr (.inl ⟨f, traces_teardown_of_raises ht, rfl⟩)

/-- What is raised does not come from the environment, and a client failed with it. -/
theorem RunRaises.fails {f : Failure} (h : RunRaises config turns tags suite log f) :
    Fails log f ∧ f.isHost = false := by
  have cons : ∀ {start : Float} {l : Log}, Fails l f → Fails ([⟨.clock, start⟩] ++ l) f :=
    fun hl => Fallible.fails_append.mpr (.inr hl)
  cases h with
  | preparing hp => exact ⟨cons hp.fails.1, hp.fails.2⟩
  | tearingDown _ _ ht => exact ⟨cons (Fallible.fails_append.mpr (.inr ht.fails)), ht.not_host⟩

/-- A run is its parts where clients fail as the environment does. -/
theorem apiSuiteRun_of_traces {r : Except Failure SuiteResult}
    (h : Fallible.Traces (runApiSuite config turns tags suite) log r) (hl : Foreseen log) :
    ∃ φ result, r = .ok result ∧ ApiSuiteRun config tags suite φ log result := by
  rcases apiSuiteRun_or_raises h with ⟨φ, result, rfl, hr, _⟩ | ⟨f, rfl, hr⟩
  · exact ⟨φ, result, rfl, hr⟩
  · have hh : f.isHost = true := hl.isHost hr.fails.1
    rw [hr.fails.2] at hh
    cases hh

/-! ## Without teardown -/

/-- A run up to its teardown. -/
def beforeTeardown (config : Config) (turns : List Nat) (tags : List String) (suite : ApiSuite) :
    Fallible (Float × Preparation × List CaseResult) := do
  let start ← Fallible.lift Program.clock
  let p ← prepare config suite
  let cases ← Fallible.lift (runApiCases config turns suite p (Suite.select tags suite.tests))
  return (start, p, cases)

/-- A run from its teardown on. -/
def fromTeardown (config : Config) (suite : ApiSuite) (x : Float × Preparation × List CaseResult) :
    Fallible SuiteResult := do
  runTeardown config suite x.2.1
  let stop ← Fallible.lift Program.clock
  return { suite := suite.name, kind := .api, cases := x.2.2, source := suite.source
           duration := elapsed x.1 stop, setupError := x.2.1.obstacle }

theorem runApiSuite_eq (config : Config) (turns : List Nat) (tags : List String)
    (suite : ApiSuite) :
    runApiSuite config turns tags suite =
      beforeTeardown config turns tags suite >>= fromTeardown config suite := by
  simp only [runApiSuite, beforeTeardown, fromTeardown, bind_assoc, pure_bind]

/-- What is left of a suite without its teardown. -/
def withoutTeardown (suite : ApiSuite) : ApiSuite := { suite with teardown := none }

theorem beforeTeardown_withoutTeardown :
    beforeTeardown config turns tags (withoutTeardown suite) =
      beforeTeardown config turns tags suite := rfl

/-- The results of the cases and the obstacle are known before teardown. -/
theorem fromTeardown_spec {x : Float × Preparation × List CaseResult} {result : SuiteResult}
    (h : Fallible.Traces (fromTeardown config suite x) log (.ok result)) :
    result.cases = x.2.2 ∧ result.setupError = x.2.1.obstacle := by
  rcases Fallible.traces_bind.mp h with ⟨_, _, hr⟩ | ⟨_, l₁, l₂, rfl, _, h₂⟩
  · cases hr
  rcases Fallible.traces_bind.mp h₂ with ⟨_, _, hr⟩ | ⟨stop, l₃, l₄, rfl, _, h₃⟩
  · cases hr
  obtain ⟨rfl, hr⟩ := h₃
  obtain rfl := Except.ok.inj hr
  exact ⟨rfl, rfl⟩

/-! ## On a machine -/

section Machine

variable {σ : Type} {answer : (q : Host.Question) → σ → q.Answer × σ}

/-- Without its teardown, a suite has the same results. -/
theorem run_withoutTeardown {s : σ} {result : SuiteResult}
    (h : ((runApiSuite config turns tags suite).run.run answer s).1 = .ok result) :
    ∃ other, ((runApiSuite config turns tags (withoutTeardown suite)).run.run answer s).1 =
      .ok other ∧ other.cases = result.cases ∧ other.setupError = result.setupError := by
  rw [runApiSuite_eq, ExceptT.run_bind, Program.run_bind] at h
  rw [runApiSuite_eq, beforeTeardown_withoutTeardown, ExceptT.run_bind, Program.run_bind]
  cases hb : ((beforeTeardown config turns tags suite).run.run answer s).1 with
  | error f =>
    rw [hb] at h
    cases h
  | ok x =>
    rw [hb] at h
    obtain ⟨ht, _⟩ := Program.traces_run answer (fromTeardown config suite x).run
      ((beforeTeardown config turns tags suite).run.run answer s).2
    obtain ⟨hc, he⟩ := fromTeardown_spec (h ▸ ht)
    exact ⟨_, rfl, hc.symm, he.symm⟩

end Machine

/-- A test that says no more than it has to. -/
def plainCase : ApiCase :=
  { name := "ping", method := "GET", endpoint := "/ping"
    expect := {
      status := none, statusRange := none, bodyContains := .missing, bodyExact := .missing
      bodySchema := none, bodyPath := [], headers := [], responseTime := none }
    tags := [], headers := [], query := [], body := .null, auth := none, dataInjection := []
    skip := false, only := false, timeout := none, retries := none
    document := .obj [("name", .str "ping"), ("method", .str "GET"), ("endpoint", .str "/ping"),
      ("expect", .obj [])] }

/-- A suite with a call before its test and one after it. -/
def framedSuite : ApiSuite :=
  { name := "S", tests := [plainCase], tags := [], baseEndpoint := ""
    setup := some { method := "POST", endpoint := "/login", body := .null, headers := []
                    extractToken := none }
    teardown := some { method := "DELETE", endpoint := "/session", body := .null, headers := []
                       extractToken := none }
    source := none }

end SuiteEngine.Run
