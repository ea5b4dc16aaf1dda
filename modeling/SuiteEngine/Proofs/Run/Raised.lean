import SuiteEngine.Proofs.Run.ApiSuite

/-!
# A run whatever its clients fail with

A client may fail in any way. Within a case every failure is how the attempt ended. Before and after
the cases only some are foreseen: those of the environment, and in authentication the lack of
headers too. Any other failure is raised: there is no result then, and when it comes before the cases
nothing is torn down either.

Headlines:
* `attemptApiCase_fails`: whatever the client of an attempt fails with is how the attempt ended.
* `apiSuiteRun_names`: a run that comes to an end has one result for each case that it takes.
* **`runApiSuite_settles`**: a run comes to an end, in all of its parts, exactly when what fails
  outside its cases is foreseen.
-/

namespace SuiteEngine.Run

open Host (Event Fallible Log Program Trial)
open Host.Fallible (Fails sent)
open Report (Attachment CaseResult SuiteResult)
open Suite (ApiCase ApiSuite)

variable {config : Config} {suite : ApiSuite} {p : Preparation} {turns : List Nat}
  {tags : List String} {log : Log}

/-! ## Within a case -/

/-- What the client of a trial fails with ends the trial. -/
theorem tryApiCase_fails {case : ApiCase} {before after : List Attachment} {r : Except Failure Unit}
    {f : Failure} (h : Trial.Traces (tryApiCase config suite p case) before log r after)
    (hf : Fails log f) : r = .error f := by
  rcases Trial.traces_ofExcept_bind.mp h with ⟨_, _, rfl, _⟩ | ⟨filled, _, h₁⟩
  · exact absurd hf Fallible.not_fails_nil
  have h₂ := Trial.traces_attach_bind.mp h₁
  rcases Trial.traces_bind.mp h₂ with ⟨e, hx, rfl⟩ | ⟨response, l₁, l₂, _, rfl, hx, h₃⟩
  · have hx := Fallible.traces_exchange.mp (Trial.traces_ofFallible.mp hx).1
    obtain rfl := Except.error.inj (hx.fails_iff.mp hf)
    rfl
  · obtain rfl := checkResponse_log h₃
    rw [List.append_nil] at hf
    have hx := Fallible.traces_exchange.mp (Trial.traces_ofFallible.mp hx).1
    cases hx.fails_iff.mp hf

/-- **Whatever the client of an attempt fails with is how the attempt ended.** -/
theorem attemptApiCase_fails {case : ApiCase} {o : AttemptOutcome} {f : Failure}
    (h : (attemptApiCase config suite p case).Traces log o) (hf : Fails log f) :
    ∃ attachments, o = .failure f attachments "" := by
  obtain ⟨r, attachments, ht, hfailed⟩ := attemptApiCase_tried h
  exact ⟨attachments, hfailed f (tryApiCase_fails ht hf)⟩

/-! ## The results of a run -/

theorem runApiCase_name {case : ApiCase} {r : CaseResult}
    (h : (runApiCase config suite p case).Traces log r) : r.name = case.name := by
  unfold runApiCase at h
  split at h
  · obtain ⟨_, rfl⟩ := h
    rfl
  · obtain ⟨_, _, _, _, _, _, rfl⟩ := traces_runAttempts.mp h
    rfl

/-- **There is one result for each case that is taken**, in their order. -/
theorem apiSuiteRun_names {φ : Phases} {result : SuiteResult}
    (h : ApiSuiteRun config tags suite φ log result) :
    result.cases.map CaseResult.name = (Suite.select tags suite.tests).map ApiCase.name := by
  cases ho : φ.preparation.obstacle with
  | some reason =>
    rw [(h.blocked reason ho).2, List.map_map]
    exact List.map_congr_left fun case _ => rfl
  | none =>
    obtain ⟨runs, hr, -, hc⟩ := h.ready ho
    rw [hc, List.map_map]
    clear hc
    generalize Suite.select tags suite.tests = cases at hr ⊢
    induction hr with
    | nil => rfl
    | cons hrun _ ih => exact congrArg₂ List.cons (runApiCase_name hrun.traces) ih

/-! ## A run that comes to an end -/

/-- A run that comes to an end: what fails outside its cases is foreseen, and what fails within them
is theirs. -/
structure Completed (config : Config) (tags : List String) (suite : ApiSuite) (φ : Phases)
    (log : Log) (result : SuiteResult) : Prop where
  run : ApiSuiteRun config tags suite φ log result
  names : result.cases.map CaseResult.name = (Suite.select tags suite.tests).map ApiCase.name
  auth_foreseen : ∀ f, Fails φ.auth f → f.isHost = true ∨ f.kind = authKind
  setup_foreseen : ∀ f, Fails φ.setup f → f.isHost = true
  teardown_foreseen : ∀ f, Fails φ.teardown f → f.isHost = true
  within_cases : ∀ (case : ApiCase) (l : Log) (o : AttemptOutcome) (f : Failure),
    (attemptApiCase config suite φ.preparation case).Traces l o → Fails l f →
      ∃ attachments, o = .failure f attachments ""

theorem Prepared.auth_foreseen {auth setup : Log} {f : Failure}
    (h : Prepared config suite auth setup p) (hf : Fails auth f) :
    f.isHost = true ∨ f.kind = authKind := by
  cases h with
  | unauthenticated ha => exact ha.foreseen hf
  | notSetUp ha _ => exact ha.foreseen hf
  | ready ha _ => exact ha.foreseen hf

theorem Prepared.setup_foreseen {auth setup : Log} {f : Failure}
    (h : Prepared config suite auth setup p) (hf : Fails setup f) : f.isHost = true := by
  cases h with
  | unauthenticated _ => exact absurd hf Fallible.not_fails_nil
  | notSetUp _ hs => exact hs.foreseen hf
  | ready _ hs => exact hs.foreseen hf

/-! ## On a machine -/

section Machine

variable {σ : Type} {answer : (q : Host.Question) → σ → q.Answer × σ}

/-- A run is given up exactly where something fails that is not foreseen. -/
theorem runApiSuite_raises_iff (s : σ) (f : Failure) :
    ((runApiSuite config turns tags suite).run.run answer s).1 = .error f ↔
      RunRaises config turns tags suite ((runApiSuite config turns tags suite).run.logOf answer s)
        f := by
  obtain ⟨ht, _⟩ := Program.traces_run answer (runApiSuite config turns tags suite).run s
  constructor
  · intro hr
    rcases apiSuiteRun_or_raises ht with ⟨_, _, hok, _⟩ | ⟨e, he, h⟩
    · cases hr.symm.trans hok
    · obtain rfl := Except.error.inj (hr.symm.trans he)
      exact h
  · intro h
    exact ht.result_eq h.traces

/-- **A run comes to an end exactly when what fails outside its cases is foreseen.** Then its parts
come in their order, whatever its cases fail with: there is one result for each case that is taken,
cases that could not be prepared are blocked, teardown comes last, and no result depends on it.
Otherwise a client failed, outside the cases, with something that neither the environment fails with
nor authentication foresees, and this is raised: in the preparation, when neither cases nor teardown
have asked anything, or in teardown, when there is no result though all cases have ended. -/
theorem runApiSuite_settles (answer : (q : Host.Question) → σ → q.Answer × σ) (config : Config)
    (turns : List Nat) (tags : List String) (suite : ApiSuite) (s : σ) :
    ((∃ φ result, ((runApiSuite config turns tags suite).run.run answer s).1 = .ok result ∧
        Completed config tags suite φ ((runApiSuite config turns tags suite).run.logOf answer s)
          result ∧
        ∃ other, ((runApiSuite config turns tags (withoutTeardown suite)).run.run answer s).1 =
          .ok other ∧ other.cases = result.cases ∧ other.setupError = result.setupError) ∨
      ∃ f, ((runApiSuite config turns tags suite).run.run answer s).1 = .error f ∧
        f.isHost = false ∧ Fails ((runApiSuite config turns tags suite).run.logOf answer s) f) ∧
    ∀ f, ((runApiSuite config turns tags suite).run.run answer s).1 = .error f ↔
      RunRaises config turns tags suite ((runApiSuite config turns tags suite).run.logOf answer s)
        f := by
  refine ⟨?_, fun f => runApiSuite_raises_iff s f⟩
  obtain ⟨ht, _⟩ := Program.traces_run answer (runApiSuite config turns tags suite).run s
  rcases apiSuiteRun_or_raises ht with ⟨φ, result, hr, hrun, hf⟩ | ⟨f, hr, h⟩
  · refine .inl ⟨φ, result, hr, ?_, run_withoutTeardown hr⟩
    exact {
      run := hrun
      names := apiSuiteRun_names hrun
      auth_foreseen := fun f hf => hrun.prepared.auth_foreseen hf
      setup_foreseen := fun f hf => hrun.prepared.setup_foreseen hf
      teardown_foreseen := hf
      within_cases := fun _ _ _ _ ha hf => attemptApiCase_fails ha hf }
  · exact .inr ⟨f, hr, h.fails.2, h.fails.1⟩

end Machine

/-- A failure that the environment does not fail with. -/
def unusable : Failure := ⟨.other "ValueError", "boom"⟩

/-- A machine without a network that fails to send with a failure that is not foreseen. -/
def misfiring (q : Host.Question) (m : Host.Offline) : q.Answer × Host.Offline :=
  match q with
  | .send _ _ => (.error unusable, m)
  | q => Host.Offline.answer q m

/-- Where the setup request fails so, the suite has no result and its teardown is not sent. -/
theorem runApiSuite_settles_misfiring :
    ((runApiSuite (bareConfig "http://api.test" "") [] [] framedSuite).run.run misfiring
        ⟨⟨[], []⟩, 0.0, []⟩).1 = .error unusable ∧
      RunRaises (bareConfig "http://api.test" "") [] [] framedSuite
        ((runApiSuite (bareConfig "http://api.test" "") [] [] framedSuite).run.logOf misfiring
          ⟨⟨[], []⟩, 0.0, []⟩) unusable ∧
      (sent ((runApiSuite (bareConfig "http://api.test" "") [] [] framedSuite).run.logOf misfiring
          ⟨⟨[], []⟩, 0.0, []⟩)).map Http.Request.url = ["/login"] := by
  have hr : ((runApiSuite (bareConfig "http://api.test" "") [] [] framedSuite).run.run misfiring
      ⟨⟨[], []⟩, 0.0, []⟩).1 = .error unusable := rfl
  refine ⟨hr, ?_, by decide⟩
  exact ((runApiSuite_settles misfiring (bareConfig "http://api.test" "") [] [] framedSuite
    ⟨⟨[], []⟩, 0.0, []⟩).2 unusable).mp hr

end SuiteEngine.Run
