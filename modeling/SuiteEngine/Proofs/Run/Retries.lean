import SuiteEngine.Proofs.Run.UiSuite

/-!
# How often a case is tried

Which attempts at a case are made depends on how they end, and how they end may depend on all that
was done before. So the attempts are told apart by their number: `Series.outcomeAt` says how the
attempt with a number ends on a machine if all before it were made. A case is tried up to the first
attempt that settles it, or until no attempt is left.

Headlines:
* `Series.attemptsFrom_run`: the attempts that remain, by induction on how many are left.
* `Series.attempts_run`: how many attempts are made.
* **`runAttempts_run`**: what a case asks on a machine, and its result.
* **`runUiCase_contract`**: an action that is declared wrongly ends the attempts at a case when it
  is a step, and not when it is the setup action of the suite.
-/

namespace SuiteEngine.Run

open Host (Event Log Program Question)
open Report (Attachment CaseResult)
open Suite (UiAction UiCase UiSuite)

/-- The attempts at a case on a machine. -/
structure Series (σ : Type) where
  answer : (q : Question) → σ → q.Answer × σ
  suite : String
  name : String
  allowed : Nat
  attempt : Nat → Program AttemptOutcome
  /-- The machine before the first attempt. -/
  start : σ

namespace Series

variable {σ : Type}

/-- The machine when the attempt begins that comes after so many, each of which was tried again. -/
def stateAt (r : Series σ) : (made : Nat) → σ
  | 0 => r.start
  | made + 1 =>
    let ended := (r.attempt (made + 1)).run r.answer (r.stateAt made)
    (r.answer (.warn (retryWarning r.suite r.name ended.1 (made + 2) r.allowed)) ended.2).2

variable (r : Series σ)

/-- How the attempt ends that comes after so many. -/
def outcomeAt (made : Nat) : AttemptOutcome :=
  ((r.attempt (made + 1)).run r.answer (r.stateAt made)).1

/-- The machine when the attempt has ended that comes after so many. -/
def stateAfter (made : Nat) : σ := ((r.attempt (made + 1)).run r.answer (r.stateAt made)).2

/-- What the attempt asks that comes after so many. -/
def logAt (made : Nat) : Log := (r.attempt (made + 1)).logOf r.answer (r.stateAt made)

/-- The warning after so many attempts and one more: it tells how that one ended and the number of
the next. -/
def warningAt (made : Nat) : Event :=
  ⟨.warn (retryWarning r.suite r.name (r.outcomeAt made) (made + 2) r.allowed), ()⟩

/-- What is asked in the attempt that comes after so many, and in some further ones. -/
def logFrom (made further : Nat) : Log :=
  r.logAt made ++
    (List.range further).flatMap fun i => r.warningAt (made + i) :: r.logAt (made + i + 1)

/-- The attempts that remain where so many were made. -/
abbrev remaining (made left : Nat) : Program (AttemptOutcome × Nat) :=
  attemptsFrom r.suite r.name r.allowed r.attempt made left

theorem logFrom_succ (made further : Nat) :
    r.logFrom made (further + 1) =
      r.logAt made ++ r.warningAt made :: r.logFrom (made + 1) further := by
  have hshift : ∀ i, r.warningAt (made + (i + 1)) :: r.logAt (made + (i + 1) + 1) =
      r.warningAt (made + 1 + i) :: r.logAt (made + 1 + i + 1) := by
    intro i
    rw [Nat.add_assoc made 1 i, Nat.add_comm 1 i]
  rw [logFrom, List.range_succ_eq_map, List.flatMap_cons, List.flatMap_map]
  simp only [Nat.succ_eq_add_one, hshift]
  rfl

/-- One attempt of those that remain. -/
theorem remaining_succ (made left : Nat) :
    (r.remaining made (left + 1)).logOf r.answer (r.stateAt made) =
        r.logAt made ++ (if (r.outcomeAt made).retryable then
          r.warningAt made :: (r.remaining (made + 1) left).logOf r.answer (r.stateAt (made + 1))
        else []) ∧
      (r.remaining made (left + 1)).run r.answer (r.stateAt made) =
        if (r.outcomeAt made).retryable then
          (r.remaining (made + 1) left).run r.answer (r.stateAt (made + 1))
        else ((r.outcomeAt made, made + 1), r.stateAfter made) := by
  rw [remaining, attemptsFrom, Program.logOf_bind, Program.run_bind]
  change r.logAt made ++ Program.logOf r.answer
        (if (r.outcomeAt made).retryable = true then _ else _) (r.stateAfter made) = _ ∧
      Program.run r.answer
        (if (r.outcomeAt made).retryable = true then _ else _) (r.stateAfter made) = _
  cases (r.outcomeAt made).retryable with
  | false => exact ⟨rfl, rfl⟩
  | true => exact ⟨rfl, rfl⟩

/-- **The attempts that remain** go on for as long as one may be tried again and one is left. -/
theorem attemptsFrom_run (made left : Nat) :
    ∃ further ≤ left,
      (∀ i < further, (r.outcomeAt (made + i)).retryable = true) ∧
      ((r.outcomeAt (made + further)).retryable = true → further = left) ∧
      (r.remaining made left).logOf r.answer (r.stateAt made) = r.logFrom made further ∧
      (r.remaining made left).run r.answer (r.stateAt made) =
        ((r.outcomeAt (made + further), made + further + 1), r.stateAfter (made + further)) := by
  induction left generalizing made with
  | zero =>
    refine ⟨0, Nat.le_refl 0, fun i hi => absurd hi (Nat.not_lt_zero i), fun _ => rfl, ?_, ?_⟩
    · rw [remaining, attemptsFrom, Program.logOf_bind]
      rfl
    · rw [remaining, attemptsFrom, Program.run_bind]
      rfl
  | succ left ih =>
    obtain ⟨hlog, hrun⟩ := r.remaining_succ made left
    cases hr : (r.outcomeAt made).retryable with
    | false =>
      rw [hr] at hlog hrun
      refine ⟨0, Nat.zero_le _, fun i hi => absurd hi (Nat.not_lt_zero i), ?_, hlog, hrun⟩
      intro h
      cases hr.symm.trans h
    | true =>
      rw [hr] at hlog hrun
      obtain ⟨further, hfew, hagain, hstop, hlog', hrun'⟩ := ih (made + 1)
      rw [Nat.add_assoc, Nat.add_comm 1] at hstop hrun'
      refine ⟨further + 1, Nat.succ_le_succ hfew, ?_, fun h => congrArg (· + 1) (hstop h), ?_, ?_⟩
      · intro i hi
        cases i with
        | zero => exact hr
        | succ i =>
          have h := hagain i (Nat.lt_of_succ_lt_succ hi)
          rwa [Nat.add_assoc, Nat.add_comm 1] at h
      · rw [logFrom_succ, hlog, if_pos rfl, hlog']
      · rw [hrun, if_pos rfl, hrun']

end Series

/-! ## The number of attempts -/

/-- Whether an attempt that ended so is the last one. -/
def AttemptOutcome.settles (o : AttemptOutcome) : Bool :=
  o.passed || o.failureKind == some .contract

theorem AttemptOutcome.retryable_eq_not_settles (o : AttemptOutcome) :
    o.retryable = !o.settles := by
  rw [retryable, settles, Bool.not_or]
  rfl

/-- How many attempts are made, where the one after so many ends as given: up to the first that
passes or breaks the contract, and all that are allowed if none of those does. -/
def attemptsMade (ended : Nat → AttemptOutcome) (allowed : Nat) : Nat :=
  match (List.range allowed).find? fun made => (ended made).settles with
  | some made => made + 1
  | none => allowed

/-- The attempts that are made are those that may be tried again, and one more. -/
theorem attemptsMade_eq {ended : Nat → AttemptOutcome} {further left : Nat} (hfew : further ≤ left)
    (hagain : ∀ i < further, (ended i).retryable = true)
    (hstop : (ended further).retryable = true → further = left) :
    attemptsMade ended (left + 1) = further + 1 := by
  have hbefore : ∀ i < further, (!(ended i).settles) = true := by
    intro i hi
    rw [← AttemptOutcome.retryable_eq_not_settles]
    exact hagain i hi
  cases hs : (ended further).settles with
  | true =>
    have hfind : (List.range (left + 1)).find? (fun made => (ended made).settles) = some further :=
      List.find?_range_eq_some.mpr
        ⟨hs, List.mem_range.mpr (Nat.lt_succ_of_le hfew), hbefore⟩
    rw [attemptsMade, hfind]
  | false =>
    have hlast : (!(ended further).settles) = true := by rw [hs]; rfl
    obtain rfl : further = left :=
      hstop ((AttemptOutcome.retryable_eq_not_settles _).trans hlast)
    have hfind : (List.range (further + 1)).find? (fun made => (ended made).settles) = none := by
      refine List.find?_range_eq_none.mpr fun i hi => ?_
      rcases Nat.lt_succ_iff_lt_or_eq.mp hi with hi | rfl
      · exact hbefore i hi
      · exact hlast
    rw [attemptsMade, hfind]

/-- **The attempts at a case are as many as that.** -/
theorem Series.attempts_run {σ : Type} (r : Series σ) {left : Nat} (hleft : r.allowed = left + 1) :
    let attempts := attemptsMade r.outcomeAt r.allowed
    let tries := attemptsFrom r.suite r.name (left + 1) r.attempt 0 left
    (1 ≤ attempts ∧ attempts ≤ r.allowed) ∧
      tries.logOf r.answer r.start = r.logFrom 0 (attempts - 1) ∧
      tries.run r.answer r.start =
        ((r.outcomeAt (attempts - 1), attempts), r.stateAfter (attempts - 1)) := by
  intro attempts tries
  obtain ⟨further, hfew, hagain, hstop, hlog, hrun⟩ := r.attemptsFrom_run 0 left
  simp only [Nat.zero_add] at hagain hstop hrun
  have hattempts : attempts = further + 1 := by
    change attemptsMade r.outcomeAt r.allowed = _
    rw [hleft]
    exact attemptsMade_eq hfew hagain hstop
  have htries : tries = r.remaining 0 left := by rw [remaining, hleft]
  rw [hattempts, htries, hleft, Nat.add_sub_cancel]
  exact ⟨⟨Nat.le_add_left 1 further, Nat.succ_le_succ hfew⟩, hlog, hrun⟩

/-! ## A case -/

/-- The status says whether the attempt passed, could not be made or failed. -/
theorem AttemptOutcome.status_spec (o : AttemptOutcome) :
    (o.status = .passed ↔ o.passed = true) ∧
      (o.status = .blocked ↔ o.passed = false ∧ o.failureKind = some .setup) ∧
      (o.status = .failed ↔ o.passed = false ∧ o.failureKind ≠ some .setup) := by
  unfold status
  cases o.passed with
  | true => simp
  | false => by_cases h : o.failureKind = some .setup <;> simp [h]

/-- A case is its attempts between two looks at the clock. -/
theorem runAttempts_between {σ : Type} (answer : (q : Question) → σ → q.Answer × σ)
    (suite name : String) (tags : List String) (retries : Nat)
    (attempt : Nat → Program AttemptOutcome) (s : σ) :
    let tries := attemptsFrom suite name (retries + 1) attempt 0 retries
    let opened := answer .clock s
    let ended := tries.run answer opened.2
    let closed := answer .clock ended.2
    (runAttempts suite name tags retries attempt).logOf answer s =
        ⟨.clock, opened.1⟩ :: tries.logOf answer opened.2 ++ [⟨.clock, closed.1⟩] ∧
      ((runAttempts suite name tags retries attempt).run answer s).1 =
        resultOf suite name tags ended.1.1 ended.1.2 (elapsed opened.1 closed.1) := by
  intro tries opened ended closed
  constructor
  · rw [runAttempts, Program.logOf_bind, Program.logOf_bind, Program.logOf_bind]
    rfl
  · rw [runAttempts, Program.run_bind, Program.run_bind, Program.run_bind]
    rfl

/-- **A case is tried** up to the first attempt that passes or breaks the contract, and if there is
none as often as is allowed, each time but the first after a warning. Its result is that of the last
attempt alone. -/
theorem runAttempts_run {σ : Type} (answer : (q : Question) → σ → q.Answer × σ)
    (suite name : String) (tags : List String) (retries : Int)
    (attempt : Nat → Program AttemptOutcome) (s : σ) :
    let r : Series σ :=
      ⟨answer, suite, name, (1 + max 0 retries).toNat, attempt, (answer .clock s).2⟩
    let attempts := attemptsMade r.outcomeAt r.allowed
    let last := r.outcomeAt (attempts - 1)
    let start := (answer .clock s).1
    let stop := (answer .clock (r.stateAfter (attempts - 1))).1
    let p := runAttempts suite name tags (retriesOf (.int retries)) attempt
    (1 ≤ attempts ∧ attempts ≤ r.allowed) ∧
      p.logOf answer s = ⟨.clock, start⟩ :: r.logFrom 0 (attempts - 1) ++ [⟨.clock, stop⟩] ∧
      (p.run answer s).1 = resultOf suite name tags last attempts (elapsed start stop) ∧
      ((p.run answer s).1.status = .passed ↔ last.passed = true) ∧
      ((p.run answer s).1.status = .blocked ↔
        last.passed = false ∧ last.failureKind = some .setup) ∧
      ((p.run answer s).1.status = .failed ↔
        last.passed = false ∧ last.failureKind ≠ some .setup) := by
  intro r attempts last start stop p
  have hallowed : r.allowed = retries.toNat + 1 := by
    change (1 + max 0 retries).toNat = _
    omega
  obtain ⟨hbounds, hlog, hrun⟩ := r.attempts_run hallowed
  obtain ⟨hbetween, hresult⟩ :=
    runAttempts_between answer suite name tags retries.toNat attempt s
  change (attemptsFrom suite name _ attempt 0 _).logOf answer (answer .clock s).2 = _ at hlog
  change (attemptsFrom suite name _ attempt 0 _).run answer (answer .clock s).2 = _ at hrun
  rw [hlog, hrun] at hbetween
  rw [hrun] at hresult
  have hcase : (p.run answer s).1 =
      resultOf suite name tags last attempts (elapsed start stop) := hresult
  obtain ⟨hpassed, hblocked, hfailed⟩ := last.status_spec
  rw [hcase]
  exact ⟨hbounds, hbetween, rfl, hpassed, hblocked, hfailed⟩

/-! ## Actions that are declared wrongly -/

section Contract

variable {config : Config} {shots : Files.Path} {suite : UiSuite} {case : UiCase} {log : Log}
  {o : AttemptOutcome}

/-- An attempt that fails because a step breaks the contract. -/
inductive BrokenInStep (config : Config) (shots : Files.Path) (suite : UiSuite) (case : UiCase) :
    Log → AttemptOutcome → Prop
  | broken {filled : UiCase} {now seconds : Float} {session : Nat} {φ : Parts} {f : Failure}
      {description : String} {attachments : List Attachment} (hr : readFor case = .ok filled)
      (hs : secondsOf (caseTimeout config filled) = .ok seconds)
      (hp : PageRun config suite (settingFor config shots filled session (now + seconds)) filled φ
        (some (.failure f [] description)))
      (ht : Ui.StepsTaken (settingFor config shots filled session (now + seconds)) 1 filled.steps
        φ.steps (some (f, description)))
      (hf : f.kind = .contract) :
      BrokenInStep config shots suite case (pageLog config now session φ)
        (concluded (some (.failure f [] description)) attachments)

/-- An attempt that fails because the setup action of the suite breaks the contract. -/
inductive BrokenInSetup (config : Config) (shots : Files.Path) (suite : UiSuite) (case : UiCase) :
    Log → AttemptOutcome → Prop
  | broken {filled : UiCase} {now seconds : Float} {session : Nat} {φ : Parts} {f : Failure}
      {attachments : List Attachment} (hr : readFor case = .ok filled)
      (hs : secondsOf (caseTimeout config filled) = .ok seconds)
      (hp : PageRun config suite (settingFor config shots filled session (now + seconds)) filled φ
        (some (.blocked ("Setup action failed: " ++ f.describe))))
      (ha : ActedIf (settingFor config shots filled session (now + seconds)) suite.setup φ.setup
        (.error f))
      (hf : f.kind = .contract) :
      BrokenInSetup config shots suite case (pageLog config now session φ)
        (concluded (some (.blocked ("Setup action failed: " ++ f.describe))) attachments)

theorem BrokenInStep.settles (h : BrokenInStep config shots suite case log o) :
    o.retryable = false := by
  cases h with
  | @broken _ _ _ _ _ f _ _ _ _ _ _ hf =>
    have hkind : classify f = .contract := by rw [classify, hf]
    rw [concluded, AttemptOutcome.failure, AttemptOutcome.retryable, hkind]
    rfl

theorem BrokenInSetup.retryable (h : BrokenInSetup config shots suite case log o) :
    o.retryable = true := by
  cases h
  rfl

/-- The attempt had a page. -/
def HadPage (config : Config) (log : Log) : Prop :=
  ∃ session, (⟨.openSession (sessionContext config), .ok session⟩ : Event) ∈ log

/-- A case on a page is blocked if the setup action is declared wrongly. -/
theorem Driven.blocked {c : Ui.Setting} {l₁ l₂ l₃ l₄ l₅ : Log} {v : Verdict} {a : UiAction}
    {f : Failure} (h : Driven config suite c case l₁ l₂ l₃ l₄ l₅ v) (hs : suite.setup = some a)
    (ha : Ui.Plan.of a = .error f) :
    v = some (.blocked ("Setup action failed: " ++ f.describe)) ∧
      ActedIf c suite.setup l₁ (.error f) := by
  have hfails : ∀ {l : Log} {r : Except Failure Unit},
      ActedIf c suite.setup l r → r = .error f := by
    intro l r h
    rw [hs] at h
    exact (Ui.Acted.eq_error h ha).2
  cases h with
  | setupFailed h₁ =>
    obtain rfl := Except.error.inj (hfails h₁)
    exact ⟨rfl, h₁⟩
  | viewportFailed h₁ | navigationFailed h₁ | stepFailed h₁ | snapshotFailed h₁ | passed h₁ =>
    cases hfails h₁

/-- A setup action that is declared wrongly breaks every attempt that has a page. -/
theorem UiTry.brokenInSetup {a : UiAction} {f : Failure}
    (h : UiTry config shots suite case log o) (hpage : HadPage config log)
    (hs : suite.setup = some a) (ha : Ui.Plan.of a = .error f) (hf : f.kind = .contract) :
    BrokenInSetup config shots suite case log o := by
  obtain ⟨session, hm⟩ := hpage
  cases h with
  | unread => cases hm
  | untold => simp at hm
  | refused => simp at hm
  | opened hr hseconds hp =>
    obtain ⟨rfl, hacted⟩ := hp.driven.blocked hs ha
    exact .broken hr hseconds hp hacted hf

/-- The attempts at a case that is not skipped, and which of them come to nothing for an action that
is declared wrongly. -/
structure ContractRun (config : Config) (shots : Files.Path) (suite : UiSuite) (case : UiCase)
    (run : Log × CaseResult) (earlier : List Try) (last : Try) : Prop where
  /-- What is asked is what the attempts ask, each but the first after a warning, and the result is
  that of the last one. -/
  tried : Tried (fun _ => attemptUiCase config shots suite case) 0
    (retriesFor config case.retries) earlier last
  asked : ∃ start stop,
    run.1 = ⟨.clock, start⟩ :: triesLog suite.name case.name
      (retriesFor config case.retries + 1) 0 earlier last ++ [⟨.clock, stop⟩] ∧
    run.2 = resultOf suite.name case.name case.tags last.outcome (earlier.length + 1)
      (elapsed start stop)
  each : ∀ t ∈ earlier ++ [last], UiTry config shots suite case t.log t.outcome
  /-- No attempt follows one in which a step breaks the contract. -/
  step : ∀ i t, (earlier ++ [last])[i]? = some t →
    BrokenInStep config shots suite case t.log t.outcome → i = earlier.length
  /-- After one in which the setup action does, the case is tried again for as long as it may be. -/
  setup : ∀ i t, (earlier ++ [last])[i]? = some t →
    BrokenInSetup config shots suite case t.log t.outcome →
      (i = earlier.length ↔ i = retriesFor config case.retries)
  /-- So it is if the setup action is declared wrongly and the attempts have a page each. -/
  again : ∀ a f, suite.setup = some a → Ui.Plan.of a = .error f → f.kind = .contract →
    (∀ t ∈ earlier ++ [last], HadPage config t.log) →
      earlier.length = retriesFor config case.retries

/-- **An action that is declared wrongly ends the attempts at a case when it is a step, and not when
it is the setup action**, for every suite and case, however often it may be tried, on every machine.
-/
theorem runUiCase_contract {σ : Type} (answer : (q : Question) → σ → q.Answer × σ) (config : Config)
    (shots : Files.Path) (suite : UiSuite) (case : UiCase) (s : σ) (hskip : case.skip = false) :
    ∃ earlier last, ContractRun config shots suite case
      ((runUiCase config shots suite case).logOf answer s,
        ((runUiCase config shots suite case).run answer s).1) earlier last := by
  have htrace := (Program.traces_run answer (runUiCase config shots suite case) s).1
  generalize hlog : (runUiCase config shots suite case).logOf answer s = log at htrace ⊢
  generalize hresult : ((runUiCase config shots suite case).run answer s).1 = r at htrace ⊢
  rw [runUiCase, hskip] at htrace
  obtain ⟨earlier, last, start, stop, htried, rfl, rfl⟩ := traces_runAttempts.mp htrace
  have heach : ∀ t ∈ earlier ++ [last], UiTry config shots suite case t.log t.outcome :=
    fun t ht => uiTry_of_traces (htried.traces_of_mem ht)
  refine ⟨earlier, last, htried, ⟨start, stop, rfl, rfl⟩, heach, ?step, ?setup, ?again⟩
  case step =>
    intro i t hi hbroken
    exact htried.eq_last hi hbroken.settles
  case setup =>
    intro i t hi hbroken
    exact htried.eq_last_iff hi hbroken.retryable
  case again =>
    intro a f hs ha hf hpages
    have hmem : last ∈ earlier ++ [last] := List.mem_append_right _ List.mem_cons_self
    have hbroken := (heach last hmem).brokenInSetup (hpages last hmem) hs ha hf
    exact htried.stopped hbroken.retryable

/-- The setup action of a suite that clicks on nothing. -/
def clickNothing : UiAction :=
  { action := "click", selector := none, value := .null, options := [], description := none }

/-- The suite of the greeting, after that setup action. -/
def unsettledSuite : UiSuite := { greetingSuite with setup := some clickNothing }

/-- A case of one click, which may be tried once again. -/
def unsettledCase : UiCase :=
  { name := "n", tags := [], url := none, viewport := none, snapshot := none, dataInjection := []
    steps := [{ clickNothing with selector := some "#go" }]
    skip := false, only := false, timeout := none, retries := some (.int 1)
    document := .obj [("name", .str "n"), ("steps", .list [.obj [("action", .str "click"),
      ("selector", .str "#go")]])] }

/-- The case is tried twice, though the setup action can never be done. -/
theorem runUiCase_contract_unsettled :
    unsettledCase.skip = false ∧
      ∃ earlier last, ContractRun (bareConfig "" "http://app.test") (.ofText "shots")
        unsettledSuite unsettledCase
        ((runUiCase (bareConfig "" "http://app.test") (.ofText "shots") unsettledSuite
            unsettledCase).logOf brokenPages ⟨⟨[], []⟩, 0.0, []⟩,
          ((runUiCase (bareConfig "" "http://app.test") (.ofText "shots") unsettledSuite
            unsettledCase).run brokenPages ⟨⟨[], []⟩, 0.0, []⟩).1) earlier last ∧
        earlier.length = 1 := by
  obtain ⟨earlier, last, h⟩ := runUiCase_contract brokenPages (bareConfig "" "http://app.test")
    (.ofText "shots") unsettledSuite unsettledCase ⟨⟨[], []⟩, 0.0, []⟩ rfl
  refine ⟨rfl, earlier, last, h, ?_⟩
  obtain ⟨start, stop, -, hresult⟩ := h.asked
  have hattempts : 2 = earlier.length + 1 := congrArg CaseResult.attempts hresult
  exact (Nat.succ.inj hattempts).symm

end Contract

end SuiteEngine.Run
