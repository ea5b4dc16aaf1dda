import SuiteEngine.Host.Machine
import SuiteEngine.Proofs.Run.UiAttempt
import SuiteEngine.Proofs.Suite.Accepted

/-!
# Pages of a run

A run of a UI suite makes one result for each case. A case that is skipped asks nothing; any other
one is tried, and each attempt has a page of its own, which is opened before its first part and
closed after its last one. There is one exception: where the time allowed for the case does not fit
into a float, the attempt fails before its page is opened. `Attempted` lists both ways, `UiCaseRun`
says so of one case. `UiTry` lists what else can happen to a case that comes from any document, or
where a page may be refused.

Headlines:
* `uiTry_of_traces`: one attempt.
* `attempted_of_traces`: one attempt at a case that was read from an accepted document.
* **`runUiSuite_pages`**: a run of an accepted document, on a machine that opens every page.
-/

namespace SuiteEngine.Run

open Host (Event Interleaves Log Program Question Trial)
open Report (Attachment CaseResult SuiteResult)
open Suite (Kind Reads UiCase UiSuite)
open Ui (Setting StaysOn)

variable {config : Config} {shots : Files.Path} {suite : UiSuite} {case : UiCase}
  {turns : List Nat} {tags : List String} {log : Log}

/-! ## The time allowed -/

/-- The number of milliseconds is whole, and its seconds do not fit into a float. -/
def TooLong (milliseconds : Value) : Prop :=
  ∃ n, milliseconds = .int n ∧ (Decimal.toFloat (n < 0) n.natAbs (-3)).isInf = true

/-- The failure of an attempt whose time cannot be told. -/
def tooLongFailure : Failure :=
  ⟨.other "OverflowError", "integer division result too large for a float"⟩

theorem secondsOf_error {v : Value} {f : Failure} (h : secondsOf v = .error f) :
    TooLong v ∧ f = tooLongFailure := by
  unfold secondsOf at h
  split at h
  · rename_i n
    dsimp only at h
    split at h
    · rename_i hi
      exact ⟨⟨n, rfl, hi⟩, (Except.error.inj h).symm⟩
    · cases h
  · cases h

theorem secondsOf_ok {v : Value} {seconds : Float} (h : secondsOf v = .ok seconds) :
    ¬TooLong v := by
  rintro ⟨n, rfl, hi⟩
  simp only [secondsOf] at h
  rw [if_pos hi] at h
  cases h

/-! ## Attempts -/

/-- What the parts of an attempt have in common. -/
def settingFor (config : Config) (shots : Files.Path) (case : UiCase) (session : Nat)
    (deadline : Float) : Setting :=
  { session, screenshotsDir := shots, snapshotDir := config.features.snapshotDir
    limit := config.features.maxDiffPixelRatio, deadline := some deadline
    timeout := caseTimeout config case }

/-- A case with its own variables filled in. -/
def filledIn (case : UiCase) : UiCase := case.interpolate (Variables.merge [] case.dataInjection)

/-- How an attempt with this verdict ends. -/
def concluded (v : Verdict) (attachments : List Attachment) : AttemptOutcome :=
  match v with
  | none => .success attachments
  | some o => { o with attachments }

/-- What an attempt asks, and how it ends. -/
inductive Attempted (config : Config) (shots : Files.Path) (suite : UiSuite) (case : UiCase) :
    Log → AttemptOutcome → Prop
  /-- The time cannot be told, and no page is opened. -/
  | unopened {now : Float} (ht : TooLong (caseTimeout config case)) :
      Attempted config shots suite case [⟨.clock, now⟩] (.failure tooLongFailure [] "")
  /-- The attempt has one page, from before its first part until after its last one. -/
  | opened {now seconds : Float} {session : Nat} {φ : Parts} {v : Verdict}
      {attachments : List Attachment} (ht : ¬TooLong (caseTimeout config case))
      (hs : secondsOf (caseTimeout config case) = .ok seconds)
      (hp : PageRun config suite (settingFor config shots case session (now + seconds))
        (filledIn case) φ v)
      (hpage : StaysOn session φ.all) :
      Attempted config shots suite case
        (⟨.clock, now⟩ :: ⟨.openSession (sessionContext config), .ok session⟩ ::
          (φ.all ++ [⟨.closeSession session, ()⟩]))
        (concluded v attachments)

/-- The case that an attempt reads, with its own variables filled in. -/
def readFor (case : UiCase) : Except Failure UiCase :=
  (UiCase.ofDocument (case.document.interpolate (Variables.merge [] case.dataInjection))).mapError
    Suite.ReadFault.failure

/-- What is asked on a page, from the look at the clock by which its time is told on. -/
def pageLog (config : Config) (now : Float) (session : Nat) (φ : Parts) : Log :=
  ⟨.clock, now⟩ :: ⟨.openSession (sessionContext config), .ok session⟩ ::
    (φ.all ++ [⟨.closeSession session, ()⟩])

/-- What an attempt at a case asks, wherever the case comes from and whoever answers, and how it
ends. -/
inductive UiTry (config : Config) (shots : Files.Path) (suite : UiSuite) (case : UiCase) :
    Log → AttemptOutcome → Prop
  | unread {f : Failure} (hr : readFor case = .error f) :
      UiTry config shots suite case [] (.failure f [] "")
  | untold {filled : UiCase} {now : Float} (hr : readFor case = .ok filled)
      (ht : TooLong (caseTimeout config filled)) :
      UiTry config shots suite case [⟨.clock, now⟩] (.failure tooLongFailure [] "")
  | refused {filled : UiCase} {now seconds : Float} {f : Failure} (hr : readFor case = .ok filled)
      (hs : secondsOf (caseTimeout config filled) = .ok seconds) :
      UiTry config shots suite case
        [⟨.clock, now⟩, ⟨.openSession (sessionContext config), .error f⟩] (.failure f [] "")
  | opened {filled : UiCase} {now seconds : Float} {session : Nat} {φ : Parts} {v : Verdict}
      {attachments : List Attachment} (hr : readFor case = .ok filled)
      (hs : secondsOf (caseTimeout config filled) = .ok seconds)
      (hp : PageRun config suite (settingFor config shots filled session (now + seconds)) filled φ
        v) :
      UiTry config shots suite case (pageLog config now session φ) (concluded v attachments)

/-- A case was read from a document that its schema accepts. -/
def ReadFrom (case : UiCase) : Prop :=
  case.Checked ∧ Reads UiCase.ofDocument UiCase.interpolate case.document case

/-- No page is refused. -/
def AllOpen (log : Log) : Prop :=
  ∀ context f, (⟨.openSession context, .error f⟩ : Event) ∉ log

theorem ReadFrom.readFor_eq (h : ReadFrom case) : readFor case = .ok (filledIn case) := by
  rw [readFor, h.2.filled]
  rfl

theorem caseTimeout_filledIn (h : case.Checked) :
    caseTimeout config (filledIn case) = caseTimeout config case :=
  congrArg (fun t : Option Value => (t.filter Value.truthy).getD (.int config.execution.timeout))
    (Suite.numbers_interpolate _ h.timeout)

/-- A page is closed after what is done on it, whatever that came to, unless it was refused. -/
theorem withSession_of_traces {context : Host.SessionContext} {body : Nat → Trial Verdict}
    {before after : List Attachment} {r : Except Failure Verdict}
    (h : Trial.Traces (withSession context body) before log r after) :
    (∃ f, log = [⟨.openSession context, .error f⟩] ∧ r = .error f ∧ after = before) ∨
      ∃ session l,
        log = ⟨.openSession context, .ok session⟩ :: (l ++ [⟨.closeSession session, ()⟩]) ∧
          Trial.Traces (body session) before l r after := by
  rcases Trial.traces_bind.mp h with ⟨f, hs, rfl⟩ | ⟨session, l₁, l₂, _, rfl, hs, h₂⟩
  · obtain ⟨hq, rfl⟩ := Trial.traces_ofAnswer.mp hs
    obtain rfl := Program.traces_openSession.mp hq
    exact .inl ⟨f, rfl, rfl, rfl⟩
  obtain ⟨hq, rfl⟩ := Trial.traces_ofAnswer.mp hs
  obtain rfl := Program.traces_openSession.mp hq
  obtain ⟨ended, l₃, l₄, between, rfl, hb, h₃⟩ := Trial.traces_outcome_bind.mp h₂
  rcases Trial.traces_bind.mp h₃ with ⟨_, hc, _⟩ | ⟨_, l₅, l₆, _, rfl, hc, h₄⟩
  · obtain ⟨_, _, hr, _⟩ := Trial.traces_ofProgram.mp hc
    cases hr
  obtain ⟨_, hq, _, rfl⟩ := Trial.traces_ofProgram.mp hc
  obtain rfl := Program.traces_closeSession.mp hq
  obtain ⟨rfl, rfl, rfl⟩ := Trial.traces_ofExcept.mp h₄
  exact .inr ⟨session, l₃, rfl, hb⟩

/-- **An attempt has one page**, unless its case cannot be read, its time cannot be told or the page
is refused. -/
theorem uiTry_of_traces {o : AttemptOutcome}
    (h : (attemptUiCase config shots suite case).Traces log o) :
    UiTry config shots suite case log o := by
  obtain ⟨l, ⟨r, attachments⟩, l', rfl, ht, h₂⟩ := Program.traces_bind.mp h
  obtain rfl : l' = [] := by
    rcases r with _ | _ | _ <;> exact h₂.1
  rw [List.append_nil]
  rcases Trial.traces_ofExcept_bind.mp (Trial.traces_perform.mp ht) with
    ⟨f, hr, rfl, rfl, rfl⟩ | ⟨filled, hr, h₃⟩
  · obtain ⟨_, rfl⟩ := h₂
    exact .unread hr
  obtain ⟨now, l₁, rfl, h₄⟩ := Trial.traces_clock_bind.mp h₃
  rcases Trial.traces_ofExcept_bind.mp h₄ with ⟨f, hs, rfl, rfl, rfl⟩ | ⟨seconds, hs, h₅⟩
  · obtain ⟨htoo, rfl⟩ := secondsOf_error hs
    obtain ⟨_, rfl⟩ := h₂
    exact .untold hr htoo
  rcases withSession_of_traces h₅ with ⟨f, rfl, rfl, rfl⟩ | ⟨session, l₂, rfl, h₆⟩
  · obtain ⟨_, rfl⟩ := h₂
    exact .refused hr hs
  obtain ⟨φ, v, rfl, rfl, hp⟩ := pageRun_of_traces h₆
  obtain rfl : concluded v attachments = o := by
    cases v with
    | none => exact h₂.2.symm
    | some _ => exact h₂.2.symm
  exact .opened hr hs hp

/-- **An attempt has one page, or its time cannot be told.** -/
theorem attempted_of_traces (hc : ReadFrom case) {o : AttemptOutcome}
    (h : (attemptUiCase config shots suite case).Traces log o) (ho : AllOpen log) :
    Attempted config shots suite case log o := by
  have hread := hc.readFor_eq
  have htime : caseTimeout config (filledIn case) = caseTimeout config case :=
    caseTimeout_filledIn hc.1
  cases uiTry_of_traces h with
  | unread hr => cases hread.symm.trans hr
  | untold hr ht =>
    obtain rfl := Except.ok.inj (hread.symm.trans hr)
    exact .unopened (htime ▸ ht)
  | refused => exact absurd (List.mem_cons_of_mem _ List.mem_cons_self) (ho _ _)
  | @opened _ now seconds session φ v _ hr hs hp =>
    obtain rfl := Except.ok.inj (hread.symm.trans hr)
    rw [htime] at hs
    have hsetting : settingFor config shots (filledIn case) session (now + seconds) =
        settingFor config shots case session (now + seconds) := by
      rw [settingFor, htime]
      rfl
    rw [hsetting] at hp
    exact .opened (secondsOf_ok hs) hs hp hp.staysOn

/-! ## Pages -/

/-- The pages that were opened. -/
def pagesOpened (log : Log) : List Nat :=
  log.filterMap fun e =>
    match e with
    | ⟨.openSession _, .ok session⟩ => some session
    | _ => none

/-- The pages that were closed. -/
def pagesClosed (log : Log) : List Nat :=
  log.filterMap fun e =>
    match e with
    | ⟨.closeSession session, _⟩ => some session
    | _ => none

/-- One page was opened, and it was closed. -/
def OnePage (log : Log) : Prop :=
  ∃ session, pagesOpened log = [session] ∧ pagesClosed log = [session]

theorem StaysOn.pages {session : Nat} (h : StaysOn session log) :
    pagesOpened log = [] ∧ pagesClosed log = [] := by
  constructor
  · refine List.filterMap_eq_nil_iff.mpr fun e he => ?_
    have hc := h e he
    split
    · exact hc.elim
    · rfl
  · refine List.filterMap_eq_nil_iff.mpr fun e he => ?_
    have hc := h e he
    split
    · exact hc.elim
    · rfl

/-- **An attempt opens and closes one page, unless its time cannot be told.** -/
theorem Attempted.onePage_iff {o : AttemptOutcome} (h : Attempted config shots suite case log o) :
    OnePage log ↔ ¬TooLong (caseTimeout config case) := by
  cases h with
  | unopened ht =>
    refine ⟨fun ⟨_, ho, _⟩ => ?_, fun hn => absurd ht hn⟩
    cases ho
  | @opened _ _ session φ _ _ ht _ _ hpage =>
    refine ⟨fun _ => ht, fun _ => ⟨session, ?_, ?_⟩⟩
    · change session :: pagesOpened (φ.all ++ [⟨.closeSession session, ()⟩]) = [session]
      rw [pagesOpened, List.filterMap_append]
      change session :: (pagesOpened φ.all ++ []) = [session]
      rw [(StaysOn.pages hpage).1]
      rfl
    · change pagesClosed (φ.all ++ [⟨.closeSession session, ()⟩]) = [session]
      rw [pagesClosed, List.filterMap_append]
      change pagesClosed φ.all ++ [session] = [session]
      rw [(StaysOn.pages hpage).2]
      rfl

/-! ## One case -/

/-- What a case asks, and how it ends. -/
structure UiCaseRun (config : Config) (shots : Files.Path) (suite : UiSuite) (case : UiCase)
    (run : Log × CaseResult) : Prop where
  skipped : case.skip = true → run = ([], .skipped suite.name case.name case.tags)
  tried : case.skip = false → ∃ earlier last start stop,
    Tried (fun _ => attemptUiCase config shots suite case) 0 (retriesFor config case.retries)
        earlier last ∧
      run.1 = ⟨.clock, start⟩ :: triesLog suite.name case.name
        (retriesFor config case.retries + 1) 0 earlier last ++ [⟨.clock, stop⟩] ∧
      run.2 = resultOf suite.name case.name case.tags last.outcome (earlier.length + 1)
        (elapsed start stop) ∧
      ∀ t ∈ earlier ++ [last], Attempted config shots suite case t.log t.outcome ∧
        (OnePage t.log ↔ ¬TooLong (caseTimeout config case))

theorem uiCaseRun_of_traces (hc : ReadFrom case) {run : Log × CaseResult}
    (h : (runUiCase config shots suite case).Traces run.1 run.2) (ho : AllOpen run.1) :
    UiCaseRun config shots suite case run := by
  obtain ⟨log, r⟩ := run
  unfold runUiCase at h
  split at h
  · rename_i hs
    obtain ⟨rfl, rfl⟩ := h
    exact ⟨fun _ => rfl, fun hn => absurd hs (by simp [hn])⟩
  · rename_i hs
    obtain ⟨earlier, last, start, stop, htried, rfl, rfl⟩ := traces_runAttempts.mp h
    refine ⟨fun hy => absurd hy hs, fun _ => ⟨earlier, last, start, stop, htried, rfl, rfl, ?_⟩⟩
    intro t ht
    have ha := attempted_of_traces hc (htried.traces_of_mem ht) fun context f hm =>
      ho context f (by simp [triesLog_mem ht hm])
    exact ⟨ha, ha.onePage_iff⟩

/-! ## A whole run -/

theorem mem_of_mem_select {α : Type} [Suite.Selectable α] {tests : List α} {test : α}
    (h : test ∈ Suite.select tags tests) : test ∈ tests := by
  unfold Suite.select Suite.selectRunnable at h
  have hfilter : test ∈ Suite.filterByTags tags tests := by
    split at h
    · exact h
    · exact List.mem_of_mem_filter h
  exact List.mem_of_mem_filter hfilter

/-- Two outcomes that differ in their attachments at most. -/
def AttemptOutcome.Alike (o o' : AttemptOutcome) : Prop :=
  o.passed = o'.passed ∧ o.failureKind = o'.failureKind ∧ o.message = o'.message

/-- What a run of a suite asks, and what its result is made of. -/
structure UiSuiteRun (config : Config) (shots : Files.Path) (tags : List String) (suite : UiSuite)
    (log : Log) (result : SuiteResult) : Prop where
  cases : ∃ runs start stop l,
    log = ⟨.clock, start⟩ :: (l ++ [⟨.clock, stop⟩]) ∧
      List.Forall₂ (UiCaseRun config shots suite) (Suite.select tags suite.tests) runs ∧
      Interleaves (runs.map Prod.fst) l ∧ result.cases = runs.map Prod.snd
  settled : ∀ (c : Setting) (case : UiCase) (φ φ' : Parts) (v v' : Verdict)
    (attachments attachments' : List Attachment), PageRun config suite c case φ v →
      PageRun config suite c case φ' v' → φ.driven = φ'.driven →
        (concluded v attachments).Alike (concluded v' attachments')

theorem uiSuiteRun_of_traces (hc : ∀ case ∈ suite.tests, ReadFrom case) {result : SuiteResult}
    (h : (runUiSuite config shots turns tags suite).Traces log result) (ho : AllOpen log) :
    UiSuiteRun config shots tags suite log result := by
  refine ⟨?cases, ?settled⟩
  case cases =>
    obtain ⟨_, start, l, rfl, hs, h₁⟩ := Program.traces_bind.mp h
    obtain rfl := Program.traces_clock.mp hs
    obtain ⟨l₁, _, _, rfl, hr, h₂⟩ := Program.traces_bind.mp h₁
    obtain ⟨_, stop, _, rfl, ht, rfl, rfl⟩ := Program.traces_bind.mp h₂
    obtain rfl := Program.traces_clock.mp ht
    obtain ⟨runs, hruns, hi, rfl⟩ := runSideBySide_spec hr
    rw [List.forall₂_map_left_iff] at hruns
    refine ⟨runs, start, stop, l₁, rfl, ?_, hi, rfl⟩
    refine List.forall₂_iff_zip.mpr ⟨hruns.length_eq, fun {case run} hz => ?_⟩
    obtain ⟨hcase, hrun⟩ := List.of_mem_zip hz
    refine uiCaseRun_of_traces (hc case (mem_of_mem_select hcase)) (List.forall₂_zip hruns hz) ?_
    intro context f hm
    have hmem := hi.mem_iff.mpr ⟨run.1, List.mem_map_of_mem hrun, hm⟩
    exact ho context f (by simp [hmem])
  case settled =>
    intro c case φ φ' v v' attachments attachments' hp hp' hd
    obtain rfl := hp.verdict_eq hp' hd
    cases v with
    | none => exact ⟨rfl, rfl, rfl⟩
    | some o => exact ⟨rfl, rfl, rfl⟩

/-! ## On a machine -/

section Machine

variable {σ : Type} {answer : (q : Question) → σ → q.Answer × σ}

/-- The machine opens every page; what is done on it may fail. -/
def OpensPages (answer : (q : Question) → σ → q.Answer × σ) : Prop :=
  ∀ context s, ∃ session, (answer (.openSession context) s).1 = .ok session

theorem OpensPages.allOpen {α : Type} (hm : OpensPages answer) (p : Program α) (s : σ) :
    AllOpen (p.logOf answer s) := by
  intro context f he
  obtain ⟨s', ha⟩ := (Program.traces_run answer p s).2 _ he
  obtain ⟨session, hs⟩ := hm context s'
  cases hs.symm.trans ha

/-- **Every attempt has a page of its own.** A run of an accepted document has one result for each
case that it takes, in their order, and the cases take their turns in any order. A case that is
skipped asks nothing. Each attempt at another one opens one page and closes it again, unless the
time allowed cannot be told; on the page come the setup action, the window, the address, the steps
and the picture, as long as none of them failed, then the picture of the failure if it is asked for,
and in any case the teardown action. What these last two come to changes nothing about how the
attempt ended. -/
theorem runUiSuite_pages (hm : OpensPages answer) {document : Value}
    (hd : Kind.ui.issues document = .ok [])
    (hs : UiSuite.ofDocument document = .ok { suite with source := none }) (config : Config)
    (shots : Files.Path) (turns : List Nat) (tags : List String) (s : σ) :
    UiSuiteRun config shots tags suite ((runUiSuite config shots turns tags suite).logOf answer s)
      ((runUiSuite config shots turns tags suite).run answer s).1 := by
  obtain ⟨read, hread, _, hcases⟩ := Suite.ui_accepted_reads hd
  have htests : read.tests = suite.tests := by
    rw [← Except.ok.inj (hs.symm.trans hread)]
  rw [htests] at hcases
  exact uiSuiteRun_of_traces hcases (Program.traces_run answer _ s).1 (hm.allOpen _ s)

end Machine

/-- The machine without a network, with pages on which nothing works. -/
def brokenPages (q : Question) (m : Host.Offline) : q.Answer × Host.Offline :=
  match q with
  | .openSession _ => (.ok m.warnings.length, m)
  | q => Host.Offline.answer q m

/-- The suite of the greeting. -/
def greetingSuite : UiSuite :=
  { name := "S"
    tests := [{
      name := "n"
      steps := [{
        action := "click", selector := some "#\x7b\x7bid\x7d\x7d", value := .null, options := []
        description := none }]
      tags := [], url := none, viewport := none
      snapshot := some { name := "after.png", fullPage := true, selector := none }
      dataInjection := [], skip := false, only := false, timeout := none, retries := none
      document := .obj [("name", .str "n"),
        ("steps", .list [.obj [("action", .str "click"),
          ("selector", .str "#\x7b\x7bid\x7d\x7d")]]),
        ("snapshot", .obj [("name", .str "after.png")])] }]
    tags := [], basePath := "", setup := none, teardown := none, source := none }

/-- The greeting runs on such pages. -/
theorem runUiSuite_pages_broken :
    OpensPages brokenPages ∧ Kind.ui.issues Suite.uiGreeting = .ok [] ∧
      UiSuite.ofDocument Suite.uiGreeting = .ok greetingSuite ∧
      UiSuiteRun (bareConfig "" "http://app.test") (.ofText "shots") [] greetingSuite
        ((runUiSuite (bareConfig "" "http://app.test") (.ofText "shots") [] [] greetingSuite).logOf
          brokenPages ⟨⟨[], []⟩, 0.0, []⟩)
        ((runUiSuite (bareConfig "" "http://app.test") (.ofText "shots") [] [] greetingSuite).run
          brokenPages ⟨⟨[], []⟩, 0.0, []⟩).1 := by
  have hm : OpensPages brokenPages := fun context m => ⟨m.warnings.length, rfl⟩
  have hd : Kind.ui.issues Suite.uiGreeting = .ok [] := Suite.uiGreeting_issues
  have hs : UiSuite.ofDocument Suite.uiGreeting = .ok greetingSuite := rfl
  exact ⟨hm, hd, hs, runUiSuite_pages hm hd hs (bareConfig "" "http://app.test")
    (.ofText "shots") [] [] ⟨⟨[], []⟩, 0.0, []⟩⟩

end SuiteEngine.Run
