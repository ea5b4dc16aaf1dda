import SuiteEngine.Proofs.Run.Loading
import SuiteEngine.Proofs.Run.Outputs
import SuiteEngine.Proofs.Run.Raised

/-!
# A whole run

Nothing is asked before all is loaded, so a run that cannot begin leaves everything as it is. A run that
has begun takes the suites one after the other, those for APIs first. Unless it is given up with one of
them, each suite that was loaded is run once, and what is written are their results in this order.

Headlines:
* `traces_runApiSuites`, `traces_runUiSuites`: what several suites ask one after the other.
* `traces_conduct`: what a run asks, and how it ends.
* **`execute_settles`**: a run on a machine, from loading to its outputs.
-/

namespace SuiteEngine.Run

open Files (Path Tree)
open Host (Event Fallible Log Machine Program)
open Host.Fallible (Fails)
open Report (SuiteResult)
open Suite (ApiSuite UiSuite)

variable {config : Config} {tags : List String} {shots : Path} {log : Log} {l : Loaded} {r : Request}

/-! ## Suites one after the other -/

/-- A suite that was run to its end: what was asked, and its result. -/
structure Ran (α : Type) where
  suite : α
  log : Log
  result : SuiteResult

/-- What was asked for some suites, one after the other. -/
def logsOf {α : Type} (runs : List (Ran α)) : Log := runs.flatMap Ran.log

/-- The results of some suites. -/
def resultsOf {α : Type} (runs : List (Ran α)) : List SuiteResult := runs.map Ran.result

/-- Each API suite was run to its end. -/
def ApiRan (config : Config) (tags : List String) (runs : List (Ran ApiSuite)) : Prop :=
  ∀ x ∈ runs, Fallible.Traces (runApiSuite config [] tags x.suite) x.log (.ok x.result)

/-- Each UI suite was run to its end. -/
def UiRan (config : Config) (shots : Path) (tags : List String) (runs : List (Ran UiSuite)) : Prop :=
  ∀ x ∈ runs, (runUiSuite config shots [] tags x.suite).Traces x.log x.result

/-- An API suite was given up after some others had been run: a client failed outside its cases with
something that is not foreseen. -/
structure StoppedAt (config : Config) (tags : List String) (suites : List ApiSuite) (log : Log)
    (f : Failure) (before : List (Ran ApiSuite)) (suite : ApiSuite) (last : Log) : Prop where
  ran : ApiRan config tags before
  suites : ∃ rest, suites = before.map Ran.suite ++ suite :: rest
  raised : RunRaises config [] tags suite last f
  log_eq : log = logsOf before ++ last

/-- **API suites are run one after the other**, up to one that is given up. -/
theorem traces_runApiSuites {suites : List ApiSuite} {result : Except Failure (List SuiteResult)}
    (h : Fallible.Traces (runApiSuites config tags suites) log result) :
    (∃ runs, ApiRan config tags runs ∧ runs.map Ran.suite = suites ∧ log = logsOf runs ∧
      result = .ok (resultsOf runs)) ∨
    ∃ f before suite last,
      StoppedAt config tags suites log f before suite last ∧ result = .error f := by
  induction suites generalizing log result with
  | nil =>
    obtain ⟨rfl, rfl⟩ := h
    exact .inl ⟨[], by simp [ApiRan], rfl, rfl, rfl⟩
  | cons suite rest ih =>
    rcases Fallible.traces_bind.mp h with ⟨f, hs, rfl⟩ | ⟨first, l₁, l₂, rfl, hs, h⟩
    · rcases apiSuiteRun_or_raises hs with ⟨_, _, hok, _⟩ | ⟨e, he, hraises⟩
      · cases hok
      · obtain rfl := Except.error.inj he
        exact .inr ⟨f, [], suite, log, ⟨by simp [ApiRan], ⟨rest, rfl⟩, hraises, rfl⟩, rfl⟩
    · obtain ⟨results, hrest, rfl⟩ := Fallible.traces_map.mp h
      rcases ih hrest with ⟨runs, hran, rfl, rfl, rfl⟩ | ⟨f, before, stopped, last, hstop, rfl⟩
      · exact .inl ⟨⟨suite, l₁, first⟩ :: runs, List.forall_mem_cons.mpr ⟨hs, hran⟩, rfl, rfl, rfl⟩
      · obtain ⟨later, rfl⟩ := hstop.suites
        refine .inr ⟨f, ⟨suite, l₁, first⟩ :: before, stopped, last, ⟨?_, ⟨later, rfl⟩, ?_, ?_⟩, rfl⟩
        · exact List.forall_mem_cons.mpr ⟨hs, hstop.ran⟩
        · exact hstop.raised
        · rw [hstop.log_eq, logsOf, logsOf, List.flatMap_cons, List.append_assoc]

/-- What is asked before the first page: how the browser is started, where there is a suite for it. -/
def browserLog (config : Config) (suites : List UiSuite) : Log :=
  if suites.isEmpty then [] else [⟨.useBrowser (.ofConfig config), ()⟩]

theorem traces_mapM_runUiSuite {suites : List UiSuite} {results : List SuiteResult}
    (h : (suites.mapM (runUiSuite config shots [] tags)).Traces log results) :
    ∃ runs, UiRan config shots tags runs ∧ runs.map Ran.suite = suites ∧ log = logsOf runs ∧
      results = resultsOf runs := by
  induction suites generalizing log results with
  | nil =>
    obtain ⟨rfl, rfl⟩ := h
    exact ⟨[], by simp [UiRan], rfl, rfl, rfl⟩
  | cons suite rest ih =>
    rw [List.mapM_cons] at h
    obtain ⟨l₁, first, l₂, rfl, hs, h⟩ := Program.traces_bind.mp h
    obtain ⟨later, hrest, rfl⟩ := Program.traces_map.mp h
    obtain ⟨runs, hran, rfl, rfl, rfl⟩ := ih hrest
    exact ⟨⟨suite, l₁, first⟩ :: runs, List.forall_mem_cons.mpr ⟨hs, hran⟩, rfl, rfl, rfl⟩

/-- **UI suites are run one after the other**, in one browser. -/
theorem traces_runUiSuites {suites : List UiSuite} {results : List SuiteResult}
    (h : (runUiSuites config shots tags suites).Traces log results) :
    ∃ runs, UiRan config shots tags runs ∧ runs.map Ran.suite = suites ∧
      log = browserLog config suites ++ logsOf runs ∧ results = resultsOf runs := by
  unfold runUiSuites at h
  cases suites with
  | nil =>
    obtain ⟨runs, hran, hs, rfl, rfl⟩ := traces_mapM_runUiSuite h
    exact ⟨runs, hran, hs, rfl, rfl⟩
  | cons suite rest =>
    obtain ⟨l₁, _, l₂, rfl, hq, hrest⟩ := Program.traces_bind.mp h
    obtain rfl := Program.traces_question.mp hq
    obtain ⟨runs, hran, hs, rfl, rfl⟩ := traces_mapM_runUiSuite hrest
    exact ⟨runs, hran, hs, rfl, rfl⟩

/-! ## The results -/

/-- The result of an API suite says which suite it is of. -/
theorem apiResult_of {turns : List Nat} {suite : ApiSuite} {result : SuiteResult}
    (h : Fallible.Traces (runApiSuite config turns tags suite) log (.ok result)) :
    result.suite = suite.name ∧ result.kind = .api ∧ result.source = suite.source := by
  obtain ⟨_, _, _, -, -, h⟩ := Fallible.traces_lift_bind.mp h
  rcases Fallible.traces_bind.mp h with ⟨_, -, hr⟩ | ⟨_, _, _, -, -, h⟩
  · cases hr
  obtain ⟨_, _, _, -, -, h⟩ := Fallible.traces_lift_bind.mp h
  rcases Fallible.traces_bind.mp h with ⟨_, -, hr⟩ | ⟨_, _, _, -, -, h⟩
  · cases hr
  obtain ⟨_, _, _, -, -, -, hr⟩ := Fallible.traces_lift_bind.mp h
  obtain rfl := Except.ok.inj hr
  exact ⟨rfl, rfl, rfl⟩

/-- The result of a UI suite says which suite it is of. -/
theorem uiResult_of {turns : List Nat} {suite : UiSuite} {result : SuiteResult}
    (h : (runUiSuite config shots turns tags suite).Traces log result) :
    result.suite = suite.name ∧ result.kind = .ui ∧ result.source = suite.source := by
  obtain ⟨_, _, _, -, -, h⟩ := Program.traces_bind.mp h
  obtain ⟨_, _, _, -, -, h⟩ := Program.traces_bind.mp h
  obtain ⟨_, _, _, -, -, -, rfl⟩ := Program.traces_bind.mp h
  exact ⟨rfl, rfl, rfl⟩

/-! ## A whole run -/

/-- A run in which every suite was run, those for APIs first. -/
structure Conducted (l : Loaded) (r : Request) (log : Log) (api : List (Ran ApiSuite))
    (ui : List (Ran UiSuite)) (duration : Float) : Prop where
  apiRan : ApiRan l.config r.tags api
  apiSuites : api.map Ran.suite = l.apiSuites
  uiRan : UiRan l.config (r.output.child "screenshots") r.tags ui
  uiSuites : ui.map Ran.suite = l.uiSuites
  log_eq : ∃ start stop, log = ⟨.clock, start⟩ ::
    (logsOf api ++ (browserLog l.config l.uiSuites ++ logsOf ui) ++ [⟨.clock, stop⟩]) ∧
      duration = elapsed start stop

/-- The results of a run are those of the suites that were loaded, in their order. -/
theorem Conducted.sources {api : List (Ran ApiSuite)} {ui : List (Ran UiSuite)} {duration : Float}
    (h : Conducted l r log api ui duration) :
    (resultsOf api ++ resultsOf ui).map SuiteResult.source =
      l.apiSuites.map ApiSuite.source ++ l.uiSuites.map UiSuite.source := by
  rw [← h.apiSuites, ← h.uiSuites, List.map_append]
  simp only [resultsOf, List.map_map]
  congr 1
  · exact List.map_congr_left fun x hx => (apiResult_of (h.apiRan x hx)).2.2
  · exact List.map_congr_left fun x hx => (uiResult_of (h.uiRan x hx)).2.2

/-- A run that was given up with one of its API suites. -/
def GivenUp (l : Loaded) (r : Request) (log : Log) (f : Failure) : Prop :=
  ∃ start rest before suite last, log = ⟨.clock, start⟩ :: rest ∧
    StoppedAt l.config r.tags l.apiSuites rest f before suite last

/-- What a run is given up for is a failure of a client, and none of the environment. -/
theorem GivenUp.fails {f : Failure} (h : GivenUp l r log f) : Fails log f ∧ f.isHost = false := by
  obtain ⟨start, rest, before, suite, last, rfl, hstop⟩ := h
  obtain ⟨hf, hhost⟩ := hstop.raised.fails
  refine ⟨?_, hhost⟩
  have hrest : Fails rest f := by
    rw [hstop.log_eq]
    exact Fallible.fails_append.mpr (.inr hf)
  change Fails ([⟨.clock, start⟩] ++ rest) f
  exact Fallible.fails_append.mpr (.inr hrest)

/-- **What a run asks, and how it ends.** -/
theorem traces_conduct {result : Except Failure (List SuiteResult × Float)}
    (h : Fallible.Traces (conduct l r) log result) :
    (∃ api ui duration, Conducted l r log api ui duration ∧
      result = .ok (resultsOf api ++ resultsOf ui, duration)) ∨
    ∃ f, GivenUp l r log f ∧ result = .error f := by
  obtain ⟨start, _, rest, rfl, hstart, h₁⟩ := Fallible.traces_lift_bind.mp h
  obtain rfl := Program.traces_clock.mp hstart
  rcases Fallible.traces_bind.mp h₁ with ⟨f, hapi, rfl⟩ | ⟨_, l₁, _, rfl, hapi, h₂⟩
  · rcases traces_runApiSuites hapi with ⟨_, -, -, -, hr⟩ | ⟨_, before, suite, last, hstop, hr⟩
    · cases hr
    · obtain rfl := Except.error.inj hr
      exact .inr ⟨f, ⟨start, rest, before, suite, last, rfl, hstop⟩, rfl⟩
  rcases traces_runApiSuites hapi with ⟨api, hran, hsuites, rfl, hr⟩ | ⟨_, _, _, _, -, hr⟩
  rotate_left
  · cases hr
  obtain rfl := Except.ok.inj hr
  obtain ⟨_, l₂, _, rfl, hui, h₃⟩ := Fallible.traces_lift_bind.mp h₂
  obtain ⟨ui, huiRan, huiSuites, rfl, rfl⟩ := traces_runUiSuites hui
  obtain ⟨stop, _, _, rfl, hstop, rfl, rfl⟩ := Fallible.traces_lift_bind.mp h₃
  obtain rfl := Program.traces_clock.mp hstop
  refine .inl ⟨api, ui, elapsed start stop, ?_, rfl⟩
  exact {
    apiRan := hran
    apiSuites := hsuites
    uiRan := huiRan
    uiSuites := huiSuites
    log_eq := ⟨start, stop, by simp, rfl⟩ }

/-- What was conducted is written. -/
theorem execute_conducted {σ : Type} {machine : Machine σ} {environ : Config.Environ} {m : Moment} {s : σ}
    {suites : List SuiteResult} {duration : Float} (hload : load (machine.files s) environ r = .ok l)
    (hr : (machine.perform (conduct l r).run s).1 = .ok (suites, duration)) :
    execute machine environ m r s = machine.change (writeOutputs l.config m r.output suites duration)
      (machine.perform (conduct l r).run s).2 := by
  have hperform : machine.perform (conduct l r).run s =
      (.ok (suites, duration), (machine.perform (conduct l r).run s).2) := Prod.ext hr rfl
  rw [execute, hload]
  dsimp only
  rw [hperform]

/-- **A run loads all or does nothing.** A run that cannot begin leaves the machine as it is, whatever the
machine is, so nothing is asked and nothing is made. Else it has loaded a suite for each mention of a
file, files below a directory in order, and unless it is given up with an API suite it runs each of them
once, those for APIs first. What is written, and what the outcome has, are their results in this order. -/
theorem execute_settles {σ : Type} (machine : Machine σ) (environ : Config.Environ) (m : Moment)
    (r : Request) (s : σ) :
    (∀ path, Suite.Discovered (machine.files s) path (Suite.discover (machine.files s) path)) ∧
    ((∃ f, (∀ l, ¬LoadedFrom (machine.files s) environ r l) ∧
        execute machine environ m r s = (.error f, s)) ∨
      ∃ l, LoadedFrom (machine.files s) environ r l ∧
        ((∃ f, GivenUp l r ((conduct l r).run.logOf machine.answer s) f ∧ f.isHost = false) ∨
          ∃ api ui duration,
            Conducted l r ((conduct l r).run.logOf machine.answer s) api ui duration ∧
            (resultsOf api ++ resultsOf ui).map SuiteResult.source =
              (filesOf (machine.files s) r.apiPaths ++ filesOf (machine.files s) r.uiPaths).map some ∧
            execute machine environ m r s = machine.change
              (writeOutputs l.config m r.output (resultsOf api ++ resultsOf ui) duration)
              (machine.perform (conduct l r).run s).2 ∧
            ∀ o s', execute machine environ m r s = (.ok o, s') →
              o.suites = resultsOf api ++ resultsOf ui)) := by
  refine ⟨Suite.discover_discovered _, ?_⟩
  cases hload : load (machine.files s) environ r with
  | error f =>
    refine .inl ⟨f, fun l hl => ?_, by rw [execute, hload]⟩
    cases hload.symm.trans (load_eq_ok_iff.mpr hl)
  | ok l =>
    have hl := load_eq_ok_iff.mp hload
    refine .inr ⟨l, hl, ?_⟩
    obtain ⟨ht, -⟩ := Program.traces_run machine.answer (conduct l r).run s
    rcases traces_conduct ht with ⟨api, ui, duration, hc, hr⟩ | ⟨f, hg, -⟩
    · have hrun := execute_conducted (m := m) hload hr
      refine .inr ⟨api, ui, duration, hc, ?_, hrun, ?_⟩
      · rw [hc.sources, hl.sources.1, hl.sources.2, List.map_append]
      · intro o s' ho
        obtain ⟨ho, -⟩ := Prod.mk.inj (hrun.symm.trans ho)
        exact (writeOutputs_leaves (Prod.ext ho rfl)).results
    · exact .inl ⟨f, hg, hg.fails.2⟩

/-- A tree with a configuration, which allows no picture to differ from its baseline. -/
def configuredFiles : Tree :=
  -- The ratio is an integer, so that no float is computed where the configuration is read.
  let environment := "\"environment\": \x7b\"api_base_url\": \"http://api.test\"\x7d\n"
  let features := "\"features\": \x7b\"max_diff_pixel_ratio\": !!int \"0\"\x7d\n"
  { cwd := [], entries := [(["c.yaml"], .file (.ofText (environment ++ features)))] }

/-- A request that names no suite. -/
def nothingNamed : Request :=
  { configPath := "c.yaml", apiPaths := [], uiPaths := [], tags := [], outputDir := none }

/-- A run that is asked for no suite does not begin, though all that it names can be loaded. -/
theorem execute_nothingNamed :
    (∃ l, read configuredFiles [] nothingNamed = .ok l ∧ l.apiSuites = [] ∧ l.uiSuites = []) ∧
      (execute Host.Offline.machine [] ⟨2024, 1, 2, 3, 4, 5, 0⟩ nothingNamed
        ⟨configuredFiles, 0.0, []⟩).1 =
          .error (runFailure "At least one API or UI suite path is required.") := by
  refine ⟨?_, rfl⟩
  have hok : (Config.load configuredFiles (.ofText "c.yaml") []).isOk = true := by decide +kernel
  cases hconfig : Config.load configuredFiles (.ofText "c.yaml") [] with
  | error e =>
    rw [hconfig] at hok
    cases hok
  | ok config =>
    refine ⟨⟨config, [], []⟩, ?_, rfl, rfl⟩
    exact read_eq_ok_iff.mpr ⟨hconfig, .nil, .nil⟩

end SuiteEngine.Run
