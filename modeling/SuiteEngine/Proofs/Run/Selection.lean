import SuiteEngine.Proofs.Run.Execution

/-!
# The tests that a run reports

A test is meant if it has one of the tags asked for, and every test is where none is asked for. Of the
tests that are meant those marked to run alone are taken, or all of them where none is marked. A run
has one result for each test that is taken, in the order of declaration, and a test that is skipped
has its result as well.

Headlines:
* `Suite.select_eq_filter`: which tests are taken.
* `Suite.select_eq_nil_iff`: when there is none.
* `Suite.filterByTags_mono`: what more tags bring.
* `apiCases_reported`, `uiCases_reported`: the results of a suite.
* **`execute_reports`**: the tests that are taken, and the results of every suite and every run.
-/

namespace SuiteEngine.Suite

variable {α : Type} [Selectable α] {requested more : List String} {tests : List α} {test : α}

/-! ## Tests that are taken -/

/-- The test has one of the tags asked for, or none is asked for. -/
def Meant (requested : List String) (test : α) : Prop :=
  requested = [] ∨ ∃ tag ∈ Selectable.tags test, tag ∈ requested

/-- Some test that is meant is marked to run alone. -/
def SomeAlone (requested : List String) (tests : List α) : Prop :=
  ∃ test ∈ tests, Meant requested test ∧ Selectable.only test = true

/-- The test is meant, and is marked to run alone if some test that is meant is. -/
def Taken (requested : List String) (tests : List α) (test : α) : Prop :=
  Meant requested test ∧ (SomeAlone requested tests → Selectable.only test = true)

theorem matchesTags_iff : matchesTags requested test = true ↔ Meant requested test := by
  simp [matchesTags, Meant]

instance (requested : List String) (test : α) : Decidable (Meant requested test) :=
  decidable_of_iff _ matchesTags_iff

instance (requested : List String) (tests : List α) : Decidable (SomeAlone requested tests) :=
  inferInstanceAs (Decidable (∃ test ∈ tests, Meant requested test ∧ Selectable.only test = true))

instance (requested : List String) (tests : List α) (test : α) :
    Decidable (Taken requested tests test) :=
  inferInstanceAs (Decidable (_ ∧ (_ → _)))

theorem mem_filterByTags :
    test ∈ filterByTags requested tests ↔ test ∈ tests ∧ Meant requested test := by
  rw [filterByTags, List.mem_filter, matchesTags_iff]

theorem filter_only_eq_nil_iff :
    (filterByTags requested tests).filter Selectable.only = [] ↔ ¬SomeAlone requested tests := by
  rw [List.filter_eq_nil_iff]
  constructor
  · rintro h ⟨test, ht, hm, ho⟩
    exact h test (mem_filterByTags.mpr ⟨ht, hm⟩) ho
  · intro h test ht ho
    obtain ⟨ht, hm⟩ := mem_filterByTags.mp ht
    exact h ⟨test, ht, hm, ho⟩

/-- Where no test that is meant is marked, all of them are taken. -/
theorem select_of_none (h : ¬SomeAlone requested tests) :
    select requested tests = filterByTags requested tests := by
  rw [select, selectRunnable, filter_only_eq_nil_iff.mpr h]

/-- Where some are, these are. -/
theorem select_of_some (h : SomeAlone requested tests) :
    select requested tests = (filterByTags requested tests).filter Selectable.only := by
  rw [select, selectRunnable]
  split
  · rename_i hnil
    exact absurd h (filter_only_eq_nil_iff.mp hnil)
  · rfl

/-- **Which tests are taken**, in the order of their declaration and each as often as it is declared. -/
theorem select_eq_filter (requested : List String) (tests : List α) :
    select requested tests = tests.filter fun test => decide (Taken requested tests test) := by
  by_cases h : SomeAlone requested tests
  · rw [select_of_some h, filterByTags, List.filter_filter]
    refine List.filter_congr fun test _ => ?_
    rw [Bool.eq_iff_iff, Bool.and_eq_true, matchesTags_iff, decide_eq_true_iff]
    exact ⟨fun ⟨ho, hm⟩ => ⟨hm, fun _ => ho⟩, fun ⟨hm, ho⟩ => ⟨ho h, hm⟩⟩
  · rw [select_of_none h, filterByTags]
    refine List.filter_congr fun test _ => ?_
    rw [Bool.eq_iff_iff, matchesTags_iff, decide_eq_true_iff]
    exact ⟨fun hm => ⟨hm, fun hs => absurd hs h⟩, fun ht => ht.1⟩

/-- **No test is taken only where none is meant**: a test that is left out for its tags keeps no other
one from being taken. -/
theorem select_eq_nil_iff :
    select requested tests = [] ↔ ∀ test ∈ tests, ¬Meant requested test := by
  rw [select_eq_filter, List.filter_eq_nil_iff]
  simp only [decide_eq_true_iff]
  constructor
  · intro h test ht hm
    by_cases hs : SomeAlone requested tests
    · obtain ⟨other, hother, hmeant, honly⟩ := hs
      exact h other hother ⟨hmeant, fun _ => honly⟩
    · exact h test ht ⟨hm, fun hs' => absurd hs' hs⟩
  · exact fun h test ht htaken => h test ht htaken.1

/-- **More tags mean more tests**, where some are asked for already. -/
theorem filterByTags_mono (hne : requested ≠ []) (h : requested ⊆ more) :
    (filterByTags requested tests).Sublist (filterByTags more tests) := by
  refine List.monotone_filter_right tests fun test hm => ?_
  rw [matchesTags_iff] at hm ⊢
  rcases hm with hnil | ⟨tag, htag, hreq⟩
  · exact absurd hnil hne
  · exact .inr ⟨tag, htag, h hreq⟩

end SuiteEngine.Suite

namespace SuiteEngine.Run

open Host (Fallible Log Machine Program Question)
open Report (CaseResult SuiteResult)
open Suite (ApiCase ApiSuite UiCase UiSuite)

variable {config : Config} {shots : Files.Path} {turns : List Nat} {tags : List String} {log : Log}

/-! ## Results of cases -/

/-- The result is that of the case of this name and these tags; one that is skipped was not tried. -/
structure Reports (suite name : String) (tags : List String) (skip : Bool) (r : CaseResult) :
    Prop where
  suite : r.suite = suite
  name : r.name = name
  tags : r.tags = tags
  skipped : skip = true → r.attempts = 0 ∧ (r.status = .skipped ∨ r.status = .blocked)

/-- The result is that of the case of an API suite. -/
def ReportsApi (suite : ApiSuite) (case : ApiCase) (r : CaseResult) : Prop :=
  Reports suite.name case.name case.tags case.skip r

/-- The result is that of the case of a UI suite. -/
def ReportsUi (suite : UiSuite) (case : UiCase) (r : CaseResult) : Prop :=
  Reports suite.name case.name case.tags case.skip r

theorem reports_skipped (suite name : String) (tags : List String) (skip : Bool) :
    Reports suite name tags skip (.skipped suite name tags) :=
  ⟨rfl, rfl, rfl, fun _ => ⟨rfl, .inl rfl⟩⟩

theorem reports_blocked (suite name : String) (tags : List String) (skip : Bool) (reason : String) :
    Reports suite name tags skip (.blocked suite name tags reason) :=
  ⟨rfl, rfl, rfl, fun _ => ⟨rfl, .inr rfl⟩⟩

/-- A case that was tried has its result, however its attempts ended. -/
theorem reports_runAttempts {suite name : String} {retries : Nat}
    {attempt : Nat → Program AttemptOutcome} {r : CaseResult}
    (h : (runAttempts suite name tags retries attempt).Traces log r) :
    Reports suite name tags false r := by
  obtain ⟨_, _, _, _, -, -, rfl⟩ := traces_runAttempts.mp h
  exact ⟨rfl, rfl, rfl, fun hs => Bool.noConfusion hs⟩

theorem reportsApi_of_traces {suite : ApiSuite} {p : Preparation} {case : ApiCase} {r : CaseResult}
    (h : (runApiCase config suite p case).Traces log r) : ReportsApi suite case r := by
  unfold runApiCase at h
  split at h
  · obtain ⟨-, rfl⟩ := h
    exact reports_skipped _ _ _ _
  · rename_i hs
    rw [ReportsApi, (Bool.not_eq_true _).mp hs]
    exact reports_runAttempts h

theorem reportsUi_of_traces {suite : UiSuite} {case : UiCase} {r : CaseResult}
    (h : (runUiCase config shots suite case).Traces log r) : ReportsUi suite case r := by
  unfold runUiCase at h
  split at h
  · obtain ⟨-, rfl⟩ := h
    exact reports_skipped _ _ _ _
  · rename_i hs
    rw [ReportsUi, (Bool.not_eq_true _).mp hs]
    exact reports_runAttempts h

/-! ## Results of suites -/

/-- The cases of the result are those that are taken of an API suite, one for one. -/
def ReportsApiSuite (tags : List String) (suite : ApiSuite) (result : SuiteResult) : Prop :=
  List.Forall₂ (ReportsApi suite) (Suite.select tags suite.tests) result.cases

/-- The cases of the result are those that are taken of a UI suite, one for one. -/
def ReportsUiSuite (tags : List String) (suite : UiSuite) (result : SuiteResult) : Prop :=
  List.Forall₂ (ReportsUi suite) (Suite.select tags suite.tests) result.cases

/-- **Every case that is taken of an API suite is reported**, be it run, skipped or blocked. -/
theorem apiCases_reported {suite : ApiSuite} {result : SuiteResult}
    (h : Fallible.Traces (runApiSuite config turns tags suite) log (.ok result)) :
    ReportsApiSuite tags suite result := by
  rcases apiSuiteRun_or_raises h with ⟨φ, _, hr, hrun, -⟩ | ⟨_, hr, -⟩
  rotate_left
  · cases hr
  obtain rfl := Except.ok.inj hr
  cases ho : φ.preparation.obstacle with
  | some reason =>
    rw [ReportsApiSuite, (hrun.blocked reason ho).2, List.forall₂_map_right_iff]
    exact List.forall₂_same.mpr fun _ _ => reports_blocked _ _ _ _ _
  | none =>
    obtain ⟨runs, hruns, -, hcases⟩ := hrun.ready ho
    rw [ReportsApiSuite, hcases, List.forall₂_map_right_iff]
    exact hruns.imp fun _ _ hcase => reportsApi_of_traces hcase.traces

/-- **Every case that is taken of a UI suite is reported.** -/
theorem uiCases_reported {suite : UiSuite} {result : SuiteResult}
    (h : (runUiSuite config shots turns tags suite).Traces log result) :
    ReportsUiSuite tags suite result := by
  obtain ⟨_, _, _, -, -, h⟩ := Program.traces_bind.mp h
  obtain ⟨_, _, _, -, hcases, h⟩ := Program.traces_bind.mp h
  obtain ⟨_, _, _, -, -, -, rfl⟩ := Program.traces_bind.mp h
  obtain ⟨runs, hruns, -, rfl⟩ := runSideBySide_spec hcases
  rw [List.forall₂_map_left_iff] at hruns
  rw [ReportsUiSuite, List.forall₂_map_right_iff]
  exact hruns.imp fun _ _ => reportsUi_of_traces

/-- The results of suites that were run belong to the suites, one for one. -/
theorem forall₂_ran {α : Type} {R : α → SuiteResult → Prop} {runs : List (Ran α)}
    (h : ∀ x ∈ runs, R x.suite x.result) :
    List.Forall₂ R (runs.map Ran.suite) (resultsOf runs) := by
  rw [resultsOf, List.forall₂_map_left_iff, List.forall₂_map_right_iff]
  exact List.forall₂_same.mpr h

theorem Conducted.reported {l : Loaded} {r : Request} {api : List (Ran ApiSuite)}
    {ui : List (Ran UiSuite)} {duration : Float} (h : Conducted l r log api ui duration) :
    List.Forall₂ (ReportsApiSuite r.tags) l.apiSuites (resultsOf api) ∧
      List.Forall₂ (ReportsUiSuite r.tags) l.uiSuites (resultsOf ui) := by
  rw [← h.apiSuites, ← h.uiSuites]
  exact ⟨forall₂_ran fun x hx => apiCases_reported (h.apiRan x hx),
    forall₂_ran fun x hx => uiCases_reported (h.uiRan x hx)⟩

/-- **A run reports the tests that are taken.** A test is taken if it is meant and, where some test that
is meant is marked to run alone, is marked itself; declaration order and repetitions are kept. None is
taken only where none is meant, and more tags mean more tests. On every machine, the cases of a suite's
result are the tests that are taken of it, one for one, those that are skipped included, whatever
turns they took; and so it is for each suite of a whole run. -/
theorem execute_reports :
    (∀ (α : Type) [Suite.Selectable α] (requested : List String) (tests : List α),
      Suite.select requested tests = tests.filter
        (fun test => decide (Suite.Taken requested tests test)) ∧
      (Suite.select requested tests = [] ↔ ∀ test ∈ tests, ¬Suite.Meant requested test) ∧
      ∀ more, requested ≠ [] → requested ⊆ more →
        (Suite.filterByTags requested tests).Sublist (Suite.filterByTags more tests)) ∧
    (∀ (σ : Type) (answer : (q : Question) → σ → q.Answer × σ) (config : Config) (turns : List Nat)
      (tags : List String) (s : σ),
      (∀ suite result, ((runApiSuite config turns tags suite).run.run answer s).1 = .ok result →
        ReportsApiSuite tags suite result) ∧
      ∀ shots suite,
        ReportsUiSuite tags suite ((runUiSuite config shots turns tags suite).run answer s).1) ∧
    ∀ (σ : Type) (machine : Machine σ) (environ : Config.Environ) (m : Moment) (r : Request) (s s' : σ)
      (o : Outcome), execute machine environ m r s = (.ok o, s') →
        ∃ l api ui, LoadedFrom (machine.files s) environ r l ∧ o.suites = api ++ ui ∧
          List.Forall₂ (ReportsApiSuite r.tags) l.apiSuites api ∧
          List.Forall₂ (ReportsUiSuite r.tags) l.uiSuites ui := by
  refine ⟨fun α _ requested tests => ⟨Suite.select_eq_filter requested tests,
    Suite.select_eq_nil_iff, fun more hne h => Suite.filterByTags_mono hne h⟩, ?suites, ?whole⟩
  case suites =>
    intro σ answer config turns tags s
    constructor
    · intro suite result hr
      have ht := (Program.traces_run answer (runApiSuite config turns tags suite).run s).1
      rw [hr] at ht
      exact apiCases_reported ht
    · intro shots suite
      exact uiCases_reported (Program.traces_run answer (runUiSuite config shots turns tags suite) s).1
  case whole =>
    intro σ machine environ m r s s' o ho
    cases hload : load (machine.files s) environ r with
    | error f =>
      rw [execute, hload] at ho
      cases ho
    | ok l =>
      obtain ⟨ht, -⟩ := Program.traces_run machine.answer (conduct l r).run s
      rcases traces_conduct ht with ⟨api, ui, duration, hc, hr⟩ | ⟨f, -, hr⟩
      · rw [execute_conducted hload hr] at ho
        have hwritten := (Prod.mk.inj ho).1
        exact ⟨l, resultsOf api, resultsOf ui, load_eq_ok_iff.mp hload,
          (writeOutputs_leaves (Prod.ext hwritten rfl)).results, hc.reported⟩
      · have hperform : machine.perform (conduct l r).run s =
            (.error f, (machine.perform (conduct l r).run s).2) := Prod.ext hr rfl
        rw [execute, hload] at ho
        dsimp only at ho
        rw [hperform] at ho
        cases ho

end SuiteEngine.Run
