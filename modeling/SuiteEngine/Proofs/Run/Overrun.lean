import SuiteEngine.Proofs.Run.UiSuite
import SuiteEngine.Proofs.Ui.Sequence

/-!
# Attempts and the time allowed

The steps of a case look at the clock after each action, the comparison with a stored picture before
the picture is taken and not after it. So an attempt that passes was in time up to its last step,
and then took as long as it took for its picture.

Headlines:
* `PageRun.passedInTime`: an attempt on its page that passes.
* **`attemptUiCase_inTime`**: an attempt that passes, on every machine that keeps time.
-/

namespace SuiteEngine.Run

open Host (Chronological DatedLog KeepsTime Log Program Question events events_eq_append
  events_eq_cons events_eq_nil look)
open Report (Attachment)
open Suite (SnapshotRequest UiCase UiSuite)
open Ui (Compared LooksOnce Setting StepsTaken asksPage)

variable {config : Config} {shots : Files.Path} {suite : UiSuite} {case : UiCase} {c : Setting}

/-! ## Attempts that pass -/

/-- The parts of an attempt on its page, and when they were. -/
structure DatedParts where
  setup : DatedLog
  viewport : DatedLog
  navigation : DatedLog
  steps : DatedLog
  snapshot : DatedLog
  picture : DatedLog
  teardown : DatedLog

namespace DatedParts

/-- The parts, whenever they were. -/
def parts (δ : DatedParts) : Parts :=
  ⟨events δ.setup, events δ.viewport, events δ.navigation, events δ.steps, events δ.snapshot,
    events δ.picture, events δ.teardown⟩

/-- The parts of the case up to its last step. -/
def upToSteps (δ : DatedParts) : DatedLog := δ.setup ++ (δ.viewport ++ (δ.navigation ++ δ.steps))

/-- All parts, one after the other. -/
def all (δ : DatedParts) : DatedLog :=
  δ.upToSteps ++ (δ.snapshot ++ (δ.picture ++ δ.teardown))

/-- What is asked in the parts of an attempt is asked part by part. -/
theorem of_events {log : DatedLog} {φ : Parts} (h : events log = φ.all) :
    ∃ δ : DatedParts, log = δ.all ∧ φ = δ.parts := by
  obtain ⟨l₁, l₂, l₃, l₄, l₅, l₆, l₇⟩ := φ
  obtain ⟨d, e, rfl, hd, he⟩ := events_eq_append h
  obtain ⟨d₁, d, rfl, rfl, hd⟩ := events_eq_append hd
  obtain ⟨d₂, d, rfl, rfl, hd⟩ := events_eq_append hd
  obtain ⟨d₃, d, rfl, rfl, hd⟩ := events_eq_append hd
  obtain ⟨d₄, d₅, rfl, rfl, rfl⟩ := events_eq_append hd
  obtain ⟨d₆, d₇, rfl, rfl, rfl⟩ := events_eq_append he
  exact ⟨⟨d₁, d₂, d₃, d₄, d₅, d₆, d₇⟩, by simp [all, upToSteps], rfl⟩

end DatedParts

/-- An attempt on its page that passes, and when its parts were. -/
structure PassedInTime (config : Config) (suite : UiSuite) (c : Setting) (case : UiCase)
    (deadline : Float) (δ : DatedParts) : Prop where
  page : PageRun config suite c case δ.parts none
  /-- If there are steps, all calls of the page up to the last step come back in time. -/
  steps : case.steps ≠ [] → ∀ e ∈ δ.upToSteps, asksPage e.event.question = true →
    ¬e.moment > deadline
  /-- The time is looked at once more if there is a picture to compare, before it is taken. -/
  picture : (case.snapshot = none ∨ config.features.snapshots = false) ∧ δ.snapshot = [] ∨
    ∃ s, case.snapshot = some s ∧ config.features.snapshots = true ∧
      LooksOnce c s deadline δ.snapshot (.ok ())
  /-- So a call of the page that comes back late is the one for this picture. -/
  late : case.steps ≠ [] → ∀ e ∈ δ.upToSteps ++ δ.snapshot, asksPage e.event.question = true →
    e.moment > deadline → ∃ s, case.snapshot = some s ∧ config.features.snapshots = true ∧
      e.event.question = .screenshot c.session (Ui.snapshotShot s)

/-- An attempt that fails on its page does not pass. -/
theorem Driven.failed {l₁ l₂ l₃ l₄ l₅ : Log} {o : AttemptOutcome}
    (h : Driven config suite c case l₁ l₂ l₃ l₄ l₅ (some o)) : o.passed = false := by
  cases h <;> rfl

/-- One that does not fail takes all its steps and compares its picture. -/
theorem Driven.passes {l₁ l₂ l₃ l₄ l₅ : Log} (h : Driven config suite c case l₁ l₂ l₃ l₄ l₅ none) :
    StepsTaken c 1 case.steps l₄ none ∧ ComparedIf config c case l₅ (.ok ()) := by
  cases h with
  | passed _ _ _ h₄ h₅ => exact ⟨h₄, h₅⟩

theorem ComparedIf.looksOnce {log : DatedLog} {deadline : Float} {r : Except Failure Unit}
    (h : ComparedIf config c case (events log) r) (hc : Chronological log)
    (hd : c.deadline = some deadline) :
    (case.snapshot = none ∨ config.features.snapshots = false) ∧ log = [] ∨
      ∃ s, case.snapshot = some s ∧ config.features.snapshots = true ∧
        LooksOnce c s deadline log r := by
  unfold ComparedIf at h
  cases hs : case.snapshot with
  | none =>
    rw [hs] at h
    exact .inl ⟨.inl rfl, events_eq_nil h.1⟩
  | some s =>
    rw [hs] at h
    cases hf : config.features.snapshots with
    | false =>
      rw [hf] at h
      exact .inl ⟨.inr rfl, events_eq_nil h.1⟩
    | true =>
      rw [hf] at h
      exact .inr ⟨s, rfl, rfl, h.looksOnce hc hd⟩

/-- The calls of the page in the steps come before the last look at the time allowed. -/
theorem PageRun.inTime {δ : DatedParts} {deadline : Float}
    (h : PageRun config suite c case δ.parts none) (hc : Chronological δ.all)
    (hd : c.deadline = some deadline) (hne : case.steps ≠ []) :
    ∀ e ∈ δ.upToSteps, asksPage e.event.question = true → ¬e.moment > deadline := by
  obtain ⟨earlier, now, stop, hlog, hn⟩ := h.driven.passes.1.inTime rfl hne hd
  have hcSteps : Chronological δ.steps := hc.left.right.right.right
  obtain ⟨d, last, hsteps, -, hlast⟩ := hcSteps.eq_append_look hlog
  have hall : δ.all = (δ.setup ++ (δ.viewport ++ (δ.navigation ++ d))) ++
      look now :: (last ++ (δ.snapshot ++ (δ.picture ++ δ.teardown))) := by
    simp [DatedParts.all, DatedParts.upToSteps, hsteps]
  rw [hall] at hc
  intro e he hpage
  have hparts : δ.upToSteps =
      (δ.setup ++ (δ.viewport ++ (δ.navigation ++ d))) ++ look now :: last := by
    simp [DatedParts.upToSteps, hsteps]
  rw [hparts] at he
  rcases List.mem_append.mp he with he | he
  · exact hc.before hn e he
  -- what is left are looks at the clock, which are no calls of the page
  rcases List.mem_cons.mp he with rfl | he
  · cases hpage
  · have hevent : e.event ∈ events last := Host.mem_events_of_mem he
    rw [hlast] at hevent
    rw [List.mem_singleton.mp hevent] at hpage
    cases hpage

/-- **An attempt on its page that passes is in time**, up to the picture that it compares. -/
theorem PageRun.passedInTime {δ : DatedParts} {deadline : Float}
    (h : PageRun config suite c case δ.parts none) (hc : Chronological δ.all)
    (hd : c.deadline = some deadline) : PassedInTime config suite c case deadline δ := by
  have hpicture : Chronological δ.snapshot := hc.right.left
  have hcompared := h.driven.passes.2.looksOnce hpicture hd
  refine ⟨h, h.inTime hc hd, hcompared, fun hne e he hpage hlate => ?_⟩
  rcases List.mem_append.mp he with he | he
  · exact absurd hlate (h.inTime hc hd hne e he hpage)
  rcases hcompared with ⟨_, hnone⟩ | ⟨s, hs, hf, hlooks⟩
  · rw [hnone] at he
    cases he
  refine ⟨s, hs, hf, ?_⟩
  generalize hl : δ.snapshot = log at he hlooks
  cases hlooks with
  | taken hn hq hrest =>
    rcases List.mem_cons.mp he with rfl | he
    · cases hpage
    rcases List.mem_cons.mp he with rfl | he
    · exact hq
    · cases hpage.symm.trans (hrest e he).2

variable {σ : Type} {answer : (q : Question) → σ → q.Answer × σ} {time : σ → Float}

/-- **An attempt that passes is in time up to its picture**, for every case and however long the
page takes: if there are steps, the deadline had not passed when the last call of the page for the
address and the steps came back. The time that the picture takes is not looked at: the comparison
fails for the time exactly if the deadline has passed before its picture is taken. -/
theorem attemptUiCase_inTime (hk : KeepsTime answer time) :
    (∀ (config : Config) (shots : Files.Path) (suite : UiSuite) (case : UiCase) (s : σ),
      ((attemptUiCase config shots suite case).run answer s).1.passed = true →
        ∃ filled start seconds session opened closed δ,
          readFor case = .ok filled ∧
          (ReadFrom case → filled.steps.length = case.steps.length) ∧
          secondsOf (caseTimeout config filled) = .ok seconds ∧
          (attemptUiCase config shots suite case).datedLogOf answer time s =
            look start :: ⟨⟨.openSession (sessionContext config), .ok session⟩, opened⟩ ::
              (DatedParts.all δ ++ [⟨⟨.closeSession session, ()⟩, closed⟩]) ∧
          PassedInTime config suite (settingFor config shots filled session (start + seconds))
            filled (start + seconds) δ) ∧
      ∀ (c : Setting) (snapshot : SnapshotRequest) (before : List Attachment) (s : σ)
        (deadline : Float), c.deadline = some deadline →
        Compared c snapshot (((c.verifySnapshot snapshot).run.run before).logOf answer s)
            (((c.verifySnapshot snapshot).run.run before).run answer s).1.1 ∧
          LooksOnce c snapshot deadline
            (((c.verifySnapshot snapshot).run.run before).datedLogOf answer time s)
            (((c.verifySnapshot snapshot).run.run before).run answer s).1.1 := by
  constructor
  · intro config shots suite case s hpassed
    have htry := uiTry_of_traces
      (Program.traces_run answer (attemptUiCase config shots suite case) s).1
    have hchron := Program.chronological_datedLogOf hk (attemptUiCase config shots suite case) s
    rw [← Program.events_datedLogOf] at htry
    generalize (attemptUiCase config shots suite case).datedLogOf answer time s = log
      at htry hchron ⊢
    generalize ((attemptUiCase config shots suite case).run answer s).1 = o at htry hpassed
    generalize hevents : events log = l at htry
    cases htry with
    | unread | untold | refused => cases hpassed
    | @opened filled start seconds session φ v _ hr hs hp =>
      cases v with
      | some o => cases hpassed.symm.trans hp.driven.failed
      | none =>
        obtain ⟨opening, rfl, hopening⟩ := hchron.eq_look_cons hevents
        obtain ⟨opened, open', rfl, hopen⟩ := events_eq_cons hopening
        obtain ⟨d, closing, rfl, hparts, hclosing⟩ := events_eq_append hopen
        obtain ⟨closed, last, rfl, hlast⟩ := events_eq_cons hclosing
        obtain rfl := events_eq_nil hlast
        obtain ⟨δ, rfl, rfl⟩ := DatedParts.of_events hparts
        have hδ : Chronological δ.all :=
          hchron.sublist (.cons _ (.cons _ (List.sublist_append_left _ _)))
        refine ⟨filled, start, seconds, session, opened, closed, δ, hr, ?_, hs, rfl,
          hp.passedInTime hδ rfl⟩
        intro hread
        obtain rfl := Except.ok.inj (hread.readFor_eq.symm.trans hr)
        exact List.length_map _
  · intro c snapshot before s deadline hd
    exact ⟨Ui.compared_of_traces
      (Program.traces_run answer ((c.verifySnapshot snapshot).run.run before) s).1,
      Ui.verifySnapshot_looksOnce hk c snapshot before s hd⟩

/-- Pictures take a second; everything else takes no time, and everything works. -/
def slowPictures : (q : Question) → Bool → q.Answer × Bool :=
  Host.lagging (fun | .screenshot _ _ => true | _ => false) (Host.pagesThat (.ok ()))

/-- A case of one click, which is allowed half a second and compares a picture. -/
def picturedCase : UiCase :=
  { name := "n", tags := [], url := none, viewport := none, dataInjection := []
    steps := [Ui.clickStart]
    snapshot := some { name := "home", fullPage := true, selector := none }
    skip := false, only := false, timeout := some (.int 500), retries := none
    document := .obj [("name", .str "n"), ("timeout", .int 500),
      ("steps", .list [.obj [("action", .str "click"), ("selector", .str "#start")]]),
      ("snapshot", .obj [("name", .str "home")])] }

/-- The attempt passes though its picture comes back half a second after the deadline. -/
theorem attemptUiCase_inTime_pictured :
    KeepsTime slowPictures Host.stopwatch ∧
      ((attemptUiCase (bareConfig "" "http://app.test") (.ofText "shots") greetingSuite
        picturedCase).run slowPictures false).1.passed = true ∧
      ∃ filled start seconds session opened closed δ,
        readFor picturedCase = .ok filled ∧
        secondsOf (caseTimeout (bareConfig "" "http://app.test") filled) = .ok seconds ∧
        (attemptUiCase (bareConfig "" "http://app.test") (.ofText "shots") greetingSuite
            picturedCase).datedLogOf slowPictures Host.stopwatch false =
          look start ::
            ⟨⟨.openSession (sessionContext (bareConfig "" "http://app.test")), .ok session⟩,
              opened⟩ :: (DatedParts.all δ ++ [⟨⟨.closeSession session, ()⟩, closed⟩]) ∧
        PassedInTime (bareConfig "" "http://app.test") greetingSuite
          (settingFor (bareConfig "" "http://app.test") (.ofText "shots") filled session
            (start + seconds)) filled (start + seconds) δ ∧
        ∃ e ∈ DatedParts.all δ, asksPage e.event.question = true ∧ e.moment > 0.5 := by
  have hk : KeepsTime slowPictures Host.stopwatch := Host.lagging_keepsTime _ _
  have hpassed : ((attemptUiCase (bareConfig "" "http://app.test") (.ofText "shots") greetingSuite
      picturedCase).run slowPictures false).1.passed = true := rfl
  obtain ⟨filled, start, seconds, session, opened, closed, δ, hr, -, hs, hlog, hp⟩ :=
    (attemptUiCase_inTime hk).1 _ _ _ _ _ hpassed
  refine ⟨hk, hpassed, filled, start, seconds, session, opened, closed, δ, hr, hs, hlog, hp, ?_⟩
  have hshot : ((attemptUiCase (bareConfig "" "http://app.test") (.ofText "shots") greetingSuite
      picturedCase).datedLogOf slowPictures Host.stopwatch false)[8]? =
        some ⟨⟨.screenshot 0 .fullPage, .ok (.bytes [])⟩, 1.0⟩ := rfl
  rw [hlog] at hshot
  have hmem := List.mem_of_getElem? hshot
  rcases List.mem_cons.mp hmem with he | hmem
  · cases he
  rcases List.mem_cons.mp hmem with he | hmem
  · cases he
  rcases List.mem_append.mp hmem with hmem | hmem
  · exact ⟨_, hmem, rfl, by decide⟩
  · cases List.mem_singleton.mp hmem

end SuiteEngine.Run
