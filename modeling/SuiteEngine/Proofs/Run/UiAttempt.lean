import SuiteEngine.Proofs.Run.Attempts
import SuiteEngine.Proofs.Ui.Step
import SuiteEngine.Run.Ui

/-!
# An attempt on a page

On its page an attempt goes through five parts, each only if none before it failed: the setup
action, the window, the address, the steps and the picture. Then it records what the page shows if
one of them failed, and performs the teardown action in any case. `Driven` says which of the five
parts there are and what the attempt comes to, `PageRun` what is asked as long as the page is open.

Headlines:
* `driven_of_traces`: the parts of a case.
* **`pageRun_of_traces`**: an attempt from its open page on. What it comes to is settled by the
  parts of the case, whatever becomes of the failure picture and of the teardown action.
-/

namespace SuiteEngine.Run

open Host (Event Log PageCall Program Question Trial)
open Report (Attachment)
open Suite (UiAction UiCase UiSuite)
open Ui (Acted Compared Concerns Setting StaysOn StepsTaken)

variable {config : Config} {suite : UiSuite} {c : Setting} {case : UiCase}
  {before after : List Attachment} {log : Log}

/-! ## Trials with a verdict -/

/-- The part does not fail but by its verdict: it passes, or it fails and comes to an outcome. -/
def Judged (t : Trial Verdict) (passed : Log → Prop) (failed : Log → AttemptOutcome → Prop) :
    Prop :=
  ∀ {before after : List Attachment} {log : Log} {r : Except Failure Verdict},
    Trial.Traces t before log r after →
      (passed log ∧ r = .ok none) ∨ ∃ o, failed log o ∧ r = .ok (some o)

theorem traces_verdictOf {report : Failure → AttemptOutcome} {t : Trial Unit}
    {r : Except Failure Verdict} (h : Trial.Traces (verdictOf report t) before log r after) :
    (Trial.Traces t before log (.ok ()) after ∧ r = .ok none) ∨
      ∃ f, Trial.Traces t before log (.error f) after ∧ r = .ok (some (report f)) := by
  obtain ⟨ended, l₁, l₂, between, rfl, ht, h₂⟩ := Trial.traces_outcome_bind.mp h
  cases ended with
  | ok _ =>
    obtain ⟨rfl, rfl, rfl⟩ := Trial.traces_pure.mp h₂
    exact .inl ⟨by simpa using ht, rfl⟩
  | error f =>
    obtain ⟨rfl, rfl, rfl⟩ := Trial.traces_pure.mp h₂
    exact .inr ⟨f, by simpa using ht, rfl⟩

/-- **The next part is there only if the first one passed.** -/
theorem unlessFailed_of_traces {first next : Trial Verdict} {passed : Log → Prop}
    {failed : Log → AttemptOutcome → Prop} {r : Except Failure Verdict}
    (hf : Judged first passed failed)
    (h : Trial.Traces (unlessFailed first next) before log r after) :
    (∃ o, failed log o ∧ r = .ok (some o)) ∨
      ∃ l₁ l₂ between, log = l₁ ++ l₂ ∧ passed l₁ ∧ Trial.Traces next between l₂ r after := by
  rcases Trial.traces_bind.mp h with ⟨_, h₁, _⟩ | ⟨v, l₁, l₂, between, rfl, h₁, h₂⟩
  · rcases hf h₁ with ⟨_, hr⟩ | ⟨_, _, hr⟩
    · cases hr
    · cases hr
  rcases hf h₁ with ⟨hp, hr⟩ | ⟨o, ho, hr⟩
  · obtain rfl := Except.ok.inj hr
    exact .inr ⟨l₁, l₂, between, rfl, hp, h₂⟩
  · obtain rfl := Except.ok.inj hr
    obtain ⟨rfl, rfl, _⟩ := Trial.traces_pure.mp h₂
    exact .inl ⟨o, by simpa using ho, rfl⟩

/-! ## The parts of a case -/

/-- What an action asks if it is declared. -/
def ActedIf (c : Setting) (action : Option UiAction) (log : Log) (r : Except Failure Unit) : Prop :=
  match action with
  | none => log = [] ∧ r = .ok ()
  | some a => Acted c a log r

/-- What a call on the page asks if it is declared. -/
def CalledIf (c : Setting) (call : Option PageCall) (log : Log) (r : Except Failure Unit) : Prop :=
  match call with
  | none => log = [] ∧ r = .ok ()
  | some call => log = [⟨.onPage c.session call, r⟩]

/-- How the window is given its size. -/
def viewportCall (case : UiCase) : Option PageCall :=
  case.viewport.map fun v => .setViewport v.width v.height

/-- How the address is gone to. -/
def navigationCall (suite : UiSuite) (case : UiCase) : Option PageCall :=
  (case.url.filter (· != "")).map fun url => .goto (suite.basePath ++ url) []

/-- What the comparison asks if it is declared and pictures are compared at all. -/
def ComparedIf (config : Config) (c : Setting) (case : UiCase) (log : Log)
    (r : Except Failure Unit) : Prop :=
  match case.snapshot with
  | none => log = [] ∧ r = .ok ()
  | some s => if config.features.snapshots then Compared c s log r else log = [] ∧ r = .ok ()

/-- What the setup action, the window, the address, the steps and the picture of a case ask, and
what they come to. The parts after one that failed ask nothing. -/
inductive Driven (config : Config) (suite : UiSuite) (c : Setting) (case : UiCase) :
    Log → Log → Log → Log → Log → Verdict → Prop
  | setupFailed {l₁ : Log} {f : Failure} (h₁ : ActedIf c suite.setup l₁ (.error f)) :
      Driven config suite c case l₁ [] [] [] []
        (some (.blocked ("Setup action failed: " ++ f.describe)))
  | viewportFailed {l₁ l₂ : Log} {f : Failure} (h₁ : ActedIf c suite.setup l₁ (.ok ()))
      (h₂ : CalledIf c (viewportCall case) l₂ (.error f)) :
      Driven config suite c case l₁ l₂ [] [] [] (some (.failure f [] "Navigation"))
  | navigationFailed {l₁ l₂ l₃ : Log} {f : Failure} (h₁ : ActedIf c suite.setup l₁ (.ok ()))
      (h₂ : CalledIf c (viewportCall case) l₂ (.ok ()))
      (h₃ : CalledIf c (navigationCall suite case) l₃ (.error f)) :
      Driven config suite c case l₁ l₂ l₃ [] [] (some (.failure f [] "Navigation"))
  | stepFailed {l₁ l₂ l₃ l₄ : Log} {f : Failure} {description : String}
      (h₁ : ActedIf c suite.setup l₁ (.ok ())) (h₂ : CalledIf c (viewportCall case) l₂ (.ok ()))
      (h₃ : CalledIf c (navigationCall suite case) l₃ (.ok ()))
      (h₄ : StepsTaken c 1 case.steps l₄ (some (f, description))) :
      Driven config suite c case l₁ l₂ l₃ l₄ [] (some (.failure f [] description))
  | snapshotFailed {l₁ l₂ l₃ l₄ l₅ : Log} {s : Suite.SnapshotRequest} {f : Failure}
      (h₁ : ActedIf c suite.setup l₁ (.ok ())) (h₂ : CalledIf c (viewportCall case) l₂ (.ok ()))
      (h₃ : CalledIf c (navigationCall suite case) l₃ (.ok ()))
      (h₄ : StepsTaken c 1 case.steps l₄ none) (hs : case.snapshot = some s)
      (h₅ : ComparedIf config c case l₅ (.error f)) :
      Driven config suite c case l₁ l₂ l₃ l₄ l₅ (some (.failure f [] ("Snapshot " ++ s.name)))
  | passed {l₁ l₂ l₃ l₄ l₅ : Log} (h₁ : ActedIf c suite.setup l₁ (.ok ()))
      (h₂ : CalledIf c (viewportCall case) l₂ (.ok ()))
      (h₃ : CalledIf c (navigationCall suite case) l₃ (.ok ()))
      (h₄ : StepsTaken c 1 case.steps l₄ none) (h₅ : ComparedIf config c case l₅ (.ok ())) :
      Driven config suite c case l₁ l₂ l₃ l₄ l₅ none

theorem setUpPage_judged (setup : Option UiAction) : Judged (setUpPage c setup)
    (fun l => ActedIf c setup l (.ok ()))
    (fun l o => ∃ f, ActedIf c setup l (.error f) ∧
      o = .blocked ("Setup action failed: " ++ f.describe)) := by
  intro before after log r h
  cases setup with
  | none =>
    obtain ⟨rfl, rfl, _⟩ := Trial.traces_pure.mp h
    exact .inl ⟨⟨rfl, rfl⟩, rfl⟩
  | some action =>
    rcases traces_verdictOf h with ⟨ht, rfl⟩ | ⟨f, ht, rfl⟩
    · exact .inl ⟨Ui.acted_of_traces ht, rfl⟩
    · exact .inr ⟨_, ⟨f, Ui.acted_of_traces ht, rfl⟩, rfl⟩

/-- Does something on the page if it is declared. -/
def callIf (c : Setting) (call : Option PageCall) : Trial Unit :=
  match call with
  | none => return ()
  | some call => c.act call

theorem calledIf_of_traces {call : Option PageCall} {r : Except Failure Unit}
    (h : Trial.Traces (callIf c call) before log r after) : CalledIf c call log r := by
  cases call with
  | none =>
    obtain ⟨rfl, rfl, _⟩ := Trial.traces_pure.mp h
    exact ⟨rfl, rfl⟩
  | some call => exact (Ui.traces_act.mp h).1

theorem openAddress_eq (c : Setting) (suite : UiSuite) (case : UiCase) :
    openAddress c suite.basePath case =
      callIf c (viewportCall case) >>= fun _ => callIf c (navigationCall suite case) := by
  unfold openAddress viewportCall navigationCall
  cases case.viewport <;> cases case.url.filter (· != "") <;> rfl

/-- The window comes before the address, which is not gone to if the window failed. -/
theorem openAddress_of_traces {r : Except Failure Unit}
    (h : Trial.Traces (openAddress c suite.basePath case) before log r after) :
    (∃ f, CalledIf c (viewportCall case) log (.error f) ∧ r = .error f) ∨
      ∃ l₁ l₂, log = l₁ ++ l₂ ∧ CalledIf c (viewportCall case) l₁ (.ok ()) ∧
        CalledIf c (navigationCall suite case) l₂ r := by
  rw [openAddress_eq] at h
  rcases Trial.traces_bind.mp h with ⟨f, hv, rfl⟩ | ⟨_, l₁, l₂, _, rfl, hv, hn⟩
  · exact .inl ⟨f, calledIf_of_traces hv, rfl⟩
  · exact .inr ⟨l₁, l₂, rfl, calledIf_of_traces hv, calledIf_of_traces hn⟩

theorem openAddress_judged :
    Judged (verdictOf (.failure · [] "Navigation") (openAddress c suite.basePath case))
      (fun l => ∃ l₂ l₃, l = l₂ ++ l₃ ∧ CalledIf c (viewportCall case) l₂ (.ok ()) ∧
        CalledIf c (navigationCall suite case) l₃ (.ok ()))
      (fun l o => ∃ f, o = .failure f [] "Navigation" ∧
        (CalledIf c (viewportCall case) l (.error f) ∨
          ∃ l₂ l₃, l = l₂ ++ l₃ ∧ CalledIf c (viewportCall case) l₂ (.ok ()) ∧
            CalledIf c (navigationCall suite case) l₃ (.error f))) := by
  intro before after log r h
  rcases traces_verdictOf h with ⟨ht, rfl⟩ | ⟨f, ht, rfl⟩
  · rcases openAddress_of_traces ht with ⟨_, _, hr⟩ | hp
    · cases hr
    · exact .inl ⟨hp, rfl⟩
  · rcases openAddress_of_traces ht with ⟨g, hv, hr⟩ | hn
    · obtain rfl := Except.error.inj hr
      exact .inr ⟨_, ⟨f, rfl, .inl hv⟩, rfl⟩
    · exact .inr ⟨_, ⟨f, rfl, .inr hn⟩, rfl⟩

theorem takeSteps_judged (steps : List UiAction) : Judged (takeSteps c steps)
    (fun l => StepsTaken c 1 steps l none)
    (fun l o => ∃ f description, StepsTaken c 1 steps l (some (f, description)) ∧
      o = .failure f [] description) := by
  intro before after log r h
  rcases Trial.traces_bind.mp h with ⟨_, hs, _⟩ | ⟨results, l₁, l₂, _, rfl, hs, h₂⟩
  · obtain ⟨_, hr, _⟩ := Ui.stepsTaken_of_traces hs
    cases hr
  obtain ⟨_, hr, ht⟩ := Ui.stepsTaken_of_traces hs
  obtain rfl := Except.ok.inj hr
  obtain ⟨rfl, rfl, _⟩ := Trial.traces_pure.mp h₂
  have hfind : (results.findSome? fun r => r.failure.map fun f =>
      AttemptOutcome.failure f [] r.description) =
      (Ui.firstFailure results).map fun e => .failure e.1 [] e.2 := by
    rw [Ui.firstFailure, List.map_findSome?]
    congr 1
    funext r
    cases hf : r.failure <;> simp [hf]
  rw [hfind, List.append_nil]
  cases he : Ui.firstFailure results with
  | none => exact .inl ⟨he ▸ ht, rfl⟩
  | some e => exact .inr ⟨_, ⟨e.1, e.2, he ▸ ht, rfl⟩, rfl⟩

theorem compareSnapshot_judged : Judged (compareSnapshot config c case)
    (fun l => ComparedIf config c case l (.ok ()))
    (fun l o => ∃ s f, case.snapshot = some s ∧ ComparedIf config c case l (.error f) ∧
      o = .failure f [] ("Snapshot " ++ s.name)) := by
  intro before after log r h
  unfold compareSnapshot at h
  unfold ComparedIf
  cases hs : case.snapshot with
  | none =>
    rw [hs] at h
    obtain ⟨rfl, rfl, _⟩ := Trial.traces_pure.mp h
    exact .inl ⟨⟨rfl, rfl⟩, rfl⟩
  | some s =>
    rw [hs] at h
    cases hf : config.features.snapshots with
    | false =>
      rw [hf] at h
      obtain ⟨rfl, rfl, _⟩ := Trial.traces_pure.mp h
      exact .inl ⟨⟨rfl, rfl⟩, rfl⟩
    | true =>
      rw [hf] at h
      rcases traces_verdictOf h with ⟨ht, rfl⟩ | ⟨f, ht, rfl⟩
      · exact .inl ⟨Ui.compared_of_traces ht, rfl⟩
      · exact .inr ⟨_, ⟨s, f, rfl, Ui.compared_of_traces ht, rfl⟩, rfl⟩

/-- **A case on its page is its parts, up to the first that fails.** -/
theorem driven_of_traces {r : Except Failure Verdict}
    (h : Trial.Traces (driveCase config suite c case) before log r after) :
    ∃ l₁ l₂ l₃ l₄ l₅ v, log = l₁ ++ (l₂ ++ (l₃ ++ (l₄ ++ l₅))) ∧ r = .ok v ∧
      Driven config suite c case l₁ l₂ l₃ l₄ l₅ v := by
  rcases unlessFailed_of_traces (setUpPage_judged suite.setup) h with
    ⟨_, ⟨f, h₁, rfl⟩, rfl⟩ | ⟨l₁, l, _, rfl, h₁, ha⟩
  · exact ⟨log, [], [], [], [], _, by simp, rfl, .setupFailed h₁⟩
  rcases unlessFailed_of_traces openAddress_judged ha with
    ⟨_, ⟨f, rfl, h₂ | ⟨l₂, l₃, rfl, h₂, h₃⟩⟩, rfl⟩ | ⟨_, l, _, rfl, ⟨l₂, l₃, rfl, h₂, h₃⟩, hb⟩
  · exact ⟨l₁, l, [], [], [], _, by simp, rfl, .viewportFailed h₁ h₂⟩
  · exact ⟨l₁, l₂, l₃, [], [], _, by simp, rfl, .navigationFailed h₁ h₂ h₃⟩
  rcases unlessFailed_of_traces (takeSteps_judged case.steps) hb with
    ⟨_, ⟨f, description, h₄, rfl⟩, rfl⟩ | ⟨l₄, l₅, _, rfl, h₄, hc⟩
  · exact ⟨l₁, l₂, l₃, l, [], _, by simp, rfl, .stepFailed h₁ h₂ h₃ h₄⟩
  rcases compareSnapshot_judged hc with ⟨h₅, rfl⟩ | ⟨_, ⟨s, f, hs, h₅, rfl⟩, rfl⟩
  · exact ⟨l₁, l₂, l₃, l₄, l₅, _, by simp, rfl, .passed h₁ h₂ h₃ h₄ h₅⟩
  · exact ⟨l₁, l₂, l₃, l₄, l₅, _, by simp, rfl, .snapshotFailed h₁ h₂ h₃ h₄ hs h₅⟩

/-! ## What comes after them -/

/-- What recording the page asks if it is to be recorded. -/
inductive Pictured (c : Setting) : Bool → Log → Prop
  | unasked : Pictured c false []
  | taken {picture : Files.Content} :
      Pictured c true [⟨.screenshot c.session .fullPage, .ok picture⟩]
  | missed {f : Failure} : Pictured c true [⟨.screenshot c.session .fullPage, .error f⟩,
      ⟨.warn ("Could not capture failure screenshot: " ++ f.message), ()⟩]

/-- What the teardown action asks if there is one; its failure is only noted. -/
inductive TornDownPage (c : Setting) (suite : UiSuite) : Log → Prop
  | undeclared (hd : suite.teardown = none) : TornDownPage c suite []
  | done {action : UiAction} {l : Log} (hd : suite.teardown = some action)
      (ha : Acted c action l (.ok ())) : TornDownPage c suite l
  | failed {action : UiAction} {l : Log} {f : Failure} (hd : suite.teardown = some action)
      (ha : Acted c action l (.error f)) :
      TornDownPage c suite
        (l ++ [⟨.warn ("Teardown of UI suite " ++ suite.name ++ " failed: " ++ f.message), ()⟩])

theorem noting_of_traces {lead : String} {t : Trial Unit} {r : Except Failure Unit}
    (h : Trial.Traces (noting lead t) before log r after) :
    r = .ok () ∧ (Trial.Traces t before log (.ok ()) after ∨
      ∃ f l, log = l ++ [⟨.warn (lead ++ f.message), ()⟩] ∧
        Trial.Traces t before l (.error f) after) := by
  obtain ⟨ended, l₁, l₂, between, rfl, ht, h₂⟩ := Trial.traces_outcome_bind.mp h
  cases ended with
  | ok _ =>
    obtain ⟨rfl, rfl, rfl⟩ := Trial.traces_pure.mp h₂
    exact ⟨rfl, .inl (by simpa using ht)⟩
  | error f =>
    obtain ⟨_, hw, rfl, rfl⟩ := Trial.traces_ofProgram.mp h₂
    obtain rfl := Program.traces_warn.mp hw
    exact ⟨rfl, .inr ⟨f, l₁, rfl, ht⟩⟩

theorem recordFailure_of_traces {r : Except Failure Unit}
    (h : Trial.Traces (recordFailure c) before log r after) : r = .ok () ∧ Pictured c true log := by
  obtain ⟨rfl, ht | ⟨f, l, rfl, ht⟩⟩ := noting_of_traces h
  · rcases Trial.traces_bind.mp ht with ⟨_, _, hr⟩ | ⟨picture, l₁, l₂, _, rfl, hs, ha⟩
    · cases hr
    obtain ⟨rfl, rfl⟩ := Ui.traces_shoot.mp hs
    obtain ⟨rfl, _⟩ := Trial.traces_attach.mp ha
    exact ⟨rfl, .taken⟩
  · rcases Trial.traces_bind.mp ht with ⟨_, hs, hr⟩ | ⟨picture, l₁, l₂, _, rfl, hs, ha⟩
    · obtain rfl := Except.error.inj hr
      obtain ⟨rfl, _⟩ := Ui.traces_shoot.mp hs
      exact ⟨rfl, .missed⟩
    · obtain ⟨_, hr, _⟩ := Trial.traces_attach.mp ha
      cases hr

theorem tearDownPage_of_traces {r : Except Failure Unit}
    (h : Trial.Traces (tearDownPage c suite) before log r after) :
    r = .ok () ∧ TornDownPage c suite log := by
  unfold tearDownPage at h
  cases hd : suite.teardown with
  | none =>
    rw [hd] at h
    obtain ⟨rfl, rfl, _⟩ := Trial.traces_pure.mp h
    exact ⟨rfl, .undeclared hd⟩
  | some action =>
    rw [hd] at h
    obtain ⟨rfl, ht | ⟨f, l, rfl, ht⟩⟩ := noting_of_traces h
    · exact ⟨rfl, .done hd (Ui.acted_of_traces ht)⟩
    · exact ⟨rfl, .failed hd (Ui.acted_of_traces ht)⟩

/-! ## From the open page on -/

/-- What an attempt asks as long as its page is open, part by part. -/
structure Parts where
  setup : Log
  viewport : Log
  navigation : Log
  steps : Log
  snapshot : Log
  picture : Log
  teardown : Log

/-- What the parts of the case ask. -/
def Parts.driven (φ : Parts) : Log :=
  φ.setup ++ (φ.viewport ++ (φ.navigation ++ (φ.steps ++ φ.snapshot)))

/-- What all parts ask, one after the other. -/
def Parts.all (φ : Parts) : Log := φ.driven ++ (φ.picture ++ φ.teardown)

/-- An attempt on an open page: its parts and its verdict. -/
structure PageRun (config : Config) (suite : UiSuite) (c : Setting) (case : UiCase) (φ : Parts)
    (v : Verdict) : Prop where
  driven : Driven config suite c case φ.setup φ.viewport φ.navigation φ.steps φ.snapshot v
  drives : ∃ recorded, Trial.Traces (driveCase config suite c case) [] φ.driven (.ok v) recorded
  picture : Pictured c (v.isSome && config.features.screenshots) φ.picture
  teardown : TornDownPage c suite φ.teardown

/-- **What becomes of the failure picture and of the teardown action does not matter.** -/
theorem PageRun.verdict_eq {φ φ' : Parts} {v v' : Verdict}
    (h : PageRun config suite c case φ v) (h' : PageRun config suite c case φ' v')
    (hd : φ.driven = φ'.driven) : v = v' := by
  obtain ⟨_, ht⟩ := h.drives
  obtain ⟨_, ht'⟩ := h'.drives
  rw [hd] at ht
  exact Except.ok.inj (Prod.mk.inj (ht.result_eq ht')).1

/-- A case on a page that is open. -/
def onPage (config : Config) (suite : UiSuite) (c : Setting) (case : UiCase) : Trial Verdict := do
  let verdict ← driveCase config suite c case
  if verdict.isSome && config.features.screenshots then recordFailure c
  tearDownPage c suite
  return verdict

/-- **On its page, an attempt is its parts in their order.** -/
theorem pageRun_of_traces {r : Except Failure Verdict}
    (h : Trial.Traces (onPage config suite c case) [] log r after) :
    ∃ φ v, log = Parts.all φ ∧ r = .ok v ∧ PageRun config suite c case φ v := by
  rcases Trial.traces_bind.mp h with ⟨_, hd, _⟩ | ⟨v, l, l₀, _, rfl, hd, h₂⟩
  · obtain ⟨_, _, _, _, _, _, _, hr, _⟩ := driven_of_traces hd
    cases hr
  obtain ⟨l₁, l₂, l₃, l₄, l₅, _, rfl, hr, hdriven⟩ := driven_of_traces hd
  obtain rfl := Except.ok.inj hr
  have hend : ∀ {b : List Attachment} {m : Log},
      Trial.Traces (tearDownPage c suite >>= fun _ => return v) b m r after →
        r = .ok v ∧ TornDownPage c suite m := by
    intro b m hm
    rcases Trial.traces_bind.mp hm with ⟨_, ht, _⟩ | ⟨_, m₁, m₂, _, rfl, ht, hp⟩
    · cases (tearDownPage_of_traces ht).1
    obtain ⟨rfl, rfl, _⟩ := Trial.traces_pure.mp hp
    rw [List.append_nil]
    exact ⟨rfl, (tearDownPage_of_traces ht).2⟩
  dsimp only at h₂
  split at h₂
  · rename_i hb
    rcases Trial.traces_bind.mp h₂ with ⟨_, hp, _⟩ | ⟨_, l₆, l₇, _, rfl, hp, h₃⟩
    · cases (recordFailure_of_traces hp).1
    obtain ⟨rfl, ht⟩ := hend h₃
    refine ⟨⟨l₁, l₂, l₃, l₄, l₅, l₆, l₇⟩, v, rfl, rfl, hdriven, ⟨_, hd⟩, ?_, ht⟩
    rw [hb]
    exact (recordFailure_of_traces hp).2
  · rename_i hb
    obtain ⟨rfl, ht⟩ := hend h₂
    refine ⟨⟨l₁, l₂, l₃, l₄, l₅, [], l₀⟩, v, rfl, rfl, hdriven, ⟨_, hd⟩, ?_, ht⟩
    rw [Bool.not_eq_true] at hb
    rw [hb]
    exact .unasked

theorem ActedIf.staysOn {action : Option UiAction} {r : Except Failure Unit}
    (h : ActedIf c action log r) : StaysOn c.session log := by
  cases action with
  | none => simp [h.1]
  | some a => exact Acted.staysOn h

theorem CalledIf.staysOn {call : Option PageCall} {r : Except Failure Unit}
    (h : CalledIf c call log r) : StaysOn c.session log := by
  cases call with
  | none => simp [h.1]
  | some call =>
    obtain rfl := h
    simp [Concerns]

theorem ComparedIf.staysOn {r : Except Failure Unit} (h : ComparedIf config c case log r) :
    StaysOn c.session log := by
  unfold ComparedIf at h
  split at h
  · simp [h.1]
  · split at h
    · exact h.staysOn
    · simp [h.1]

theorem Driven.staysOn {l₁ l₂ l₃ l₄ l₅ : Log} {v : Verdict}
    (h : Driven config suite c case l₁ l₂ l₃ l₄ l₅ v) :
    StaysOn c.session (l₁ ++ (l₂ ++ (l₃ ++ (l₄ ++ l₅)))) := by
  simp only [Ui.staysOn_append]
  cases h with
  | setupFailed h₁ => simp [h₁.staysOn]
  | viewportFailed h₁ h₂ => simp [h₁.staysOn, h₂.staysOn]
  | navigationFailed h₁ h₂ h₃ => simp [h₁.staysOn, h₂.staysOn, h₃.staysOn]
  | stepFailed h₁ h₂ h₃ h₄ => simp [h₁.staysOn, h₂.staysOn, h₃.staysOn, h₄.staysOn]
  | snapshotFailed h₁ h₂ h₃ h₄ _ h₅ =>
    exact ⟨h₁.staysOn, h₂.staysOn, h₃.staysOn, h₄.staysOn, h₅.staysOn⟩
  | passed h₁ h₂ h₃ h₄ h₅ =>
    exact ⟨h₁.staysOn, h₂.staysOn, h₃.staysOn, h₄.staysOn, h₅.staysOn⟩

theorem Pictured.staysOn {asked : Bool} (h : Pictured c asked log) : StaysOn c.session log := by
  cases h <;> simp [Concerns]

theorem TornDownPage.staysOn (h : TornDownPage c suite log) : StaysOn c.session log := by
  cases h with
  | undeclared => exact Ui.staysOn_nil
  | done _ ha => exact ha.staysOn
  | failed _ ha => simp [Concerns, ha.staysOn]

/-- An attempt touches its own page only, and leaves opening and closing it to others. -/
theorem PageRun.staysOn {φ : Parts} {v : Verdict} (h : PageRun config suite c case φ v) :
    StaysOn c.session φ.all :=
  Ui.staysOn_append.mpr
    ⟨h.driven.staysOn, Ui.staysOn_append.mpr ⟨h.picture.staysOn, h.teardown.staysOn⟩⟩

end SuiteEngine.Run
