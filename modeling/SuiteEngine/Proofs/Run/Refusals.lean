import SuiteEngine.Browser.Session
import SuiteEngine.Proofs.Run.UiSuite

/-!
# Refusals of the browser

A page answers for the browser. Of a refusal it makes a failure of the host, which says what was being
done; a failure to do something in time stays one. So it is for every picture and for most calls. A
wait, the size of the window and the expectations are the calls of which nothing is said: their refusals
come through as they are, and a case that fails for one of them is not counted as out of time.

Headlines:
* `conveys_ofCall`, `conveys_ofShot`: what a page makes of a reply.
* `honours_ofCall_iff`: the calls for which it does what is promised of a page.
* `Ui.StepsTaken.eq_of_turned`, `Driven.eq_of_turned`: a failure of the page in a case is the failure of
  the case.
* **`attemptUiCase_refusals`**: what a refusal counts as in an attempt.
-/

namespace SuiteEngine.Browser

open Host (PageCall Shot)

variable {c : Command}

/-! ## What a page conveys -/

/-- Whether a refusal of the call is said to have happened in an activity. -/
def isTold : PageCall → Bool
  | .waitForTimeout _ | .setViewport _ _ => false
  | .expectVisible _ _ | .expectHidden _ _ | .expectText _ _ _ | .expectValue _ _ _ => false
  | .expectUrl _ _ | .expectTitle _ _ | .expectCount _ _ _ => false
  | _ => true

/-- What is promised of a page: what the browser does not do in time is out of time, and what it refuses
for another reason is a failed action. -/
def Honours (c : Command) : Prop :=
  (∀ message, (c.failure (.late message)).kind = .timeout) ∧
    ∀ message, (c.failure (.refused message)).kind = .action

/-- How a page conveys the replies to a command. -/
structure Conveys (c : Command) (told : Bool) : Prop where
  /-- A result is passed on. -/
  result : ∀ {α : Type} (a : α), c.settle (.ok a) = .ok a
  /-- A refusal becomes the failure of the command. -/
  error : ∀ {α : Type} (r : Refusal), (c.settle (.error r) : Except Failure α) = .error (c.failure r)
  /-- Whatever else goes wrong is passed on, an expectation that does not hold among it. -/
  other : ∀ f : Failure, c.failure (.other f) = f
  named : told = true → ∃ activity : String,
    (∀ message, c.failure (.late message) = ⟨.timeout, activity ++ ": " ++ message⟩) ∧
      ∀ message, c.failure (.refused message) = ⟨.action, activity ++ ": " ++ message⟩
  bare : told = false →
    (∀ message, c.failure (.late message) = ⟨.other "TimeoutError", message⟩) ∧
      ∀ message, c.failure (.refused message) = ⟨.other "Error", message⟩

theorem conveys_activity (c : Command) : Conveys c c.activity.isSome where
  result _ := rfl
  error _ := rfl
  other f := by
    unfold Command.failure
    cases c.activity <;> rfl
  named h := by
    obtain ⟨activity, ha⟩ := Option.isSome_iff_exists.mp h
    simp only [Command.failure, ha]
    exact ⟨activity, fun _ => rfl, fun _ => rfl⟩
  bare h := by
    have ha : c.activity = none := by simpa using h
    simp only [Command.failure, ha]
    exact ⟨fun _ => rfl, fun _ => rfl⟩

theorem activity_ofCall (call : PageCall) : (Command.ofCall call).activity.isSome = isTold call := by
  cases call <;> rfl

theorem activity_ofShot (shot : Shot) : (Command.ofShot shot).activity.isSome = true := by
  cases shot <;> rfl

theorem conveys_ofCall (call : PageCall) : Conveys (Command.ofCall call) (isTold call) :=
  activity_ofCall call ▸ conveys_activity _

theorem conveys_ofShot (shot : Shot) : Conveys (Command.ofShot shot) true :=
  activity_ofShot shot ▸ conveys_activity _

theorem Conveys.honours_iff {told : Bool} (h : Conveys c told) : Honours c ↔ told = true := by
  cases told with
  | true =>
    obtain ⟨activity, hl, hr⟩ := h.named rfl
    exact iff_of_true ⟨fun m => by rw [hl m], fun m => by rw [hr m]⟩ rfl
  | false =>
    refine iff_of_false (fun hc => ?_) Bool.false_ne_true
    have hk := hc.1 ""
    rw [(h.bare rfl).1 ""] at hk
    cases hk

/-- **The calls for which a page does what is promised.** -/
theorem honours_ofCall_iff (call : PageCall) : Honours (Command.ofCall call) ↔ isTold call = true :=
  (conveys_ofCall call).honours_iff

/-- What a refusal counts as. -/
theorem Conveys.classify {told : Bool} (h : Conveys c told) (message : String) :
    Run.classify (c.failure (.late message)) = (if told then .timeout else .host) ∧
      Run.classify (c.failure (.refused message)) = .host := by
  cases told with
  | true =>
    obtain ⟨activity, hl, hr⟩ := h.named rfl
    rw [hl, hr]
    exact ⟨rfl, rfl⟩
  | false =>
    obtain ⟨hl, hr⟩ := h.bare rfl
    rw [hl, hr]
    exact ⟨rfl, rfl⟩

end SuiteEngine.Browser

namespace SuiteEngine.Ui

open Host (Event Log PageCall)
open Suite (SnapshotRequest UiAction)

variable {c : Setting} {l : Log} {e : Event} {f : Failure}

/-! ## Failures of a page in steps -/

/-- The page answers with a failure. -/
inductive Turned (f : Failure) : Event → Prop
  | call (session : Nat) (call : PageCall) : Turned f ⟨.onPage session call, .error f⟩
  | shot (session : Nat) (shot : Host.Shot) : Turned f ⟨.screenshot session shot, .error f⟩

theorem InTime.not_turned (h : InTime c l) (he : e ∈ l) : ¬Turned f e := by
  cases h with
  | untimed => exact absurd he List.not_mem_nil
  | looked =>
    obtain rfl := List.mem_singleton.mp he
    exact fun ht => nomatch ht

theorem TimeOver.not_turned (h : TimeOver c l) (he : e ∈ l) : ¬Turned f e := by
  obtain ⟨_, _⟩ := h
  obtain rfl := List.mem_singleton.mp he
  exact fun ht => nomatch ht

/-- **An action fails for what the page answers.** -/
theorem Acted.eq_of_turned {a : UiAction} {r : Except Failure Unit} (h : Acted c a l r) (he : e ∈ l)
    (ht : Turned f e) : r = .error f := by
  cases h with
  | refused => exact absurd he List.not_mem_nil
  | called | waited | unseen =>
    obtain rfl := List.mem_singleton.mp he
    cases ht
    rfl
  | waitedInTime | waitedOut =>
    rcases List.mem_cons.mp he with rfl | he
    · cases ht
    · obtain rfl := List.mem_singleton.mp he
      cases ht
      rfl
  | captured =>
    rcases List.mem_cons.mp he with rfl | he
    · cases ht
    · obtain rfl := List.mem_singleton.mp he
      cases ht

theorem StepTaken.eq_of_turned {description : String} {a : UiAction} {r : Except Failure Unit}
    (h : StepTaken c description a l r) (he : e ∈ l) (ht : Turned f e) : r = .error f := by
  cases h with
  | tooLate hl => exact absurd ht (hl.not_turned he)
  | failed hl ha =>
    rcases List.mem_append.mp he with he | he
    · exact absurd ht (hl.not_turned he)
    · exact ha.eq_of_turned he ht
  | overran hl ha ho =>
    rcases List.mem_append.mp he with he | he
    · exact absurd ht (hl.not_turned he)
    rcases List.mem_append.mp he with he | he
    · cases ha.eq_of_turned he ht
    · exact absurd ht (ho.not_turned he)
  | taken hl ha hi =>
    rcases List.mem_append.mp he with he | he
    · exact absurd ht (hl.not_turned he)
    rcases List.mem_append.mp he with he | he
    · exact ha.eq_of_turned he ht
    · exact absurd ht (hi.not_turned he)

/-- **Steps end with what the page answers.** The induction is on the steps that are taken: only the
last of them can have failed. -/
theorem StepsTaken.eq_of_turned {number : Nat} {steps : List UiAction}
    {ended : Option (Failure × String)} (h : StepsTaken c number steps l ended) (he : e ∈ l)
    (ht : Turned f e) : ∃ description, ended = some (f, description) := by
  induction h with
  | done => exact absurd he List.not_mem_nil
  | @stopped number a _ _ _ _ _ h =>
    rcases List.mem_cons.mp he with rfl | he
    · cases ht
    rcases List.mem_append.mp he with he | he
    · rw [← Except.error.inj (h.eq_of_turned he ht)]
      exact ⟨_, rfl⟩
    · obtain rfl := List.mem_singleton.mp he
      cases ht
  | next h _ ih =>
    rcases List.mem_cons.mp he with rfl | he
    · cases ht
    rcases List.mem_append.mp he with he | he
    · cases h.eq_of_turned he ht
    rcases List.mem_cons.mp he with rfl | he
    · cases ht
    · exact ih he

theorem Compared.eq_of_turned {s : SnapshotRequest} {r : Except Failure Unit} (h : Compared c s l r)
    (he : e ∈ l) (ht : Turned f e) : r = .error f := by
  cases h with
  | tooLate hl => exact absurd ht (hl.not_turned he)
  | unseen hl =>
    rcases List.mem_append.mp he with he | he
    · exact absurd ht (hl.not_turned he)
    · obtain rfl := List.mem_singleton.mp he
      cases ht
      rfl
  | uncompared hl | compared hl =>
    rcases List.mem_append.mp he with he | he
    · exact absurd ht (hl.not_turned he)
    rcases List.mem_cons.mp he with rfl | he
    · cases ht
    · obtain rfl := List.mem_singleton.mp he
      cases ht

end SuiteEngine.Ui

namespace SuiteEngine.Run

open Browser (Command Conveys Honours Refusal isTold)
open Host (Event Log PageCall Program Question)
open Report (Attachment)
open Suite (UiAction UiCase UiSuite)
open Ui (Setting Turned)

variable {config : Config} {shots : Files.Path} {suite : UiSuite} {case : UiCase} {c : Setting}
  {l l₁ l₂ l₃ l₄ l₅ : Log} {e : Event} {f : Failure} {v : Verdict}

/-! ## Failures of a page in an attempt -/

theorem ActedIf.eq_of_turned {action : Option UiAction} {r : Except Failure Unit}
    (h : ActedIf c action l r) (he : e ∈ l) (ht : Turned f e) : r = .error f := by
  cases action with
  | none =>
    rw [h.1] at he
    exact absurd he List.not_mem_nil
  | some a => exact Ui.Acted.eq_of_turned h he ht

theorem CalledIf.eq_of_turned {call : Option PageCall} {r : Except Failure Unit}
    (h : CalledIf c call l r) (he : e ∈ l) (ht : Turned f e) : r = .error f := by
  cases call with
  | none =>
    rw [h.1] at he
    exact absurd he List.not_mem_nil
  | some call =>
    obtain rfl := h
    obtain rfl := List.mem_singleton.mp he
    cases ht
    rfl

theorem ComparedIf.eq_of_turned {r : Except Failure Unit} (h : ComparedIf config c case l r)
    (he : e ∈ l) (ht : Turned f e) : r = .error f := by
  unfold ComparedIf at h
  split at h
  · rw [h.1] at he
    exact absurd he List.not_mem_nil
  · split at h
    · exact h.eq_of_turned he ht
    · rw [h.1] at he
      exact absurd he List.not_mem_nil

/-- A failure of the page in the setup action keeps the case from being tried. -/
theorem Driven.eq_of_turned_setup (h : Driven config suite c case l₁ l₂ l₃ l₄ l₅ v) (he : e ∈ l₁)
    (ht : Turned f e) : v = some (.blocked ("Setup action failed: " ++ f.describe)) := by
  cases h with
  | setupFailed h₁ => rw [← Except.error.inj (h₁.eq_of_turned he ht)]
  | viewportFailed h₁ | navigationFailed h₁ | stepFailed h₁ | snapshotFailed h₁ | passed h₁ =>
    cases h₁.eq_of_turned he ht

/-- **A failure of the page in the case is the failure of the case**: nothing comes after it. -/
theorem Driven.eq_of_turned (h : Driven config suite c case l₁ l₂ l₃ l₄ l₅ v)
    (he : e ∈ l₂ ++ (l₃ ++ (l₄ ++ l₅))) (ht : Turned f e) :
    ∃ lead, v = some (.failure f [] lead) := by
  simp only [List.mem_append] at he
  -- Whichever part it is in, the parts before it succeeded, and it did unless the case failed there.
  rcases he with he | he | he | he
  · cases h with
    | setupFailed => exact absurd he List.not_mem_nil
    | viewportFailed _ h₂ =>
      rw [← Except.error.inj (h₂.eq_of_turned he ht)]
      exact ⟨_, rfl⟩
    | navigationFailed _ h₂ | stepFailed _ h₂ | snapshotFailed _ h₂ | passed _ h₂ =>
      cases h₂.eq_of_turned he ht
  · cases h with
    | setupFailed | viewportFailed => exact absurd he List.not_mem_nil
    | navigationFailed _ _ h₃ =>
      rw [← Except.error.inj (h₃.eq_of_turned he ht)]
      exact ⟨_, rfl⟩
    | stepFailed _ _ h₃ | snapshotFailed _ _ h₃ | passed _ _ h₃ => cases h₃.eq_of_turned he ht
  · cases h with
    | setupFailed | viewportFailed | navigationFailed => exact absurd he List.not_mem_nil
    | stepFailed _ _ _ h₄ =>
      obtain ⟨_, hended⟩ := h₄.eq_of_turned he ht
      obtain ⟨rfl, -⟩ := Prod.mk.inj (Option.some.inj hended)
      exact ⟨_, rfl⟩
    | snapshotFailed _ _ _ h₄ | passed _ _ _ h₄ =>
      obtain ⟨_, hended⟩ := h₄.eq_of_turned he ht
      cases hended
  · cases h with
    | setupFailed | viewportFailed | navigationFailed | stepFailed =>
      exact absurd he List.not_mem_nil
    | snapshotFailed _ _ _ _ _ h₅ =>
      rw [← Except.error.inj (h₅.eq_of_turned he ht)]
      exact ⟨_, rfl⟩
    | passed _ _ _ _ h₅ => cases h₅.eq_of_turned he ht

/-! ## Refusals in an attempt -/

/-- The parts of the case after the setup action. -/
def Parts.tried (φ : Parts) : Log := φ.viewport ++ (φ.navigation ++ (φ.steps ++ φ.snapshot))

/-- How an attempt is reported for what the browser refused on its page. -/
structure ReportsRefusals (session : Nat) (φ : Parts) (o : AttemptOutcome) : Prop where
  call : ∀ (call : PageCall) (r : Refusal),
    ⟨.onPage session call, (Command.ofCall call).settle (.error r)⟩ ∈ φ.tried →
      o.passed = false ∧ o.failureKind = some (classify ((Command.ofCall call).failure r))
  shot : ∀ (shot : Host.Shot) (r : Refusal),
    ⟨.screenshot session shot, (Command.ofShot shot).settle (.error r)⟩ ∈ φ.tried →
      o.passed = false ∧ o.failureKind = some (classify ((Command.ofShot shot).failure r))
  setup : ∀ (call : PageCall) (r : Refusal),
    ⟨.onPage session call, (Command.ofCall call).settle (.error r)⟩ ∈ φ.setup →
      o.passed = false ∧ o.failureKind = some .setup

theorem PageRun.reportsRefusals {φ : Parts} (h : PageRun config suite c case φ v)
    (attachments : List Attachment) : ReportsRefusals c.session φ (concluded v attachments) where
  call call r he := by
    obtain ⟨_, rfl⟩ := h.driven.eq_of_turned he (.call _ _)
    exact ⟨rfl, rfl⟩
  shot shot r he := by
    obtain ⟨_, rfl⟩ := h.driven.eq_of_turned he (.shot _ _)
    exact ⟨rfl, rfl⟩
  setup call r he := by
    obtain rfl := h.driven.eq_of_turned_setup he (.call _ _)
    exact ⟨rfl, rfl⟩

/-- What the refusals of an attempt come to: nothing is done on a page, or the attempt is on a page and
reports them. -/
inductive RefusalsReported (config : Config) (shots : Files.Path) (suite : UiSuite) :
    Log → AttemptOutcome → Prop
  | pageless {log : Log} {o : AttemptOutcome} (h : ∀ e ∈ log, ∀ f, ¬Turned f e) :
      RefusalsReported config shots suite log o
  | reported {filled : UiCase} {now seconds : Float} {session : Nat} {φ : Parts} {v : Verdict}
      {attachments : List Attachment}
      (hp : PageRun config suite (settingFor config shots filled session (now + seconds)) filled φ v)
      (hr : ReportsRefusals session φ (concluded v attachments)) :
      RefusalsReported config shots suite (pageLog config now session φ) (concluded v attachments)

theorem UiTry.refusalsReported {log : Log} {o : AttemptOutcome}
    (h : UiTry config shots suite case log o) : RefusalsReported config shots suite log o := by
  cases h with
  | unread => exact .pageless fun e he => absurd he List.not_mem_nil
  | untold =>
    refine .pageless fun e he f ht => ?_
    obtain rfl := List.mem_singleton.mp he
    cases ht
  | refused =>
    refine .pageless fun e he f ht => ?_
    simp only [List.mem_cons, List.not_mem_nil, or_false] at he
    rcases he with rfl | rfl <;> cases ht
  | opened _ _ hp => exact .reported hp (hp.reportsRefusals _)

variable {σ : Type}

/-- **What a refusal of the browser counts as.** A page passes on results and what else goes wrong. What
is promised of it it does for every picture and for the calls that are told: of what the browser does
not do in time it says that it is out of time, and of another refusal that the action failed. In every
attempt, on every machine, a refusal in the case is what the case fails for. It is counted as out of
time if the browser was late with a picture or with a call that is told, and as a failure of the host
otherwise. -/
theorem attemptUiCase_refusals (answer : (q : Question) → σ → q.Answer × σ) (s : σ) (config : Config)
    (shots : Files.Path) (suite : UiSuite) (case : UiCase) :
    (∀ call, Conveys (Command.ofCall call) (isTold call) ∧
      (Honours (Command.ofCall call) ↔ isTold call = true) ∧ ∀ message,
        classify ((Command.ofCall call).failure (.late message)) =
            (if isTold call then .timeout else .host) ∧
          classify ((Command.ofCall call).failure (.refused message)) = .host) ∧
    (∀ shot, Conveys (Command.ofShot shot) true ∧ Honours (Command.ofShot shot) ∧ ∀ message,
        classify ((Command.ofShot shot).failure (.late message)) = .timeout ∧
          classify ((Command.ofShot shot).failure (.refused message)) = .host) ∧
    RefusalsReported config shots suite
      ((attemptUiCase config shots suite case).logOf answer s)
      ((attemptUiCase config shots suite case).run answer s).1 := by
  refine ⟨fun call => ?_, fun shot => ?_, ?_⟩
  · have h := Browser.conveys_ofCall call
    exact ⟨h, Browser.honours_ofCall_iff call, h.classify⟩
  · have h := Browser.conveys_ofShot shot
    exact ⟨h, h.honours_iff.mpr rfl, h.classify⟩
  · exact (uiTry_of_traces (Program.traces_run answer _ s).1).refusalsReported

/-- A window that does not get its size in time is counted as a failure of the host. -/
example (width height : Value) (message : String) :
    classify ((Command.ofCall (.setViewport width height)).failure (.late message)) = .host := rfl

end SuiteEngine.Run
