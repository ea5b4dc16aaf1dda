import SuiteEngine.Proofs.Host.Trial
import SuiteEngine.Ui.Step

/-!
# What is done on a page

An action asks the page for one thing at most: it says so itself which. Steps are taken one after
the other, up to the first that fails, and looking at the clock is all that they ask besides. The
relations of this file list what each of them can ask and how it ends.

Headlines:
* `acted_of_traces`: one action.
* **`stepsRan_of_traces`**: the steps of a case, by induction on the steps.
* `compared_of_traces`: the comparison with a stored picture.
* `StepsTaken.staysOn`, `Compared.staysOn`: nothing is done on another page, and none is opened or
  closed.
-/

namespace SuiteEngine.Ui

open Host (Event Log PageCall Program Question Trial)
open Report (Attachment)
open Suite (SnapshotRequest UiAction)

variable {c : Setting} {before after : List Attachment} {log : Log}

/-! ## The time -/

/-- A look at the clock, if there is a deadline, that finds it not yet passed. -/
inductive InTime (c : Setting) : Log → Prop
  | untimed (hd : c.deadline = none) : InTime c []
  | looked {deadline now : Float} (hd : c.deadline = some deadline) (hn : ¬now > deadline) :
      InTime c [⟨.clock, now⟩]

/-- A look at the clock that finds the deadline passed. -/
inductive TimeOver (c : Setting) : Log → Prop
  | looked {deadline now : Float} (hd : c.deadline = some deadline) (hn : now > deadline) :
      TimeOver c [⟨.clock, now⟩]

theorem InTime.eq_look {deadline : Float} (h : InTime c log) (hd : c.deadline = some deadline) :
    ∃ now, log = [⟨.clock, now⟩] ∧ ¬now > deadline := by
  cases h with
  | untimed hnone => cases hnone.symm.trans hd
  | @looked deadline' now hd' hn =>
    obtain rfl := Option.some.inj (hd'.symm.trans hd)
    exact ⟨now, rfl, hn⟩

theorem TimeOver.eq_look {deadline : Float} (h : TimeOver c log) (hd : c.deadline = some deadline) :
    ∃ now, log = [⟨.clock, now⟩] ∧ now > deadline := by
  cases h with
  | @looked deadline' now hd' hn =>
    obtain rfl := Option.some.inj (hd'.symm.trans hd)
    exact ⟨now, rfl, hn⟩

theorem checkDeadline_of_traces {moment : String} {r : Except Failure Unit}
    (h : Trial.Traces (c.checkDeadline moment) before log r after) :
    (r = .ok () ∧ InTime c log) ∨ (r = .error (c.timeIsOver moment) ∧ TimeOver c log) := by
  unfold Setting.checkDeadline at h
  cases hd : c.deadline with
  | none =>
    rw [hd] at h
    obtain ⟨rfl, rfl, _⟩ := Trial.traces_pure.mp h
    exact .inl ⟨rfl, .untimed hd⟩
  | some deadline =>
    rw [hd] at h
    obtain ⟨now, l, rfl, h₂⟩ := Trial.traces_clock_bind.mp h
    split at h₂
    · rename_i hn
      obtain ⟨rfl, rfl, _⟩ := Trial.traces_throw.mp h₂
      exact .inr ⟨rfl, .looked hd hn⟩
    · rename_i hn
      obtain ⟨rfl, rfl, _⟩ := Trial.traces_pure.mp h₂
      exact .inl ⟨rfl, .looked hd hn⟩

/-! ## Actions -/

theorem traces_act {call : PageCall} {r : Except Failure Unit} :
    Trial.Traces (c.act call) before log r after ↔
      log = [⟨.onPage c.session call, r⟩] ∧ after = before := by
  rw [Setting.act, Trial.traces_ofAnswer, Program.traces_onPage]

theorem traces_shoot {shot : Host.Shot} {r : Except Failure Files.Content} :
    Trial.Traces (c.shoot shot) before log r after ↔
      log = [⟨.screenshot c.session shot, r⟩] ∧ after = before := by
  rw [Setting.shoot, Trial.traces_ofAnswer, Program.traces_screenshot]

/-- What an action asks, and how it ends. -/
inductive Acted (c : Setting) (a : UiAction) : Log → Except Failure Unit → Prop
  | refused {f : Failure} (hp : Plan.of a = .error f) : Acted c a [] (.error f)
  | called {call : PageCall} {r : Except Failure Unit} (hp : Plan.of a = .ok (.call call)) :
      Acted c a [⟨.onPage c.session call, r⟩] r
  | waited {ms : Float} {r : Except Failure Unit} (hp : Plan.of a = .ok (.wait ms))
      (hd : c.deadline = none) :
      Acted c a [⟨.onPage c.session (.waitForTimeout (.float ms)), r⟩] r
  | waitedInTime {ms deadline now : Float} {r : Except Failure Unit}
      (hp : Plan.of a = .ok (.wait ms)) (hd : c.deadline = some deadline)
      (hn : ms ≤ remaining deadline now) :
      Acted c a [⟨.clock, now⟩, ⟨.onPage c.session (.waitForTimeout (.float ms)), r⟩] r
  /-- The page waits for the time that is left, and then it is over. -/
  | waitedOut {ms deadline now : Float} {r : Except Failure Unit}
      (hp : Plan.of a = .ok (.wait ms)) (hd : c.deadline = some deadline)
      (hn : ¬ms ≤ remaining deadline now) :
      Acted c a [⟨.clock, now⟩,
          ⟨.onPage c.session (.waitForTimeout (.float (remaining deadline now))), r⟩]
        (r.bind fun _ => .error (c.timeIsOver ("waiting " ++ floatGeneral ms ++ " ms")))
  | unseen {name : String} {shot : Host.Shot} {f : Failure}
      (hp : Plan.of a = .ok (.capture name shot)) :
      Acted c a [⟨.screenshot c.session shot, .error f⟩] (.error f)
  | captured {name : String} {shot : Host.Shot} {picture : Files.Content} {r : Except Failure Unit}
      (hp : Plan.of a = .ok (.capture name shot)) :
      Acted c a [⟨.screenshot c.session shot, .ok picture⟩,
        ⟨.store (c.screenshotsDir.join (pictureFile name)) picture, r⟩] r

/-- Waiting asks for one wait, which is cut short by the deadline. -/
theorem acted_wait {a : UiAction} {ms : Float} {r : Except Failure Unit}
    (hp : Plan.of a = .ok (.wait ms)) (h : Trial.Traces (c.wait ms) before log r after) :
    Acted c a log r := by
  unfold Setting.wait at h
  cases hd : c.deadline with
  | none =>
    rw [hd] at h
    obtain ⟨rfl, _⟩ := traces_act.mp h
    exact .waited hp hd
  | some deadline =>
    rw [hd] at h
    obtain ⟨now, l, rfl, h₂⟩ := Trial.traces_clock_bind.mp h
    dsimp only at h₂
    split at h₂
    · rename_i hn
      obtain ⟨rfl, _⟩ := traces_act.mp h₂
      exact .waitedInTime hp hd hn
    · rename_i hn
      rcases Trial.traces_bind.mp h₂ with ⟨f, ha, rfl⟩ | ⟨_, l₃, l₄, _, rfl, ha, h₃⟩
      · obtain ⟨rfl, _⟩ := traces_act.mp ha
        exact .waitedOut (r := .error f) hp hd hn
      · obtain ⟨rfl, rfl⟩ := traces_act.mp ha
        obtain ⟨rfl, rfl, _⟩ := Trial.traces_throw.mp h₃
        exact .waitedOut (r := .ok ()) hp hd hn

/-- Taking a picture asks for it and for its file. -/
theorem acted_capture {a : UiAction} {name : String} {shot : Host.Shot} {r : Except Failure Unit}
    (hp : Plan.of a = .ok (.capture name shot))
    (h : Trial.Traces (c.carryOut (.capture name shot)) before log r after) : Acted c a log r := by
  rcases Trial.traces_bind.mp h with ⟨f, hs, rfl⟩ | ⟨picture, l₁, l₂, _, rfl, hs, h₂⟩
  · obtain ⟨rfl, _⟩ := traces_shoot.mp hs
    exact .unseen hp
  obtain ⟨rfl, rfl⟩ := traces_shoot.mp hs
  rcases Trial.traces_bind.mp h₂ with ⟨f, hw, rfl⟩ | ⟨_, l₃, l₄, _, rfl, hw, h₃⟩
  · obtain ⟨hw, _⟩ := Trial.traces_ofAnswer.mp hw
    obtain rfl := Program.traces_store.mp hw
    exact .captured hp
  · obtain ⟨hw, _⟩ := Trial.traces_ofAnswer.mp hw
    obtain rfl := Program.traces_store.mp hw
    obtain ⟨rfl, rfl, _⟩ := Trial.traces_attach.mp h₃
    exact .captured hp

/-- **An action asks the page for what its plan says**, and for nothing if it is declared wrongly.
-/
theorem acted_of_traces {a : UiAction} {r : Except Failure Unit}
    (h : Trial.Traces (c.perform a) before log r after) : Acted c a log r := by
  rcases Trial.traces_ofExcept_bind.mp h with ⟨f, hp, rfl, rfl, _⟩ | ⟨plan, hp, h₂⟩
  · exact .refused hp
  cases plan with
  | call call =>
    obtain ⟨rfl, _⟩ := traces_act.mp h₂
    exact .called hp
  | wait ms => exact acted_wait hp h₂
  | capture name shot => exact acted_capture hp h₂

/-- An action that is declared wrongly asks for nothing and fails for it. -/
theorem Acted.eq_error {a : UiAction} {f : Failure} {r : Except Failure Unit} (h : Acted c a log r)
    (hp : Plan.of a = .error f) : log = [] ∧ r = .error f := by
  cases h with
  | refused hp' => exact ⟨rfl, congrArg Except.error (Except.error.inj (hp'.symm.trans hp))⟩
  | called hp' | waited hp' | waitedInTime hp' | waitedOut hp' | unseen hp' | captured hp' =>
    cases hp'.symm.trans hp

/-! ## Steps -/

/-- What a step asks, and how it ends: its action is performed between two looks at the time. -/
inductive StepTaken (c : Setting) (description : String) (a : UiAction) :
    Log → Except Failure Unit → Prop
  | tooLate {l : Log} (hl : TimeOver c l) :
      StepTaken c description a l (.error (c.timeIsOver ("before " ++ description)))
  | failed {l₁ l₂ : Log} {f : Failure} (hl : InTime c l₁) (ha : Acted c a l₂ (.error f)) :
      StepTaken c description a (l₁ ++ l₂) (.error f)
  | overran {l₁ l₂ l₃ : Log} (hl : InTime c l₁) (ha : Acted c a l₂ (.ok ())) (ho : TimeOver c l₃) :
      StepTaken c description a (l₁ ++ (l₂ ++ l₃))
        (.error (c.timeIsOver ("during " ++ description)))
  | taken {l₁ l₂ l₃ : Log} (hl : InTime c l₁) (ha : Acted c a l₂ (.ok ())) (ht : InTime c l₃) :
      StepTaken c description a (l₁ ++ (l₂ ++ l₃)) (.ok ())

theorem stepTaken_of_traces {description : String} {a : UiAction} {r : Except Failure Unit}
    (h : Trial.Traces (c.takeStep description a) before log r after) :
    StepTaken c description a log r := by
  rcases Trial.traces_bind.mp h with ⟨f, hc, rfl⟩ | ⟨_, l₁, l, _, rfl, hc, h₂⟩
  · rcases checkDeadline_of_traces hc with ⟨hr, _⟩ | ⟨hr, ht⟩
    · cases hr
    · obtain rfl := Except.error.inj hr
      exact .tooLate ht
  have hl : InTime c l₁ := by
    rcases checkDeadline_of_traces hc with ⟨_, hl⟩ | ⟨hr, _⟩
    · exact hl
    · cases hr
  rcases Trial.traces_bind.mp h₂ with ⟨f, ha, rfl⟩ | ⟨_, l₂, l₃, _, rfl, ha, h₃⟩
  · exact .failed hl (acted_of_traces ha)
  rcases checkDeadline_of_traces h₃ with ⟨rfl, ht⟩ | ⟨rfl, ho⟩
  · exact .taken hl (acted_of_traces ha) ht
  · exact .overran hl (acted_of_traces ha) ho

/-- What steps ask, of which the first has this number, and the failure that ended them, if one did,
with what messages call the step. -/
inductive StepsTaken (c : Setting) :
    (number : Nat) → List UiAction → Log → Option (Failure × String) → Prop
  | done {number : Nat} : StepsTaken c number [] [] none
  | stopped {number : Nat} {a : UiAction} {rest : List UiAction} {start stop : Float} {l : Log}
      {f : Failure} (h : StepTaken c (describeStep number a) a l (.error f)) :
      StepsTaken c number (a :: rest) (⟨.clock, start⟩ :: (l ++ [⟨.clock, stop⟩]))
        (some (f, describeStep number a))
  | next {number : Nat} {a : UiAction} {rest : List UiAction} {start stop : Float} {l l' : Log}
      {ended : Option (Failure × String)} (h : StepTaken c (describeStep number a) a l (.ok ()))
      (hr : StepsTaken c (number + 1) rest l' ended) :
      StepsTaken c number (a :: rest) (⟨.clock, start⟩ :: (l ++ ⟨.clock, stop⟩ :: l')) ended

/-- The failure that something ended with, if it did. -/
def failureOf : Except Failure Unit → Option Failure
  | .ok () => none
  | .error f => some f

/-- What the step with this number asks, and its result: the step is taken between two more looks at
the clock, for the time that it took. -/
inductive StepRan (c : Setting) (number : Nat) (a : UiAction) : Log → StepResult → Prop
  | ran {start stop : Float} {l : Log} {ended : Except Failure Unit}
      (h : StepTaken c (describeStep number a) a l ended) :
      StepRan c number a (⟨.clock, start⟩ :: (l ++ [⟨.clock, stop⟩]))
        { action := a, description := describeStep number a
          failure := failureOf ended
          duration := elapsed start stop }

/-- A step never fails as a trial: how it ended is its result. -/
theorem stepRan_of_traces {number : Nat} {a : UiAction} {r : Except Failure StepResult}
    (h : Trial.Traces (c.step number a) before log r after) :
    ∃ result, r = .ok result ∧ StepRan c number a log result := by
  obtain ⟨start, l, rfl, h₂⟩ := Trial.traces_clock_bind.mp h
  obtain ⟨ended, l₁, l₂, _, rfl, ht, h₃⟩ := Trial.traces_outcome_bind.mp h₂
  obtain ⟨stop, l₃, rfl, h₄⟩ := Trial.traces_clock_bind.mp h₃
  obtain ⟨rfl, rfl, _⟩ := Trial.traces_pure.mp h₄
  have hran : StepRan c number a (⟨.clock, start⟩ :: (l₁ ++ [⟨.clock, stop⟩]))
      ⟨a, describeStep number a, failureOf ended, elapsed start stop⟩ :=
    .ran (stepTaken_of_traces ht)
  cases ended with
  | ok _ => exact ⟨_, rfl, hran⟩
  | error f => exact ⟨_, rfl, hran⟩

/-- What each of some steps asks, of which the first has this number, and its result; none is taken
after one that failed. -/
inductive StepsRan (c : Setting) : (number : Nat) → List UiAction → List (Log × StepResult) → Prop
  | done {number : Nat} : StepsRan c number [] []
  | stopped {number : Nat} {a : UiAction} {rest : List UiAction} {run : Log × StepResult}
      (h : StepRan c number a run.1 run.2) (hf : run.2.passed = false) :
      StepsRan c number (a :: rest) [run]
  | next {number : Nat} {a : UiAction} {rest : List UiAction} {run : Log × StepResult}
      {runs : List (Log × StepResult)} (h : StepRan c number a run.1 run.2)
      (hp : run.2.passed = true) (hr : StepsRan c (number + 1) rest runs) :
      StepsRan c number (a :: rest) (run :: runs)

/-- **Steps are taken in order, up to the first that fails.** -/
theorem stepsRan_of_traces {number : Nat} {steps : List UiAction}
    {r : Except Failure (List StepResult)}
    (h : Trial.Traces (c.stepsFrom number steps) before log r after) :
    ∃ runs, log = runs.flatMap Prod.fst ∧ r = .ok (runs.map Prod.snd) ∧
      StepsRan c number steps runs := by
  induction steps generalizing number before after log r with
  | nil =>
    obtain ⟨rfl, rfl, _⟩ := Trial.traces_pure.mp h
    exact ⟨[], rfl, rfl, .done⟩
  | cons a rest ih =>
    rcases Trial.traces_bind.mp h with ⟨_, hs, _⟩ | ⟨result, l₁, l₂, _, rfl, hs, h₂⟩
    · obtain ⟨_, hr, _⟩ := stepRan_of_traces hs
      cases hr
    obtain ⟨_, hr, hran⟩ := stepRan_of_traces hs
    obtain rfl := Except.ok.inj hr
    split at h₂
    · rename_i hp
      rcases Trial.traces_bind.mp h₂ with ⟨_, hr, _⟩ | ⟨results, l₃, l₄, _, rfl, hr, h₃⟩
      · obtain ⟨_, _, hr, _⟩ := ih hr
        cases hr
      obtain ⟨runs, rfl, hr, hruns⟩ := ih hr
      obtain rfl := Except.ok.inj hr
      obtain ⟨rfl, rfl, _⟩ := Trial.traces_pure.mp h₃
      exact ⟨(l₁, result) :: runs, by simp, rfl, .next hran hp hruns⟩
    · rename_i hp
      obtain ⟨rfl, rfl, _⟩ := Trial.traces_pure.mp h₂
      exact ⟨[(l₁, result)], by simp, rfl, .stopped hran (by simpa using hp)⟩

/-- The failure of the first step that failed, with what messages call the step. -/
def firstFailure (results : List StepResult) : Option (Failure × String) :=
  results.findSome? fun r => r.failure.map fun f => (f, r.description)

/-- What some steps ask, taken together. -/
theorem StepsRan.taken {number : Nat} {steps : List UiAction} {runs : List (Log × StepResult)}
    (h : StepsRan c number steps runs) :
    StepsTaken c number steps (runs.flatMap Prod.fst) (firstFailure (runs.map Prod.snd)) := by
  induction h with
  | done => exact .done
  | @stopped _ _ _ run h hf =>
    obtain ⟨_, _⟩ := run
    cases h with
    | @ran _ _ _ ended ht =>
      cases ended with
      | ok _ => cases hf
      | error f => simpa [firstFailure, failureOf] using StepsTaken.stopped ht
  | @next _ _ _ run runs h hp _ ih =>
    obtain ⟨_, _⟩ := run
    cases h with
    | @ran _ _ _ ended ht =>
      cases ended with
      | ok _ => simpa [firstFailure, failureOf] using StepsTaken.next ht ih
      | error f => cases hp

theorem stepsTaken_of_traces {number : Nat} {steps : List UiAction}
    {r : Except Failure (List StepResult)}
    (h : Trial.Traces (c.stepsFrom number steps) before log r after) :
    ∃ results, r = .ok results ∧ StepsTaken c number steps log (firstFailure results) := by
  obtain ⟨runs, rfl, rfl, hruns⟩ := stepsRan_of_traces h
  exact ⟨_, rfl, hruns.taken⟩

/-! ## The comparison with a stored picture -/

/-- What the comparison asks, and how it ends. -/
inductive Compared (c : Setting) (s : SnapshotRequest) : Log → Except Failure Unit → Prop
  | tooLate {l : Log} (hl : TimeOver c l) :
      Compared c s l (.error (c.timeIsOver ("before snapshot " ++ s.name)))
  | unseen {l : Log} {f : Failure} (hl : InTime c l) :
      Compared c s (l ++ [⟨.screenshot c.session (snapshotShot s), .error f⟩]) (.error f)
  | uncompared {l : Log} {actual : Files.Content} {f : Failure} (hl : InTime c l) :
      Compared c s (l ++ [⟨.screenshot c.session (snapshotShot s), .ok actual⟩,
        ⟨.compare actual (c.snapshotDir.join (pictureFile s.name)) c.limit, .error f⟩]) (.error f)
  | compared {l : Log} {actual : Files.Content} {comparison : Comparison} (hl : InTime c l) :
      Compared c s (l ++ [⟨.screenshot c.session (snapshotShot s), .ok actual⟩,
          ⟨.compare actual (c.snapshotDir.join (pictureFile s.name)) c.limit, .ok comparison⟩])
        (if comparison.passed then .ok () else .error ⟨.assertion, comparison.message⟩)

/-- **The comparison takes one picture**, unless the time is over. -/
theorem compared_of_traces {s : SnapshotRequest} {r : Except Failure Unit}
    (h : Trial.Traces (c.verifySnapshot s) before log r after) : Compared c s log r := by
  rcases Trial.traces_bind.mp h with ⟨f, hc, rfl⟩ | ⟨_, l₁, l, _, rfl, hc, h₂⟩
  · rcases checkDeadline_of_traces hc with ⟨hr, _⟩ | ⟨hr, ht⟩
    · cases hr
    · obtain rfl := Except.error.inj hr
      exact .tooLate ht
  have hl : InTime c l₁ := by
    rcases checkDeadline_of_traces hc with ⟨_, hl⟩ | ⟨hr, _⟩
    · exact hl
    · cases hr
  rcases Trial.traces_bind.mp h₂ with ⟨f, hs, rfl⟩ | ⟨actual, l₂, l₃, _, rfl, hs, h₃⟩
  · obtain ⟨rfl, _⟩ := traces_shoot.mp hs
    exact .unseen hl
  obtain ⟨rfl, rfl⟩ := traces_shoot.mp hs
  rcases Trial.traces_bind.mp h₃ with ⟨f, hm, rfl⟩ | ⟨comparison, l₄, l₅, _, rfl, hm, h₄⟩
  · obtain ⟨hm, _⟩ := Trial.traces_ofAnswer.mp hm
    obtain rfl := Program.traces_compare.mp hm
    exact .uncompared hl
  obtain ⟨hq, rfl⟩ := Trial.traces_ofAnswer.mp hm
  obtain rfl := Program.traces_compare.mp hq
  have hend : l₅ = [] ∧
      r = if comparison.passed then .ok () else .error ⟨.assertion, comparison.message⟩ := by
    cases hp : comparison.passed with
    | true =>
      rw [if_pos hp] at h₄
      obtain ⟨rfl, rfl, _⟩ := Trial.traces_pure.mp h₄
      exact ⟨rfl, rfl⟩
    | false =>
      rw [if_neg (by simp [hp])] at h₄
      have h₅ := Trial.traces_attach_bind.mp h₄
      dsimp only at h₅
      split at h₅
      · obtain ⟨rfl, rfl, _⟩ := Trial.traces_throw.mp (Trial.traces_attach_bind.mp h₅)
        exact ⟨rfl, rfl⟩
      · obtain ⟨rfl, rfl, _⟩ := Trial.traces_throw.mp h₅
        exact ⟨rfl, rfl⟩
  obtain ⟨rfl, rfl⟩ := hend
  exact .compared hl

/-! ## The page -/

/-- The question is about no other page than this, and neither opens nor closes one. -/
def Concerns (session : Nat) : Question → Prop
  | .clock | .warn _ | .store _ _ | .compare _ _ _ => True
  | .onPage other _ | .screenshot other _ => other = session
  | _ => False

/-- Nothing is done on another page, and none is opened or closed. -/
def StaysOn (session : Nat) (log : Log) : Prop := ∀ e ∈ log, Concerns session e.question

section StaysOn

variable {session : Nat} {l l' : Log} {e : Event}

@[simp] theorem staysOn_nil : StaysOn session [] := fun _ he => absurd he List.not_mem_nil

@[simp] theorem staysOn_cons :
    StaysOn session (e :: l) ↔ Concerns session e.question ∧ StaysOn session l :=
  List.forall_mem_cons

@[simp] theorem staysOn_append :
    StaysOn session (l ++ l') ↔ StaysOn session l ∧ StaysOn session l' :=
  List.forall_mem_append

theorem InTime.staysOn (h : InTime c l) : StaysOn c.session l := by
  cases h <;> simp [Concerns]

theorem TimeOver.staysOn (h : TimeOver c l) : StaysOn c.session l := by
  cases h
  simp [Concerns]

theorem Acted.staysOn {a : UiAction} {r : Except Failure Unit} (h : Acted c a l r) :
    StaysOn c.session l := by
  cases h <;> simp [Concerns]

theorem StepTaken.staysOn {description : String} {a : UiAction} {r : Except Failure Unit}
    (h : StepTaken c description a l r) : StaysOn c.session l := by
  cases h with
  | tooLate hl => exact hl.staysOn
  | failed hl ha => exact staysOn_append.mpr ⟨hl.staysOn, ha.staysOn⟩
  | overran hl ha ho =>
    exact staysOn_append.mpr ⟨hl.staysOn, staysOn_append.mpr ⟨ha.staysOn, ho.staysOn⟩⟩
  | taken hl ha ht =>
    exact staysOn_append.mpr ⟨hl.staysOn, staysOn_append.mpr ⟨ha.staysOn, ht.staysOn⟩⟩

theorem StepsTaken.staysOn {number : Nat} {steps : List UiAction}
    {ended : Option (Failure × String)} (h : StepsTaken c number steps l ended) :
    StaysOn c.session l := by
  induction h with
  | done => exact staysOn_nil
  | stopped h => simp [Concerns, h.staysOn]
  | next h _ ih => simp [Concerns, h.staysOn, ih]

theorem Compared.staysOn {s : SnapshotRequest} {r : Except Failure Unit} (h : Compared c s l r) :
    StaysOn c.session l := by
  cases h with
  | tooLate hl => exact hl.staysOn
  | unseen hl => simp [Concerns, hl.staysOn]
  | uncompared hl => simp [Concerns, hl.staysOn]
  | compared hl => simp [Concerns, hl.staysOn]

end StaysOn

end SuiteEngine.Ui
