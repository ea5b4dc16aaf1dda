import SuiteEngine.Proofs.Host.Timing
import SuiteEngine.Proofs.Ui.Step

/-!
# Steps in time

The steps of a case on a machine that keeps time. A step looks at the clock when it begins and when
it ends, and the time allowed is checked in between, before its action and after it. So nothing is
asked of the page once the deadline has passed before a step, and a step during which it passed has
failed: with the failure of its action if that failed itself, and otherwise because the time is
over.

Headlines:
* `StepRan.kept`: one step.
* `StepsRan.kept`: the steps of a case, by induction on those that were taken.
* **`runSteps_kept`**: every run of steps, on every machine that keeps time.
* `verifySnapshot_looksOnce`: the comparison with a stored picture.
-/

namespace SuiteEngine.Ui

open Host (Chronological DatedEvent DatedLog Event KeepsTime Log Program Question events
  events_eq_cons events_eq_flatMap events_eq_nil look)
open Report (Attachment)
open Suite (SnapshotRequest UiAction)

variable {c : Setting}

/-! ## What is asked of the page -/

/-- Whether the question is one for the page. -/
def asksPage : Question → Bool
  | .onPage _ _ | .screenshot _ _ => true
  | _ => false

/-- What is asked of the page, in order. -/
def pageQuestions (log : Log) : List Question := (log.map Event.question).filter asksPage

section PageQuestions

variable {e : Event} {l l' : Log}

@[simp] theorem pageQuestions_nil : pageQuestions [] = [] := rfl

@[simp] theorem pageQuestions_cons :
    pageQuestions (e :: l) =
      if asksPage e.question then e.question :: pageQuestions l else pageQuestions l := by
  rw [pageQuestions, List.map_cons, List.filter_cons]
  rfl

@[simp] theorem pageQuestions_append :
    pageQuestions (l ++ l') = pageQuestions l ++ pageQuestions l' := by
  simp [pageQuestions]

theorem InTime.pageQuestions (h : InTime c l) : pageQuestions l = [] := by
  cases h <;> rfl

theorem TimeOver.pageQuestions (h : TimeOver c l) : pageQuestions l = [] := by
  cases h
  rfl

end PageQuestions

/-- The log asks the page for what the plan says, once: a wait ends at the deadline at the latest.
-/
inductive Carried (c : Setting) (log : Log) : Plan → Prop
  | call {call : Host.PageCall} (h : pageQuestions log = [.onPage c.session call]) :
      Carried c log (.call call)
  | capture {name : String} {shot : Host.Shot}
      (h : pageQuestions log = [.screenshot c.session shot]) : Carried c log (.capture name shot)
  | wait {ms : Float} (hd : c.deadline = none)
      (h : pageQuestions log = [.onPage c.session (.waitForTimeout (.float ms))]) :
      Carried c log (.wait ms)
  | waitUntil {ms deadline now : Float} (hd : c.deadline = some deadline)
      (hn : (⟨.clock, now⟩ : Event) ∈ log)
      (h : pageQuestions log = [.onPage c.session (.waitForTimeout (.float
        (if ms ≤ remaining deadline now then ms else remaining deadline now)))]) :
      Carried c log (.wait ms)

/-- Other looks at the clock and other files change nothing about what the page is asked for. -/
theorem Carried.within {plan : Plan} {log l l' : Log} (h : Carried c log plan)
    (hl : pageQuestions l = []) (hl' : pageQuestions l' = []) :
    Carried c (l ++ (log ++ l')) plan := by
  have hsame : pageQuestions (l ++ (log ++ l')) = pageQuestions log := by simp [hl, hl']
  cases h with
  | call h => exact .call (hsame.trans h)
  | capture h => exact .capture (hsame.trans h)
  | wait hd h => exact .wait hd (hsame.trans h)
  | waitUntil hd hn h =>
    exact .waitUntil hd (List.mem_append_right _ (List.mem_append_left _ hn)) (hsame.trans h)

/-- An action that is declared well asks the page for what its plan says, and any other for nothing.
-/
theorem Acted.asked {a : UiAction} {log : Log} {r : Except Failure Unit} (h : Acted c a log r) :
    (∃ plan, Plan.of a = .ok plan ∧ Carried c log plan) ∨
      ∃ f, Plan.of a = .error f ∧ log = [] ∧ r = .error f := by
  cases h with
  | refused hp => exact .inr ⟨_, hp, rfl, rfl⟩
  | called hp => exact .inl ⟨_, hp, .call rfl⟩
  | waited hp hd => exact .inl ⟨_, hp, .wait hd rfl⟩
  | waitedInTime hp hd hn =>
    exact .inl ⟨_, hp, .waitUntil hd List.mem_cons_self (by rw [if_pos hn]; rfl)⟩
  | waitedOut hp hd hn =>
    exact .inl ⟨_, hp, .waitUntil hd List.mem_cons_self (by rw [if_neg hn]; rfl)⟩
  | unseen hp => exact .inl ⟨_, hp, .capture rfl⟩
  | captured hp => exact .inl ⟨_, hp, .capture rfl⟩

/-! ## Why an action fails -/

/-- The host answers with the failure. -/
inductive Told (f : Failure) : Event → Prop
  | onPage {session : Nat} {call : Host.PageCall} : Told f ⟨.onPage session call, .error f⟩
  | screenshot {session : Nat} {shot : Host.Shot} : Told f ⟨.screenshot session shot, .error f⟩
  | store {path : Files.Path} {content : Files.Content} : Told f ⟨.store path content, .error f⟩

/-- The failure is that of the action itself: it is declared wrongly, or the host says that it
failed.
-/
def ActionFailed (a : UiAction) (log : Log) (f : Failure) : Prop :=
  Plan.of a = .error f ∨ ∃ e ∈ log, Told f e

/-- An action fails by itself or because the time is over. -/
theorem Acted.fault {a : UiAction} {log : Log} {f : Failure} (h : Acted c a log (.error f)) :
    (∃ moment, f = c.timeIsOver moment) ∨ ActionFailed a log f := by
  generalize hr : (Except.error f : Except Failure Unit) = r at h
  cases h with
  | refused hp =>
    obtain rfl := Except.error.inj hr
    exact .inr (.inl hp)
  | called hp =>
    subst hr
    exact .inr (.inr ⟨_, List.mem_cons_self, .onPage⟩)
  | waited hp hd =>
    subst hr
    exact .inr (.inr ⟨_, List.mem_cons_self, .onPage⟩)
  | waitedInTime hp hd hn =>
    subst hr
    exact .inr (.inr ⟨_, List.mem_cons_of_mem _ List.mem_cons_self, .onPage⟩)
  | @waitedOut _ _ _ told hp hd hn =>
    cases told with
    | ok _ => exact .inl ⟨_, Except.error.inj hr⟩
    | error g =>
      obtain rfl : f = g := Except.error.inj hr
      exact .inr (.inr ⟨_, List.mem_cons_of_mem _ List.mem_cons_self, .onPage⟩)
  | unseen hp =>
    obtain rfl := Except.error.inj hr
    exact .inr (.inr ⟨_, List.mem_cons_self, .screenshot⟩)
  | captured hp =>
    subst hr
    exact .inr (.inr ⟨_, List.mem_cons_of_mem _ List.mem_cons_self, .store⟩)

/-! ## One step -/

/-- What is asked in a step, when, and what comes of it. -/
structure StepKept (c : Setting) (number : Nat) (a : UiAction) (log : DatedLog)
    (result : StepResult) : Prop where
  /-- The result is about this step. -/
  action : result.action = a
  description : result.description = describeStep number a
  /-- The page is asked for what the action's plan says, or for nothing: then the step has failed
  because the time is over or because it is declared wrongly. -/
  asked : (∃ plan, Plan.of a = .ok plan ∧ Carried c (events log) plan) ∨
    pageQuestions (events log) = [] ∧
      (result.failure = some (c.timeIsOver ("before " ++ describeStep number a)) ∨
        ∃ f, Plan.of a = .error f ∧ result.failure = some f)
  /-- If the deadline has passed when the step begins, nothing is asked of the page. -/
  late : ∃ start rest, log = look start :: rest ∧
    ∀ deadline, c.deadline = some deadline → start > deadline →
      pageQuestions (events log) = [] ∧
        result.failure = some (c.timeIsOver ("before " ++ describeStep number a))
  /-- A step that passed looks at the clock after its action, and the deadline has not passed; one
  more look measures how long it took. -/
  inTime : result.passed = true → ∀ deadline, c.deadline = some deadline →
    ∃ earlier now stop, log = earlier ++ [look now, look stop] ∧ ¬now > deadline
  /-- If the deadline has passed before the last look at the clock, the step has failed, by itself
  or because the time is over. -/
  overran : ∀ deadline, c.deadline = some deadline → (∃ e ∈ log.dropLast, e.moment > deadline) →
    ∃ f, result.failure = some f ∧
      ((∃ moment, f = c.timeIsOver moment) ∨ ActionFailed a (events log) f)

namespace StepTaken

variable {description : String} {a : UiAction} {l : Log} {log rest : DatedLog}
  {ended : Except Failure Unit} {start deadline : Float}

/-- The page is asked for what the plan says, or there is a reason to ask for nothing. -/
theorem asked (h : StepTaken c description a l ended) :
    (∃ plan, Plan.of a = .ok plan ∧ Carried c l plan) ∨
      pageQuestions l = [] ∧ (ended = .error (c.timeIsOver ("before " ++ description)) ∨
        ∃ f, Plan.of a = .error f ∧ ended = .error f) := by
  cases h with
  | tooLate hl => exact .inr ⟨hl.pageQuestions, .inl rfl⟩
  | @failed l₁ l₂ _ hl ha =>
    rcases ha.asked with ⟨plan, hp, hcarried⟩ | ⟨f, hp, rfl, hf⟩
    · have hwithin := hcarried.within hl.pageQuestions pageQuestions_nil
      exact .inl ⟨plan, hp, by simpa using hwithin⟩
    · exact .inr ⟨by simp [hl.pageQuestions], .inr ⟨f, hp, hf⟩⟩
  | overran hl ha ho =>
    rcases ha.asked with ⟨plan, hp, hcarried⟩ | ⟨_, _, _, hf⟩
    · exact .inl ⟨plan, hp, hcarried.within hl.pageQuestions ho.pageQuestions⟩
    · cases hf
  | taken hl ha ht =>
    rcases ha.asked with ⟨plan, hp, hcarried⟩ | ⟨_, _, _, hf⟩
    · exact .inl ⟨plan, hp, hcarried.within hl.pageQuestions ht.pageQuestions⟩
    · cases hf

/-- A step fails by itself or because the time is over. -/
theorem fault {f : Failure} (h : StepTaken c description a l (.error f)) :
    (∃ moment, f = c.timeIsOver moment) ∨ ActionFailed a l f := by
  cases h with
  | tooLate hl => exact .inl ⟨_, rfl⟩
  | failed hl ha =>
    rcases ha.fault with htime | hp | ⟨e, he, htold⟩
    · exact .inl htime
    · exact .inr (.inl hp)
    · exact .inr (.inr ⟨e, List.mem_append_right _ he, htold⟩)
  | overran hl ha ho => exact .inl ⟨_, rfl⟩

/-- A step does not come in time that begins after the deadline. -/
theorem late (h : StepTaken c description a (events log) ended)
    (hc : Chronological (look start :: log)) (hd : c.deadline = some deadline)
    (hs : start > deadline) :
    pageQuestions (events log) = [] ∧ ended = .error (c.timeIsOver ("before " ++ description)) := by
  have hnot : ∀ {l₁ l₂ : Log}, events log = l₁ ++ l₂ → ¬InTime c l₁ := by
    intro l₁ l₂ hl hin
    obtain ⟨now, rfl, hn⟩ := hin.eq_look hd
    have hcLog : Chronological log := hc.sublist (List.sublist_cons_self _ _)
    obtain ⟨d, rfl, -⟩ := hcLog.eq_look_cons hl
    exact hn (hc.after hs List.mem_cons_self)
  generalize hl : events log = l at h
  cases h with
  | tooLate hover => exact ⟨hover.pageQuestions, rfl⟩
  | failed hin _ => exact absurd hin (hnot hl)
  | overran hin _ _ => exact absurd hin (hnot hl)
  | taken hin _ _ => exact absurd hin (hnot hl)

/-- A step that ends well looks at the clock last, and finds it in time. -/
theorem inTime (h : StepTaken c description a (events log) (.ok ())) (hc : Chronological log)
    (hd : c.deadline = some deadline) :
    ∃ earlier now, log = earlier ++ [look now] ∧ ¬now > deadline := by
  generalize hl : events log = l at h
  cases h with
  | @taken l₁ l₂ l₃ _ _ ht =>
    obtain ⟨now, rfl, hn⟩ := ht.eq_look hd
    obtain ⟨earlier, d, rfl, -, hnil⟩ :=
      hc.eq_append_look (hl.trans (List.append_assoc _ _ _).symm)
    obtain rfl := events_eq_nil hnil
    exact ⟨earlier, now, rfl, hn⟩

end StepTaken

/-- The looks at the clock around a step. -/
theorem StepRan.looks {number : Nat} {a : UiAction} {log : DatedLog} {result : StepResult}
    (h : StepRan c number a (events log) result) (hc : Chronological log) :
    ∃ start rest stop ended, log = look start :: (rest ++ [look stop]) ∧
      StepTaken c (describeStep number a) a (events rest) ended ∧
      result = ⟨a, describeStep number a, failureOf ended, elapsed start stop⟩ := by
  generalize hl : events log = l at h
  cases h with
  | @ran start stop l ended h =>
    obtain ⟨d, rfl, hd⟩ := hc.eq_look_cons hl
    have hcRest : Chronological d := hc.sublist (List.sublist_cons_self _ _)
    obtain ⟨rest, d', rfl, rfl, hnil⟩ := hcRest.eq_append_look hd
    obtain rfl := events_eq_nil hnil
    exact ⟨start, rest, stop, ended, rfl, h, rfl⟩

/-- **A step keeps to the time allowed.** -/
theorem StepRan.kept {number : Nat} {a : UiAction} {log : DatedLog} {result : StepResult}
    (h : StepRan c number a (events log) result) (hc : Chronological log) :
    StepKept c number a log result := by
  obtain ⟨start, rest, stop, ended, rfl, ht, rfl⟩ := h.looks hc
  have hsame : pageQuestions (events (look start :: (rest ++ [look stop]))) =
      pageQuestions (events rest) := by
    simp [look, asksPage]
  have hcRest : Chronological (look start :: rest) := by
    rw [← List.cons_append] at hc
    exact hc.left
  refine ⟨rfl, rfl, ?asked, ⟨start, _, rfl, fun deadline hd hs => ?late⟩,
    fun hp deadline hd => ?inTime, fun deadline hd hlate => ?overran⟩
  case asked =>
    rw [hsame]
    rcases ht.asked with ⟨plan, hp, hcarried⟩ | ⟨hnone, rfl | ⟨f, hp, rfl⟩⟩
    · have hwithin : Carried c ([⟨.clock, start⟩] ++ (events rest ++ [⟨.clock, stop⟩])) plan :=
        hcarried.within rfl rfl
      exact .inl ⟨plan, hp, by simpa [look] using hwithin⟩
    · exact .inr ⟨hnone, .inl rfl⟩
    · exact .inr ⟨hnone, .inr ⟨f, hp, rfl⟩⟩
  case late =>
    obtain ⟨hnone, rfl⟩ := ht.late hcRest hd hs
    exact ⟨hsame.trans hnone, rfl⟩
  case inTime =>
    cases ended with
    | ok _ =>
      obtain ⟨earlier, now, rfl, hn⟩ := ht.inTime (hcRest.sublist (List.sublist_cons_self _ _)) hd
      exact ⟨look start :: earlier, now, stop, by simp, hn⟩
    | error f => cases hp
  case overran =>
    obtain ⟨e, he, hover⟩ := hlate
    cases ended with
    | ok _ =>
      obtain ⟨earlier, now, rfl, hn⟩ := ht.inTime (hcRest.sublist (List.sublist_cons_self _ _)) hd
      have he' : e ∈ (look start :: earlier) ++ [look now] := by
        rw [← List.cons_append, List.dropLast_concat] at he
        simpa using he
      rcases List.mem_append.mp he' with he | he
      · exact absurd hover (hcRest.before hn e he)
      · obtain rfl := List.mem_singleton.mp he
        exact absurd hover hn
    | error f =>
      refine ⟨f, rfl, ?_⟩
      rcases ht.fault with htime | hp | ⟨e, he, htold⟩
      · exact .inl htime
      · exact .inr (.inl hp)
      · exact .inr (.inr ⟨e, by simp [he], htold⟩)

/-! ## All steps -/

/-- Steps none of which failed end with a look at the clock that finds the deadline not passed, and
one for the time that the last step took. -/
theorem StepsTaken.inTime {number : Nat} {steps : List UiAction} {l : Log}
    {ended : Option (Failure × String)} {deadline : Float} (h : StepsTaken c number steps l ended)
    (he : ended = none) (hne : steps ≠ []) (hd : c.deadline = some deadline) :
    ∃ earlier now stop, l = earlier ++ [⟨.clock, now⟩, ⟨.clock, stop⟩] ∧ ¬now > deadline := by
  induction h with
  | done => exact absurd rfl hne
  | stopped => cases he
  | @next number a rest start stop l l' ended h hr ih =>
    cases rest with
    | cons b rest =>
      obtain ⟨earlier, now, stop', rfl, hn⟩ := ih he (List.cons_ne_nil _ _)
      exact ⟨⟨.clock, start⟩ :: (l ++ ⟨.clock, stop⟩ :: earlier), now, stop', by simp, hn⟩
    | nil =>
      cases hr
      cases h with
      | @taken l₁ l₂ l₃ _ _ ht =>
        obtain ⟨now, rfl, hn⟩ := ht.eq_look hd
        exact ⟨⟨.clock, start⟩ :: (l₁ ++ l₂), now, stop, by simp, hn⟩

/-- The first step that failed. -/
def failedStep (results : List StepResult) : Option StepResult := results.find? fun r => !r.passed

/-- What is asked in the steps of a case, of which the first has this number, when, and what comes
of them. -/
structure StepsKept (c : Setting) (number : Nat) (steps : List UiAction)
    (runs : List (DatedLog × StepResult)) : Prop where
  /-- The results are those of the first steps, as many as were taken. -/
  front : runs.map (fun run => run.2.action) <+: steps
  /-- Each is taken as it should be. -/
  taken : ∀ i (h : i < runs.length), ∃ a, steps[i]? = some a ∧
    StepKept c (number + i) a runs[i].1 runs[i].2
  /-- Only the last can have failed. -/
  passed : ∀ run ∈ runs.dropLast, run.2.passed = true
  /-- No step is left out unless one failed. -/
  whole : (∀ run ∈ runs, run.2.passed = true) → runs.map (fun run => run.2.action) = steps
  /-- If one failed, it is the last that was taken. -/
  failed : (∃ run ∈ runs, run.2.passed = false) →
    failedStep (runs.map Prod.snd) = (runs.map Prod.snd).getLast?
  /-- If none failed, the last look at the time allowed finds it not over. -/
  inTime : runs ≠ [] → (∀ run ∈ runs, run.2.passed = true) →
    ∀ deadline, c.deadline = some deadline → ∃ earlier now stop,
      runs.flatMap Prod.fst = earlier ++ [look now, look stop] ∧ ¬now > deadline

namespace StepsKept

variable {number : Nat} {a : UiAction} {rest : List UiAction} {run : DatedLog × StepResult}
  {runs : List (DatedLog × StepResult)}

theorem nil : StepsKept c number [] [] where
  front := List.prefix_refl _
  taken := fun i h => absurd h (Nat.not_lt_zero i)
  passed := fun _ h => absurd h List.not_mem_nil
  whole := fun _ => rfl
  failed := fun ⟨_, h, _⟩ => absurd h List.not_mem_nil
  inTime := fun h => absurd rfl h

/-- The steps end with the one that failed. -/
theorem stop (hk : StepKept c number a run.1 run.2) (hf : run.2.passed = false) :
    StepsKept c number (a :: rest) [run] where
  front := by simp [hk.action]
  taken := by
    intro i h
    obtain rfl : i = 0 := Nat.lt_one_iff.mp h
    exact ⟨a, rfl, hk⟩
  passed := fun _ h => absurd h List.not_mem_nil
  whole := by
    intro h
    cases hf.symm.trans (h run List.mem_cons_self)
  failed := by simp [failedStep, hf]
  inTime := by
    intro _ h
    cases hf.symm.trans (h run List.mem_cons_self)

/-- The steps go on after one that passed. -/
theorem cons (hk : StepKept c number a run.1 run.2) (hp : run.2.passed = true)
    (hr : StepsKept c (number + 1) rest runs) : StepsKept c number (a :: rest) (run :: runs) where
  front := by
    rw [List.map_cons, hk.action]
    exact List.cons_prefix_cons.mpr ⟨rfl, hr.front⟩
  taken := by
    intro i h
    cases i with
    | zero => exact ⟨a, rfl, hk⟩
    | succ i =>
      obtain ⟨b, hb, hkept⟩ := hr.taken i (Nat.lt_of_succ_lt_succ h)
      exact ⟨b, hb, by rwa [Nat.add_assoc, Nat.add_comm 1] at hkept⟩
  passed := by
    intro run' h
    cases runs with
    | nil => cases h
    | cons next runs =>
      rcases List.mem_cons.mp h with rfl | h
      · exact hp
      · exact hr.passed run' h
  whole := by
    intro h
    rw [List.map_cons, hk.action, hr.whole (List.forall_mem_cons.mp h).2]
  failed := by
    rintro ⟨run', h, hf⟩
    have hrest : ∃ run ∈ runs, run.2.passed = false := by
      rcases List.mem_cons.mp h with rfl | h
      · cases hp.symm.trans hf
      · exact ⟨run', h, hf⟩
    have hlast := hr.failed hrest
    obtain ⟨_, hne, _⟩ := hrest
    obtain ⟨next, runs, rfl⟩ := List.exists_cons_of_ne_nil (List.ne_nil_of_mem hne)
    rw [List.map_cons, failedStep, List.find?_cons_of_neg (by simp [hp])]
    exact hlast
  inTime := by
    intro _ h deadline hd
    cases runs with
    | nil =>
      obtain ⟨earlier, now, stop, hlog, hn⟩ := hk.inTime hp deadline hd
      exact ⟨earlier, now, stop, by simpa using hlog, hn⟩
    | cons next runs =>
      obtain ⟨earlier, now, stop, hlog, hn⟩ :=
        hr.inTime (List.cons_ne_nil _ _) (List.forall_mem_cons.mp h).2 deadline hd
      exact ⟨run.1 ++ earlier, now, stop, by rw [List.flatMap_cons, hlog, List.append_assoc], hn⟩

end StepsKept

/-- **The steps of a case keep to the time allowed.** -/
theorem StepsRan.kept {number : Nat} {steps : List UiAction} {runs : List (DatedLog × StepResult)}
    (h : StepsRan c number steps (runs.map fun run => (events run.1, run.2)))
    (hc : Chronological (runs.flatMap Prod.fst)) : StepsKept c number steps runs := by
  generalize hm : runs.map (fun run => (events run.1, run.2)) = parts at h
  induction h generalizing runs with
  | done =>
    obtain rfl := List.map_eq_nil_iff.mp hm
    exact .nil
  | stopped hran hf =>
    obtain ⟨run, rfl, rfl⟩ := List.map_eq_singleton_iff.mp hm
    rw [List.flatMap_cons] at hc
    exact .stop (hran.kept hc.left) hf
  | next hran hp _ ih =>
    obtain ⟨run, runs, rfl, rfl, rfl⟩ := List.map_eq_cons_iff.mp hm
    rw [List.flatMap_cons] at hc
    exact .cons (hran.kept hc.left) hp (ih hc.right rfl)

variable {σ : Type} {answer : (q : Question) → σ → q.Answer × σ} {time : σ → Float}

/-- **Whatever a page does and however long it takes**, the steps on it end with a result for each
that was taken, and keep to the time allowed. Where reading the clock takes no time, steps that all
passed end in time. -/
theorem runSteps_kept (hk : KeepsTime answer time) (c : Setting) (steps : List UiAction)
    (before : List Attachment) (s : σ) :
    ∃ runs : List (DatedLog × StepResult),
      ((c.runSteps steps).run.run before).datedLogOf answer time s = runs.flatMap Prod.fst ∧
      (((c.runSteps steps).run.run before).run answer s).1.1 = .ok (runs.map Prod.snd) ∧
      StepsKept c 1 steps runs ∧
      ((∀ s, time (answer .clock s).2 = time s) → runs ≠ [] →
        (∀ run ∈ runs, run.2.passed = true) → ∀ deadline, c.deadline = some deadline →
          ¬time (((c.runSteps steps).run.run before).run answer s).2 > deadline) := by
  have htrace := (Program.traces_run answer ((c.runSteps steps).run.run before) s).1
  have hchron := Program.chronological_datedLogOf hk ((c.runSteps steps).run.run before) s
  obtain ⟨parts, hlog, hresult, hran⟩ := stepsRan_of_traces htrace
  rw [← Program.events_datedLogOf] at hlog
  obtain ⟨runs, hdated, rfl⟩ := events_eq_flatMap hlog
  rw [hdated] at hchron
  rw [List.map_map] at hresult
  have hkept : StepsKept c 1 steps runs := hran.kept hchron
  refine ⟨runs, hdated, hresult, hkept, fun hstill hne hp deadline hd => ?_⟩
  obtain ⟨earlier, now, stop, hend, hn⟩ := hkept.inTime hne hp deadline hd
  have hlooks := hdated.trans hend
  obtain rfl : stop = now := Program.look_look hstill hlooks
  have htime : time (((c.runSteps steps).run.run before).run answer s).2 =
      Program.lastMoment (time s) (earlier ++ [look stop, look stop]) := by
    rw [← hlooks]
    exact Program.time_run
  rw [htime, List.append_cons, Program.lastMoment_concat]
  exact hn

/-- A page on which everything takes a second and ends in the way given. -/
def slowPage (ended : Except Failure Unit) : (q : Question) → Bool → q.Answer × Bool :=
  Host.lagging asksPage (Host.pagesThat ended)

theorem slowPage_keepsTime (ended : Except Failure Unit) :
    KeepsTime (slowPage ended) Host.stopwatch := Host.lagging_keepsTime _ _

/-- Half a second is allowed. -/
def halfSecond : Setting :=
  { session := 0, screenshotsDir := .ofText "shots", snapshotDir := .ofText "snapshots"
    limit := 0.01, deadline := some 0.5, timeout := .int 500 }

/-- A click on the start button. -/
def clickStart : UiAction :=
  { action := "click", selector := some "#start", value := .null, options := []
    description := none }

/-- Of two clicks that take a second each, with half a second allowed, one is made. -/
theorem runSteps_kept_twice :
    KeepsTime (slowPage (.ok ())) Host.stopwatch ∧
      ∃ runs : List (DatedLog × StepResult),
        ((halfSecond.runSteps [clickStart, clickStart]).run.run []).datedLogOf (slowPage (.ok ()))
          Host.stopwatch false = runs.flatMap Prod.fst ∧
        (((halfSecond.runSteps [clickStart, clickStart]).run.run []).run (slowPage (.ok ()))
          false).1.1 = .ok (runs.map Prod.snd) ∧
        StepsKept halfSecond 1 [clickStart, clickStart] runs ∧ runs.length = 1 := by
  obtain ⟨runs, hlog, hresult, hkept, -⟩ := runSteps_kept (slowPage_keepsTime (.ok ())) halfSecond
    [clickStart, clickStart] [] false
  refine ⟨slowPage_keepsTime (.ok ()), runs, hlog, hresult, hkept, ?_⟩
  have hone : (.ok (runs.map Prod.snd) : Except Failure (List StepResult)) = .ok
      [⟨clickStart, "Step 1: click", some (halfSecond.timeIsOver "during Step 1: click"),
        1000.0⟩] :=
    hresult.symm.trans rfl
  rw [← List.length_map Prod.snd, Except.ok.inj hone]
  rfl

/-- The failure of a page that is lost. -/
def pageLost : Failure := ⟨.action, "page lost"⟩

/-- A click, the only step, fails by itself and takes a second: all steps were taken though one
failed, and half a second was allowed though that is not what it failed for. -/
theorem runSteps_lost :
    KeepsTime (slowPage (.error pageLost)) Host.stopwatch ∧
      ∃ result,
        (((halfSecond.runSteps [clickStart]).run.run []).run (slowPage (.error pageLost))
          false).1.1 = .ok [result] ∧
        ¬([result].map StepResult.action = [clickStart] ↔ [result].all StepResult.passed = true) ∧
        Host.stopwatch (((halfSecond.runSteps [clickStart]).run.run []).run
          (slowPage (.error pageLost)) false).2 > 0.5 ∧
        result.failure = some pageLost ∧ pageLost.kind ≠ .timeout := by
  refine ⟨slowPage_keepsTime _, ⟨clickStart, "Step 1: click", some pageLost, 1000.0⟩, rfl, ?_,
    by decide, rfl, ?_⟩
  · intro h
    have hpassed := h.mp rfl
    cases hpassed
  · intro h
    cases h

/-! ## The picture -/

/-- When the comparison with a stored picture looks at the clock, if there is a deadline: once, and
before the picture is taken. -/
inductive LooksOnce (c : Setting) (s : SnapshotRequest) (deadline : Float) :
    DatedLog → Except Failure Unit → Prop
  | over {now : Float} (hn : now > deadline) :
      LooksOnce c s deadline [look now] (.error (c.timeIsOver ("before snapshot " ++ s.name)))
  | taken {now : Float} {shown : DatedEvent} {rest : DatedLog} {r : Except Failure Unit}
      (hn : ¬now > deadline)
      (hq : shown.event.question = .screenshot c.session (snapshotShot s))
      (hrest : ∀ e ∈ rest, e.event.question ≠ .clock ∧ asksPage e.event.question = false) :
      LooksOnce c s deadline (look now :: shown :: rest) r

theorem Compared.looksOnce {s : SnapshotRequest} {log : DatedLog} {r : Except Failure Unit}
    {deadline : Float} (h : Compared c s (events log) r) (hc : Chronological log)
    (hd : c.deadline = some deadline) : LooksOnce c s deadline log r := by
  have htaken : ∀ {l₁ l₂ : Log} {shown : Event} {r : Except Failure Unit}, InTime c l₁ →
      events log = l₁ ++ shown :: l₂ →
        shown.question = .screenshot c.session (snapshotShot s) →
          (∀ e ∈ l₂, e.question ≠ .clock ∧ asksPage e.question = false) →
            LooksOnce c s deadline log r := by
    intro l₁ l₂ shown r hin hl hq hl₂
    obtain ⟨now, rfl, hn⟩ := hin.eq_look hd
    obtain ⟨rest, hlog, hrest⟩ := hc.eq_look_cons hl
    obtain ⟨moment, rest', rfl, hrest'⟩ := events_eq_cons (hrest.trans (List.nil_append _))
    rw [hlog]
    exact .taken hn hq fun e he => hl₂ e.event (hrest' ▸ Host.mem_events_of_mem he)
  generalize hl : events log = l at h
  cases h with
  | tooLate hover =>
    obtain ⟨now, rfl, hn⟩ := hover.eq_look hd
    obtain ⟨rest, rfl, hrest⟩ := hc.eq_look_cons hl
    obtain rfl := events_eq_nil hrest
    exact .over hn
  | unseen hin => exact htaken hin hl rfl fun _ he => absurd he List.not_mem_nil
  | uncompared hin =>
    refine htaken hin hl rfl fun e he => ?_
    obtain rfl := List.mem_singleton.mp he
    exact ⟨Question.noConfusion, rfl⟩
  | compared hin =>
    refine htaken hin hl rfl fun e he => ?_
    obtain rfl := List.mem_singleton.mp he
    exact ⟨Question.noConfusion, rfl⟩

/-- **The comparison looks at the clock once**, before its picture is taken. -/
theorem verifySnapshot_looksOnce (hk : KeepsTime answer time) (c : Setting)
    (snapshot : SnapshotRequest) (before : List Attachment) (s : σ) {deadline : Float}
    (hd : c.deadline = some deadline) :
    LooksOnce c snapshot deadline
      (((c.verifySnapshot snapshot).run.run before).datedLogOf answer time s)
      (((c.verifySnapshot snapshot).run.run before).run answer s).1.1 := by
  have hcompared := compared_of_traces
    (Program.traces_run answer ((c.verifySnapshot snapshot).run.run before) s).1
  have hchron := Program.chronological_datedLogOf hk
    ((c.verifySnapshot snapshot).run.run before) s
  rw [← Program.events_datedLogOf] at hcompared
  exact hcompared.looksOnce hchron hd

end SuiteEngine.Ui
