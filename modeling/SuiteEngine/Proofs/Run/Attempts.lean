import SuiteEngine.Config.Settings
import SuiteEngine.Proofs.Host.Pool
import SuiteEngine.Run.Attempts

/-!
# What the attempts at a case are

The attempts at a case are made one after the other, with a warning before each but the first.
`Tried` says which of them may follow each other: every attempt but the last one could be tried
again, and the last one could not, or none was left.

Headlines:
* `traces_attemptsFrom`: the attempts that remain, by induction on how many are left.
* **`traces_runAttempts`**: the traces of a case are its attempts between two looks at the clock,
  and its result is made of how the last attempt ended.
* `Tried.attempts_le`: there are between one and `retries + 1` of them.
* `runSideBySide_spec`: cases that run side by side each run by themselves.
-/

namespace SuiteEngine.Run

open Host (Event Interleaves Log Program)
open Report (CaseResult)

/-- An attempt that was made: what it asked and was told, and how it ended. -/
structure Try where
  log : Log
  outcome : AttemptOutcome

/-- What attempts ask one after the other, the last of them given apart, where `made` came before.
-/
def triesLog (suite name : String) (allowed : Nat) : (made : Nat) → List Try → Try → Log
  | _, [], last => last.log
  | made, t :: ts, last =>
    t.log ++ ⟨.warn (retryWarning suite name t.outcome (made + 2) allowed), ()⟩ ::
      triesLog suite name allowed (made + 1) ts last

/-- What an attempt asked is part of what all of them asked. -/
theorem triesLog_mem {suite name : String} {allowed made : Nat} {earlier : List Try} {last t : Try}
    (ht : t ∈ earlier ++ [last]) : t.log ⊆ triesLog suite name allowed made earlier last := by
  induction earlier generalizing made with
  | nil =>
    obtain rfl := List.mem_singleton.mp ht
    exact List.Subset.refl _
  | cons u earlier ih =>
    rw [triesLog]
    rcases List.mem_cons.mp ht with rfl | ht
    · exact List.subset_append_left _ _
    · exact fun e he => List.mem_append_right _ (List.mem_cons_of_mem _ (ih ht he))

/-- The attempts that are made where `made` came before and `left` may follow the first of them. -/
structure Tried (attempt : Nat → Program AttemptOutcome) (made left : Nat) (earlier : List Try)
    (last : Try) : Prop where
  few : earlier.length ≤ left
  again : ∀ t ∈ earlier, t.outcome.retryable = true
  stopped : last.outcome.retryable = true → earlier.length = left
  traces : ∀ i t, (earlier ++ [last])[i]? = some t →
    (attempt (made + 1 + i)).Traces t.log t.outcome

namespace Tried

variable {attempt : Nat → Program AttemptOutcome} {made left : Nat} {earlier : List Try}
  {t last : Try}

theorem attempts_pos : 1 ≤ (earlier ++ [last]).length := by simp

theorem attempts_le (h : Tried attempt made left earlier last) :
    (earlier ++ [last]).length ≤ left + 1 := by
  simpa using h.few

/-- One attempt, after which none is made. -/
theorem single (ht : (attempt (made + 1)).Traces last.log last.outcome)
    (hs : last.outcome.retryable = true → left = 0) : Tried attempt made left [] last where
  few := Nat.zero_le _
  again := by simp
  stopped h := (hs h).symm
  traces := by
    rintro (_ | i) t hi
    · obtain rfl := Option.some.inj hi
      exact ht
    · simp at hi

/-- One attempt more, before the others. -/
theorem cons (ht : (attempt (made + 1)).Traces t.log t.outcome) (hr : t.outcome.retryable = true)
    (h : Tried attempt (made + 1) left earlier last) :
    Tried attempt made (left + 1) (t :: earlier) last where
  few := Nat.succ_le_succ h.few
  again := by
    rintro u hu
    rcases List.mem_cons.mp hu with rfl | hu
    · exact hr
    · exact h.again u hu
  stopped hl := congrArg (· + 1) (h.stopped hl)
  traces := by
    rintro (_ | i) u hi
    · obtain rfl := Option.some.inj hi
      exact ht
    · have hu := h.traces i u hi
      rwa [show made + 1 + 1 + i = made + 1 + (i + 1) by omega] at hu

theorem head (h : Tried attempt made left (t :: earlier) last) :
    (attempt (made + 1)).Traces t.log t.outcome := h.traces 0 t rfl

theorem tail (h : Tried attempt made (left + 1) (t :: earlier) last) :
    Tried attempt (made + 1) left earlier last where
  few := Nat.le_of_succ_le_succ h.few
  again u hu := h.again u (List.mem_cons_of_mem t hu)
  stopped hl := Nat.succ.inj (h.stopped hl)
  traces i u hi := by
    have hu := h.traces (i + 1) u hi
    rwa [show made + 1 + (i + 1) = made + 1 + 1 + i by omega] at hu

/-- Of attempts that are all alike, each is one. -/
theorem traces_of_mem {p : Program AttemptOutcome} (h : Tried (fun _ => p) made left earlier last)
    (ht : t ∈ earlier ++ [last]) : p.Traces t.log t.outcome := by
  obtain ⟨i, hi⟩ := List.getElem?_of_mem ht
  exact h.traces i t hi

/-- An attempt that cannot be tried again is the last one. -/
theorem eq_last (h : Tried attempt made left earlier last) {i : Nat}
    (hi : (earlier ++ [last])[i]? = some t) (hr : t.outcome.retryable = false) :
    i = earlier.length := by
  rcases Nat.lt_trichotomy i earlier.length with hlt | heq | hgt
  · rw [List.getElem?_append_left hlt] at hi
    cases hr.symm.trans (h.again t (List.mem_of_getElem? hi))
  · exact heq
  · have hlen : i < (earlier ++ [last]).length := (List.getElem?_eq_some_iff.mp hi).1
    rw [List.length_append, List.length_singleton] at hlen
    omega

/-- One that may be tried again is the last one only if none is left. -/
theorem eq_last_iff (h : Tried attempt made left earlier last) {i : Nat}
    (hi : (earlier ++ [last])[i]? = some t) (hr : t.outcome.retryable = true) :
    i = earlier.length ↔ i = left := by
  constructor
  · rintro rfl
    obtain rfl : last = t := by simpa using hi
    exact h.stopped hr
  · rintro rfl
    have hlen : i < (earlier ++ [last]).length := (List.getElem?_eq_some_iff.mp hi).1
    have hfew := h.few
    rw [List.length_append, List.length_singleton] at hlen
    omega

end Tried

variable {suite name : String} {allowed : Nat} {attempt : Nat → Program AttemptOutcome} {log : Log}

theorem traces_attemptsFrom_zero {made : Nat} {r : AttemptOutcome × Nat} :
    (attemptsFrom suite name allowed attempt made 0).Traces log r ↔
      ∃ o, (attempt (made + 1)).Traces log o ∧ r = (o, made + 1) := by
  rw [attemptsFrom]
  exact Program.traces_map

theorem traces_attemptsFrom_succ {made left : Nat} {r : AttemptOutcome × Nat} :
    (attemptsFrom suite name allowed attempt made (left + 1)).Traces log r ↔
      ∃ o l₁ l₂, log = l₁ ++ l₂ ∧ (attempt (made + 1)).Traces l₁ o ∧
        ((o.retryable = false ∧ l₂ = [] ∧ r = (o, made + 1)) ∨
          (o.retryable = true ∧ ∃ rest,
            l₂ = ⟨.warn (retryWarning suite name o (made + 2) allowed), ()⟩ :: rest ∧
              (attemptsFrom suite name allowed attempt (made + 1) left).Traces rest r)) := by
  rw [attemptsFrom, Program.traces_bind]
  constructor
  · rintro ⟨l₁, o, l₂, rfl, h₁, h₂⟩
    refine ⟨o, l₁, l₂, rfl, h₁, ?_⟩
    split at h₂
    · rename_i hr
      obtain ⟨_, _, rest, rfl, hw, h₃⟩ := Program.traces_bind.mp h₂
      obtain rfl := Program.traces_warn.mp hw
      exact .inr ⟨hr, rest, rfl, h₃⟩
    · rename_i hr
      exact .inl ⟨by simpa using hr, h₂⟩
  · rintro ⟨o, l₁, l₂, rfl, h₁, ⟨hr, h₂⟩ | ⟨hr, rest, rfl, h₂⟩⟩
    · exact ⟨l₁, o, l₂, rfl, h₁, by rw [if_neg (by simp [hr])]; exact h₂⟩
    · refine ⟨l₁, o, _, rfl, h₁, ?_⟩
      rw [if_pos hr]
      exact Program.traces_bind.mpr ⟨[_], (), rest, rfl, Program.traces_warn.mpr rfl, h₂⟩

/-- The attempts that remain where some were made. -/
theorem traces_attemptsFrom {made left : Nat} {r : AttemptOutcome × Nat} :
    (attemptsFrom suite name allowed attempt made left).Traces log r ↔
      ∃ earlier last, Tried attempt made left earlier last ∧
        log = triesLog suite name allowed made earlier last ∧
        r = (last.outcome, made + (earlier.length + 1)) := by
  induction left generalizing made log with
  | zero =>
    rw [traces_attemptsFrom_zero]
    constructor
    · rintro ⟨o, h, rfl⟩
      exact ⟨[], ⟨log, o⟩, .single h fun _ => rfl, rfl, rfl⟩
    · rintro ⟨earlier, last, h, rfl, rfl⟩
      obtain rfl := List.length_eq_zero_iff.mp (Nat.le_zero.mp h.few)
      exact ⟨last.outcome, h.traces 0 last rfl, rfl⟩
  | succ left ih =>
    rw [traces_attemptsFrom_succ]
    constructor
    · rintro ⟨o, l₁, l₂, rfl, h₁, ⟨hr, rfl, rfl⟩ | ⟨hr, rest, rfl, h₂⟩⟩
      · rw [List.append_nil]
        exact ⟨[], ⟨l₁, o⟩, .single h₁ (by simp [hr]), rfl, rfl⟩
      · obtain ⟨earlier, last, h, rfl, rfl⟩ := ih.mp h₂
        refine ⟨⟨l₁, o⟩ :: earlier, last, .cons h₁ hr h, rfl, ?_⟩
        rw [List.length_cons, show made + 1 + (earlier.length + 1) =
          made + (earlier.length + 1 + 1) by omega]
    · rintro ⟨earlier, last, h, rfl, rfl⟩
      cases earlier with
      | nil =>
        have ht := h.traces 0 last rfl
        refine ⟨last.outcome, last.log, [], (List.append_nil _).symm, ht, .inl ⟨?_, rfl, rfl⟩⟩
        cases hr : last.outcome.retryable with
        | false => rfl
        | true => exact absurd (h.stopped hr) (Nat.succ_ne_zero left).symm
      | cons t earlier =>
        refine ⟨t.outcome, t.log, _, rfl, h.head, .inr ⟨h.again t List.mem_cons_self, _, rfl, ?_⟩⟩
        refine ih.mpr ⟨earlier, last, h.tail, rfl, ?_⟩
        rw [List.length_cons, show made + 1 + (earlier.length + 1) =
          made + (earlier.length + 1 + 1) by omega]

/-- A configuration that says nothing but where the API and the pages are. -/
def bareConfig (apiBaseUrl uiBaseUrl : String) : Config :=
  { path := .ofText "config.yaml"
    environment := { name := "dev", apiBaseUrl, uiBaseUrl }
    execution := {
      timeout := 30000, retries := 0, workers := 4, actionTimeout := 15000
      navigationTimeout := 30000 }
    auth := Config.Auth.off
    headers := []
    browser := { name := "chromium", headless := true }
    features := {
      screenshots := true, snapshots := true, snapshotDir := .ofText "snapshots"
      maxDiffPixelRatio := 0.01 } }

/-- How often a case may be tried again, which says so itself or leaves it to the configuration. -/
def retriesFor (config : Config) (own : Option Value) : Nat :=
  retriesOf (own.getD (.int config.execution.retries))

/-- The result of a case whose last attempt ended so, after so many attempts. -/
def resultOf (suite name : String) (tags : List String) (o : AttemptOutcome) (attempts : Nat)
    (duration : Float) : CaseResult :=
  { suite, name, status := o.status, tags, failureKind := o.failureKind, message := o.message
    attempts, duration, attachments := o.attachments }

/-- **A case is its attempts between two looks at the clock**, and ends as the last of them. -/
theorem traces_runAttempts {tags : List String} {retries : Nat} {r : CaseResult} :
    (runAttempts suite name tags retries attempt).Traces log r ↔
      ∃ earlier last start stop, Tried attempt 0 retries earlier last ∧
        log = ⟨.clock, start⟩ :: triesLog suite name (retries + 1) 0 earlier last ++
          [⟨.clock, stop⟩] ∧
        r = resultOf suite name tags last.outcome (earlier.length + 1) (elapsed start stop) := by
  simp only [runAttempts, Program.traces_bind, Program.traces_clock, Program.traces_pure,
    traces_attemptsFrom]
  constructor
  · rintro ⟨_, start, _, rfl, rfl, _, _, _, rfl, ⟨earlier, last, h, rfl, rfl⟩, _, stop, _, rfl, rfl,
      rfl, rfl⟩
    exact ⟨earlier, last, start, stop, h, by simp, by simp [resultOf]⟩
  · rintro ⟨earlier, last, start, stop, h, rfl, rfl⟩
    refine ⟨[_], start, _ ++ [⟨.clock, stop⟩], rfl, rfl, _, _, _, rfl,
      ⟨earlier, last, h, rfl, rfl⟩, [_], stop, [], rfl, rfl, rfl, by simp [resultOf]⟩

/-! ## Cases side by side -/

theorem one_le_placesFor (workers : Int) (count : Nat) : 1 ≤ placesFor workers count := by
  unfold placesFor
  omega

/-- Cases that run side by side each run by themselves. -/
theorem runSideBySide_spec {workers : Int} {turns : List Nat}
    {cases : List (Program CaseResult)}
    {results : List CaseResult} (h : (runSideBySide workers turns cases).Traces log results) :
    ∃ runs : List (Log × CaseResult),
      List.Forall₂ (fun c run => c.Traces run.1 run.2) cases runs ∧
        Interleaves (runs.map Prod.fst) log ∧ results = runs.map Prod.snd :=
  (Program.sideBySide_of_traces (one_le_placesFor workers cases.length) h).threads

end SuiteEngine.Run
