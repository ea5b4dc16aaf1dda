import SuiteEngine.Proofs.Run.ApiSuite

/-!
# Cases that run side by side run as if alone

Where clients open and answer as functions of the context and the request, a case asks the same and
ends in the same way whatever goes on beside it; only the clock may tell it something else. So each
result of a suite is, but for its duration, that of a suite of this case alone, with any number of
workers and in any order of turns.

Headlines:
* `Tried.unique`: attempts that are told the same are the same, by induction on how many are left.
* `runApiCase_unique`: a case ends in one way only.
* `sideBySide_alone`: so it does beside others, in any order of steps.
* **`runApiCases_alone`**: the results of a suite are those of its selected cases alone, in the
  order of their declaration.
-/

namespace SuiteEngine.Run

open Host (ClientContext Event Fallible Log Program Trial)
open Host.Fallible (ClientsOnly Steady SteadyClients)
open Report (CaseResult SuiteResult)
open Suite (ApiCase ApiSuite SideCall)

variable {config : Config} {suite : ApiSuite} {p : Preparation} {turns : List Nat}
  {tags : List String} {log : Log} {opens : ClientContext → Except Failure Unit}
  {sends : ClientContext → Http.Request → Except Failure Http.Response}

/-! ## What is asked -/

theorem traces_of_settle {α : Type} {lead : String} {foreseen : Failure → Bool} {x : Fallible α}
    {r : Except Failure (Except String α)}
    (h : Fallible.Traces (settle lead foreseen x) log r) : ∃ a, Fallible.Traces x log a := by
  rcases traces_settle.mp h with ⟨a, ha, _⟩ | ⟨f, hf, _⟩
  · exact ⟨_, ha⟩
  · exact ⟨_, hf⟩

theorem suiteHeaders_clientsOnly {r : Except Failure (Except String Http.Headers)}
    (h : Fallible.Traces (suiteHeaders config) log r) : ClientsOnly log := by
  unfold suiteHeaders at h
  split at h
  · obtain ⟨rfl, _⟩ := h
    exact Fallible.clientsOnly_nil
  · obtain ⟨_, hs, _⟩ := Fallible.traces_map.mp h
    obtain ⟨_, ha⟩ := traces_of_settle hs
    exact (authentication_spec ha).2.1

theorem runSetup_clientsOnly {setup : Option SideCall} {headers : Http.Headers}
    {r : Except Failure (Except String Variables)}
    (h : Fallible.Traces (runSetup config setup headers) log r) : ClientsOnly log := by
  cases setup with
  | none =>
    obtain ⟨rfl, _⟩ := h
    exact Fallible.clientsOnly_nil
  | some call =>
    obtain ⟨_, hs, _⟩ := Fallible.traces_map.mp h
    obtain ⟨_, hx⟩ := traces_of_settle hs
    exact (traces_sideExchange.mp hx).clientsOnly

/-- The preparation of a suite only asks clients. -/
theorem prepare_clientsOnly {r : Except Failure Preparation}
    (h : Fallible.Traces (prepare config suite) log r) : ClientsOnly log := by
  rcases Fallible.traces_bind.mp h with ⟨_, ha, _⟩ | ⟨a, l₁, l₂, rfl, ha, h₁⟩
  · exact suiteHeaders_clientsOnly ha
  refine (suiteHeaders_clientsOnly ha).append ?_
  cases a with
  | error reason =>
    obtain ⟨rfl, _⟩ := h₁
    exact Fallible.clientsOnly_nil
  | ok headers =>
    rcases Fallible.traces_bind.mp h₁ with ⟨_, hs, _⟩ | ⟨v, l₃, l₄, rfl, hs, h₂⟩
    · exact runSetup_clientsOnly hs
    have hl : l₄ = [] := by cases v <;> exact h₂.1
    subst hl
    exact (runSetup_clientsOnly hs).append Fallible.clientsOnly_nil

/-- An attempt only asks clients. -/
theorem attemptApiCase_clientsOnly {case : ApiCase} {o : AttemptOutcome}
    (h : (attemptApiCase config suite p case).Traces log o) : ClientsOnly log := by
  obtain ⟨_, _, ht, -⟩ := attemptApiCase_tried h
  rcases tryApiCase_log ht with rfl | ⟨_, _, _, hx⟩
  · exact Fallible.clientsOnly_nil
  · exact hx.clientsOnly

/-! ## One case -/

/-- **Attempts that are told the same are the same.** -/
theorem Tried.unique {attempt : Program AttemptOutcome} {made left : Nat}
    {earlier₁ earlier₂ : List Try} {last₁ last₂ : Try}
    (h₁ : Tried (fun _ => attempt) made left earlier₁ last₁)
    (h₂ : Tried (fun _ => attempt) made left earlier₂ last₂)
    (hu : ∀ t ∈ earlier₁ ++ [last₁], ∀ u ∈ earlier₂ ++ [last₂], attempt.Traces t.log t.outcome →
      attempt.Traces u.log u.outcome → t = u) :
    earlier₁ = earlier₂ ∧ last₁ = last₂ := by
  -- The first attempts are the same; whether more follow depends on how they ended.
  induction left generalizing made earlier₁ earlier₂ with
  | zero =>
    obtain rfl := List.length_eq_zero_iff.mp (Nat.le_zero.mp h₁.few)
    obtain rfl := List.length_eq_zero_iff.mp (Nat.le_zero.mp h₂.few)
    exact ⟨rfl, hu _ (by simp) _ (by simp) (h₁.traces 0 _ rfl) (h₂.traces 0 _ rfl)⟩
  | succ left ih =>
    cases earlier₁ with
    | nil =>
      cases earlier₂ with
      | nil => exact ⟨rfl, hu _ (by simp) _ (by simp) (h₁.traces 0 _ rfl) (h₂.traces 0 _ rfl)⟩
      | cons u earlier₂ =>
        obtain rfl := hu last₁ (by simp) u (by simp) (h₁.traces 0 _ rfl) h₂.head
        exact absurd (h₁.stopped (h₂.again last₁ (by simp))) (by simp)
    | cons t earlier₁ =>
      cases earlier₂ with
      | nil =>
        obtain rfl := hu t (by simp) last₂ (by simp) h₁.head (h₂.traces 0 _ rfl)
        exact absurd (h₂.stopped (h₁.again t (by simp))) (by simp)
      | cons u earlier₂ =>
        obtain rfl := hu t (by simp) u (by simp) h₁.head h₂.head
        obtain ⟨rfl, rfl⟩ := ih h₁.tail h₂.tail fun t ht u hu' =>
          hu t (List.mem_cons_of_mem _ ht) u (List.mem_cons_of_mem _ hu')
        exact ⟨rfl, rfl⟩

/-- A result without its duration. -/
def undated (r : CaseResult) : CaseResult := { r with duration := 0.0 }

/-- **A case ends in one way only**, whatever the clock shows. -/
theorem runApiCase_unique {case : ApiCase} {l₁ l₂ : Log} {r₁ r₂ : CaseResult}
    (h₁ : (runApiCase config suite p case).Traces l₁ r₁)
    (h₂ : (runApiCase config suite p case).Traces l₂ r₂)
    (hs₁ : Steady opens sends l₁) (hs₂ : Steady opens sends l₂) : undated r₁ = undated r₂ := by
  unfold runApiCase at h₁ h₂
  split at h₁
  · rename_i hskip
    rw [if_pos hskip] at h₂
    obtain ⟨_, rfl⟩ := h₁
    obtain ⟨_, rfl⟩ := h₂
    rfl
  · rename_i hskip
    rw [if_neg hskip] at h₂
    obtain ⟨earlier₁, last₁, _, _, ht₁, rfl, rfl⟩ := traces_runAttempts.mp h₁
    obtain ⟨earlier₂, last₂, _, _, ht₂, rfl, rfl⟩ := traces_runAttempts.mp h₂
    obtain ⟨rfl, rfl⟩ := ht₁.unique ht₂ fun t ht u hu ht' hu' => by
      have hst : Steady opens sends t.log := hs₁.mono fun e he => by simp [triesLog_mem ht he]
      have hsu : Steady opens sends u.log := hs₂.mono fun e he => by simp [triesLog_mem hu he]
      have ha := hst.agree hsu (attemptApiCase_clientsOnly ht')
      obtain ⟨hlog, houtcome⟩ := Program.Traces.unique ht' hu' ha
      cases t
      cases u
      cases hlog
      cases houtcome
      rfl
    unfold undated resultOf
    rfl

/-! ## Cases side by side -/

/-- **Beside others, a case ends as it does alone**, in any order of steps. -/
theorem sideBySide_alone {places : Nat} {cases : List ApiCase} {results : List CaseResult}
    (h : Program.SideBySide places (cases.map (runApiCase config suite p)) log results)
    (hs : Steady opens sends log) :
    List.Forall₂ (fun case r => ∀ l r', (runApiCase config suite p case).Traces l r' →
      Steady opens sends l → undated r = undated r') cases results := by
  obtain ⟨runs, hr, hi, rfl⟩ := h.threads
  rw [List.forall₂_map_left_iff] at hr
  rw [List.forall₂_map_right_iff]
  have hl : ∀ run ∈ runs, Steady opens sends run.1 := fun run hrun => hs.mono fun e he =>
    hi.mem_iff.mpr ⟨run.1, List.mem_map_of_mem hrun, he⟩
  clear h hi hs
  induction hr with
  | nil => exact .nil
  | @cons case run cases runs ht _ ih =>
    refine .cons (fun l r' h' hs' => ?_) (ih fun r hr => hl r (List.mem_cons_of_mem _ hr))
    exact runApiCase_unique ht h' (hl run List.mem_cons_self) hs'

/-! ## On a machine -/

section Machine

variable {σ : Type} {answer : (q : Host.Question) → σ → q.Answer × σ}

/-- The configuration with another number of workers. -/
def withWorkers (config : Config) (workers : Int) : Config :=
  { config with execution := { config.execution with workers } }

/-- The suite with one of its cases only. -/
def alone (suite : ApiSuite) (case : ApiCase) : ApiSuite := { suite with tests := [case] }

theorem timeoutOf_withWorkers (workers : Int) (own : Option Value) :
    timeoutOf (withWorkers config workers) own = timeoutOf config own := rfl

theorem clientContext_withWorkers (workers : Int) (headers : Http.Headers)
    (timeout : Option Value) :
    clientContext (withWorkers config workers) headers timeout =
      clientContext config headers timeout := rfl

/-- The number of workers is not looked at within a case. -/
theorem runApiCase_withWorkers (workers : Int) (case : ApiCase) :
    runApiCase (withWorkers config workers) suite p case = runApiCase config suite p case := by
  unfold runApiCase attemptApiCase tryApiCase
  simp only [timeoutOf_withWorkers, clientContext_withWorkers]
  rfl

theorem caseRequest_alone (case filled : ApiCase) (timeout : Value) :
    caseRequest (alone suite case) filled timeout = caseRequest suite filled timeout := rfl

/-- The other cases are not looked at within a case. -/
theorem runApiCase_alone (case : ApiCase) :
    runApiCase config (alone suite case) p case = runApiCase config suite p case := by
  unfold runApiCase attemptApiCase tryApiCase
  simp only [caseRequest_alone]
  rfl

/-- The preparation of a suite is the same on all such machines, in any state. -/
theorem prepare_unique {τ : Type} {answer' : (q : Host.Question) → τ → q.Answer × τ}
    (ha : SteadyClients opens sends answer) (ha' : SteadyClients opens sends answer') (s : σ)
    (s' : τ) :
    ((prepare config suite).run.run answer s).1 =
      ((prepare config suite).run.run answer' s').1 := by
  obtain ⟨h, _⟩ := Program.traces_run answer (prepare config suite).run s
  obtain ⟨h', _⟩ := Program.traces_run answer' (prepare config suite).run s'
  have hg := (ha.steady (prepare config suite).run s).agree
    (ha'.steady (prepare config suite).run s') (prepare_clientsOnly h)
  exact (Program.Traces.unique h h' hg).2

/-- The cases of a prepared suite end, beside each other, as each of them does alone. -/
theorem runApiCases_forall₂ (ha : SteadyClients opens sends answer) (config : Config)
    (workers : Int) (turns : List Nat) (suite : ApiSuite) (hp : p.obstacle = none) (cases : List ApiCase) (s : σ) :
    List.Forall₂ (fun case r => ∀ l r', (runApiCase config suite p case).Traces l r' →
        Steady opens sends l → undated r = undated r') cases
      ((runApiCases (withWorkers config workers) turns suite p cases).run answer s).1 := by
  obtain ⟨h, _⟩ := Program.traces_run answer
    (runApiCases (withWorkers config workers) turns suite p cases) s
  have hs := ha.steady (runApiCases (withWorkers config workers) turns suite p cases) s
  have hsame : cases.map (runApiCase (withWorkers config workers) suite p) =
      cases.map (runApiCase config suite p) :=
    List.map_congr_left fun case _ => runApiCase_withWorkers workers case
  unfold runApiCases runSideBySide at h hs ⊢
  rw [hp] at h hs ⊢
  rw [hsame] at h hs ⊢
  exact sideBySide_alone (Program.sideBySide_of_traces (one_le_placesFor _ _) h) hs

/-- **A case ends as it does alone.** Of a suite that could be prepared there is one result for each
case, in their order. But for its duration each is what the case alone comes to on any machine whose
clients answer alike: the number of workers, the turns and the other cases make no difference. -/
theorem runApiCases_alone (ha : SteadyClients opens sends answer) (config : Config) (workers : Int)
    (turns : List Nat) (suite : ApiSuite) (p : Preparation) (hp : p.obstacle = none)
    (tags : List String) (s : σ) :
    ∃ results : List CaseResult, ((runApiCases (withWorkers config workers) turns suite p
        (Suite.select tags suite.tests)).run answer s).1 = results ∧
      results.length = (Suite.select tags suite.tests).length ∧
      ∀ (i : Nat) (case : ApiCase), (Suite.select tags suite.tests)[i]? = some case →
        ∃ r, results[i]? = some r ∧
          ∀ (τ : Type) (answer' : (q : Host.Question) → τ → q.Answer × τ) (s' : τ),
            SteadyClients opens sends answer' →
              undated r =
                undated ((runApiCase config (alone suite case) p case).run answer' s').1 := by
  refine ⟨_, rfl, ?_⟩
  have hall := runApiCases_forall₂ ha config workers turns suite hp
    (Suite.select tags suite.tests) s
  refine ⟨hall.length_eq.symm, fun i case hi => ?_⟩
  obtain ⟨hlt, rfl⟩ := List.getElem?_eq_some_iff.mp hi
  have hlt' := hall.length_eq ▸ hlt
  refine ⟨_, List.getElem?_eq_getElem hlt', fun τ answer' s' ha' => ?_⟩
  rw [runApiCase_alone]
  exact hall.get hlt hlt' _ _ (Program.traces_run answer' _ s').1 (ha'.steady _ s')

end Machine

/-- Two cases without a network. -/
def twoCases : ApiSuite := { framedSuite with tests := [plainCase, plainCase] }

/-- Both cases run, the second of which begins first. -/
theorem runApiCases_alone_offline :
    SteadyClients (fun _ => .ok ()) (fun _ _ => .error Host.Offline.noNetwork) Host.Offline.answer ∧
      ∃ results : List CaseResult,
        ((runApiCases (withWorkers (bareConfig "http://api.test" "") 2) [1, 0, 1] twoCases
          ⟨[], [], none⟩ (Suite.select [] twoCases.tests)).run Host.Offline.answer
            ⟨⟨[], []⟩, 0.0, []⟩).1 = results ∧
        results.length = 2 := by
  have ha : SteadyClients (fun _ => .ok ()) (fun _ _ => .error Host.Offline.noNetwork)
      Host.Offline.answer := { opening := fun _ _ => rfl, sending := fun _ _ _ => rfl }
  obtain ⟨results, hr, hl, _⟩ := runApiCases_alone ha (bareConfig "http://api.test" "") 2 [1, 0, 1]
    twoCases ⟨[], [], none⟩ rfl [] ⟨⟨[], []⟩, 0.0, []⟩
  have hselect : (Suite.select [] twoCases.tests).length = 2 := rfl
  exact ⟨ha, results, hr, hl.trans hselect⟩

end SuiteEngine.Run
