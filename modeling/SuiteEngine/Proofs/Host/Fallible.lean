import SuiteEngine.Proofs.Host.Trace

/-!
# Traces of programs that may fail

`Fallible.Traces x log r` is `Program.Traces` for a program whose result is a value or a failure.

Headlines:
* `traces_bind`: what follows a failure is not asked.
* **`traces_withClient`**: a client that was opened is closed after what is done with it, whatever
  that ends with; nothing is done with one that was not opened.
* `traces_exchange`: one request at most is sent with a client of its own.
* `Exchange.fails_iff`: an exchange fails as its client does.
-/

namespace SuiteEngine.Host.Fallible

variable {α β : Type}

/-- The program can ask and be told what the log says, and end with the value or the failure. -/
abbrev Traces (x : Fallible α) (log : Log) (r : Except Failure α) : Prop :=
  Program.Traces x.run log r

@[simp] theorem traces_pure {a : α} {log : Log} {r : Except Failure α} :
    Traces (pure a) log r ↔ log = [] ∧ r = .ok a := Iff.rfl

@[simp] theorem traces_throw {f : Failure} {log : Log} {r : Except Failure α} :
    Traces (throw f) log r ↔ log = [] ∧ r = .error f := Iff.rfl

@[simp] theorem traces_ofAnswer {p : Program (Except Failure α)} {log : Log}
    {r : Except Failure α} : Traces (ofAnswer p) log r ↔ p.Traces log r := Iff.rfl

theorem traces_bind {x : Fallible α} {f : α → Fallible β} {log : Log} {r : Except Failure β} :
    Traces (x >>= f) log r ↔
      (∃ e, Traces x log (.error e) ∧ r = .error e) ∨
        ∃ a l₁ l₂, log = l₁ ++ l₂ ∧ Traces x l₁ (.ok a) ∧ Traces (f a) l₂ r := by
  rw [Traces, ExceptT.run_bind, Program.traces_bind]
  constructor
  · rintro ⟨l₁, a | a, l₂, rfl, h₁, h₂⟩
    · obtain ⟨rfl, rfl⟩ := h₂
      exact .inl ⟨a, by simpa using h₁, rfl⟩
    · exact .inr ⟨a, l₁, l₂, rfl, h₁, h₂⟩
  · rintro (⟨e, h, rfl⟩ | ⟨a, l₁, l₂, rfl, h₁, h₂⟩)
    · exact ⟨log, .error e, [], by simp, h, rfl, rfl⟩
    · exact ⟨l₁, .ok a, l₂, rfl, h₁, h₂⟩

theorem traces_map {x : Fallible α} {f : α → β} {log : Log} {r : Except Failure β} :
    Traces (x >>= fun a => pure (f a)) log r ↔ ∃ a, Traces x log a ∧ r = a.map f := by
  rw [traces_bind]
  constructor
  · rintro (⟨e, h, rfl⟩ | ⟨a, l₁, l₂, rfl, h, rfl, rfl⟩)
    · exact ⟨.error e, h, rfl⟩
    · exact ⟨.ok a, by simpa using h, rfl⟩
  · rintro ⟨a | a, h, rfl⟩
    · exact .inl ⟨a, h, rfl⟩
    · exact .inr ⟨a, log, [], by simp, h, rfl, rfl⟩

@[simp] theorem traces_lift {p : Program α} {log : Log} {r : Except Failure α} :
    Traces (lift p) log r ↔ ∃ a, p.Traces log a ∧ r = .ok a := by
  change Program.Traces (Except.ok <$> p) log r ↔ _
  rw [map_eq_pure_bind]
  exact Program.traces_map

/-- What follows a program that does not fail. -/
theorem traces_lift_bind {p : Program α} {f : α → Fallible β} {log : Log} {r : Except Failure β} :
    Traces (lift p >>= f) log r ↔
      ∃ a l₁ l₂, log = l₁ ++ l₂ ∧ p.Traces l₁ a ∧ Traces (f a) l₂ r := by
  rw [traces_bind]
  simp only [traces_lift]
  constructor
  · rintro (⟨_, ⟨_, _, hr⟩, _⟩ | ⟨a, l₁, l₂, rfl, ⟨_, h₁, hr⟩, h₂⟩)
    · cases hr
    · obtain rfl := Except.ok.inj hr
      exact ⟨a, l₁, l₂, rfl, h₁, h₂⟩
  · rintro ⟨a, l₁, l₂, rfl, h₁, h₂⟩
    exact .inr ⟨a, l₁, l₂, rfl, ⟨a, h₁, rfl⟩, h₂⟩

theorem traces_tryCatch {x : Fallible α} {h : Failure → Fallible α} {log : Log}
    {r : Except Failure α} :
    Traces (tryCatch x h) log r ↔
      (∃ a, Traces x log (.ok a) ∧ r = .ok a) ∨
        ∃ e l₁ l₂, log = l₁ ++ l₂ ∧ Traces x l₁ (.error e) ∧ Traces (h e) l₂ r := by
  rw [Traces, ExceptT.run_tryCatch, Program.traces_bind]
  constructor
  · rintro ⟨l₁, a | a, l₂, rfl, h₁, h₂⟩
    · exact .inr ⟨a, l₁, l₂, rfl, h₁, h₂⟩
    · obtain ⟨rfl, rfl⟩ := h₂
      exact .inl ⟨a, by simpa using h₁, rfl⟩
  · rintro (⟨a, h, rfl⟩ | ⟨e, l₁, l₂, rfl, h₁, h₂⟩)
    · exact ⟨log, .ok a, [], by simp, h, rfl, rfl⟩
    · exact ⟨l₁, .error e, l₂, rfl, h₁, h₂⟩

/-! ## Clients -/

@[simp] theorem traces_send {context : ClientContext} {request : Http.Request} {log : Log}
    {r : Except Failure Http.Response} :
    Traces (send context request) log r ↔ log = [⟨.send context request, r⟩] :=
  Program.traces_send

/-- What is asked with a client of its own: nothing when it cannot be opened; else `inner`, with the
opening before it and the closing after it. -/
inductive WithClient (context : ClientContext) (inner : Log → Except Failure α → Prop) :
    Log → Except Failure α → Prop
  | refused (f : Failure) : WithClient context inner [⟨.openClient context, .error f⟩] (.error f)
  | opened {log : Log} {r : Except Failure α} (h : inner log r) :
      WithClient context inner (⟨.openClient context, .ok ()⟩ :: log ++ [⟨.closeClient, ()⟩]) r

/-- **A client is closed after what is done with it**, and nothing is done with one that was not
opened. -/
theorem traces_withClient {context : ClientContext} {body : Fallible α} {log : Log}
    {r : Except Failure α} :
    Traces (withClient context body) log r ↔ WithClient context (Traces body) log r := by
  simp only [withClient, traces_bind, traces_ofAnswer, traces_lift, Program.traces_openClient,
    Program.traces_closeClient, Program.traces_pure]
  constructor
  · rintro (⟨f, rfl, rfl⟩ | ⟨_, _, _, rfl, rfl, h⟩)
    · exact .refused f
    rcases h with ⟨f, ⟨_, _, h⟩, _⟩ | ⟨r', l, _, rfl, ⟨_, hb, hr⟩, h⟩
    · cases h
    obtain rfl := Except.ok.inj hr
    rcases h with ⟨f, ⟨_, _, h⟩, _⟩ | ⟨_, _, _, rfl, ⟨_, rfl, _⟩, rfl, rfl⟩
    · cases h
    rw [List.append_nil]
    exact .opened hb
  · rintro (f | hb)
    · exact .inl ⟨f, rfl, rfl⟩
    · rename_i l
      refine .inr ⟨(), [_], l ++ [_], rfl, rfl, .inr ⟨r, l, [_], rfl, ⟨r, hb, rfl⟩, ?_⟩⟩
      exact .inr ⟨(), [_], [], by simp, ⟨(), rfl, trivial⟩, rfl, rfl⟩

/-- One request with a client of its own: the client is refused, or the request is sent once and the
client is closed. -/
inductive Exchange (context : ClientContext) (request : Http.Request) :
    Log → Except Failure Http.Response → Prop
  | refused (f : Failure) : Exchange context request [⟨.openClient context, .error f⟩] (.error f)
  | answered (r : Except Failure Http.Response) :
      Exchange context request
        [⟨.openClient context, .ok ()⟩, ⟨.send context request, r⟩, ⟨.closeClient, ()⟩] r

/-- One request with a client of its own is what `exchange` makes. -/
theorem traces_exchange {context : ClientContext} {request : Http.Request} {log : Log}
    {r : Except Failure Http.Response} :
    Traces (exchange context request) log r ↔ Exchange context request log r := by
  rw [exchange, traces_withClient]
  constructor
  · rintro (f | h)
    · exact .refused f
    · obtain rfl := traces_send.mp h
      exact .answered r
  · rintro (f | _)
    · exact .refused f
    · exact .opened (traces_send.mpr rfl)

/-! ## Clients that answer as functions -/

/-- Whether a question is put to a client. -/
def isClientQuestion : Question → Bool
  | .openClient _ => true
  | .send _ _ => true
  | .closeClient => true
  | _ => false

/-- Nothing is asked but clients. -/
def ClientsOnly (log : Log) : Prop := ∀ e ∈ log, isClientQuestion e.question = true

theorem clientsOnly_nil : ClientsOnly [] := fun _ h => absurd h List.not_mem_nil

theorem ClientsOnly.append {l₁ l₂ : Log} (h₁ : ClientsOnly l₁) (h₂ : ClientsOnly l₂) :
    ClientsOnly (l₁ ++ l₂) := fun e he => (List.mem_append.mp he).elim (h₁ e) (h₂ e)

theorem WithClient.clientsOnly {context : ClientContext} {inner : Log → Except Failure α → Prop}
    {log : Log} {r : Except Failure α} (h : WithClient context inner log r)
    (hi : ∀ l r, inner l r → ClientsOnly l) : ClientsOnly log := by
  cases h with
  | refused f => simp [ClientsOnly, isClientQuestion]
  | opened h =>
    have hc := hi _ _ h
    simp only [ClientsOnly, List.cons_append, List.mem_cons, List.mem_append, List.not_mem_nil,
      or_false]
    rintro e (rfl | he | rfl)
    · rfl
    · exact hc e he
    · rfl

theorem Exchange.clientsOnly {context : ClientContext} {request : Http.Request} {log : Log}
    {r : Except Failure Http.Response} (h : Exchange context request log r) : ClientsOnly log := by
  cases h with
  | refused f => simp [ClientsOnly, isClientQuestion]
  | answered r => simp [ClientsOnly, isClientQuestion]

section Steady

variable (opens : ClientContext → Except Failure Unit)
  (sends : ClientContext → Http.Request → Except Failure Http.Response)

/-- Clients open and answer as functions of the context and the request. -/
structure Steady (log : Log) : Prop where
  opening : ∀ context a, (⟨.openClient context, a⟩ : Event) ∈ log → a = opens context
  sending : ∀ context request a,
    (⟨.send context request, a⟩ : Event) ∈ log → a = sends context request

variable {opens sends}

theorem Steady.mono {log l : Log} (h : Steady opens sends log) (hs : l ⊆ log) :
    Steady opens sends l where
  opening context a he := h.opening context a (hs he)
  sending context request a he := h.sending context request a (hs he)

/-- What is only asked of such clients is answered alike. -/
theorem Steady.agree {l₁ l₂ : Log} (h₁ : Steady opens sends l₁) (h₂ : Steady opens sends l₂)
    (hc : ClientsOnly l₁) : Program.Agree l₁ l₂ := by
  intro q a b ha hb
  have hq : isClientQuestion q = true := hc _ ha
  cases q with
  | openClient context => exact (h₁.opening context a ha).trans (h₂.opening context b hb).symm
  | send context request =>
    exact (h₁.sending context request a ha).trans (h₂.sending context request b hb).symm
  | closeClient => rfl
  | _ => cases hq

/-- The clients of a machine open and answer as functions, whatever its state. -/
structure SteadyClients {σ : Type} (opens : ClientContext → Except Failure Unit)
    (sends : ClientContext → Http.Request → Except Failure Http.Response)
    (answer : (q : Question) → σ → q.Answer × σ) : Prop where
  opening : ∀ context s, (answer (.openClient context) s).1 = opens context
  sending : ∀ context request s, (answer (.send context request) s).1 = sends context request

theorem SteadyClients.steady {σ : Type} {answer : (q : Question) → σ → q.Answer × σ}
    (h : SteadyClients opens sends answer) (p : Program α) (s : σ) :
    Steady opens sends (p.logOf answer s) where
  opening context a he := by
    obtain ⟨s', hs⟩ := (p.traces_run answer s).2 _ he
    exact hs.symm.trans (h.opening context s')
  sending context request a he := by
    obtain ⟨s', hs⟩ := (p.traces_run answer s).2 _ he
    exact hs.symm.trans (h.sending context request s')

end Steady

/-! ## Requests and failures -/

/-- The requests that are sent, in their order. -/
def sent (log : Log) : List Http.Request :=
  log.filterMap fun e =>
    match e.question with
    | .send _ request => some request
    | _ => none

@[simp] theorem sent_nil : sent [] = [] := rfl

@[simp] theorem sent_append (l₁ l₂ : Log) : sent (l₁ ++ l₂) = sent l₁ ++ sent l₂ :=
  List.filterMap_append

/-- At most one request is sent in an exchange. -/
theorem Exchange.sent_le {context : ClientContext} {request : Http.Request} {log : Log}
    {r : Except Failure Http.Response} (h : Exchange context request log r) :
    (sent log).length ≤ 1 := by
  cases h with
  | refused f => exact Nat.zero_le 1
  | answered r => exact Nat.le_refl 1

/-- What clients fail with, if they do, are failures of the environment. -/
structure Foreseen (log : Log) : Prop where
  opening : ∀ context f, (⟨.openClient context, .error f⟩ : Event) ∈ log → f.isHost = true
  sending : ∀ context request f,
    (⟨.send context request, .error f⟩ : Event) ∈ log → f.isHost = true

theorem Foreseen.mono {log l : Log} (h : Foreseen log) (hs : l ⊆ log) : Foreseen l where
  opening context f he := h.opening context f (hs he)
  sending context request f he := h.sending context request f (hs he)

theorem Foreseen.left {l₁ l₂ : Log} (h : Foreseen (l₁ ++ l₂)) : Foreseen l₁ :=
  h.mono (List.subset_append_left l₁ l₂)

theorem Foreseen.right {l₁ l₂ : Log} (h : Foreseen (l₁ ++ l₂)) : Foreseen l₂ :=
  h.mono (List.subset_append_right l₁ l₂)

/-- A client fails in this way: it cannot be opened, or a request is not answered. -/
inductive Fails (log : Log) (f : Failure) : Prop
  | opening {context : ClientContext} (h : (⟨.openClient context, .error f⟩ : Event) ∈ log)
  | sending {context : ClientContext} {request : Http.Request}
      (h : (⟨.send context request, .error f⟩ : Event) ∈ log)

theorem not_fails_nil {f : Failure} : ¬ Fails [] f := by
  rintro (h | h)
  · exact absurd h List.not_mem_nil
  · exact absurd h List.not_mem_nil

theorem fails_append {l₁ l₂ : Log} {f : Failure} :
    Fails (l₁ ++ l₂) f ↔ Fails l₁ f ∨ Fails l₂ f := by
  constructor
  · rintro (h | h)
    · exact (List.mem_append.mp h).imp .opening .opening
    · exact (List.mem_append.mp h).imp .sending .sending
  · rintro ((h | h) | (h | h))
    · exact .opening (List.mem_append_left _ h)
    · exact .sending (List.mem_append_left _ h)
    · exact .opening (List.mem_append_right _ h)
    · exact .sending (List.mem_append_right _ h)

theorem not_fails_warn {message : String} {f : Failure} : ¬ Fails [⟨.warn message, ()⟩] f := by
  rintro (h | h)
  · cases List.mem_singleton.mp h
  · cases List.mem_singleton.mp h

theorem Foreseen.isHost {log : Log} {f : Failure} (hl : Foreseen log) (h : Fails log f) :
    f.isHost = true := by
  cases h with
  | opening h => exact hl.opening _ f h
  | sending h => exact hl.sending _ _ f h

theorem fails_send {context : ClientContext} {request : Http.Request}
    {r : Except Failure Http.Response} {f : Failure} :
    Fails [⟨.send context request, r⟩] f ↔ r = .error f := by
  constructor
  · rintro (h | h)
    · cases List.mem_singleton.mp h
    · cases List.mem_singleton.mp h
      rfl
  · rintro rfl
    exact .sending List.mem_cons_self

/-- The failures of clients are those of the opening and those of what is done with them. -/
theorem WithClient.fails_iff {context : ClientContext} {inner : Log → Except Failure α → Prop}
    {log : Log} {r : Except Failure α} {f : Failure} (h : WithClient context inner log r)
    (hi : ∀ l, inner l r → (Fails l f ↔ r = .error f)) : Fails log f ↔ r = .error f := by
  cases h with
  | refused g =>
    constructor
    · rintro (h | h)
      · cases List.mem_singleton.mp h
        rfl
      · cases List.mem_singleton.mp h
    · intro h
      obtain rfl := Except.error.inj h
      exact .opening List.mem_cons_self
  | opened h =>
    rw [← hi _ h]
    constructor
    · rintro (h | h)
      · exact .opening (by simpa using h)
      · exact .sending (by simpa using h)
    · rintro (h | h)
      · exact .opening (List.mem_cons_of_mem _ (List.mem_append_left _ h))
      · exact .sending (List.mem_cons_of_mem _ (List.mem_append_left _ h))

/-- An exchange fails as its client does. -/
theorem Exchange.fails_iff {context : ClientContext} {request : Http.Request} {log : Log}
    {r : Except Failure Http.Response} {f : Failure} (h : Exchange context request log r) :
    Fails log f ↔ r = .error f := by
  refine (traces_withClient.mp (traces_exchange.mpr h)).fails_iff fun l hs => ?_
  obtain rfl := traces_send.mp hs
  exact fails_send

/-- The clients of a machine open and answer, or fail as the environment does. -/
structure ClientsFailAsHosts {σ : Type} (answer : (q : Question) → σ → q.Answer × σ) : Prop where
  opening : ∀ context s f, (answer (.openClient context) s).1 = .error f → f.isHost = true
  sending : ∀ context request s f, (answer (.send context request) s).1 = .error f → f.isHost = true

theorem ClientsFailAsHosts.foreseen {σ : Type} {answer : (q : Question) → σ → q.Answer × σ}
    (h : ClientsFailAsHosts answer) (p : Program α) (s : σ) : Foreseen (p.logOf answer s) where
  opening context f he := by
    obtain ⟨s', hs⟩ := (p.traces_run answer s).2 _ he
    exact h.opening context s' f hs
  sending context request f he := by
    obtain ⟨s', hs⟩ := (p.traces_run answer s).2 _ he
    exact h.sending context request s' f hs

end SuiteEngine.Host.Fallible
