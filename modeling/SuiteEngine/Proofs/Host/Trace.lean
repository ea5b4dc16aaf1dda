import SuiteEngine.Host.Program

/-!
# What a program asks, and what it is told

A program asks its questions one after the other, and what it asks next may depend on the answers so
far. `Traces p log r` says that `p` can ask the questions of `log`, be given the answers in it, and
end with `r`. Nothing is said about who answers, so a fact about all traces is a fact about every
host. `Program.logOf` is the log of a run on a machine.

Headlines:
* `traces_bind`: a program and the one that goes on with its result trace one after the other.
* `Traces.unique`: what a program asks and ends with is fixed by the answers.
* **`traces_run`**: a run on a machine is a trace, and all answers in its log are the machine's.
-/

namespace SuiteEngine.Host

/-- A question and the answer to it. -/
structure Event where
  question : Question
  answer : question.Answer

/-- Questions and answers, in the order in which they were asked. -/
abbrev Log := List Event

namespace Program

variable {α β : Type}

theorem bind_done (p : Program α) : p.bind done = p := by
  induction p with
  | done a => rfl
  | ask q next ih => exact congrArg (ask q) (funext ih)

theorem bind_bind {γ : Type} (p : Program α) (f : α → Program β) (g : β → Program γ) :
    (p.bind f).bind g = p.bind fun a => (f a).bind g := by
  induction p with
  | done a => rfl
  | ask q next ih => exact congrArg (ask q) (funext ih)

instance : LawfulMonad Program :=
  LawfulMonad.mk' Program bind_done (fun _ _ => rfl) bind_bind

/-- The program can ask and be told what the log says, and end with the result. -/
def Traces : Program α → Log → α → Prop
  | done a, log, r => log = [] ∧ r = a
  | ask q next, log, r => ∃ a rest, log = ⟨q, a⟩ :: rest ∧ (next a).Traces rest r

@[simp] theorem traces_pure {a r : α} {log : Log} :
    (pure a : Program α).Traces log r ↔ log = [] ∧ r = a := Iff.rfl

@[simp] theorem traces_done {a r : α} {log : Log} :
    (done a).Traces log r ↔ log = [] ∧ r = a := Iff.rfl

theorem traces_ask {q : Question} {next : q.Answer → Program α} {log : Log} {r : α} :
    (ask q next).Traces log r ↔ ∃ a rest, log = ⟨q, a⟩ :: rest ∧ (next a).Traces rest r := Iff.rfl

@[simp] theorem traces_question {q : Question} {log : Log} {r : q.Answer} :
    (question q).Traces log r ↔ log = [⟨q, r⟩] := by
  simp only [question, traces_ask, traces_done]
  constructor
  · rintro ⟨a, rest, rfl, rfl, rfl⟩; rfl
  · rintro rfl; exact ⟨r, [], rfl, rfl, rfl⟩

@[simp] theorem traces_clock {log : Log} {r : Float} :
    clock.Traces log r ↔ log = [⟨.clock, r⟩] := traces_question

@[simp] theorem traces_warn {message : String} {log : Log} {r : Unit} :
    (warn message).Traces log r ↔ log = [⟨.warn message, ()⟩] := traces_question

/-! The questions that may be answered by a failure, at the types of their answers. -/

@[simp] theorem traces_openClient {context : ClientContext} {log : Log} {r : Except Failure Unit} :
    @Traces (Except Failure Unit) (question (.openClient context)) log r ↔
      log = [⟨.openClient context, r⟩] := traces_question

@[simp] theorem traces_send {context : ClientContext} {request : Http.Request} {log : Log}
    {r : Except Failure Http.Response} :
    @Traces (Except Failure Http.Response) (question (.send context request)) log r ↔
      log = [⟨.send context request, r⟩] := traces_question

@[simp] theorem traces_closeClient {log : Log} {r : Unit} :
    @Traces Unit (question .closeClient) log r ↔ log = [⟨.closeClient, r⟩] := traces_question

@[simp] theorem traces_openSession {context : SessionContext} {log : Log} {r : Except Failure Nat} :
    @Traces (Except Failure Nat) (question (.openSession context)) log r ↔
      log = [⟨.openSession context, r⟩] := traces_question

@[simp] theorem traces_onPage {session : Nat} {call : PageCall} {log : Log}
    {r : Except Failure Unit} :
    @Traces (Except Failure Unit) (question (.onPage session call)) log r ↔
      log = [⟨.onPage session call, r⟩] := traces_question

@[simp] theorem traces_screenshot {session : Nat} {shot : Shot} {log : Log}
    {r : Except Failure Files.Content} :
    @Traces (Except Failure Files.Content) (question (.screenshot session shot)) log r ↔
      log = [⟨.screenshot session shot, r⟩] := traces_question

@[simp] theorem traces_closeSession {session : Nat} {log : Log} {r : Unit} :
    @Traces Unit (question (.closeSession session)) log r ↔ log = [⟨.closeSession session, r⟩] :=
  traces_question

@[simp] theorem traces_store {path : Files.Path} {content : Files.Content} {log : Log}
    {r : Except Failure Unit} :
    @Traces (Except Failure Unit) (question (.store path content)) log r ↔
      log = [⟨.store path content, r⟩] := traces_question

@[simp] theorem traces_compare {actual : Files.Content} {baseline : Files.Path} {limit : Float}
    {log : Log} {r : Except Failure Ui.Comparison} :
    @Traces (Except Failure Ui.Comparison) (question (.compare actual baseline limit)) log r ↔
      log = [⟨.compare actual baseline limit, r⟩] := traces_question

theorem traces_bind {p : Program α} {f : α → Program β} {log : Log} {r : β} :
    (p >>= f).Traces log r ↔
      ∃ l₁ a l₂, log = l₁ ++ l₂ ∧ p.Traces l₁ a ∧ (f a).Traces l₂ r := by
  change (p.bind f).Traces log r ↔ _
  induction p generalizing log with
  | done a =>
    simp only [bind, traces_done]
    constructor
    · intro h; exact ⟨[], a, log, rfl, ⟨rfl, rfl⟩, h⟩
    · rintro ⟨l₁, a, l₂, rfl, ⟨rfl, rfl⟩, h⟩; exact h
  | ask q next ih =>
    simp only [bind, traces_ask]
    constructor
    · rintro ⟨a, rest, rfl, h⟩
      obtain ⟨l₁, b, l₂, rfl, h₁, h₂⟩ := (ih a).mp h
      exact ⟨⟨q, a⟩ :: l₁, b, l₂, rfl, ⟨a, l₁, rfl, h₁⟩, h₂⟩
    · rintro ⟨_, b, l₂, rfl, ⟨a, l₁, rfl, h₁⟩, h₂⟩
      exact ⟨a, l₁ ++ l₂, rfl, (ih a).mpr ⟨l₁, b, l₂, rfl, h₁, h₂⟩⟩

theorem Traces.bind {p : Program α} {f : α → Program β} {l₁ l₂ : Log} {a : α} {r : β}
    (h₁ : p.Traces l₁ a) (h₂ : (f a).Traces l₂ r) : (p >>= f).Traces (l₁ ++ l₂) r :=
  traces_bind.mpr ⟨l₁, a, l₂, rfl, h₁, h₂⟩

theorem traces_map {p : Program α} {f : α → β} {log : Log} {r : β} :
    (p >>= fun a => pure (f a)).Traces log r ↔ ∃ a, p.Traces log a ∧ r = f a := by
  rw [traces_bind]
  constructor
  · rintro ⟨l₁, a, l₂, rfl, h, rfl, rfl⟩
    exact ⟨a, by simpa using h, rfl⟩
  · rintro ⟨a, h, rfl⟩
    exact ⟨log, a, [], by simp, h, rfl, rfl⟩

theorem traces_mapM_nil {log : Log} {rs : List α} :
    (([] : List (Program α)).mapM id).Traces log rs ↔ log = [] ∧ rs = [] := by
  rw [List.mapM_nil]
  exact traces_pure

theorem traces_mapM_cons {p : Program α} {ps : List (Program α)} {log : Log} {rs : List α} :
    ((p :: ps).mapM id).Traces log rs ↔
      ∃ l₁ a l₂ as, log = l₁ ++ l₂ ∧ rs = a :: as ∧ p.Traces l₁ a ∧ (ps.mapM id).Traces l₂ as := by
  rw [List.mapM_cons, id_eq, traces_bind]
  constructor
  · rintro ⟨l₁, a, l₂, rfl, h₁, h⟩
    obtain ⟨as, h₂, rfl⟩ := traces_map.mp h
    exact ⟨l₁, a, l₂, as, rfl, rfl, h₁, h₂⟩
  · rintro ⟨l₁, a, l₂, as, rfl, rfl, h₁, h₂⟩
    exact ⟨l₁, a, l₂, rfl, h₁, traces_map.mpr ⟨as, h₂, rfl⟩⟩

/-! ## Determinism -/

/-- No question is answered one way in one log and another way in the other. -/
def Agree (l₁ l₂ : Log) : Prop :=
  ∀ q a b, (⟨q, a⟩ : Event) ∈ l₁ → (⟨q, b⟩ : Event) ∈ l₂ → a = b

/-- **A program that is told the same does the same.** -/
theorem Traces.unique {p : Program α} {l₁ l₂ : Log} {r₁ r₂ : α} (h₁ : p.Traces l₁ r₁)
    (h₂ : p.Traces l₂ r₂) (ha : Agree l₁ l₂) : l₁ = l₂ ∧ r₁ = r₂ := by
  induction p generalizing l₁ l₂ with
  | done a =>
    obtain ⟨rfl, rfl⟩ := h₁
    obtain ⟨rfl, rfl⟩ := h₂
    exact ⟨rfl, rfl⟩
  | ask q next ih =>
    obtain ⟨a, rest₁, rfl, h₁⟩ := h₁
    obtain ⟨b, rest₂, rfl, h₂⟩ := h₂
    obtain rfl := ha q a b List.mem_cons_self List.mem_cons_self
    obtain ⟨rfl, rfl⟩ := ih a h₁ h₂ fun q a b h h' =>
      ha q a b (List.mem_cons_of_mem _ h) (List.mem_cons_of_mem _ h')
    exact ⟨rfl, rfl⟩

/-- A log leaves one result only. -/
theorem Traces.result_eq {p : Program α} {l : Log} {r₁ r₂ : α} (h₁ : p.Traces l r₁)
    (h₂ : p.Traces l r₂) : r₁ = r₂ := by
  induction p generalizing l with
  | done a =>
    obtain ⟨_, rfl⟩ := h₁
    obtain ⟨_, rfl⟩ := h₂
    rfl
  | ask q next ih =>
    obtain ⟨a, rest, rfl, h₁⟩ := h₁
    obtain ⟨b, _, hl, h₂⟩ := h₂
    obtain ⟨he, rfl⟩ := List.cons.inj hl
    cases he
    exact ih a h₁ h₂

/-- What a program asks first is fixed by the log, whatever is asked after it. -/
theorem Traces.prefix_unique {p : Program α} {l₁ l₂ m₁ m₂ : Log} {r₁ r₂ : α} (h₁ : p.Traces l₁ r₁)
    (h₂ : p.Traces l₂ r₂) (h : l₁ ++ m₁ = l₂ ++ m₂) : l₁ = l₂ ∧ r₁ = r₂ ∧ m₁ = m₂ := by
  induction p generalizing l₁ l₂ with
  | done a =>
    obtain ⟨rfl, rfl⟩ := h₁
    obtain ⟨rfl, rfl⟩ := h₂
    exact ⟨rfl, rfl, h⟩
  | ask q next ih =>
    obtain ⟨a, rest₁, rfl, h₁⟩ := h₁
    obtain ⟨b, rest₂, rfl, h₂⟩ := h₂
    obtain ⟨he, hrest⟩ := List.cons.inj h
    cases he
    obtain ⟨rfl, rfl, rfl⟩ := ih a h₁ h₂ hrest
    exact ⟨rfl, rfl, rfl⟩

/-! ## Runs on a machine -/

section Machine

variable {σ : Type} (answer : (q : Question) → σ → q.Answer × σ)

/-- What a program asks and is told on a machine. -/
def logOf : Program α → σ → Log
  | done _, _ => []
  | ask q next, s => ⟨q, (answer q s).1⟩ :: logOf (next (answer q s).1) (answer q s).2

/-- The machine goes on from the state in which the first program left it. -/
theorem run_bind (p : Program α) (f : α → Program β) (s : σ) :
    (p >>= f).run answer s = (f (p.run answer s).1).run answer (p.run answer s).2 := by
  change (p.bind f).run answer s = _
  induction p generalizing s with
  | done a => rfl
  | ask q next ih => exact ih (answer q s).1 (answer q s).2

/-- The second program asks after the first, in the state in which that left the machine. -/
theorem logOf_bind (p : Program α) (f : α → Program β) (s : σ) :
    (p >>= f).logOf answer s =
      p.logOf answer s ++ (f (p.run answer s).1).logOf answer (p.run answer s).2 := by
  change (p.bind f).logOf answer s = _
  induction p generalizing s with
  | done a => rfl
  | ask q next ih => exact congrArg (_ :: ·) (ih (answer q s).1 (answer q s).2)

/-- The answer of an event is one that the machine gives in some state. -/
def Answers (e : Event) : Prop := ∃ s, (answer e.question s).1 = e.answer

/-- **A run is a trace**, in which the machine answers. -/
theorem traces_run (p : Program α) (s : σ) :
    p.Traces (p.logOf answer s) (p.run answer s).1 ∧ ∀ e ∈ p.logOf answer s, Answers answer e := by
  induction p generalizing s with
  | done a => exact ⟨⟨rfl, rfl⟩, by simp [logOf]⟩
  | ask q next ih =>
    obtain ⟨ht, ha⟩ := ih (answer q s).1 (answer q s).2
    refine ⟨⟨_, _, rfl, ht⟩, fun e he => ?_⟩
    rcases List.mem_cons.mp he with rfl | he
    · exact ⟨s, rfl⟩
    · exact ha e he

end Machine

end Program

end SuiteEngine.Host
