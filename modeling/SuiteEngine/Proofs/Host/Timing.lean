import SuiteEngine.Proofs.Decimal.Order
import SuiteEngine.Proofs.Host.Trace

/-!
# The moments of a run

A log says what was asked and told, not when. A machine **keeps time** if each of its states belongs
to a moment, no answer goes back in time, and its clock shows the moment at which it is read; how
long an answer takes is up to the machine. `Program.datedLogOf` is the log of a run on such a
machine with the moment of every answer.

Headlines:
* `Chronological.eq_append_look`: a log that asks for the time has a look at the clock there.
* `chronological_datedLogOf`: the moments of a run never go back, and its clocks show them.
* **`Chronological.before`**: what came before a look at the clock that found a deadline not yet
  passed came in time too.
* `datedLogOf_append`: what is left of a run is a run, from the last moment on.
-/

namespace SuiteEngine.Host

/-- A question, the answer to it and the moment of the answer, in seconds. -/
structure DatedEvent where
  event : Event
  moment : Float

/-- Questions and answers with their moments, in the order in which they were asked. -/
abbrev DatedLog := List DatedEvent

/-- A look at the clock. -/
def look (now : Float) : DatedEvent := ⟨⟨.clock, now⟩, now⟩

/-- What was asked and told, whenever that was. -/
def events (log : DatedLog) : Log := log.map DatedEvent.event

section Events

variable {log l l' : DatedLog} {e : DatedEvent} {l₁ l₂ : Log} {ev : Event}

@[simp] theorem events_nil : events [] = [] := rfl

@[simp] theorem events_cons : events (e :: l) = e.event :: events l := rfl

@[simp] theorem events_append : events (l ++ l') = events l ++ events l' := List.map_append

theorem events_eq_nil (h : events log = []) : log = [] := List.map_eq_nil_iff.mp h

theorem events_eq_cons (h : events log = ev :: l₁) :
    ∃ moment l, log = ⟨ev, moment⟩ :: l ∧ events l = l₁ := by
  obtain ⟨⟨_, moment⟩, l, rfl, rfl, rfl⟩ := List.map_eq_cons_iff.mp h
  exact ⟨moment, l, rfl, rfl⟩

theorem events_eq_append (h : events log = l₁ ++ l₂) :
    ∃ d₁ d₂, log = d₁ ++ d₂ ∧ events d₁ = l₁ ∧ events d₂ = l₂ :=
  List.map_eq_append_iff.mp h

theorem mem_events_of_mem (h : e ∈ log) : e.event ∈ events log := List.mem_map_of_mem h

/-- The parts of a log, each with something that belongs to it, are parts with moments. -/
theorem events_eq_flatMap {β : Type} {parts : List (Log × β)}
    (h : events log = parts.flatMap Prod.fst) :
    ∃ dated : List (DatedLog × β), log = dated.flatMap Prod.fst ∧
      parts = dated.map fun part => (events part.1, part.2) := by
  induction parts generalizing log with
  | nil => exact ⟨[], events_eq_nil h, rfl⟩
  | cons part parts ih =>
    obtain ⟨d, d', rfl, hd, hd'⟩ := events_eq_append (List.flatMap_cons ▸ h)
    obtain ⟨dated, rfl, rfl⟩ := ih hd'
    exact ⟨(d, part.2) :: dated, rfl, by simp [hd]⟩

end Events

/-! ## Time that never goes back -/

/-- Each event comes at the moment of the one before it or later, and a clock shows the moment at
which it is read. -/
structure Chronological (log : DatedLog) : Prop where
  onward : log.Pairwise fun e e' => e.moment ≤ e'.moment
  shown : ∀ now moment, (⟨⟨.clock, now⟩, moment⟩ : DatedEvent) ∈ log → moment = now

namespace Chronological

variable {log l l' : DatedLog} {now moment deadline : Float}

theorem sublist (h : Chronological log) (hl : l.Sublist log) : Chronological l where
  onward := h.onward.sublist hl
  shown now moment hm := h.shown now moment (hl.subset hm)

theorem left (h : Chronological (l ++ l')) : Chronological l :=
  h.sublist (List.sublist_append_left l l')

theorem right (h : Chronological (l ++ l')) : Chronological l' :=
  h.sublist (List.sublist_append_right l l')

/-- A look at the clock shows its own moment. -/
theorem look_eq (h : Chronological log) (hm : (⟨⟨.clock, now⟩, moment⟩ : DatedEvent) ∈ log) :
    (⟨⟨.clock, now⟩, moment⟩ : DatedEvent) = look now := by
  rw [h.shown now moment hm]
  rfl

/-- A log that asks for the time somewhere has a look at the clock there. -/
theorem eq_append_look (h : Chronological log) {l₁ l₂ : Log}
    (hl : events log = l₁ ++ ⟨.clock, now⟩ :: l₂) :
    ∃ d₁ d₂, log = d₁ ++ look now :: d₂ ∧ events d₁ = l₁ ∧ events d₂ = l₂ := by
  obtain ⟨d₁, d, rfl, hd₁, hd⟩ := events_eq_append hl
  obtain ⟨moment, d₂, rfl, hd₂⟩ := events_eq_cons hd
  rw [h.look_eq (List.mem_append_right _ List.mem_cons_self)]
  exact ⟨d₁, d₂, rfl, hd₁, hd₂⟩

/-- One that asks for the time first begins with a look at the clock. -/
theorem eq_look_cons (h : Chronological log) {l₂ : Log} (hl : events log = ⟨.clock, now⟩ :: l₂) :
    ∃ d₂, log = look now :: d₂ ∧ events d₂ = l₂ := by
  obtain ⟨d₁, d₂, rfl, hd₁, hd₂⟩ := h.eq_append_look (hl.trans (List.nil_append _).symm)
  obtain rfl := events_eq_nil hd₁
  exact ⟨d₂, rfl, hd₂⟩

/-- **What came before a look at the clock that was in time was in time.** -/
theorem before (h : Chronological (l ++ look now :: l')) (hn : ¬now > deadline) :
    ∀ e ∈ l, ¬e.moment > deadline := by
  intro e he hlate
  have hle : e.moment ≤ now :=
    (List.pairwise_append.mp h.onward).2.2 e he (look now) List.mem_cons_self
  exact hn (float_lt_of_lt_of_le hlate hle)

/-- Once the deadline has passed, every later look at the clock finds it passed. -/
theorem after {start : Float} (h : Chronological (look start :: l)) (hs : start > deadline)
    (hm : look now ∈ l) : now > deadline := by
  have hle : (look start).moment ≤ (look now).moment := List.rel_of_pairwise_cons h.onward hm
  exact float_lt_of_lt_of_le hs hle

end Chronological

/-! ## Machines that keep time -/

section Machine

variable {σ α : Type} {answer : (q : Question) → σ → q.Answer × σ} {time : σ → Float}

/-- Each state of the machine belongs to a moment: no answer takes it back, and the clock shows it.
-/
structure KeepsTime (answer : (q : Question) → σ → q.Answer × σ) (time : σ → Float) : Prop where
  shown : ∀ s, (answer .clock s).1 = time (answer .clock s).2
  onward : ∀ q s, time s ≤ time (answer q s).2

namespace Program

/-- What a program asks and is told on a machine, and when. -/
def datedLogOf (answer : (q : Question) → σ → q.Answer × σ) (time : σ → Float) :
    Program α → σ → DatedLog
  | done _, _ => []
  | ask q next, s =>
    ⟨⟨q, (answer q s).1⟩, time (answer q s).2⟩ ::
      datedLogOf answer time (next (answer q s).1) (answer q s).2

@[simp] theorem events_datedLogOf (p : Program α) (s : σ) :
    events (p.datedLogOf answer time s) = p.logOf answer s := by
  induction p generalizing s with
  | done a => rfl
  | ask q next ih => exact congrArg (_ :: ·) (ih (answer q s).1 (answer q s).2)

/-- A run goes on from the moment at which it begins. -/
theorem le_moment (hk : KeepsTime answer time) (p : Program α) (s : σ) :
    ∀ e ∈ p.datedLogOf answer time s, time s ≤ e.moment := by
  induction p generalizing s with
  | done a => simp [datedLogOf]
  | ask q next ih =>
    intro e he
    rcases List.mem_cons.mp he with rfl | he
    · exact hk.onward q s
    · exact float_le_trans (hk.onward q s) (ih _ _ e he)

/-- **The moments of a run never go back**, and its clocks show them. -/
theorem chronological_datedLogOf (hk : KeepsTime answer time) (p : Program α) (s : σ) :
    Chronological (p.datedLogOf answer time s) := by
  induction p generalizing s with
  | done a => exact ⟨List.Pairwise.nil, fun _ _ h => absurd h List.not_mem_nil⟩
  | ask q next ih =>
    obtain ⟨honward, hshown⟩ := ih (answer q s).1 (answer q s).2
    refine ⟨List.pairwise_cons.mpr ⟨le_moment hk _ _, honward⟩, fun now moment hm => ?_⟩
    rcases List.mem_cons.mp hm with he | hm
    · obtain ⟨hev, rfl⟩ := DatedEvent.mk.inj he
      cases hev
      exact (hk.shown s).symm
    · exact hshown now moment hm

/-- The moment of the last answer, or the one given where there is none. -/
def lastMoment (start : Float) (log : DatedLog) : Float := log.foldl (fun _ e => e.moment) start

theorem lastMoment_concat (start : Float) (l : DatedLog) (e : DatedEvent) :
    lastMoment start (l ++ [e]) = e.moment := by
  simp [lastMoment]

/-- **What is left of a run is a run**, from the last moment on. -/
theorem datedLogOf_append {p : Program α} {s : σ} {l l' : DatedLog}
    (h : p.datedLogOf answer time s = l ++ l') :
    ∃ (p' : Program α) (s' : σ), l' = p'.datedLogOf answer time s' ∧
      p'.run answer s' = p.run answer s ∧ time s' = lastMoment (time s) l := by
  induction l generalizing p s with
  | nil => exact ⟨p, s, h.symm, rfl, rfl⟩
  | cons e l ih =>
    cases p with
    | done a => cases h
    | ask q next =>
      obtain ⟨he, hl⟩ := List.cons.inj h
      obtain ⟨p', s', hl', hrun, hlast⟩ := ih hl
      exact ⟨p', s', hl', hrun, by rw [hlast, lastMoment, lastMoment, List.foldl_cons, ← he]⟩

/-- At its end a run is at the moment of its last answer. -/
theorem time_run {p : Program α} {s : σ} :
    time (p.run answer s).2 = lastMoment (time s) (p.datedLogOf answer time s) := by
  have hwhole : p.datedLogOf answer time s = p.datedLogOf answer time s ++ [] :=
    (List.append_nil _).symm
  obtain ⟨p', s', hl, hrun, hlast⟩ := datedLogOf_append hwhole
  cases p' with
  | done a =>
    rw [← hlast, ← hrun]
    rfl
  | ask q next => cases hl

/-- Where reading the clock takes no time, two looks after one another show the same. -/
theorem look_look {p : Program α} {s : σ} {l l' : DatedLog} {now now' : Float}
    (hstill : ∀ s, time (answer .clock s).2 = time s)
    (h : p.datedLogOf answer time s = l ++ look now :: look now' :: l') : now' = now := by
  have hsplit : p.datedLogOf answer time s = (l ++ [look now]) ++ look now' :: l' := by
    simpa using h
  obtain ⟨p', s', hl, -, hlast⟩ := datedLogOf_append hsplit
  rw [lastMoment_concat] at hlast
  cases p' with
  | done a => cases hl
  | ask q next =>
    obtain ⟨hq, hmoment⟩ := DatedEvent.mk.inj (List.cons.inj hl).1
    obtain rfl : Question.clock = q := congrArg Event.question hq
    calc now' = time (answer .clock s').2 := hmoment
      _ = time s' := hstill s'
      _ = now := hlast

end Program

end Machine

/-! ## A machine on which something takes a second -/

/-- Its clock shows zero until something slow was asked, and one from then on. -/
def stopwatch (late : Bool) : Float := if late then 1.0 else 0.0

/-- Answers every question in one way; those that are slow take a second, and all others no time. -/
def lagging (slow : Question → Bool) (tell : (q : Question) → q.Answer) (q : Question)
    (late : Bool) : q.Answer × Bool :=
  match q with
  | .clock => (stopwatch late, late)
  | q => (tell q, late || slow q)

theorem lagging_keepsTime (slow : Question → Bool) (tell : (q : Question) → q.Answer) :
    KeepsTime (lagging slow tell) stopwatch where
  shown late := rfl
  onward q late := by
    have hle : ∀ later : Bool, (late = true → later = true) → stopwatch late ≤ stopwatch later := by
      cases late with
      | false => rintro (_ | _) _ <;> decide
      | true => rintro (_ | _) h <;> first | decide | cases h rfl
    refine hle _ ?_
    cases q <;> simp_all [lagging]

/-- What is done on a page ends in the way given. Every page opens, and is empty as it should be. -/
def pagesThat (ended : Except Failure Unit) : (q : Question) → q.Answer
  | .clock => 0.0
  | .warn _ | .closeClient | .useBrowser _ | .closeSession _ => ()
  | .openClient _ | .store _ _ => .ok ()
  | .send _ _ => .error ⟨.other "ConnectionError", ""⟩
  | .openSession _ => .ok 0
  | .onPage _ _ => ended
  | .screenshot _ _ => .ok (.bytes [])
  | .compare _ _ _ => .ok ⟨true, 0.0, false, none, ""⟩

end SuiteEngine.Host
