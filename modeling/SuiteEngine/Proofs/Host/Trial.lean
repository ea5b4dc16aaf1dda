import SuiteEngine.Host.Trial
import SuiteEngine.Proofs.Host.Fallible

/-!
# Traces of trials

`Trial.Traces t before log r after` is `Program.Traces` for a trial that begins with some
attachments recorded and ends with a value or a failure and the attachments recorded by then.

Headlines:
* `traces_bind`: what follows a failure is not done.
* **`traces_outcome`**: a failure that is looked at does not end the trial.
* `traces_clock_bind`, `traces_attach_bind`, `traces_outcome_bind`: what follows a step that cannot
  fail.
-/

namespace SuiteEngine.Host.Trial

open Report (Attachment)

variable {α β : Type} {before after : List Attachment} {log : Log}

/-- The trial can ask and be told what the log says, and end with the value or the failure and the
attachments. -/
abbrev Traces (t : Trial α) (before : List Attachment) (log : Log) (r : Except Failure α)
    (after : List Attachment) : Prop := Program.Traces (t.run.run before) log (r, after)

@[simp] theorem traces_pure {a : α} {r : Except Failure α} :
    Traces (pure a) before log r after ↔ log = [] ∧ r = .ok a ∧ after = before := by
  change log = [] ∧ (r, after) = (.ok a, before) ↔ _
  rw [Prod.mk.injEq]

@[simp] theorem traces_throw {f : Failure} {r : Except Failure α} :
    Traces (throw f) before log r after ↔ log = [] ∧ r = .error f ∧ after = before := by
  change log = [] ∧ (r, after) = (.error f, before) ↔ _
  rw [Prod.mk.injEq]

@[simp] theorem traces_ofExcept {x r : Except Failure α} :
    Traces (ofExcept x) before log r after ↔ log = [] ∧ r = x ∧ after = before := by
  change log = [] ∧ (r, after) = (x, before) ↔ _
  rw [Prod.mk.injEq]

theorem traces_bind {t : Trial α} {f : α → Trial β} {r : Except Failure β} :
    Traces (t >>= f) before log r after ↔
      (∃ e, Traces t before log (.error e) after ∧ r = .error e) ∨
        ∃ a l₁ l₂ between, log = l₁ ++ l₂ ∧ Traces t before l₁ (.ok a) between ∧
          Traces (f a) between l₂ r after := by
  rw [Traces, ExceptT.run_bind, StateT.run_bind, Program.traces_bind]
  constructor
  · rintro ⟨l₁, ⟨a | a, between⟩, l₂, rfl, h₁, h₂⟩
    · obtain ⟨rfl, rfl, rfl⟩ := traces_throw.mp h₂
      exact .inl ⟨a, by simpa using h₁, rfl⟩
    · exact .inr ⟨a, l₁, l₂, between, rfl, h₁, h₂⟩
  · rintro (⟨e, h, rfl⟩ | ⟨a, l₁, l₂, between, rfl, h₁, h₂⟩)
    · exact ⟨log, (.error e, after), [], by simp, h, traces_throw.mpr ⟨rfl, rfl, rfl⟩⟩
    · exact ⟨l₁, (.ok a, between), l₂, rfl, h₁, h₂⟩

theorem Traces.bind {t : Trial α} {f : α → Trial β} {r : Except Failure β} {a : α} {l₁ l₂ : Log}
    {between : List Attachment} (h₁ : Traces t before l₁ (.ok a) between)
    (h₂ : Traces (f a) between l₂ r after) : Traces (t >>= f) before (l₁ ++ l₂) r after :=
  traces_bind.mpr (.inr ⟨a, l₁, l₂, between, rfl, h₁, h₂⟩)

/-- What follows a trial that cannot fail. -/
theorem traces_bind_of_ok {t : Trial α} {f : α → Trial β} {r : Except Failure β}
    (hok : ∀ {l e s}, ¬ Traces t before l (.error e) s) :
    Traces (t >>= f) before log r after ↔
      ∃ a l₁ l₂ between, log = l₁ ++ l₂ ∧ Traces t before l₁ (.ok a) between ∧
        Traces (f a) between l₂ r after := by
  rw [traces_bind]
  exact or_iff_right fun ⟨_, h, _⟩ => hok h

@[simp] theorem traces_attach {a : Attachment} {r : Except Failure Unit} :
    Traces (attach a) before log r after ↔ log = [] ∧ r = .ok () ∧ after = before ++ [a] := by
  change log = [] ∧ (r, after) = (.ok (), before ++ [a]) ↔ _
  rw [Prod.mk.injEq]

@[simp] theorem traces_ofFallible {x : Fallible α} {r : Except Failure α} :
    Traces (ofFallible x) before log r after ↔ Fallible.Traces x log r ∧ after = before := by
  change Program.Traces (x.run >>= fun a => pure (a, before)) log (r, after) ↔ _
  rw [Program.traces_map]
  constructor
  · rintro ⟨a, h, ha⟩
    obtain ⟨rfl, rfl⟩ := Prod.mk.inj ha
    exact ⟨h, rfl⟩
  · rintro ⟨h, rfl⟩
    exact ⟨r, h, rfl⟩

@[simp] theorem traces_ofAnswer {p : Program (Except Failure α)} {r : Except Failure α} :
    Traces (ofAnswer p) before log r after ↔ p.Traces log r ∧ after = before :=
  traces_ofFallible

@[simp] theorem traces_ofProgram {p : Program α} {r : Except Failure α} :
    Traces (ofProgram p) before log r after ↔ ∃ a, p.Traces log a ∧ r = .ok a ∧ after = before := by
  change Program.Traces
    ((p >>= fun a => pure (a, before)) >>= fun x => pure (Except.ok x.1, x.2)) log (r, after) ↔ _
  rw [Program.traces_map]
  constructor
  · rintro ⟨x, h, hx⟩
    obtain ⟨a, ha, rfl⟩ := Program.traces_map.mp h
    obtain ⟨rfl, rfl⟩ := Prod.mk.inj hx
    exact ⟨a, ha, rfl, rfl⟩
  · rintro ⟨a, h, rfl, rfl⟩
    exact ⟨(a, after), Program.traces_map.mpr ⟨a, h, rfl⟩, rfl⟩

@[simp] theorem traces_clock {r : Except Failure Float} :
    Traces clock before log r after ↔
      ∃ now, log = [⟨.clock, now⟩] ∧ r = .ok now ∧ after = before := by
  simp [clock]

/-- **A failure that is looked at does not end the trial.** -/
@[simp] theorem traces_outcome {t : Trial α} {r : Except Failure (Except Failure α)} :
    Traces t.outcome before log r after ↔ ∃ r', Traces t before log r' after ∧ r = .ok r' := by
  change Program.Traces (t.run.run before >>= fun x => pure (Except.ok x.1, x.2)) log (r, after) ↔ _
  rw [Program.traces_map]
  constructor
  · rintro ⟨x, h, hx⟩
    obtain ⟨rfl, rfl⟩ := Prod.mk.inj hx
    exact ⟨x.1, h, rfl⟩
  · rintro ⟨r', h, rfl⟩
    exact ⟨(r', after), h, rfl⟩

/-! Steps that are told nothing new or cannot fail, and what follows them. -/

theorem traces_attach_bind {a : Attachment} {f : Unit → Trial β} {r : Except Failure β} :
    Traces (attach a >>= f) before log r after ↔ Traces (f ()) (before ++ [a]) log r after := by
  rw [traces_bind_of_ok fun h => by cases (traces_attach.mp h).2.1]
  constructor
  · rintro ⟨_, l₁, l₂, _, rfl, ha, h⟩
    obtain ⟨rfl, _, rfl⟩ := traces_attach.mp ha
    exact h
  · intro h
    exact ⟨(), [], log, _, rfl, traces_attach.mpr ⟨rfl, rfl, rfl⟩, h⟩

theorem traces_ofExcept_bind {x : Except Failure α} {f : α → Trial β} {r : Except Failure β} :
    Traces (ofExcept x >>= f) before log r after ↔
      (∃ e, x = .error e ∧ log = [] ∧ r = .error e ∧ after = before) ∨
        ∃ a, x = .ok a ∧ Traces (f a) before log r after := by
  rw [traces_bind]
  constructor
  · rintro (⟨e, hx, rfl⟩ | ⟨a, l₁, l₂, _, rfl, hx, h⟩)
    · obtain ⟨rfl, he, rfl⟩ := traces_ofExcept.mp hx
      exact .inl ⟨e, he.symm, rfl, rfl, rfl⟩
    · obtain ⟨rfl, ha, rfl⟩ := traces_ofExcept.mp hx
      exact .inr ⟨a, ha.symm, h⟩
  · rintro (⟨e, rfl, rfl, rfl, rfl⟩ | ⟨a, rfl, h⟩)
    · exact .inl ⟨e, traces_ofExcept.mpr ⟨rfl, rfl, rfl⟩, rfl⟩
    · exact .inr ⟨a, [], log, before, rfl, traces_ofExcept.mpr ⟨rfl, rfl, rfl⟩, h⟩

theorem traces_clock_bind {f : Float → Trial β} {r : Except Failure β} :
    Traces (clock >>= f) before log r after ↔
      ∃ now l, log = ⟨.clock, now⟩ :: l ∧ Traces (f now) before l r after := by
  rw [traces_bind_of_ok fun h => by obtain ⟨_, _, hr, _⟩ := traces_clock.mp h; cases hr]
  constructor
  · rintro ⟨a, l₁, l₂, _, rfl, hc, h⟩
    obtain ⟨now, rfl, hr, rfl⟩ := traces_clock.mp hc
    obtain rfl := Except.ok.inj hr
    exact ⟨_, l₂, rfl, h⟩
  · rintro ⟨now, l, rfl, h⟩
    exact ⟨now, [_], l, before, rfl, traces_clock.mpr ⟨now, rfl, rfl, rfl⟩, h⟩

theorem traces_outcome_bind {t : Trial α} {f : Except Failure α → Trial β}
    {r : Except Failure β} :
    Traces (t.outcome >>= f) before log r after ↔
      ∃ ended l₁ l₂ between, log = l₁ ++ l₂ ∧ Traces t before l₁ ended between ∧
        Traces (f ended) between l₂ r after := by
  rw [traces_bind_of_ok fun h => by obtain ⟨_, _, hr⟩ := traces_outcome.mp h; cases hr]
  constructor
  · rintro ⟨a, l₁, l₂, between, rfl, ho, h⟩
    obtain ⟨ended, ht, hr⟩ := traces_outcome.mp ho
    obtain rfl := Except.ok.inj hr
    exact ⟨_, l₁, l₂, between, rfl, ht, h⟩
  · rintro ⟨ended, l₁, l₂, between, rfl, ht, h⟩
    exact ⟨ended, l₁, l₂, between, rfl, traces_outcome.mpr ⟨ended, ht, rfl⟩, h⟩

theorem traces_perform {t : Trial α} {x : Except Failure α × List Attachment} :
    t.perform.Traces log x ↔ Traces t [] log x.1 x.2 := Iff.rfl

end SuiteEngine.Host.Trial
