import SuiteEngine.Host.Machine

/-!
# Changes of files

A change succeeds when each of its parts does, one after the other on the files that the part before it
left.
-/

namespace SuiteEngine.Host

open Files (Tree)

namespace Change

variable {α β : Type} {files t : Tree}

/-- What a change of files comes to, and the files that it leaves. -/
def on (c : Change α) (files : Tree) : Except Failure α × Tree := c.run.run files

theorem on_pure (a : α) : (pure a : Change α).on files = (.ok a, files) := rfl

theorem on_bind {x : Change α} {f : α → Change β} :
    (x >>= f).on files = match x.on files with
      | (.ok a, t₁) => (f a).on t₁
      | (.error e, t₁) => (.error e, t₁) := by
  unfold on
  rw [ExceptT.run_bind, StateT.run_bind]
  cases x.run.run files with
  | mk r t₁ => cases r <;> rfl

theorem on_bind_eq_ok {x : Change α} {f : α → Change β} {b : β} :
    (x >>= f).on files = (.ok b, t) ↔ ∃ a t₁, x.on files = (.ok a, t₁) ∧ (f a).on t₁ = (.ok b, t) := by
  rw [on_bind]
  rcases x.on files with ⟨e | a, t₁⟩ <;> simp [and_assoc]

theorem on_bind_of_error {x : Change α} {f : α → Change β} {e : Failure}
    (h : x.on files = (.error e, t)) : (x >>= f).on files = (.error e, t) := by
  rw [on_bind, h]

theorem on_get_bind {g : Tree → Change α} : (get >>= g).on files = (g files).on files := rfl

theorem on_ofTree_eq_ok {f : Tree → Except Failure (α × Tree)} {a : α} :
    (ofTree f).on files = (.ok a, t) ↔ f files = .ok (a, t) := by
  rw [ofTree, on_get_bind]
  cases f files with
  | error e =>
    change ((.error e, files) : Except Failure α × Tree) = (.ok a, t) ↔ _
    simp
  | ok r =>
    change ((.ok r.1, r.2) : Except Failure α × Tree) = (.ok a, t) ↔ _
    simp [Prod.ext_iff]

theorem on_ofTree_of_error {f : Tree → Except Failure (α × Tree)} {e : Failure}
    (h : f files = .error e) : (ofTree f).on files = (.error e, files) := by
  rw [ofTree, on_get_bind, h]
  rfl

theorem on_tryCatch {x : Change α} {g : Failure → Failure} :
    (tryCatch x fun f => throw (g f)).on files = match x.on files with
      | (.ok a, t₁) => (.ok a, t₁)
      | (.error e, t₁) => (.error (g e), t₁) := by
  change StateT.run (ExceptT.tryCatch x fun f => throw (g f)) files = _
  have hx : StateT.run x files = x.run.run files := rfl
  rw [ExceptT.tryCatch, ExceptT.mk, StateT.run_bind, hx, on]
  cases x.run.run files with
  | mk r t₁ => cases r <;> rfl

/-- A failure that is worded anew stays one. -/
theorem on_tryCatch_eq_ok {x : Change α} {g : Failure → Failure} {a : α} :
    (tryCatch x fun f => throw (g f)).on files = (.ok a, t) ↔ x.on files = (.ok a, t) := by
  rw [on_tryCatch]
  rcases x.on files with ⟨e | a, t₁⟩ <;> simp

end Change

end SuiteEngine.Host
