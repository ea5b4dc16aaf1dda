import SuiteEngine.Cli.Program
import SuiteEngine.Host.Machine
import SuiteEngine.Proofs.Config.Escapes

/-!
# A run whose configuration cannot be read

An error that blames the configuration ends a run with the failure that it is prepared for, and a call
of the program with a status and the message. A failure that reading the configuration does not foresee
ends neither: it passes through both as it is. Nothing has been asked of the machine by then.

Headlines:
* `execute_of_failure`, `execute_of_error`: a run whose configuration is not read.
* **`carryOut_configuration`**: which failures pass through a call, and how it ends otherwise.
-/

namespace SuiteEngine.Cli

open Config (Escapes)
open Files (Path Tree)
open Host (Machine)

variable {σ : Type} {m : Machine σ} {environ : Config.Environ} {moment : Moment} {r : Run.Request}
  {s : σ}

/-- A run does not begin where its configuration is not read. -/
theorem execute_of_load (hn : r.apiPaths ≠ [] ∨ r.uiPaths ≠ []) {e : Config.Error}
    (h : Config.load (m.files s) (.ofText r.configPath) environ = .error e) :
    Run.execute m environ moment r s = (.error (Run.loadFailure e.asFailure), s) := by
  have hp : (r.apiPaths.isEmpty && r.uiPaths.isEmpty) = false := by
    simpa only [Bool.and_eq_false_iff, List.isEmpty_eq_false_iff] using hn
  have hread : Run.read (m.files s) environ r = .error e.asFailure := by
    unfold Run.read
    rw [h]
    rfl
  have hload : Run.load (m.files s) environ r = .error (Run.loadFailure e.asFailure) := by
    unfold Run.load
    dsimp only
    rw [hp, if_neg Bool.false_ne_true, hread]
    rfl
  unfold Run.execute
  rw [hload]

/-- An unforeseen failure passes through a run. -/
theorem execute_of_failure (hn : r.apiPaths ≠ [] ∨ r.uiPaths ≠ []) {f : Failure}
    (h : Escapes (m.files s) (.ofText r.configPath) environ f) :
    Run.execute m environ moment r s = (.error f, s) := by
  rw [execute_of_load hn (Config.load_eq_failure_iff.mpr h)]
  exact congrArg (fun x => (Except.error x, s)) (if_neg (Bool.eq_false_iff.mp h.unforeseen.1))

/-- An error that blames the configuration becomes the failure that a run is prepared for. -/
theorem execute_of_error (hn : r.apiPaths ≠ [] ∨ r.uiPaths ≠ []) {e : Config.Error}
    (h : Config.load (m.files s) (.ofText r.configPath) environ = .error e)
    (he : ∀ f, e ≠ .failure f) :
    Run.execute m environ moment r s = (.error (Run.runFailure e.message), s) := by
  have hf : e.asFailure = ⟨.other "ConfigurationError", e.message⟩ := by
    cases e with
    | failure f => exact absurd rfl (he f)
    | _ => rfl
  rw [execute_of_load hn h, hf]
  rfl

/-- How the command that runs suites ends. -/
theorem carryOut_run (at_ : Surroundings) (g : Given) :
    carryOut m at_ "run" g s =
      let (result, s) := Run.execute m at_.environ at_.moment (runRequest g) s
      (ended (·.kind == Run.runKind) (result.map runEnding), s) := rfl

/-- **Which failures pass through a call that runs suites**: those that reading the configuration does
not foresee, and they are those listed. Any other error in the configuration ends the call. -/
theorem carryOut_configuration (m : Machine σ) (at_ : Surroundings) (g : Given) (s : σ)
    (hn : g.all "--api-suite" ≠ [] ∨ g.all "--ui-suite" ≠ []) :
    let requested := Path.ofText (runRequest g).configPath
    (∀ f, Config.load (m.files s) requested at_.environ = .error (.failure f) ↔
      Escapes (m.files s) requested at_.environ f) ∧
    (∀ f, Escapes (m.files s) requested at_.environ f →
      Run.execute m at_.environ at_.moment (runRequest g) s = (.error f, s) ∧
        carryOut m at_ "run" g s = (.error f, s)) ∧
    ∀ e, Config.load (m.files s) requested at_.environ = .error e → (∀ f, e ≠ .failure f) →
      Run.execute m at_.environ at_.moment (runRequest g) s = (.error (Run.runFailure e.message), s) ∧
        carryOut m at_ "run" g s = (.ok (.failed e.message), s) := by
  refine ⟨fun f => Config.load_eq_failure_iff, fun f hf => ?_, fun e he hb => ?_⟩
  · have hrun : Run.execute m at_.environ at_.moment (runRequest g) s = (.error f, s) :=
      execute_of_failure hn hf
    refine ⟨hrun, ?_⟩
    have hkind : (f.kind == Run.runKind) = false := beq_eq_false_iff_ne.mpr hf.unforeseen.2
    rw [carryOut_run, hrun]
    simp only [Except.map, ended, hkind, Bool.false_eq_true, if_false]
  · have hrun : Run.execute m at_.environ at_.moment (runRequest g) s =
        (.error (Run.runFailure e.message), s) := execute_of_error hn he hb
    refine ⟨hrun, ?_⟩
    rw [carryOut_run, hrun]
    rfl

/-- A configuration of a single byte, which begins no character. -/
def undecodable : Tree := { cwd := [], entries := [(["c.yaml"], .file (.bytes [0xFF]))] }

/-- A call with this configuration. -/
def undecodableCall : Given :=
  { values := [("--config", "c.yaml"), ("--api-suite", "a.json")], switches := [], rest := [] }

/-- A configuration that is not UTF-8 is not blamed for it, and the program does not end the call. -/
theorem carryOut_configuration_undecodable :
    undecodableCall.all "--api-suite" ≠ [] ∧
    ∃ f : Failure, f.kind = .other "UnicodeDecodeError" ∧
      Config.load undecodable (.ofText "c.yaml") [] = .error (.failure f) ∧
      carryOut Host.Offline.machine ⟨[], ⟨2024, 1, 2, 3, 4, 5, 0⟩⟩ "run" undecodableCall
        ⟨undecodable, 0.0, []⟩ = (.error f, ⟨undecodable, 0.0, []⟩) := by
  have hn : undecodableCall.all "--api-suite" ≠ [] := by decide
  obtain ⟨hiff, hescapes, -⟩ := carryOut_configuration Host.Offline.machine
    ⟨[], ⟨2024, 1, 2, 3, 4, 5, 0⟩⟩ undecodableCall ⟨undecodable, 0.0, []⟩ (.inl hn)
  have htext : Escapes undecodable (.ofText "c.yaml") []
      (Files.Fault.notText ⟨0, 0xFF, 1, .invalidStart⟩).failure :=
    .text rfl rfl rfl
  exact ⟨hn, _, rfl, (hiff _).mpr htext, (hescapes _ htext).2⟩

end SuiteEngine.Cli
