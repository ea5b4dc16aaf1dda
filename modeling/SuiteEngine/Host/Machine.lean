import SuiteEngine.Files.Tree
import SuiteEngine.Host.Program

/-!
# Machines

A machine answers the questions of programs and keeps files. What a run reads before it begins and what
it writes after its end are changes of the files alone.
-/

namespace SuiteEngine.Host

/-- What answers questions and keeps files, with states of type `σ`. -/
structure Machine (σ : Type) where
  answer : (q : Question) → σ → q.Answer × σ
  files : σ → Files.Tree
  withFiles : σ → Files.Tree → σ

/-- A change of the files, which stays as far as it has come when it fails. -/
abbrev Change (α : Type) := ExceptT Failure (StateM Files.Tree) α

/-- A change that is made as a whole or not at all. -/
def Change.ofTree {α : Type} (f : Files.Tree → Except Failure (α × Files.Tree)) : Change α := do
  match f (← get) with
  | .ok (a, files) =>
    set files
    return a
  | .error failure => throw failure

namespace Machine

variable {σ α : Type}

/-- Runs a program. -/
def perform (m : Machine σ) (p : Program α) (s : σ) : α × σ := p.run m.answer s

/-- Changes the files. -/
def change (m : Machine σ) (c : Change α) (s : σ) : Except Failure α × σ :=
  let (result, files) := c.run.run (m.files s)
  (result, m.withFiles s files)

end Machine

/-!
## A machine without a network

It keeps files and notes warnings. Every request is refused before it leaves, and no browser can be
started; what needs neither is carried out in full. Its clock stands still.
-/

/-- What a machine without a network knows. -/
structure Offline where
  files : Files.Tree
  /-- The seconds that its clock shows. -/
  seconds : Float
  warnings : List String

namespace Offline

/-- Why a request is not sent. -/
def noNetwork : Failure := ⟨.transport, "No network is available."⟩

/-- Why a page is not opened. -/
def noBrowser : Failure := ⟨.host, "No browser is available."⟩

/-- Notes a warning. -/
def note (m : Offline) (message : String) : Offline :=
  { m with warnings := m.warnings ++ [message] }

/-- Stores a file, whose directory is made. -/
def store (m : Offline) (path : Files.Path) (content : Files.Content) :
    Except Failure Unit × Offline :=
  match m.files.makeDirectories path.parent >>= fun made => made.write path content with
  | .error f => (.error f.failure, m)
  | .ok files => (.ok (), { m with files })

/-- Compares a screenshot with its baseline. -/
def compare (m : Offline) (actual : Files.Content) (baseline : Files.Path) (limit : Float) :
    Except Failure Ui.Comparison × Offline :=
  match Ui.compareWithBaseline m.files actual baseline limit with
  | .error f => (.error f, m)
  | .ok (c, files) => (.ok c, ((c.warning? baseline).toList.foldl note { m with files }))

/-- Answers a question. -/
def answer : (q : Question) → Offline → q.Answer × Offline
  | .clock, m => (m.seconds, m)
  | .warn message, m => ((), m.note message)
  | .openClient _, m => (.ok (), m)
  | .send _ _, m => (.error noNetwork, m)
  | .closeClient, m => ((), m)
  | .useBrowser _, m => ((), m)
  | .openSession _, m => (.error noBrowser, m)
  | .onPage _ _, m => (.error noBrowser, m)
  | .screenshot _ _, m => (.error noBrowser, m)
  | .closeSession _, m => ((), m)
  | .store path content, m => m.store path content
  | .compare actual baseline limit, m => m.compare actual baseline limit

/-- The machine. -/
def machine : Machine Offline :=
  { answer, files := Offline.files, withFiles := fun m files => { m with files } }

end Offline

end SuiteEngine.Host
