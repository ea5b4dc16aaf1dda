import SuiteEngine.Browser.Launch
import SuiteEngine.Failure
import SuiteEngine.Files.Tree
import SuiteEngine.Host.Page
import SuiteEngine.Http.Message
import SuiteEngine.Ui.Snapshot

/-!
# What a run asks of its surroundings

A `Program` is a computation that asks questions: the time, an answer to a request, something done on a
page. It does not say who answers: `Program.run` lets any machine with a state answer.

A client is opened for a context and closed again; so is a session, which is known by its number.
-/

namespace SuiteEngine.Host

/-- What a client sends requests with. -/
structure ClientContext where
  baseUrl : String
  headers : Http.Headers
  /-- The milliseconds allowed for a request without a limit of its own. -/
  timeout : Value

/-- What a page is opened with. -/
structure SessionContext where
  baseUrl : String
  headers : Http.Headers

/-- A question. -/
inductive Question where
  /-- The seconds on a clock that never goes back. -/
  | clock
  /-- Notes a warning. -/
  | warn (message : String)
  | openClient (context : ClientContext)
  | send (context : ClientContext) (request : Http.Request)
  | closeClient
  /-- Says how the browser of the sessions to come is started. -/
  | useBrowser (launch : Browser.Launch)
  | openSession (context : SessionContext)
  | onPage (session : Nat) (call : PageCall)
  | screenshot (session : Nat) (shot : Shot)
  | closeSession (session : Nat)
  /-- Stores a content in a file, whose directory is made. -/
  | store (path : Files.Path) (content : Files.Content)
  /-- Compares a screenshot with its baseline. -/
  | compare (actual : Files.Content) (baseline : Files.Path) (limit : Float)

/-- What answers a question. -/
@[reducible] def Question.Answer : Question → Type
  | clock => Float
  | warn _ => Unit
  | openClient _ => Except Failure Unit
  | send _ _ => Except Failure Http.Response
  | closeClient => Unit
  | useBrowser _ => Unit
  | openSession _ => Except Failure Nat
  | onPage _ _ => Except Failure Unit
  | screenshot _ _ => Except Failure Files.Content
  | closeSession _ => Unit
  | store _ _ => Except Failure Unit
  | compare _ _ _ => Except Failure Ui.Comparison

/-- A computation that asks questions and goes on with the answers. -/
inductive Program (α : Type) : Type where
  | done (a : α)
  | ask (q : Question) (next : q.Answer → Program α)

namespace Program

variable {α β : Type}

/-- Goes on with the result of a program. -/
def bind : Program α → (α → Program β) → Program β
  | done a, f => f a
  | ask q next, f => ask q fun answer => bind (next answer) f

instance : Monad Program where
  pure := done
  bind := bind

/-- Asks one question. -/
def question (q : Question) : Program q.Answer := ask q done

/-- Lets a machine answer, and gives the result and the machine's last state. -/
def run {σ : Type} (answer : (q : Question) → σ → q.Answer × σ) : Program α → σ → α × σ
  | done a, s => (a, s)
  | ask q next, s =>
    let (a, s) := answer q s
    run answer (next a) s

/-- The seconds on the clock. -/
def clock : Program Float := question .clock

/-- Notes a warning. -/
def warn (message : String) : Program Unit := question (.warn message)

end Program

/-- A program that may fail. -/
abbrev Fallible := ExceptT Failure Program

namespace Fallible

variable {α : Type}

/-- The result of a program that does not fail. -/
def lift (p : Program α) : Fallible α := ExceptT.lift p

/-- Asks a question whose answer may be a failure. -/
def ofAnswer (p : Program (Except Failure α)) : Fallible α := ExceptT.mk p

/-- Sends a request with an open client. -/
def send (context : ClientContext) (request : Http.Request) : Fallible Http.Response :=
  ofAnswer (Program.question (.send context request))

/-- Opens a client for a computation, and closes it however that ends. -/
def withClient (context : ClientContext) (body : Fallible α) : Fallible α := do
  ofAnswer (Program.question (.openClient context))
  let result ← lift body.run
  lift (Program.question .closeClient)
  ofAnswer (pure result)

/-- Sends one request with a client of its own. -/
def exchange (context : ClientContext) (request : Http.Request) : Fallible Http.Response :=
  withClient context (send context request)

end Fallible

end SuiteEngine.Host

/-!
## Programs side by side

A pool lets several programs go on at the same time. There are places for so many of them, which those
take that were given first and are not finished; a place that becomes free is taken by the next one. A
list of turns says which of them asks its next question; the turn of a program that has no place passes.
When no turn is left, the programs are finished one after the other.

* `Program.pool`: the results, in the order in which the programs were given.
-/

namespace SuiteEngine.Host.Program

variable {α : Type}

/-- Whether a program has no question left. -/
def isDone : Program α → Bool
  | done _ => true
  | ask _ _ => false

/-- The positions of the programs that are not finished. -/
def unfinished (ps : List (Program α)) : List Nat :=
  (List.range ps.length).filter fun i => (ps[i]?).any fun p => !p.isDone

/-- The positions of the programs that have one of the places. -/
def underWay (places : Nat) (ps : List (Program α)) : List Nat := (unfinished ps).take places

/-- Asks the next question of the program at a position. -/
def advance (ps : List (Program α)) (i : Nat) : Program (List (Program α)) :=
  match ps[i]? with
  | some (ask q next) => do return ps.set i (next (← question q))
  | _ => return ps

/-- Lets programs go on side by side and gives their results. -/
def pool (places : Nat) : (turns : List Nat) → List (Program α) → Program (List α)
  | [], ps => ps.mapM id
  | i :: turns, ps => do
    if (underWay places ps).contains i then pool places turns (← advance ps i)
    else pool places turns ps

end SuiteEngine.Host.Program
