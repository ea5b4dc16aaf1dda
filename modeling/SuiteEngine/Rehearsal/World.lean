import SuiteEngine.Files.Tree
import SuiteEngine.Host.Machine
import SuiteEngine.Rehearsal.Script

/-!
# A world that follows a script

A `World` holds the time, the files and what has been recorded so far. `World.answer` lets it answer the
questions of a program, as its script says. Time passes only where the script or a wait says so.
-/

namespace SuiteEngine.Rehearsal

open Host (PageCall Question Shot)

/-- The world as a rehearsal has left it. -/
structure World where
  script : Script
  /-- The milliseconds since the rehearsal began. -/
  milliseconds : Float
  files : Files.Tree
  requests : List HttpEvent
  /-- What each session did, in the order of their opening. -/
  sessions : List (List PageEvent)
  warnings : List String
  /-- The browsers that were to be used. -/
  browsers : List Browser.Launch

namespace World

/-- The world at the beginning. -/
def start (script : Script) (files : Files.Tree) : World :=
  { script, milliseconds := 0.0, files, requests := [], sessions := [], warnings := []
    browsers := [] }

/-- Lets some milliseconds pass. -/
def pass (w : World) (milliseconds : Float) : World :=
  { w with milliseconds := w.milliseconds + milliseconds }

/-- Records what a client did. -/
def recordRequest (w : World) (e : HttpEvent) : World := { w with requests := w.requests ++ [e] }

/-- Records what a session did. -/
def recordOnPage (w : World) (session : Nat) (e : PageEvent) : World :=
  { w with sessions := w.sessions.modify (session - 1) (· ++ [e]) }

/-- Records a warning. -/
def recordWarning (w : World) (message : String) : World :=
  { w with warnings := w.warnings ++ [message] }

/-- How many requests of a route have been sent. -/
def sentCount (w : World) (route : String) : Nat :=
  w.requests.countP fun
    | .sent r => routeOf r == route
    | _ => false

/-- Answers a request. -/
def send (w : World) (r : Http.Request) : Except Failure Http.Response × World :=
  let reply := w.script.http.reply (routeOf r) (w.sentCount (routeOf r))
  (reply.result, (w.recordRequest (.sent r)).pass reply.delay)

/-- What a picture shows when the script does not say. -/
def plainShot : Files.Content := .bytes [80, 78, 71]

/-- Applies rules one after the other, up to the first that lets the call fail; `shown` is what a picture
shows so far. -/
def follow (w : World) (shown : Files.Content) :
    List PageRule → Except Failure Files.Content × World
  | [] => (.ok shown, w)
  | r :: rest =>
    let w := w.pass r.delay
    match r.failure with
    | some f => (.error f, w)
    | none => w.follow (r.shown.getD shown) rest

/-- Records a call on a page and applies the rules about it. -/
def onPage (w : World) (session : Nat) (name : String) (arguments : List Value)
    (first : Option Value) : Except Failure Files.Content × World :=
  (w.recordOnPage session (.asked name arguments)).follow plainShot
    (w.script.pages.filter fun r => r.concerns session name first)

/-- The milliseconds that a call itself lasts. -/
def lasting : PageCall → Float
  | .waitForTimeout ms => (ms.toFloat?.filter Float.isFinite).getD 0.0
  | _ => 0.0

/-- Does something on a page. -/
def act (w : World) (session : Nat) (call : PageCall) : Except Failure Unit × World :=
  match w.onPage session call.name call.arguments call.arguments.head? with
  | (.ok _, w) => (.ok (), w.pass (lasting call))
  | (.error f, w) => (.error f, w)

/-- Takes a picture of a page. -/
def shoot (w : World) (session : Nat) (shot : Shot) : Except Failure Files.Content × World :=
  let selector := ((shot.selector?).map Value.str).getD .null
  w.onPage session Shot.name [.bool shot.isFull, selector] (some selector)

/-- Opens a session, whose number is one more than that of the session before. -/
def openSession (w : World) (context : Host.SessionContext) : Except Failure Nat × World :=
  let session := w.sessions.length + 1
  let w := { w with sessions := w.sessions ++ [[PageEvent.opened context]] }
  match w.script.opening.find? fun (r : OpenRule) => r.concerns session with
  | some r => (.error r.failure, w)
  | none => (.ok session, w)

/-- Stores a file. -/
def store (w : World) (path : Files.Path) (content : Files.Content) : Except Failure Unit × World :=
  match w.files.makeDirectories path.parent with
  | .error f => (.error f.failure, w)
  | .ok made =>
    match made.write path content with
    | .error f => (.error f.failure, { w with files := made })
    | .ok files => (.ok (), { w with files })

/-- Compares a screenshot with its baseline. -/
def compare (w : World) (actual : Files.Content) (baseline : Files.Path) (limit : Float) :
    Except Failure Ui.Comparison × World :=
  match Ui.compareWithBaseline w.files actual baseline limit with
  | .error f => (.error f, w)
  | .ok (c, files) =>
    (.ok c, ((c.warning? baseline).toList.foldl recordWarning { w with files }))

/-- Answers a question. -/
def answer : (q : Question) → World → q.Answer × World
  | .clock, w => (w.milliseconds / 1000.0, w)
  | .warn message, w => ((), w.recordWarning message)
  | .openClient context, w => (.ok (), w.recordRequest (.opened context))
  | .send _ request, w => w.send request
  | .closeClient, w => ((), w.recordRequest .closed)
  | .useBrowser launch, w => ((), { w with browsers := w.browsers ++ [launch] })
  | .openSession context, w => w.openSession context
  | .onPage session call, w => w.act session call
  | .screenshot session shot, w => w.shoot session shot
  | .closeSession session, w => ((), w.recordOnPage session .closed)
  | .store path content, w => w.store path content
  | .compare actual baseline limit, w => w.compare actual baseline limit

/-- Runs a program in the world. -/
def perform {α : Type} (w : World) (p : Host.Program α) : α × World := p.run answer w

/-- The world as a machine. -/
def machine : Host.Machine World :=
  { answer, files := World.files, withFiles := fun w files => { w with files } }

end World

end SuiteEngine.Rehearsal
