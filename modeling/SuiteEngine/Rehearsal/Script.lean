import SuiteEngine.Document.Compare
import SuiteEngine.Host.Program

/-!
# Scripts of a rehearsal

In a rehearsal nothing outside answers: a script says beforehand what comes back to each request and
what happens on each page. What was asked is recorded as events.
-/

namespace SuiteEngine.Rehearsal

open Host (ClientContext PageCall SessionContext)

/-- What comes back to a request, after some time has passed. -/
structure Reply where
  /-- The milliseconds that pass before it. -/
  delay : Float
  result : Except Failure Http.Response

/-- What comes back to which request: each line has a method and an address, and the replies to the
first request of that kind, the second and so on; the last one is repeated. -/
structure HttpScript where
  routes : List (String × List Reply)
  /-- The reply to a request without a line of its own. -/
  otherwise : Option Reply

/-- What happens when a page is asked for something. -/
structure PageRule where
  call : String
  /-- The first argument that the rule is about; any if it does not say. -/
  first : Option Value
  /-- The session that the rule is about; any if it does not say. -/
  session : Option Nat
  /-- The milliseconds that pass. -/
  delay : Float
  failure : Option Failure
  /-- What a picture taken then holds. -/
  shown : Option Files.Content

/-- A session that cannot be opened. -/
structure OpenRule where
  session : Option Nat
  failure : Failure

/-- All that is decided beforehand. -/
structure Script where
  http : HttpScript
  pages : List PageRule
  opening : List OpenRule

/-- What a client did. -/
inductive HttpEvent where
  | opened (context : ClientContext)
  | sent (request : Http.Request)
  | closed

/-- What a session did. -/
inductive PageEvent where
  | opened (context : SessionContext)
  | asked (name : String) (arguments : List Value)
  | closed

/-- The line that a request belongs to. -/
def routeOf (r : Http.Request) : String := r.method ++ " " ++ r.url

/-- The reply when nothing was decided about a request. -/
def noRoute : Reply :=
  { delay := 0.0
    result := .ok { status := .int 404, headers := [], body := .obj [("error", .str "no route")]
                    elapsed := .float 0.0 } }

/-- The reply to a request of which `earlier` were sent before. -/
def HttpScript.reply (s : HttpScript) (route : String) (earlier : Nat) : Reply :=
  match s.routes.lookup route with
  | some replies => ((replies[earlier]?).or replies.getLast?).getD noRoute
  | none => s.otherwise.getD noRoute

/-- Whether a rule is about this. -/
def PageRule.concerns (r : PageRule) (session : Nat) (call : String) (first : Option Value) : Bool :=
  r.call == call && r.session.all (· == session) &&
    r.first.all fun wanted => first.any (wanted.deepEqual ·)

/-- Whether a rule is about this session. -/
def OpenRule.concerns (r : OpenRule) (session : Nat) : Bool := r.session.all (· == session)

end SuiteEngine.Rehearsal
