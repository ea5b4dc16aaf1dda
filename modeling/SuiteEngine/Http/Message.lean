import SuiteEngine.Document.Display
import SuiteEngine.Document.Value
import SuiteEngine.Text.Blank
import SuiteEngine.Text.Case

/-!
# Requests and responses

What is sent to an API and what comes back. Names of headers are looked up without regard to case.
-/

namespace SuiteEngine.Http

/-- Names and texts of a message's headers, in order. -/
abbrev Headers := List (String × String)

/-- A request, ready to be sent. -/
structure Request where
  method : String
  url : String
  headers : Headers
  body : Value
  /-- The milliseconds allowed, where the request has a limit of its own. -/
  timeout : Option Value

/-- A response; the body is a document value where the server said so. -/
structure Response where
  status : Value
  headers : Headers
  body : Value
  /-- The milliseconds it took. -/
  elapsed : Value

/-- Headers as a value. -/
def Headers.value (hs : Headers) : Value := .obj (hs.map fun (k, v) => (k, .str v))

/-- The first header with this name in any case. -/
def Headers.find? (hs : Headers) (name : String) : Option String :=
  let wanted := Text.lower name
  (List.find? (fun (k, _) => Text.lower k == wanted) hs).map (·.2)

/-- The response's header with this name. -/
def Response.header (r : Response) (name : String) : Option String := r.headers.find? name

/-- Whether the status is a number that is at least `n`. -/
def Response.statusAtLeast (r : Response) (n : Int) : Bool :=
  match r.status.asNumber? with
  | some s => Exact.le (intExact n) s
  | none => false

/-- Whether the status says that the request was carried out. -/
def Response.isSuccess (r : Response) : Bool := r.statusAtLeast 200 && !r.statusAtLeast 300

/-- Whether the status says that the request failed. -/
def Response.isError (r : Response) : Bool := r.statusAtLeast 400

/-- The request as diagnostics show it. -/
def Request.diagnostic (r : Request) : Value :=
  .obj [("method", .str r.method), ("url", .str r.url), ("headers", r.headers.value),
    ("body", r.body.jsonable)]

/-- The response as diagnostics show it. -/
def Response.diagnostic (r : Response) : Value :=
  .obj [("status", r.status), ("headers", r.headers.value), ("body", r.body.jsonable),
    ("elapsed", r.elapsed)]

/-- Puts headers over others: a name that is there already, in the same case, takes the new text in
its place. -/
def Headers.overlay (hs : Headers) (above : Headers) : Headers :=
  above.foldl (fun acc (k, v) => set acc k v) hs
where
  /-- Binds one name. -/
  set : Headers → String → String → Headers
    | [], k, v => [(k, v)]
    | (k', v') :: rest, k, v => if k' = k then (k, v) :: rest else (k', v') :: set rest k v

/-!
## Addresses of requests

`buildUrl` joins a base and an endpoint with exactly one slash and appends the parameters, each written
so that only letters, digits, a few marks and escapes remain.
-/

/-- Whether a byte stands for itself in a parameter. -/
def isUnreserved (b : UInt8) : Bool :=
  let c := Char.ofNat b.toNat
  c.isAlphanum || c == '_' || c == '.' || c == '-' || c == '~'

/-- One byte in a parameter: itself, a plus for a blank, or an escape. -/
def encodeByte (b : UInt8) : String :=
  if isUnreserved b then String.ofList [Char.ofNat b.toNat]
  else if b == 32 then "+"
  else "%" ++ String.ofList ((Text.hex 2 b.toNat).toList.map Char.toUpper)

/-- A text in a parameter. -/
def encodeText (s : String) : String := String.join ((Text.encode s).map encodeByte)

/-- Names and values as parameters. -/
def encodeQuery (query : List (String × Value)) : String :=
  "&".intercalate (query.map fun (k, v) => encodeText k ++ "=" ++ encodeText v.display)

/-- Whether a character is a slash. -/
def isSlash (c : Char) : Bool := c == '/'

/-- Base and endpoint with exactly one slash between them. -/
def joinUrl (base endpoint : String) : String :=
  Text.trimRightBy isSlash base ++ "/" ++ Text.trimLeftBy isSlash endpoint

/-- Base, endpoint and parameters in one address. -/
def buildUrl (base endpoint : String) (query : List (String × Value)) : String :=
  if query.isEmpty then joinUrl base endpoint
  else joinUrl base endpoint ++ "?" ++ encodeQuery query

end SuiteEngine.Http
