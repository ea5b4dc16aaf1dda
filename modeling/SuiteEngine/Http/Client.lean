import SuiteEngine.Document.Display
import SuiteEngine.Duration
import SuiteEngine.Http.Charset
import SuiteEngine.Http.Cookie
import SuiteEngine.Json.Parse
import SuiteEngine.Text.Base64
import SuiteEngine.Text.Utf8

/-!
# Clients

A client completes requests to what goes over the wire, and reads what comes back. Names of headers are
compared without regard to case; the headers of a request take the place of the client's.

* `Client.transmission`: what is transmitted for a request.
* `Client.receive`: the response that a reply is.
* `transportFailure`: the failure that a fault of the transport is.
-/

namespace SuiteEngine.Http

/-- A client. -/
structure Client where
  /-- Where the addresses of requests start. -/
  base : Address
  headers : Headers
  /-- The seconds allowed for a request that has no limit of its own. -/
  timeout : Float
  jar : Jar

/-- What goes over the wire. -/
structure Transmission where
  method : String
  address : Address
  headers : Headers
  content : List UInt8
  /-- The seconds allowed. -/
  timeout : Float

/-- What comes back over the wire. -/
structure Reply where
  status : Int
  headers : Headers
  content : List UInt8

/-- Whether two names of headers are the same. -/
def sameName (a b : String) : Bool := Text.lower a == Text.lower b

namespace Headers

/-- Whether there is a header with this name. -/
def has (hs : Headers) (name : String) : Bool := hs.any fun (k, _) => sameName k name

/-- Puts headers in the place of those with the same names. -/
def supersede (hs above : Headers) : Headers :=
  hs.filter (fun (k, _) => !has above k) ++ above

/-- Adds a header unless there is one with its name. -/
def orElse (hs : Headers) (name text : String) : Headers :=
  if has hs name then hs else hs ++ [(name, text)]

/-- Adds a header unless there is one with its name, or there is no text for it. -/
def orElse? (hs : Headers) (name : String) : Option String → Headers
  | some text => hs.orElse name text
  | none => hs

/-- Fails if a name or a text is not in ASCII. -/
def checkAscii (hs : Headers) : Except Failure Unit :=
  match hs.findSome? fun (k, v) => (Text.asciiFault? k).or (Text.asciiFault? v) with
  | none => .ok ()
  | some message => .error ⟨.other "UnicodeEncodeError", message⟩

/-- Adds a text under a name in small letters, after a comma where the name is there already. -/
def join : Headers → String → String → Headers
  | [], k, v => [(k, v)]
  | (k', v') :: rest, k, v =>
    if k' == k then (k, v' ++ ", " ++ v) :: rest else (k', v') :: join rest k v

/-- The headers with their names in small letters, those of one name joined. -/
def joined (hs : Headers) : Headers := hs.foldl (fun acc (k, v) => join acc (Text.lower k) v) []

end Headers

/-- The name of the header for the kind of content. -/
def contentTypeName : String := "Content-Type"

/-- The kind of content of JSON. -/
def jsonContent : String := "application/json"

/-- The failure that an integer with too many digits is. -/
def longInteger : Failure := ⟨.other "ValueError", Text.tooLongToWrite⟩

/-- The bytes of a body, and the headers with the kind of content if the body is written as JSON. -/
def encodeBody (body : Value) (headers : Headers) :
    Except Failure (Option (List UInt8) × Headers) :=
  match body with
  | .null => .ok (none, headers)
  | .bytes b => .ok (some b, headers)
  | .str s => .ok (some (Text.encode s), headers)
  | v =>
    if Json.writable v.jsonable then
      .ok (some (Text.encode (Json.render .line v.jsonable)),
        headers.orElse contentTypeName jsonContent)
    else .error longInteger

/-- Whether requests of this method say that they have no content. -/
def announcesEmpty (method : String) : Bool := ["POST", "PUT", "PATCH"].contains method

/-- The headers that are added because the request does not have them. -/
def automaticHeaders (method : String) (a : Address) (hs : Headers) : Headers :=
  (if hs.has "Host" || a.host == "" then [] else [("Host", a.netloc)]) ++
    (if hs.has "Content-Length" || hs.has "Transfer-Encoding" || !announcesEmpty method then []
      else [("Content-Length", "0")])

/-- The credentials that an address names, as a header has them. -/
def Address.authorization? (a : Address) : Option String :=
  let (name, password) := cutAt ':' a.user.toList
  let name := Text.unescape (String.ofList name)
  let password := Text.unescape (String.ofList (password.getD []))
  if name == "" && password == "" then none
  else some ("Basic " ++ String.ofList (Text.base64 (Text.encode (name ++ ":" ++ password))))

/-- Replaces the first header of a name and drops the others of it, or adds one. -/
def Headers.assign (hs : Headers) (name text : String) : Headers :=
  match hs.span fun (k, _) => !sameName k name with
  | (before, (k, _) :: after) => before ++ (k, text) :: after.filter fun (k', _) => !sameName k' name
  | (before, []) => before ++ [(name, text)]

/-- Replaces the headers of a name if there is a text for it. -/
def Headers.assign? (hs : Headers) (name : String) : Option String → Headers
  | some text => hs.assign name text
  | none => hs

/-- The length of a content, if there is any. -/
def lengthText? (content : List UInt8) : Option String :=
  if content.isEmpty then none else some (toString content.length)

namespace Client

/-- A client for requests that start at a base. -/
def ofBase (baseUrl : String) (headers : Headers) (timeout : Value) : Except Failure Client := do
  let timeout ← secondsOf timeout
  headers.checkAscii
  let base ← (← Address.ofText baseUrl).asBase
  return { base, headers, timeout, jar := [] }

/-- The seconds allowed for a request. -/
def timeoutFor (c : Client) (r : Request) : Except Failure Float :=
  match r.timeout.filter Value.truthy with
  | some milliseconds => secondsOf milliseconds
  | none => .ok c.timeout

/-- The headers that go with a content: those of the request in the place of the client's, and those that
are added because they are wanting. -/
def headersFor (c : Client) (method : String) (address : Address) (own : Headers)
    (content : List UInt8) : Headers :=
  let merged := (c.headers.supersede own).orElse? "Cookie" (c.jar.header? address)
  let sized := merged.orElse? "Content-Length" (lengthText? content)
  (automaticHeaders method address sized ++ sized).assign? "Authorization" address.authorization?

/-- The seconds allowed for a request, and where it goes. -/
def route (c : Client) (r : Request) : Except Failure (Float × Address) := do
  let timeout ← c.timeoutFor r
  let address ← c.base.merge (← Address.ofText r.url)
  return (timeout, address)

/-- What is transmitted for a request with this content and these headers. -/
def dispatch (c : Client) (r : Request) (content : List UInt8) (own : Headers) :
    Except Failure Transmission := do
  let (timeout, address) ← c.route r
  own.checkAscii
  let method := String.ofList (r.method.toList.map Char.toUpper)
  return { method, address, headers := c.headersFor method address own content, content, timeout }

/-- What is transmitted for a request. -/
def transmission (c : Client) (r : Request) : Except Failure Transmission := do
  let (content, own) ← encodeBody r.body r.headers
  c.dispatch r (content.getD []) own

end Client

/-- The headers of a reply, with the length of its content. -/
def Reply.allHeaders (p : Reply) : Headers :=
  p.headers.orElse? "Content-Length" (lengthText? p.content)

/-- The text of a reply. -/
def Reply.text (p : Reply) (contentType : Option String) : Except Failure String :=
  (charsetOf contentType).decode p.content

/-- Whether some characters stand in a row somewhere in others. -/
def occursIn (part : List Char) : List Char → Bool
  | [] => part.isEmpty
  | c :: cs => part.isPrefixOf (c :: cs) || occursIn part cs

/-- Whether a text has another one somewhere in it. -/
def mentions (part whole : String) : Bool := occursIn part.toList whole.toList

/-- The value that the content of a reply is, if it is said to be JSON and is. -/
def Reply.json? (p : Reply) (contentType : Option String) : Option Value := do
  guard (mentions jsonContent (contentType.getD "") && !p.content.isEmpty)
  (Json.parse (← jsonText? p.content)).toOption

/-- The body of a reply: a value if the content is JSON, else a text. -/
def Reply.body (p : Reply) : Except Failure Value :=
  let contentType := p.headers.joined.find? contentTypeName
  match p.json? contentType with
  | some v => .ok v
  | none => (p.text contentType).map .str

/-- What goes wrong on the wire. -/
inductive TransportFault where
  /-- No reply came in time. -/
  | late (message : String)
  /-- The exchange broke off. -/
  | broken (message : String)
  /-- Something else. -/
  | other (f : Failure)

/-- The failure that a fault of the transport is for a request. -/
def transportFailure (r : Request) : TransportFault → Failure
  | .late message => ⟨.timeout, r.method ++ " " ++ r.url ++ " timed out: " ++ message⟩
  | .broken message => ⟨.transport, r.method ++ " " ++ r.url ++ " failed: " ++ message⟩
  | .other f => f

/-- The statuses of replies that point to another address. -/
def redirects : List Int := [301, 302, 303, 307, 308]

/-- The fault of a reply that points to something that is no address. -/
def Reply.badLocation? (p : Reply) : Option TransportFault :=
  if redirects.contains p.status then
    match (p.headers.joined.find? "Location").map Address.ofText with
    | some (.error f) => some (.broken ("Invalid URL in location header: " ++ f.message ++ "."))
    | _ => none
  else none

namespace Client

/-- The client with the cookies that a reply leaves now. -/
def keepCookies (c : Client) (now : Moment) (t : Transmission) (p : Reply) : Client :=
  let left := p.headers.filterMap fun (k, v) => if sameName k "Set-Cookie" then some v else none
  { c with jar := c.jar.keep now t.address left }

/-- The response that a reply is, after the milliseconds it took. -/
def receive (r : Request) (t : Transmission) (p : Reply) (milliseconds : Float) :
    Except Failure Response := do
  p.headers.checkAscii
  if t.address.scheme == "" then
    throw ⟨.other "ValueError", "unknown url type: " ++ Text.quoted t.address.text⟩
  if let some fault := p.badLocation? then throw (transportFailure r fault)
  return {
    status := .int p.status, headers := p.allHeaders.joined, body := ← p.body
    elapsed := .float (floatRound milliseconds 3) }

end Client

end SuiteEngine.Http
