import SuiteEngine.Calendar
import SuiteEngine.Http.Address
import SuiteEngine.Http.Expiry
import SuiteEngine.Http.Message
import SuiteEngine.Text.Utf8

/-!
# Cookies

A reply may leave cookies, which the requests after it carry. A cookie is sent to hosts at or below its
domain, for addresses at or below its path; one whose time is over when it comes removes the one that
it would have replaced.

* `Terms.ofAttributes`: what the attributes of a cookie say.
* `Cookie.ofHeader?`: the cookie that a header leaves.
* `Jar.keep`: the cookies after a reply.
* `Jar.header?`: what a request carries.
-/

namespace SuiteEngine.Http

/-- A cookie. -/
structure Cookie where
  name : String
  /-- Its text; a cookie may have none. -/
  value : Option String
  /-- The host that left it, or the domain that it names with a point in front. -/
  domain : String
  /-- Whether it names its domain. -/
  namesDomain : Bool
  path : String
  secure : Bool
  version : Int
  /-- The second from which it is kept no more. -/
  expires : Option Int

/-- The cookies that have been left; those of one domain stand together, and among them those of one
path. -/
abbrev Jar := List Cookie

/-! ## The addresses that cookies are for -/

/-- The name under which the host of an address leaves cookies. -/
def Address.cookieHost (a : Address) : String := Text.lower { a with port := none }.authority

/-- The host of an address as domains are compared with it: a name without points is a local one. -/
def Address.cookieDomain (a : Address) : String :=
  let host := a.cookieHost
  if host.toList.contains '.' then host else host ++ ".local"

/-- What the path of a cookie may hold unescaped. -/
def inCookiePath (c : Char) : Bool := c.isAlphanum || "_.-~%/;:@&=+$,!*'()".toList.contains c

/-- Puts the digits of escapes in capitals. -/
def capitalizeEscapes : List Char → List Char
  | '%' :: a :: b :: rest =>
    if (Text.hexValue? a).isSome && (Text.hexValue? b).isSome then
      '%' :: a.toUpper :: b.toUpper :: capitalizeEscapes rest
    else '%' :: capitalizeEscapes (a :: b :: rest)
  | c :: rest => c :: capitalizeEscapes rest
  | [] => []

/-- A path in the form in which cookies compare it. -/
def cookiePath (path : String) : String :=
  String.ofList (capitalizeEscapes (escape inCookiePath path).toList)

/-- The path of an address as cookies compare it. -/
def Address.cookiePath (a : Address) : String :=
  Http.cookiePath (String.ofList (cutAt '?' a.target.toList).1)

/-- The path of the cookies that name none: that of the address without its last step. A cookie of a
later version keeps the slash. -/
def usualPath (path : String) (version : Int) : String :=
  let upToSlash := (path.toList.reverse.dropWhile (· != '/')).reverse
  let above := if version == 0 then upToSlash.dropLast else upToSlash
  if above.isEmpty then "/" else String.ofList above

/-- Whether one path is another one or lies below it. -/
def isBelow (path above : String) : Bool :=
  path == above || (path.startsWith above &&
    (above.endsWith "/" || (path.toList.drop above.length).head? == some '/'))

/-! ## Reading -/

/-- A name and a text with an equals sign between them; blanks around either do not count. -/
def cookieField (piece : List Char) : String × Option String :=
  let trim (cs : List Char) : String := String.ofList (Text.trimList Text.isBlank cs)
  let (name, value) := cutAt '=' (Text.trimList Text.isBlank piece)
  (trim name, value.map trim)

/-- A text without a quote in front and at the end. -/
def dropQuotes (s : String) : String :=
  let cs := if s.startsWith "\"" then s.toList.drop 1 else s.toList
  String.ofList (if cs.getLast? == some '"' then cs.dropLast else cs)

/-- Why a cookie is not kept. -/
inductive CookieFault where
  /-- It is not well formed. -/
  | cookie
  /-- None of the cookies of its reply is kept. -/
  | reply

/-- What the attributes of a cookie say. -/
structure Terms where
  domain : Option String
  path : Option String
  version : Option String
  secure : Option Bool
  expires : Option Int

namespace Terms

/-- The text of an attribute that needs one. -/
def demand : Option String → Except CookieFault String
  | some s => .ok s
  | none => .error .cookie

/-- What is said with one attribute more, which counts only if it is the first of its name. An age is
an exception: it counts always, and it counts more than a date. -/
def add (now : Moment) (t : Terms) (said : String × Option String) :
    Except CookieFault Terms := do
  let (name, value) := said
  match Text.lower name with
  | "domain" =>
    if t.domain.isSome then return t
    return { t with domain := some (Text.lower (← demand value)) }
  | "path" =>
    if t.path.isSome then return t
    return { t with path := some (← demand value) }
  | "version" =>
    if t.version.isSome then return t
    return { t with version := some (dropQuotes (← demand value)) }
  | "secure" =>
    if t.secure.isSome then return t
    return { t with secure := some (value != some "") }
  | "expires" =>
    if t.expires.isSome then return t
    return { t with expires := value.bind fun s => Expiry.seconds? now.year (dropQuotes s) }
  | "max-age" =>
    match value with
    | none => throw .reply
    | some age =>
      let seconds ← (Text.parseInt? age).elim (.error CookieFault.cookie) .ok
      return { t with expires := some (now.seconds + seconds) }
  | _ => return t

/-- What all the attributes say. -/
def ofAttributes (now : Moment) (attributes : List (String × Option String)) :
    Except CookieFault Terms :=
  attributes.foldlM (add now) ⟨none, none, none, none, none⟩

end Terms

namespace Cookie

/-- The cookie on these terms, left by an address. -/
def ofTerms (a : Address) (name : String) (value : Option String) (t : Terms) :
    Except CookieFault Cookie := do
  let version ← match t.version with
    | none => pure 0
    | some s => (Text.parseInt? s).elim (.error CookieFault.cookie) .ok
  let path := match t.path.filter (· != "") with
    | some p => cookiePath p
    | none => usualPath a.cookiePath version
  let domain := match t.domain with
    | none => a.cookieDomain
    | some d => if d.startsWith "." then d else "." ++ d
  return {
    name, value, domain, namesDomain := t.domain.isSome, path, secure := t.secure.getD false
    version, expires := t.expires }

/-- The cookie that a header leaves, if it names one. -/
def ofHeader? (now : Moment) (a : Address) (header : String) :
    Except CookieFault (Option Cookie) := do
  match (Text.splitList ';' header.toList).map cookieField with
  | [] => return none
  | (name, value) :: attributes =>
    if name == "" then return none
    return some (← ofTerms a name value (← Terms.ofAttributes now attributes))

/-- Whether the time of a cookie is over. -/
def isOver (c : Cookie) (now : Moment) : Bool := c.expires.any (· ≤ now.seconds)

/-- Whether an address may leave this cookie: the domain that it names has to have a point inside,
unless the host is a local one, and the host has to lie at or below it. -/
def isAcceptable (c : Cookie) (a : Address) : Bool :=
  let host := a.cookieDomain
  let bare := String.ofList (c.domain.toList.drop 1)
  c.version ≤ 1 && (!c.namesDomain ||
    ((bare.toList.contains '.' || host.endsWith ".local") &&
      (c.version < 0 || host.endsWith (bare ++ ".local") || host.startsWith "." ||
        ("." ++ host).endsWith c.domain)))

/-- Whether one cookie takes the place of another. -/
def replaces (c d : Cookie) : Bool :=
  c.name == d.name && c.domain == d.domain && c.path == d.path

/-- Whether a cookie is for an address. -/
def concerns (c : Cookie) (a : Address) : Bool :=
  let domain := if c.domain.startsWith "." then c.domain else "." ++ c.domain
  ("." ++ a.cookieDomain).endsWith domain && isBelow a.cookiePath c.path &&
    (!c.secure || a.scheme == "https")

/-- The cookie as requests write it. -/
def text (c : Cookie) : String := c.name ++ (c.value.map ("=" ++ ·)).getD ""

end Cookie

namespace Jar

/-- Puts a cookie behind the last one that satisfies a test, if there is one. -/
def putAfter? (jar : Jar) (c : Cookie) (p : Cookie → Bool) : Option Jar :=
  match jar.reverse.span (!p ·) with
  | (_, []) => none
  | (after, before) => some (before.reverse ++ c :: after.reverse)

/-- Puts a cookie in: in the place of the one like it, or behind those of its path, or behind those of
its domain, or at the end. -/
def put (jar : Jar) (c : Cookie) : Jar :=
  if jar.any c.replaces then jar.map fun d => if c.replaces d then c else d
  else ((jar.putAfter? c fun d => d.domain == c.domain && d.path == c.path).or
    (jar.putAfter? c fun d => d.domain == c.domain)).getD (jar ++ [c])

/-- Takes out the cookie that a cookie replaces. -/
def drop (jar : Jar) (c : Cookie) : Jar := jar.filter fun d => !c.replaces d

/-- The cookies that the headers of one reply leave; the ones that are not well formed are left out. -/
def cookiesOf (now : Moment) (a : Address) : List String → Except CookieFault (List Cookie)
  | [] => .ok []
  | header :: rest => do
    let more ← cookiesOf now a rest
    match Cookie.ofHeader? now a header with
    | .ok found => return found.toList ++ more
    | .error .cookie => return more
    | .error .reply => throw .reply

/-- The cookies after a reply with these headers. Those whose time is over are taken out before the
others are put in. -/
def keep (jar : Jar) (now : Moment) (a : Address) (headers : List String) : Jar :=
  match cookiesOf now a headers with
  | .error _ => jar
  | .ok cookies =>
    let left := (cookies.filter (·.isOver now)).foldl drop jar
    (cookies.filter fun c => !c.isOver now && c.isAcceptable a).foldl put left

/-- What a request to an address carries: the cookies for it, those of longer paths first. -/
def header? (jar : Jar) (a : Address) : Option String :=
  let found := (jar.filter (·.concerns a)).mergeSort fun c d => d.path.length ≤ c.path.length
  if found.isEmpty then none else some ("; ".intercalate (found.map Cookie.text))

end Jar

end SuiteEngine.Http
