import SuiteEngine.Document.Inspect
import SuiteEngine.Failure
import SuiteEngine.Http.Message
import SuiteEngine.Http.Punycode
import SuiteEngine.Schema.Format.Address

/-!
# Parts of an address

An address has a scheme, the name of a user, a host, a port, a path, parameters and a fragment, each of
which may be wanting. `Address.ofText` takes a text apart and brings each part into its usual form;
`Address.merge` completes an address without scheme and host from a base.
-/

namespace SuiteEngine.Http

/-- An address, each part in its usual form. -/
structure Address where
  scheme : String
  user : String
  host : String
  port : Option Int
  path : String
  query : Option String
  fragment : Option String

/-- The failure that a wrong address is. -/
def invalidAddress (message : String) : Failure := ⟨.other "InvalidURL", message⟩

/-- Whether a character is printed and is none of these. -/
def isPrintedBut (excluded : String) (c : Char) : Bool :=
  32 < c.toNat && c.toNat < 127 && !excluded.toList.contains c

/-- What a fragment may hold. -/
def inFragment : Char → Bool := isPrintedBut "\"<>\x60"

/-- What parameters may hold. -/
def inQuery : Char → Bool := isPrintedBut "\"#<>"

/-- What a path may hold. -/
def inPath : Char → Bool := isPrintedBut "\"#<>?\x60\x7b\x7d"

/-- What the name of a user may hold. -/
def inUser : Char → Bool := isPrintedBut "\"#<>?\x60\x7b\x7d/;=@[\\]^|"

/-- What the name of a host may hold. -/
def inHost : Char → Bool := isPrintedBut "#/:<>?@[]^"

/-- A byte as an escape. -/
def escapeByte (b : UInt8) : List Char :=
  '%' :: (Text.hex 2 b.toNat).toList.map Char.toUpper

/-- Escapes the characters that a part may not hold. -/
def escape (allowed : Char → Bool) (s : String) : String :=
  String.ofList (s.toList.flatMap fun c =>
    if allowed c then [c] else (Text.encode (String.singleton c)).flatMap escapeByte)

/-- The longest address. -/
def longestAddress : Nat := 65536

/-- Whether a character is a control character of ASCII. -/
def isControl (c : Char) : Bool := c.toNat < 32 || c.toNat == 127

/-- Refuses texts that are too long or have control characters. -/
def checkPlain (s : String) : Except Failure Unit :=
  if s.length > longestAddress then .error (invalidAddress "URL too long")
  else match s.toList.findIdx? isControl with
    | none => .ok ()
    | some i =>
      .error (invalidAddress ("Invalid non-printable ASCII character in URL, " ++
        Text.quoted (String.ofList ((s.toList.drop i).take 1)) ++ " at position " ++ toString i ++
        "."))

/-- Whether a character may follow the first letter of a scheme. -/
def inScheme (c : Char) : Bool := c.isAlphanum || c == '+' || c == '.' || c == '-'

/-- The scheme before the first colon, if what stands there is a scheme or nothing, and the rest. -/
def splitScheme (cs : List Char) : List Char × List Char :=
  match cs.span (· != ':') with
  | ([], ':' :: rest) => ([], rest)
  | (c :: more, ':' :: rest) => if c.isAlpha && more.all inScheme then (c :: more, rest) else ([], cs)
  | _ => ([], cs)

/-- The texts of the parts of an address. -/
structure Parts where
  scheme : List Char
  authority : List Char
  path : List Char
  query : Option (List Char)
  fragment : Option (List Char)

/-- What stands before a mark, and after it if it is there. -/
def cutAt (mark : Char) (cs : List Char) : List Char × Option (List Char) :=
  match cs.span (· != mark) with
  | (before, _ :: after) => (before, some after)
  | (before, []) => (before, none)

/-- Takes an address apart. -/
def Parts.ofList (cs : List Char) : Parts :=
  let (scheme, rest) := splitScheme cs
  let (rest, fragment) := cutAt '#' rest
  let (rest, query) := cutAt '?' rest
  match rest with
  | '/' :: '/' :: rest =>
    let (authority, path) := rest.span (· != '/')
    { scheme, authority, path, query, fragment }
  | path => { scheme, authority := [], path, query, fragment }

/-- The user before the last at sign, and what follows it. -/
def splitUser (cs : List Char) : List Char × List Char :=
  match cs.reverse.span (· != '@') with
  | (after, _ :: before) => (before.reverse, after.reverse)
  | (_, []) => ([], cs)

/-- Drops a colon in front. -/
def dropColon : List Char → List Char
  | ':' :: rest => rest
  | cs => cs

/-- The host and the text of the port. -/
def splitPort (cs : List Char) : List Char × List Char :=
  match cs.head? == some '[', cs.reverse.span (· != ']') with
  | true, (after, ']' :: before) => ((']' :: before).reverse, dropColon after.reverse)
  | _, _ =>
    let (host, rest) := cs.span (· != ':')
    (host, dropColon rest)

/-- Whether a text is `n + 1` runs of digits with any one character after each but the last. -/
def isQuadLike : (n : Nat) → List Char → Bool
  | 0, cs => !cs.isEmpty && cs.all Char.isDigit
  | n + 1, cs => (List.range cs.length).any fun k =>
      1 ≤ k && (cs.take k).all Char.isDigit && isQuadLike n (cs.drop (k + 1))

/-- Whether a text is a grouped numeric host, with or without a zone. -/
def isZonedHost (s : String) : Bool :=
  match cutAt '%' s.toList with
  | (_, none) => Schema.Format.isGroupedHost s
  | (host, some zone) =>
    !zone.isEmpty && !zone.contains '%' && Schema.Format.isGroupedHost (String.ofList host)

/-- The host in its usual form. -/
def usualHost (cs : List Char) : Except Failure String :=
  let s := String.ofList cs
  if cs.isEmpty then .ok ""
  else if isQuadLike 3 cs then
    if Schema.Format.isDottedHost s then .ok s
    else .error (invalidAddress ("Invalid IPv4 address: " ++ Text.quoted s))
  else if cs.head? == some '[' && cs.getLast? == some ']' && 2 ≤ cs.length then
    let inner := String.ofList (cs.drop 1).dropLast
    if isZonedHost inner then .ok inner
    else .error (invalidAddress ("Invalid IPv6 address: " ++ Text.quoted s))
  else if cs.all (·.toNat < 128) then .ok (escape inHost (Text.lower s))
  else .ok (Punycode.host (Text.lower s))

/-- The port that a scheme has anyway. -/
def usualPort? (scheme : String) : Option Int :=
  [("ftp", 21), ("http", 80), ("https", 443), ("ws", 80), ("wss", 443)].lookup scheme

/-- The port, unless it is the one that the scheme has anyway. -/
def ownPort (text scheme : String) : Except Failure (Option Int) :=
  if text == "" then .ok none
  else match Text.parseInt? text with
    | none => .error (invalidAddress ("Invalid port: " ++ Text.quoted text))
    | some n => .ok (if usualPort? scheme == some n then none else some n)

/-- Resolves the steps to the same and to the upper level in a path. -/
def resolveSteps (path : String) : String :=
  let steps := (path.toList.splitOnP (· == '/')).map String.ofList
  if !(steps.contains "." || steps.contains "..") then path
  else "/".intercalate (steps.foldl step [])
where
  /-- Takes one step. -/
  step (done : List String) (s : String) : List String :=
    if s == "." then done
    else if s == ".." then (if done == [""] then done else done.dropLast)
    else done ++ [s]

/-- Refuses a path that could be mistaken for another part. -/
def checkPath (path : List Char) (hasScheme hasAuthority : Bool) : Except Failure Unit :=
  if hasAuthority && !path.isEmpty && path.head? != some '/' then
    .error (invalidAddress "For absolute URLs, path must be empty or begin with '/'")
  else if hasScheme || hasAuthority then .ok ()
  else if path.take 2 == ['/', '/'] then
    .error (invalidAddress "Relative URLs cannot have a path starting with '//'")
  else if path.head? == some ':' then
    .error (invalidAddress "Relative URLs cannot have a path starting with ':'")
  else .ok ()

/-- Brings each part into its usual form. -/
def Address.ofParts (p : Parts) : Except Failure Address := do
  let (user, rest) := splitUser p.authority
  let (host, port) := splitPort rest
  let user := escape inUser (String.ofList user)
  let host ← usualHost host
  let port ← ownPort (String.ofList port) (String.ofList p.scheme)
  let hasScheme := !p.scheme.isEmpty
  let hasAuthority := user != "" || host != "" || port.isSome
  checkPath p.path hasScheme hasAuthority
  let path := String.ofList p.path
  let path := if hasScheme || hasAuthority then resolveSteps path else path
  return {
    scheme := Text.lower (String.ofList p.scheme), user, host, port, path := escape inPath path
    query := p.query.map fun q => escape inQuery (String.ofList q)
    fragment := p.fragment.map fun f => escape inFragment (String.ofList f) }

namespace Address

/-- The address that a text writes. -/
def ofText (s : String) : Except Failure Address := do
  checkPlain s
  ofParts (Parts.ofList s.toList)

/-- Host and port. -/
def netloc (a : Address) : String :=
  (if a.host.toList.contains ':' then "[" ++ a.host ++ "]" else a.host) ++
    ((a.port.map fun n => ":" ++ toString n).getD "")

/-- User, host and port. -/
def authority (a : Address) : String := (if a.user == "" then "" else a.user ++ "@") ++ a.netloc

/-- The address as a text. -/
def text (a : Address) : String :=
  (if a.scheme == "" then "" else a.scheme ++ ":") ++
    (if a.authority == "" then "" else "//" ++ a.authority) ++ a.path ++
    ((a.query.map ("?" ++ ·)).getD "") ++ ((a.fragment.map ("#" ++ ·)).getD "")

/-- Whether scheme and host are there. -/
def isAbsolute (a : Address) : Bool := a.scheme != "" && a.host != ""

/-- The path, which is a slash where there is none, and the parameters. -/
def target (a : Address) : String :=
  (if a.path == "" then "/" else a.path) ++ ((a.query.map ("?" ++ ·)).getD "")

/-- The address with another path and other parameters. -/
def withTarget (a : Address) (target : String) : Except Failure Address :=
  let (path, query) := cutAt '?' target.toList
  ofParts { scheme := a.scheme.toList, authority := a.authority.toList, path, query
            fragment := a.fragment.map String.toList }

/-- A base, whose path ends with a slash. -/
def asBase (a : Address) : Except Failure Address :=
  if a.target.endsWith "/" then .ok a else a.withTarget (a.target ++ "/")

/-- An address, completed from a base where scheme or host are wanting. -/
def merge (base a : Address) : Except Failure Address :=
  if a.isAbsolute then .ok a
  else base.withTarget (base.target ++ Text.trimLeftBy isSlash a.target)

end Address

end SuiteEngine.Http
