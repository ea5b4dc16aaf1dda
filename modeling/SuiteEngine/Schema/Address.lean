import SuiteEngine.Document.Path
import SuiteEngine.Text.Utf8

/-!
# Addresses of schemas

An address has a scheme, an authority, a path, a query and a fragment, most of which may be left out.
A reference inside a schema is an address relative to that of the schema around it.

* `Address.resolve`: the address that a reference means.
* `Address.parse`, `Address.text`: reading and writing.
-/

namespace SuiteEngine.Schema

/-- The parts of an address; a part that is left out is empty. -/
structure Address where
  scheme : String
  authority : String
  path : String
  query : String
  fragment : String

namespace Address

/-- The text before the first `mark` and the text after it, none when there is no such mark. -/
def cut (mark : Char) (cs : List Char) : List Char × Option (List Char) :=
  match cs.dropWhile (· != mark) with
  | [] => (cs, none)
  | _ :: rest => (cs.takeWhile (· != mark), some rest)

/-- Whether a scheme may contain the character. -/
def isSchemeChar (c : Char) : Bool :=
  c.isAlphanum || c == '+' || c == '-' || c == '.'

/-- The scheme, in lower case, and what follows its colon. -/
def splitScheme (cs : List Char) : String × List Char :=
  match cut ':' cs with
  | (c :: name, some rest) =>
    if c.isAlpha && name.all isSchemeChar then (String.ofList ((c :: name).map Char.toLower), rest)
    else ("", cs)
  | _ => ("", cs)

/-- The authority between two slashes and the next mark, and what follows. -/
def splitAuthority : List Char → String × List Char
  | '/' :: '/' :: rest =>
    let isMark (c : Char) := c == '/' || c == '?' || c == '#'
    (String.ofList (rest.takeWhile (!isMark ·)), rest.dropWhile (!isMark ·))
  | cs => ("", cs)

/-- The parts of an address. -/
def parse (s : String) : Address :=
  let (scheme, rest) := splitScheme s.toList
  let (authority, rest) := splitAuthority rest
  let (rest, fragment) := cut '#' rest
  let (path, query) := cut '?' rest
  ⟨scheme, authority, String.ofList path, String.ofList (query.getD []),
    String.ofList (fragment.getD [])⟩

/-- The address without its fragment. -/
def withoutFragment (a : Address) : Address := { a with fragment := "" }

/-- The address as text. -/
def text (a : Address) : String :=
  (if a.scheme = "" then "" else a.scheme ++ ":")
    ++ (if a.authority = "" then "" else "//" ++ a.authority)
    ++ a.path
    ++ (if a.query = "" then "" else "?" ++ a.query)
    ++ (if a.fragment = "" then "" else "#" ++ a.fragment)

/-- The schemes whose addresses can be given relative to one another. -/
def hierarchical : List String :=
  ["", "ftp", "http", "gopher", "nntp", "imap", "wais", "file", "https", "shttp", "mms",
    "prospero", "rtsp", "rtspu", "sftp", "svn", "svn+ssh", "ws", "wss"]

/-- Follows `.` and `..`, the segments so far being given last first. -/
def followDots : List String → List String → List String
  | done, [] => done.reverse
  | done, ".." :: rest => followDots done.tail rest
  | done, "." :: rest => followDots done rest
  | done, segment :: rest => followDots (segment :: done) rest

/-- The path that a relative path means beside `base`. -/
def joinPath (base path : String) : String :=
  let start :=
    if path.startsWith "/" then [] else if base = "" then [""] else (Text.split '/' base).dropLast
  let segments := start ++ Text.split '/' path
  let segments :=
    match segments with
    | first :: rest => first :: (rest.dropLast.filter (· != "")) ++ rest.getLast?.toList
    | [] => []
  let endsInDots := segments.getLast? = some "." || segments.getLast? = some ".."
  let followed := followDots [] segments ++ (if endsInDots then [""] else [])
  let joined := "/".intercalate followed
  if joined = "" then "/" else joined

/-- The address that `reference` means where `base` is the address around it. -/
def resolve (base reference : String) : String :=
  if base = "" then reference
  else if reference = "" then base
  else
    let b := parse base
    let r := parse reference
    let scheme := if r.scheme = "" then b.scheme else r.scheme
    if scheme != b.scheme || !hierarchical.contains scheme then reference
    else if r.authority != "" then ({ r with scheme := scheme }).text
    else if r.path = "" then
      ({ r with
        scheme := scheme
        authority := b.authority
        path := b.path
        query := if r.query = "" then b.query else r.query }).text
    else
      ({ r with
        scheme := scheme
        authority := b.authority
        path := joinPath b.path r.path }).text

end Address

end SuiteEngine.Schema
