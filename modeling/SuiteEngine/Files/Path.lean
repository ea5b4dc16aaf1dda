/-!
# Paths

A path is a list of names below the root or below the working directory. Names that are empty or a
single dot are dropped when it is read; two dots stay, since only a walk through the files can say where
they lead.
-/

namespace SuiteEngine.Files

/-- A path. The root is empty for a path below the working directory. -/
structure Path where
  root : String
  names : List String
deriving DecidableEq, Repr

namespace Path

/-- The root that a text starts with: exactly two slashes are another root than one. -/
def rootOf : List Char → String
  | '/' :: '/' :: '/' :: _ => "/"
  | '/' :: '/' :: _ => "//"
  | '/' :: _ => "/"
  | _ => ""

/-- The path that a text denotes. -/
def ofText (s : String) : Path :=
  { root := rootOf s.toList
    names := ((s.toList.splitOnP (· == '/')).map String.ofList).filter fun n => n != "" && n != "." }

/-- The path as text; a single dot when it has neither root nor names. -/
def text (p : Path) : String :=
  let s := p.root ++ "/".intercalate p.names
  if s == "" then "." else s

/-- Whether the path is below the root. -/
def isAbsolute (p : Path) : Bool := p.root != ""

/-- The path `q` as seen from `p`. -/
def join (p q : Path) : Path :=
  if q.isAbsolute then q else { p with names := p.names ++ q.names }

/-- The path with one more text at its end. -/
def child (p : Path) (s : String) : Path := p.join (ofText s)

/-- The path without its last name. -/
def parent (p : Path) : Path := { p with names := p.names.dropLast }

/-- The last name; empty when there is none. -/
def name (p : Path) : String := p.names.getLast?.getD ""

/-- Splits a file name before its last dot, unless that is at its start or end. -/
def splitSuffix (name : String) : String × String :=
  let backwards := name.toList.reverse
  let suffix := backwards.takeWhile (· != '.')
  let stem := (backwards.dropWhile (· != '.')).drop 1
  if suffix.isEmpty || stem.isEmpty then (name, "")
  else (String.ofList stem.reverse, "." ++ String.ofList suffix.reverse)

/-- The last name without its suffix. -/
def stem (p : Path) : String := (splitSuffix p.name).1

/-- The suffix of the last name with its dot. -/
def suffix (p : Path) : String := (splitSuffix p.name).2

/-- The names with every pair of a name and two dots taken out. -/
def settle : List String → List String :=
  List.foldl (fun seen n => if n == ".." then seen.dropLast else seen ++ [n]) []

/-- The path below the root that leads to the same place from the directory `cwd`. -/
def resolve (cwd : List String) (p : Path) : Path :=
  { root := if p.isAbsolute then p.root else "/"
    names := settle (if p.isAbsolute then p.names else cwd ++ p.names) }

end Path

end SuiteEngine.Files
