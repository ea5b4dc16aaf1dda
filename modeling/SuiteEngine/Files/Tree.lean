import SuiteEngine.Failure
import SuiteEngine.Files.Path
import SuiteEngine.Picture.Png
import SuiteEngine.Spreadsheet.Basic
import SuiteEngine.Text.Quoted
import SuiteEngine.Text.Utf8

/-!
# A tree of files

A `Tree` holds files and directories by their place, the list of names from the root. A directory is
there when it was made or when something is below it. Every operation on a path names the fault that
keeps it from being carried out.

A file holds bytes; where the bytes are the encoding of a picture or of a workbook, that is held in
their place.
-/

namespace SuiteEngine.Files

/-! ## What files hold -/

/-- What a file holds. -/
inductive Content where
  | bytes (b : List UInt8)
  | picture (p : Picture)
  | workbook (w : Spreadsheet.Workbook)

namespace Content

/-- The content that is a text. -/
def ofText (s : String) : Content := .bytes (Text.encode s)

/-- The bytes of the content; of a workbook the mark that it starts with. -/
def shownBytes : Content → List UInt8
  | bytes b => b
  | picture p => Picture.Png.encode p
  | workbook _ => [0x50, 0x4B, 0x03, 0x04]

/-- The content as text, its line ends made alike. -/
def text (c : Content) : Except Text.Utf8Error String := do
  let s ← Text.decode c.shownBytes
  return String.ofList (Text.unifyLineEnds s.toList)

/-- The picture that the content is, if it is one. -/
def picture? : Content → Option Picture
  | picture p => some p
  | _ => none

end Content

/-! ## Files and directories -/

/-- The list of names that leads from the root to a file or directory. -/
abbrev Place := List String

/-- What is at a place. -/
inductive Entry where
  | file (content : Content)
  | directory

/-- Files and directories, and the directory that paths without a root start from. -/
structure Tree where
  cwd : Place
  entries : List (Place × Entry)

/-- Why an operation on a path is not carried out. -/
inductive Fault where
  | notFound (path : Path)
  | notADirectory (path : Path)
  | isADirectory (path : Path)
  | alreadyThere (path : Path)
  | notText (error : Text.Utf8Error)

namespace Fault

/-- A fault of the file system in words. -/
def systemMessage (number : Nat) (what : String) (path : Path) : String :=
  "[Errno " ++ toString number ++ "] " ++ what ++ ": " ++ Text.quoted path.text

/-- The wording of a fault. -/
def message : Fault → String
  | notFound p => systemMessage 2 "No such file or directory" p
  | notADirectory p => systemMessage 20 "Not a directory" p
  | isADirectory p => systemMessage 21 "Is a directory" p
  | alreadyThere p => systemMessage 17 "File exists" p
  | notText e => e.message

/-- The kind of failure that a fault is. -/
def kind : Fault → Failure.Kind
  | notFound _ => .file "FileNotFoundError"
  | notADirectory _ => .file "NotADirectoryError"
  | isADirectory _ => .file "IsADirectoryError"
  | alreadyThere _ => .file "FileExistsError"
  | notText _ => .other "UnicodeDecodeError"

/-- The fault as a failure. -/
def failure (f : Fault) : Failure := { kind := f.kind, message := f.message }

end Fault

namespace Tree

/-- What was put at a place. -/
def entry? (t : Tree) (place : Place) : Option Entry := t.entries.lookup place

/-- Whether something is below a place. -/
def hasBelow (t : Tree) (place : Place) : Bool :=
  t.entries.any fun e => place.isPrefixOf e.1 && place.length < e.1.length

/-- What is at a place. -/
def at? (t : Tree) (place : Place) : Option Entry :=
  match t.entry? place with
  | some e => some e
  | none => if t.hasBelow place || place.isPrefixOf t.cwd then some .directory else none

/-- The place that some names lead to from another place; all but the last have to be directories. -/
def walk (t : Tree) (path : Path) (from_ : Place) : List String → Except Fault Place
  | [] => .ok from_
  | n :: ns =>
    match t.at? from_ with
    | some .directory => t.walk path (if n == ".." then from_.dropLast else from_ ++ [n]) ns
    | some (.file _) => .error (.notADirectory path)
    | none => .error (.notFound path)

/-- The place that a path leads to. -/
def place (t : Tree) (path : Path) : Except Fault Place :=
  t.walk path (if path.isAbsolute then [] else t.cwd) path.names

/-- What is at a path. -/
def find? (t : Tree) (path : Path) : Option Entry :=
  match t.place path with
  | .ok p => t.at? p
  | .error _ => none

/-- Whether there is a file at the path. -/
def isFile (t : Tree) (path : Path) : Bool :=
  match t.find? path with
  | some (.file _) => true
  | _ => false

/-- Whether there is a directory at the path. -/
def isDirectory (t : Tree) (path : Path) : Bool :=
  match t.find? path with
  | some .directory => true
  | _ => false

/-- Whether there is anything at the path. -/
def holds (t : Tree) (path : Path) : Bool := (t.find? path).isSome

/-- The content of the file at a path. -/
def read (t : Tree) (path : Path) : Except Fault Content := do
  let p ← t.place path
  match t.at? p with
  | some (.file c) => return c
  | some .directory => throw (.isADirectory path)
  | none => throw (.notFound path)

/-- The text of the file at a path. -/
def readText (t : Tree) (path : Path) : Except Fault String := do
  ((← t.read path).text).mapError Fault.notText

/-- The name that a place has in a directory, when it is below it. -/
def nameBelow? (directory place : Place) : Option String :=
  if directory.isPrefixOf place then place[directory.length]? else none

/-- The names in a directory, each once. -/
def names (t : Tree) (path : Path) : List String :=
  match t.place path with
  | .ok p => (t.entries.filterMap fun e => nameBelow? p e.1).eraseDups
  | .error _ => []

/-- The tree with something put at a place: instead of what was there, else at the end. -/
def put (t : Tree) (place : Place) (e : Entry) : Tree :=
  if (t.entry? place).isSome then
    { t with entries := t.entries.map fun x => if x.1 == place then (place, e) else x }
  else { t with entries := t.entries ++ [(place, e)] }

/-- The tree with a file written; its directory has to be there. -/
def write (t : Tree) (path : Path) (c : Content) : Except Fault Tree := do
  let p ← t.place path
  match t.at? p, t.at? p.dropLast with
  | some .directory, _ => throw (.isADirectory path)
  | _, some .directory => return t.put p (.file c)
  | _, some (.file _) => throw (.notADirectory path)
  | _, none => throw (.notFound path)

/-- Makes the directories that lead along some names from a place, where they are wanting. -/
def makeAlong (t : Tree) (path : Path) (from_ : Place) : List String → Except Fault Tree
  | [] => .ok t
  | n :: ns =>
    let here := if n == ".." then from_.dropLast else from_ ++ [n]
    match t.at? here with
    | some .directory => t.makeAlong path here ns
    | some (.file _) => .error (if ns.isEmpty then .alreadyThere path else .notADirectory path)
    | none => (t.put here .directory).makeAlong path here ns

/-- The tree with a directory and all above it made, where they are wanting. -/
def makeDirectories (t : Tree) (path : Path) : Except Fault Tree :=
  t.makeAlong path (if path.isAbsolute then [] else t.cwd) path.names

/-- What lies below the current directory and was not there before: the names on the way to it, and
what it is. Directories with something in them are left out. -/
def addedSince (t before : Tree) : List (List String × Entry) :=
  t.entries.filterMap fun (place, entry) =>
    let isNew := t.cwd.isPrefixOf place && t.cwd.length < place.length &&
      !before.entries.any fun x => x.1 == place
    match entry with
    | .file _ => if isNew then some (place.drop t.cwd.length, entry) else none
    | .directory =>
      if isNew && !t.hasBelow place then some (place.drop t.cwd.length, entry) else none

end Tree

end SuiteEngine.Files
