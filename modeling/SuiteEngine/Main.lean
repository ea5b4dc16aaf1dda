import Std.Time.DateTime
import SuiteEngine.Cli.Program
import SuiteEngine.Host.Machine

/-!
# The command line

Reads the files that the arguments name and those beside them, carries out the call on a machine without
a network, writes the files that have changed, and prints what the call prints. Workbooks are not
written.
-/

namespace SuiteEngine.Main

open Files (Content Entry Path Place Tree)

/-- The variables that a configuration depends on. -/
def variableNames : List String :=
  ["TEST_ENV", "API_BASE_URL", "UI_BASE_URL", "TEST_TIMEOUT", "TEST_RETRIES"]

/-- The variables that are set. -/
def readEnviron : IO Config.Environ :=
  variableNames.filterMapM fun name => do return (← IO.getEnv name).map (name, ·)

/-- The present moment. -/
def readMoment : IO Moment := do
  let d := Std.Time.DateTime.ofTimestamp (← Std.Time.Timestamp.now) Std.Time.TimeZone.ZoneRules.UTC
  return {
    year := d.year.toInt.toNat, month := d.month.val.toNat, day := d.day.val.toNat
    hour := d.hour.val.toNat, minute := d.minute.val.toNat, second := d.second.val.toNat
    microsecond := d.nanosecond.val.toNat / 1000 }

/-- The text of a place as the file system understands it. -/
def placeText (p : Place) : String := "/" ++ "/".intercalate p

/-- What is at a place, if it can be read. -/
def readEntry (p : Place) : IO (Option (Place × Entry)) := do
  try
    let full ← IO.FS.realPath (placeText p)
    if !(← full.pathExists) then return none
    else if ← full.isDir then return some (p, .directory)
    else return some (p, .file (.bytes (← IO.FS.readBinFile full).toList))
  catch _ => return none

/-- What is in the directory at a place. -/
def readDirectory (p : Place) : IO (List (Place × Entry)) := do
  try
    let full ← IO.FS.realPath (placeText p)
    (← full.readDir).toList.filterMapM fun e => readEntry (p ++ [e.fileName])
  catch _ => return []

/-- The texts in an argument that may be paths: the whole, and what follows an equals sign. -/
def pathTexts (argument : String) : List String :=
  [argument, "=".intercalate ((argument.splitOn "=").drop 1)].filter (· != "")

/-- The places that the arguments may name, each behind the one above it. -/
def namedPlaces (cwd : Place) (arguments : List String) : List Place :=
  ((arguments.flatMap pathTexts).flatMap fun s =>
    let p := ((Path.ofText s).resolve cwd).names
    [p.dropLast, p]).eraseDups

/-- The files that a call may read. -/
def readTree (arguments : List String) : IO Tree := do
  let cwd := (Path.ofText (← IO.FS.realPath ".").toString).names
  let places := (cwd :: namedPlaces cwd arguments).eraseDups
  let found ← places.mapM fun p => do return (← readEntry p).toList ++ (← readDirectory p)
  return { cwd, entries := found.flatten }

/-- The bytes to write for a content, if it can be written. -/
def savedBytes? : Content → Option (List UInt8)
  | .workbook _ => none
  | c => some c.shownBytes

/-- Whether a place holds the same bytes in a tree. -/
def isUnchanged (t : Tree) (p : Place) (bytes : List UInt8) : Bool :=
  match t.entry? p with
  | some (.file c) => c.shownBytes == bytes
  | _ => false

/-- Writes an entry that was not there before. -/
def save (before : Tree) : Place × Entry → IO Unit
  | (p, .directory) => IO.FS.createDirAll (placeText p)
  | (p, .file c) =>
    match savedBytes? c with
    | none => return ()
    | some bytes =>
      if isUnchanged before p bytes then return ()
      else do
        IO.FS.createDirAll (placeText p.dropLast)
        IO.FS.writeBinFile (placeText p) ⟨bytes.toArray⟩

/-- Makes a call and gives its status. -/
def run (arguments : List String) : IO UInt32 := do
  let files ← readTree arguments
  let seconds := (← IO.monoMsNow).toFloat / 1000.0
  let before : Host.Offline := { files, seconds, warnings := [] }
  let surroundings := ⟨← readEnviron, ← readMoment⟩
  let (result, after) := Cli.call Host.Offline.machine surroundings arguments before
  for message in after.warnings do IO.eprintln ("WARNING " ++ message)
  for entry in after.files.entries do save files entry
  match result with
  | .ok ending =>
    IO.print ending.output
    IO.eprint ending.errors
    return ending.status.toUInt32
  | .error f =>
    IO.eprintln (f.kind.name ++ ": " ++ f.message)
    return 1

end SuiteEngine.Main

/-- Carries out one call of the program. -/
def main (arguments : List String) : IO UInt32 := SuiteEngine.Main.run arguments
