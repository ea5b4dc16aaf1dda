import SuiteEngine.Files.Tree
import SuiteEngine.Json.Parse
import SuiteEngine.Schema.Finding
import SuiteEngine.Suite.Api
import SuiteEngine.Suite.Kind
import SuiteEngine.Suite.Ui

/-!
# Suite files

A suite file holds a JSON document that meets the schema of its kind. A path names one file, or a
directory, which stands for all suite files in it and below it, sorted.
-/

namespace SuiteEngine.Suite

open Files (Path Place Tree)

/-- Why a suite was not read: its document has issues, or something else failed. -/
inductive LoadError where
  | invalid (source : Path) (issues : List Issue)
  | failure (f : Failure)

namespace LoadError

/-- The wording of what is wrong. -/
def message : LoadError → String
  | invalid source issues =>
    "Invalid suite document " ++ source.text ++ ":\n" ++
      "\n".intercalate (issues.map fun i => "  " ++ i.render)
  | failure f => f.message

/-- The failure that an unreadable suite is. -/
def asFailure : LoadError → Failure
  | invalid source issues =>
    { kind := .other "SuiteValidationError", message := (invalid source issues).message }
  | failure f => f

end LoadError

/-- The issue of a document that is no JSON text. -/
def syntaxIssue (text : String) (e : Json.ParseError) : Issue :=
  ⟨"", "malformed JSON: " ++ e.fault.message,
    [("line", .int (Json.lineOf text e.position)), ("column", .int (Json.columnOf text e.position))]⟩

/-- Reads the document of a suite file, which has to meet the schema of its kind. -/
def loadDocument (files : Tree) (path : Path) (kind : Kind) : Except LoadError Value := do
  if !files.isFile path then throw (.invalid path [.whole "suite file not found"])
  match files.readText path with
  | .error f => throw (.invalid path [.whole ("unreadable file: " ++ f.message)])
  | .ok text =>
    match Json.parse text with
    | .error e =>
      if e.isSyntax then throw (.invalid path [syntaxIssue text e])
      else throw (.failure ⟨.other "ValueError", e.fault.message⟩)
    | .ok document =>
      match kind.issues document with
      | .error f => throw (.failure f.failure)
      | .ok [] => return document
      | .ok issues => throw (.invalid path issues)

/-- Reads an API suite. -/
def ApiSuite.load (files : Tree) (path : Path) : Except LoadError ApiSuite := do
  let document ← loadDocument files path .api
  match ApiSuite.ofDocument document with
  | .ok s => return { s with source := some path }
  | .error f => throw (.failure f.failure)

/-- Reads a UI suite. -/
def UiSuite.load (files : Tree) (path : Path) : Except LoadError UiSuite := do
  let document ← loadDocument files path .ui
  match UiSuite.ofDocument document with
  | .ok s => return { s with source := some path }
  | .error f => throw (.failure f.failure)

/-- What the names of suite files end with. -/
def fileSuffix : String := ".json"

/-- All lists of names that begin a list of names. -/
def beginnings : List String → List (List String)
  | [] => [[]]
  | n :: ns => [] :: (beginnings ns).map (n :: ·)

/-- The names that lead from a place to the suite files below it, sorted and each once; a directory
that is named like one counts as one. -/
def suiteFilesBelow (files : Tree) (place : Place) : List (List String) :=
  let below := files.entries.filterMap fun e =>
    if place.isPrefixOf e.1 then some (e.1.drop place.length) else none
  let named := (below.flatMap beginnings).filter fun ns =>
    (ns.getLast?.getD "").endsWith fileSuffix
  named.eraseDups.mergeSort fun a b => !List.lex b a fun s t => decide (s < t)

/-- The suite files that a path stands for. -/
def discover (files : Tree) (path : Path) : List Path :=
  match files.place path with
  | .ok place =>
    if files.isDirectory path then
      (suiteFilesBelow files place).map fun ns => { path with names := path.names ++ ns }
    else [path]
  | .error _ => [path]

/-- Reads every API suite that a path stands for. -/
def loadApiSuites (files : Tree) (path : Path) : Except LoadError (List ApiSuite) :=
  (discover files path).mapM (ApiSuite.load files)

/-- Reads every UI suite that a path stands for. -/
def loadUiSuites (files : Tree) (path : Path) : Except LoadError (List UiSuite) :=
  (discover files path).mapM (UiSuite.load files)

end SuiteEngine.Suite
