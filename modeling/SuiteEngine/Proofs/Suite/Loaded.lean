import SuiteEngine.Proofs.Json.Digits
import SuiteEngine.Proofs.Schema.Faults
import SuiteEngine.Suite.File

/-!
# What reading a suite file comes to

A suite file gives a document without issues, or at least one issue: that there is no file, that it cannot
be read, that it is no JSON, or what its schema has against it. Two failures are not reported in this way:

* a JSON text with a whole number of more digits than can be read, which is well formed;
* an API document that asks a body to match a pattern beyond the limits of what can be built. The check of
  the format takes note of errors of syntax only.

Headlines:
* `api_faulting`, `ui_quiet`: where the validation of a document meets a fault.
* `loadDocument_eq_ok`, `loadDocument_eq_failure`: when a document is read, and when reading it fails.
* **`loadDocument_settles`**: reading a suite file gives a document or issues but for these two failures.
-/

namespace SuiteEngine.Suite

open Files (Path Tree)
open Schema (Fault Faulting Quiet itemsUnder patternFault?)

/-! ## The patterns of a document -/

/-- The pattern that a demand on a part of a body asks for. -/
def pathPattern? (demand : Value) : Option String := (demand.get? "regex").bind Value.str?

/-- The patterns among the demands on a response. -/
def expectedPatterns (expectation : Value) : List String :=
  (itemsUnder expectation "bodyPath").filterMap pathPattern?

/-- The patterns of the tests of a document, in their order. -/
def patterns (document : Value) : List String :=
  (itemsUnder document "tests").flatMap fun t => expectedPatterns ((t.get? "expect").getD .null)

/-! ## Where a document meets a fault -/

-- From the text of a pattern up to the document: in each schema on the way all entries but one are quiet.

theorem demand_faulting : Faulting .api 2 ApiSchema.pathAssertion fun p =>
    ((pathPattern? p).bind patternFault?).toList := by
  have hregex : Faulting .api 1 (.obj [("type", .str "string"), ("format", .str "regex")]) fun v =>
      (v.str?.bind patternFault?).toList := Schema.faulting_pattern (by decide +kernel) rfl
  have h : Faulting .api 2 ApiSchema.pathAssertion _ :=
    hregex.property "regex" ⟨rfl, rfl⟩ (by decide +kernel) rfl (by decide +kernel) rfl
  refine h.congr fun p => ?_
  dsimp only [pathPattern?]
  cases p.get? "regex" <;> rfl

theorem expectation_faulting : Faulting .api 5 ApiSchema.expectation fun e =>
    (expectedPatterns e).filterMap patternFault? := by
  have href : Faulting .api 3 (.obj [("$ref", .str "#/definitions/bodyPathAssertion")]) _ :=
    demand_faulting.definition "bodyPathAssertion" ⟨rfl, rfl⟩ rfl (by decide +kernel) rfl
  have hpaths : Faulting .api 4 (.obj [("type", .str "array"),
      ("items", .obj [("$ref", .str "#/definitions/bodyPathAssertion")])]) _ :=
    href.items ⟨rfl, rfl⟩ (by decide +kernel) rfl
  have h : Faulting .api 5 ApiSchema.expectation _ :=
    hpaths.property "bodyPath" ⟨rfl, rfl⟩ (by decide +kernel) rfl (by decide +kernel) rfl
  refine h.congr fun e => ?_
  rw [expectedPatterns, List.filterMap_filterMap, List.filterMap_eq_flatMap_toList]
  exact Schema.map_itemsOf _ e "bodyPath"

theorem testCase_faulting : Faulting .api 7 ApiSchema.testCase fun t =>
    (expectedPatterns ((t.get? "expect").getD .null)).filterMap patternFault? := by
  have href : Faulting .api 6 (.obj [("$ref", .str "#/definitions/expectation")]) _ :=
    expectation_faulting.definition "expectation" ⟨rfl, rfl⟩ rfl (by decide +kernel) rfl
  have h : Faulting .api 7 ApiSchema.testCase _ :=
    href.property "expect" ⟨rfl, rfl⟩ (by decide +kernel) rfl (by decide +kernel) rfl
  refine h.congr fun t => ?_
  cases t.get? "expect" <;> rfl

/-- **An API document meets the faults of its patterns.** -/
theorem api_faulting : Faulting .api 10 ApiSchema.document fun d =>
    (patterns d).filterMap patternFault? := by
  have href : Faulting .api 8 (.obj [("$ref", .str "#/definitions/testCase")]) _ :=
    testCase_faulting.definition "testCase" ⟨rfl, rfl⟩ rfl (by decide +kernel) rfl
  have htests : Faulting .api 9 (.obj [("type", .str "array"), ("minItems", .int 1),
      ("items", .obj [("$ref", .str "#/definitions/testCase")])]) _ :=
    href.items ⟨rfl, rfl⟩ (by decide +kernel) rfl
  have h : Faulting .api 10 ApiSchema.document _ :=
    htests.property "tests" ⟨rfl, rfl⟩ (by decide +kernel) rfl (by decide +kernel) rfl
  refine h.congr fun d => ?_
  rw [patterns, List.filterMap_flatMap]
  exact Schema.map_itemsOf _ d "tests"

/-- **A UI document meets no fault.** -/
theorem ui_quiet : Quiet .ui 8 UiSchema.document := Schema.quiet_of_isQuiet (by decide +kernel)

/-! ## Patterns beyond the limits -/

/-- The texts of a document that have to be patterns. -/
def Kind.patterns : Kind → Value → List String
  | api => Suite.patterns
  | ui => fun _ => []

/-- The text is a pattern, or can be told to be none. -/
def Checkable (s : String) : Prop := ∀ e, Pattern.parse s = .error e → e.isSyntax = true

/-- The first text of a document that has to be a pattern and goes beyond the limits of one. -/
structure FirstBeyond (kind : Kind) (document : Value) (s : String) (e : Pattern.Error) : Prop where
  first : ∃ before after, kind.patterns document = before ++ s :: after ∧ ∀ q ∈ before, Checkable q
  parse : Pattern.parse s = .error e
  limit : e.isSyntax = false

theorem patternFault?_eq_none {s : String} : patternFault? s = none ↔ Checkable s := by
  unfold patternFault? Schema.Format.isPattern Checkable
  cases Pattern.parse s with
  | ok p => simp
  | error e => cases he : e.isSyntax <;> simp [he]

theorem patternFault?_eq_some {s : String} {f : Fault} :
    patternFault? s = some f ↔
      ∃ e, Pattern.parse s = .error e ∧ e.isSyntax = false ∧ Fault.pattern e s = f := by
  unfold patternFault? Schema.Format.isPattern
  cases Pattern.parse s with
  | ok p => simp
  | error e => cases he : e.isSyntax <;> simp [he]

theorem faulting_patterns (k : Kind) : Faulting k 10 k.schema fun d =>
    (k.patterns d).filterMap patternFault? := by
  cases k with
  | api => exact api_faulting
  | ui => exact ui_quiet.mono (by decide)

/-- **A document has no verdict exactly when one of its patterns is beyond the limits.** -/
theorem issues_eq_error {kind : Kind} {document : Value} {f : Fault} :
    kind.issues document = .error f ↔
      ∃ s e, FirstBeyond kind document s e ∧ Fault.pattern e s = f := by
  rw [Schema.issues_eq_error_iff (faulting_patterns kind) (by decide), List.head?_filterMap,
    List.findSome?_eq_some_iff]
  simp only [patternFault?_eq_none, patternFault?_eq_some]
  constructor
  · rintro ⟨before, s, after, hl, ⟨e, parse, limit, hf⟩, hbefore⟩
    exact ⟨s, e, ⟨⟨before, after, hl, hbefore⟩, parse, limit⟩, hf⟩
  · rintro ⟨s, e, ⟨⟨before, after, hl, hbefore⟩, parse, limit⟩, hf⟩
    exact ⟨before, s, after, hl, ⟨e, parse, limit, hf⟩, hbefore⟩

/-! ## Reading a file -/

variable {files : Tree} {path : Path} {kind : Kind} {text : String} {d : Value} {f : Failure}

/-- The path leads to a file with a text. -/
structure HasText (files : Tree) (path : Path) (text : String) : Prop where
  isFile : files.isFile path = true
  reads : files.readText path = .ok text

theorem loadDocument_of_text (h : HasText files path text) :
    loadDocument files path kind = match Json.parse text with
      | .error e =>
        if e.isSyntax then .error (.invalid path [syntaxIssue text e])
        else .error (.failure ⟨.other "ValueError", e.fault.message⟩)
      | .ok document => match kind.issues document with
        | .error f => .error (.failure f.failure)
        | .ok [] => .ok document
        | .ok issues => .error (.invalid path issues) := by
  unfold loadDocument
  rw [h.isFile, h.reads]
  rfl

theorem digits_of_not_syntax {e : Json.ParseError} (h : e.isSyntax = false) :
    ∃ n, e.fault = .tooManyDigits n := by
  obtain ⟨fault, position⟩ := e
  cases fault with
  | tooManyDigits n => exact ⟨n, rfl⟩
  | _ => cases h

theorem loadDocument_of_no_text (h : ¬ ∃ text, HasText files path text) :
    ∃ issue, loadDocument files path kind = .error (.invalid path [issue]) := by
  unfold loadDocument
  cases hf : files.isFile path with
  | false => exact ⟨_, rfl⟩
  | true =>
    cases hr : files.readText path with
    | error e => exact ⟨_, rfl⟩
    | ok text => exact absurd ⟨text, hf, hr⟩ h

/-- How reading a suite file fails without an issue that says what is wrong with the file. -/
inductive Unforeseen (files : Tree) (path : Path) (kind : Kind) : Failure → Prop
  /-- The text has a whole number with too many digits. -/
  | digits {text : String} {e : Json.ParseError} {n : Nat} (htext : HasText files path text)
      (hparse : Json.parse text = .error e) (hdigits : e.fault = .tooManyDigits n) :
      Unforeseen files path kind ⟨.other "ValueError", Text.tooManyDigits n⟩
  /-- The document asks a body to match a pattern that is beyond the limits. -/
  | pattern {text s : String} {d : Value} {e : Pattern.Error} (htext : HasText files path text)
      (hparse : Json.parse text = .ok d) (hfirst : FirstBeyond kind d s e) :
      Unforeseen files path kind (e.failure s)

/-- What reading a suite file comes to. -/
inductive Outcome (files : Tree) (path : Path) (kind : Kind) : Except LoadError Value → Prop
  | read {text : String} {d : Value} (htext : HasText files path text)
      (hparse : Json.parse text = .ok d) (hissues : kind.issues d = .ok []) :
      Outcome files path kind (.ok d)
  | invalid {issues : List Issue} (hissues : issues ≠ []) :
      Outcome files path kind (.error (.invalid path issues))
  | failed {f : Failure} (hf : Unforeseen files path kind f) :
      Outcome files path kind (.error (.failure f))

theorem loadDocument_outcome : Outcome files path kind (loadDocument files path kind) := by
  by_cases htext : ∃ text, HasText files path text
  · obtain ⟨text, htext⟩ := htext
    rw [loadDocument_of_text htext]
    cases hparse : Json.parse text with
    | error e =>
      dsimp only
      split
      · exact .invalid (List.cons_ne_nil _ _)
      · rename_i hsyntax
        obtain ⟨n, hdigits⟩ := digits_of_not_syntax (Bool.eq_false_iff.mpr hsyntax)
        rw [hdigits]
        exact .failed (.digits htext hparse hdigits)
    | ok document =>
      dsimp only
      cases hissues : kind.issues document with
      | error f =>
        obtain ⟨s, e, hfirst, rfl⟩ := issues_eq_error.mp hissues
        exact .failed (.pattern htext hparse hfirst)
      | ok issues =>
        cases issues with
        | nil => exact .read htext hparse hissues
        | cons i issues => exact .invalid (List.cons_ne_nil i issues)
  · obtain ⟨issue, h⟩ := loadDocument_of_no_text htext
    rw [h]
    exact .invalid (List.cons_ne_nil issue [])

/-- **A document is read when the file holds the text of one without issues.** -/
theorem loadDocument_eq_ok :
    loadDocument files path kind = .ok d ↔
      ∃ text, HasText files path text ∧ Json.parse text = .ok d ∧ kind.issues d = .ok [] := by
  constructor
  · intro h
    have houtcome := @loadDocument_outcome files path kind
    rw [h] at houtcome
    cases houtcome with
    | read htext hparse hissues => exact ⟨_, htext, hparse, hissues⟩
  · rintro ⟨text, htext, hparse, hissues⟩
    rw [loadDocument_of_text htext, hparse]
    dsimp only
    rw [hissues]

/-- **When reading a suite file fails.** -/
theorem loadDocument_eq_failure :
    loadDocument files path kind = .error (.failure f) ↔ Unforeseen files path kind f := by
  constructor
  · intro h
    have houtcome := @loadDocument_outcome files path kind
    rw [h] at houtcome
    cases houtcome with
    | failed hf => exact hf
  · rintro (⟨htext, hparse, hdigits⟩ | ⟨htext, hparse, hfirst⟩)
    · rw [loadDocument_of_text htext, hparse]
      simp [Json.ParseError.isSyntax, hdigits, Json.Fault.message]
    · rw [loadDocument_of_text htext, hparse]
      dsimp only
      rw [issues_eq_error.mpr ⟨_, _, hfirst, rfl⟩]
      rfl

/-- **Issues are reported of the file at hand, and there is one at least.** -/
theorem loadDocument_eq_invalid {source : Path} {issues : List Issue}
    (h : loadDocument files path kind = .error (.invalid source issues)) :
    source = path ∧ issues ≠ [] := by
  have houtcome := @loadDocument_outcome files path kind
  rw [h] at houtcome
  cases houtcome with
  | invalid hissues => exact ⟨rfl, hissues⟩

theorem FirstBeyond.mem {s : String} {e : Pattern.Error} (h : FirstBeyond kind d s e) :
    s ∈ kind.patterns d := by
  obtain ⟨before, after, hl, -⟩ := h.first
  rw [hl]
  exact List.mem_append_right _ List.mem_cons_self

theorem FirstBeyond.not_checkable {s : String} {e : Pattern.Error} (h : FirstBeyond kind d s e) :
    ¬ Checkable s := fun hc => by
  cases h.limit.symm.trans (hc e h.parse)

/-- **What reading a suite file comes to.** It gives a document that has no issues, or at least one issue
of the file, unless something unforeseen happens; then, and only then, it fails with that. The text then
has more digits in a row than are read at once, or is an API document with a pattern beyond the limits. -/
theorem loadDocument_settles (files : Tree) (path : Path) (kind : Kind) :
    (((∃ d, loadDocument files path kind = .ok d ∧ kind.issues d = .ok []) ∨
        ∃ issues, loadDocument files path kind = .error (.invalid path issues) ∧ issues ≠ []) ↔
      ∀ f, ¬ Unforeseen files path kind f) ∧
    (∀ f, loadDocument files path kind = .error (.failure f) ↔ Unforeseen files path kind f) ∧
    ∀ f, Unforeseen files path kind f → ∃ text, HasText files path text ∧
      ((∃ n, Json.DigitRun n text.toList) ∨
        kind = .api ∧ ∃ d, Json.parse text = .ok d ∧ ∃ s ∈ patterns d, ¬ Checkable s) := by
  refine ⟨⟨?_, fun h => ?_⟩, fun f => loadDocument_eq_failure, ?_⟩
  · rintro (⟨d, hok, -⟩ | ⟨issues, herror, -⟩) f hf
    · cases hok.symm.trans (loadDocument_eq_failure.mpr hf)
    · cases herror.symm.trans (loadDocument_eq_failure.mpr hf)
  · have houtcome := @loadDocument_outcome files path kind
    generalize loadDocument files path kind = r at houtcome
    cases houtcome with
    | read htext hparse hissues => exact .inl ⟨_, rfl, hissues⟩
    | invalid hissues => exact .inr ⟨_, rfl, hissues⟩
    | failed hf => exact absurd hf (h _)
  · rintro f (⟨htext, hparse, hdigits⟩ | @⟨text, s, d, e, htext, hparse, hfirst⟩)
    · exact ⟨_, htext, .inl ⟨_, Json.digitRun_of_parse hparse hdigits⟩⟩
    · refine ⟨text, htext, .inr ?_⟩
      cases kind with
      | api => exact ⟨rfl, d, hparse, s, hfirst.mem, hfirst.not_checkable⟩
      | ui => exact absurd hfirst.mem List.not_mem_nil

/-- A pattern with a repetition beyond the limits. -/
def endless : String := "a\x7b99999999999999999999\x7d"

/-- An API suite whose one test asks a body to match it. -/
def endlessSuite : String :=
  "\x7b\"tests\": [\x7b\"expect\": \x7b\"bodyPath\": [\x7b\"regex\": \"" ++ endless ++ "\"\x7d]\x7d\x7d]\x7d"

/-- The suite as a file. -/
def endlessFiles : Tree :=
  { cwd := [], entries := [(["s.json"], .file (.ofText endlessSuite))] }

theorem endless_beyond : ∃ e, Pattern.parse endless = .error e ∧ e.isSyntax = false ∧
    e.failure endless = ⟨.other "OverflowError", "the repetition number is too large"⟩ := by
  have h : (match Pattern.parse endless with
      | .error e => e == ⟨.repetitionTooLarge, none⟩
      | .ok _ => false) = true := by
    decide +kernel
  split at h
  · rename_i e he
    obtain rfl := eq_of_beq h
    exact ⟨_, he, rfl, rfl⟩
  · cases h

theorem endlessSuite_patterns : ∃ d, Json.parse endlessSuite = .ok d ∧ patterns d = [endless] := by
  have h : (match Json.parse endlessSuite with
      | .ok d => patterns d == [endless]
      | .error _ => false) = true := by
    decide +kernel
  split at h
  · rename_i d hd
    exact ⟨d, hd, eq_of_beq h⟩
  · cases h

theorem endlessFiles_text : HasText endlessFiles (.ofText "s.json") endlessSuite := by
  have h : (match endlessFiles.readText (.ofText "s.json") with
      | .ok text => text == endlessSuite
      | .error _ => false) = true := by
    decide +kernel
  split at h
  · rename_i text ht
    exact ⟨by decide +kernel, by rw [ht, eq_of_beq h]⟩
  · cases h

theorem loadDocument_settles_endless :
    loadDocument endlessFiles (.ofText "s.json") .api =
      .error (.failure ⟨.other "OverflowError", "the repetition number is too large"⟩) := by
  obtain ⟨e, hparse, hlimit, hfailure⟩ := endless_beyond
  obtain ⟨d, hd, hpatterns⟩ := endlessSuite_patterns
  rw [← hfailure]
  exact ((loadDocument_settles endlessFiles (.ofText "s.json") .api).2.1 _).mpr
    (.pattern endlessFiles_text hd ⟨⟨[], [], hpatterns, nofun⟩, hparse, hlimit⟩)

end SuiteEngine.Suite
