import SuiteEngine.Cli.Program
import SuiteEngine.Proofs.Run.Loading
import SuiteEngine.Proofs.Suite.Accepted

/-!
# Checking suites and running them

One command checks suites and reports on every file, another one runs them and gives up at the first
file that is no suite. Both accept the same files. They differ on a path that stands for no file: the
check reports it, since nothing was found where suites were expected, and a run has nothing to load
from it.

A line is what is printed at once: a name or a place with a line break in it goes on in the next line of
the output, and is still one line here.

Headlines:
* `load_api_iff`, `load_ui_iff`: a file is loaded as a suite if and only if its document is accepted.
* `exists_load_iff`: a run begins if and only if all files are accepted.
* `validatePath_report`: what is printed on the files of a path.
* **`validate_agrees`**: what a check and a run make of the same paths.
-/

namespace SuiteEngine.Cli

open Files (Path Tree)
open Suite (ApiSuite Kind LoadError UiSuite)

variable {files : Tree} {environ : Config.Environ} {r : Run.Request} {g : Given} {k : Kind}
  {path : Path} {p text : String}

/-! ## Files -/

/-- A document that is accepted has no issues. -/
theorem issues_of_loadDocument {document : Value}
    (h : Suite.loadDocument files path k = .ok document) : k.issues document = .ok [] := by
  unfold Suite.loadDocument at h
  obtain ⟨-, h⟩ := guard_eq_ok.mp h
  split at h
  · cases h
  · split at h
    · split at h <;> cases h
    · split at h
      · cases h
      · rename_i hi
        obtain rfl := Except.ok.inj h
        exact hi
      · cases h

/-- A file is loaded as an API suite if and only if its document is accepted. -/
theorem load_api_iff : (∃ s, ApiSuite.load files path = .ok s) ↔
    ∃ document, Suite.loadDocument files path .api = .ok document := by
  constructor
  · rintro ⟨s, h⟩
    obtain ⟨document, hd, -⟩ := bind_eq_ok.mp h
    exact ⟨document, hd⟩
  · rintro ⟨document, hd⟩
    obtain ⟨s, hs, -⟩ := Suite.api_accepted_reads (issues_of_loadDocument hd)
    refine ⟨{ s with source := some path }, bind_eq_ok.mpr ⟨document, hd, ?_⟩⟩
    rw [hs]
    rfl

/-- A file is loaded as a UI suite if and only if its document is accepted. -/
theorem load_ui_iff : (∃ s, UiSuite.load files path = .ok s) ↔
    ∃ document, Suite.loadDocument files path .ui = .ok document := by
  constructor
  · rintro ⟨s, h⟩
    obtain ⟨document, hd, -⟩ := bind_eq_ok.mp h
    exact ⟨document, hd⟩
  · rintro ⟨document, hd⟩
    obtain ⟨s, hs, -⟩ := Suite.ui_accepted_reads (issues_of_loadDocument hd)
    refine ⟨{ s with source := some path }, bind_eq_ok.mpr ⟨document, hd, ?_⟩⟩
    rw [hs]
    rfl

/-- The document of the file is accepted. -/
def accepts (files : Tree) (k : Kind) (path : Path) : Bool := (Suite.loadDocument files path k).isOk

theorem accepts_iff : accepts files k path = true ↔
    ∃ document, Suite.loadDocument files path k = .ok document := by
  unfold accepts
  cases Suite.loadDocument files path k <;> simp [Except.isOk, Except.toBool]

theorem exists_forall₂ {α β : Type} {R : α → β → Prop} {as : List α} :
    (∃ bs, List.Forall₂ R as bs) ↔ ∀ a ∈ as, ∃ b, R a b := by
  induction as with
  | nil => exact ⟨fun _ => List.forall_mem_nil _, fun _ => ⟨[], .nil⟩⟩
  | cons a as ih =>
    rw [List.forall_mem_cons, ← ih]
    constructor
    · rintro ⟨_, _ | ⟨hb, hbs⟩⟩
      exact ⟨⟨_, hb⟩, _, hbs⟩
    · rintro ⟨⟨b, hb⟩, bs, hbs⟩
      exact ⟨b :: bs, .cons hb hbs⟩

/-- All files that the paths stand for are accepted. -/
def AllAccepted (files : Tree) (k : Kind) (paths : List String) : Prop :=
  ∀ path ∈ Run.filesOf files paths, accepts files k path = true

/-- **A run begins if and only if all files are accepted**, given a configuration with both addresses. -/
theorem exists_load_iff (hn : r.apiPaths ≠ [] ∨ r.uiPaths ≠ []) {config : Config}
    (hc : Config.load files (.ofText r.configPath) environ = .ok config)
    (ha : config.environment.apiBaseUrl ≠ "") (hu : config.environment.uiBaseUrl ≠ "") :
    (∃ l, Run.load files environ r = .ok l) ↔
      AllAccepted files .api r.apiPaths ∧ AllAccepted files .ui r.uiPaths := by
  simp only [AllAccepted, accepts_iff, ← load_api_iff, ← load_ui_iff, ← exists_forall₂]
  constructor
  · rintro ⟨l, h⟩
    obtain ⟨-, -, hapi, hui, -, -⟩ := Run.load_eq_ok_iff.mp h
    exact ⟨⟨_, hapi⟩, _, hui⟩
  · rintro ⟨⟨apiSuites, hapi⟩, uiSuites, hui⟩
    exact ⟨⟨config, apiSuites, uiSuites⟩,
      Run.load_eq_ok_iff.mpr ⟨hn, hc, hapi, hui, fun _ => ha, fun _ => hu⟩⟩

/-! ## What is printed -/

/-- A verdict on a file, or on a path that stands for none: whether it is good, and its name. -/
abbrev Verdict := Bool × String

/-- The line of a verdict. -/
def Verdict.line (v : Verdict) : String := (if v.1 then "OK " else "FAILED ") ++ v.2

/-- Whether a line is one of a verdict. -/
def isVerdict (line : String) : Bool :=
  "OK ".toList.isPrefixOf line.toList || "FAILED ".toList.isPrefixOf line.toList

/-- The text is printed in lines, and its verdicts are those listed. -/
def Reports (text : String) (verdicts : List Verdict) : Prop :=
  ∃ lines, text = unlines lines ∧ lines.filter isVerdict = verdicts.map Verdict.line

theorem unlines_append (ls ms : List String) : unlines (ls ++ ms) = unlines ls ++ unlines ms := by
  unfold unlines
  rw [List.map_append, String.join_append]

theorem unlines_cons (l : String) (ls : List String) : unlines (l :: ls) = l ++ "\n" ++ unlines ls := by
  unfold unlines
  rw [List.map_cons, String.join_cons]

theorem isVerdict_line (v : Verdict) : isVerdict v.line = true := by
  obtain ⟨good, name⟩ := v
  unfold isVerdict Verdict.line
  cases good with
  | true => simp [String.toList_append]
  | false => simp [String.toList_append]

theorem isVerdict_indented (s : String) : isVerdict ("  " ++ s) = false := by
  unfold isVerdict
  rw [String.toList_append]
  rfl

/-- A verdict with lines that belong to it. -/
theorem Reports.single (v : Verdict) (details : List String) :
    Reports (v.line ++ "\n" ++ unlines (details.map ("  " ++ ·))) [v] := by
  refine ⟨v.line :: details.map ("  " ++ ·), (unlines_cons _ _).symm, ?_⟩
  have hd : (details.map ("  " ++ ·)).filter isVerdict = [] := by
    simp [List.filter_eq_nil_iff, isVerdict_indented]
  rw [List.filter_cons_of_pos (isVerdict_line v), hd]
  rfl

theorem Reports.append {t u : String} {vs ws : List Verdict} (ht : Reports t vs)
    (hu : Reports u ws) : Reports (t ++ u) (vs ++ ws) := by
  obtain ⟨ls, rfl, hl⟩ := ht
  obtain ⟨ms, rfl, hm⟩ := hu
  refine ⟨ls ++ ms, (unlines_append ls ms).symm, ?_⟩
  rw [List.filter_append, hl, hm, List.map_append]

/-- Reports one after the other. -/
theorem Reports.join {α : Type} {R : α → String × Bool → Prop} {verdicts : α → List Verdict}
    {as : List α} {checked : List (String × Bool)} (h : List.Forall₂ R as checked)
    (hr : ∀ a c, R a c → Reports c.1 (verdicts a) ∧ c.2 = (verdicts a).all (·.1)) :
    Reports (String.join (checked.map (·.1))) (as.flatMap verdicts) ∧
      checked.all (·.2) = (as.flatMap verdicts).all (·.1) := by
  induction h with
  | nil => exact ⟨⟨[], rfl, rfl⟩, rfl⟩
  | @cons a c as checked hac _ ih =>
    obtain ⟨hc, hb⟩ := hr a c hac
    rw [List.map_cons, String.join_cons, List.flatMap_cons, List.all_cons, List.all_append, hb, ih.2]
    exact ⟨hc.append ih.1, rfl⟩

/-! ## Paths -/

/-- The verdicts on a path: one on each file that it stands for, or one on the path. -/
def verdictsOn (files : Tree) (k : Kind) (p : String) : List Verdict :=
  match Suite.discover files (.ofText p) with
  | [] => [(false, p)]
  | found => found.map fun path => (accepts files k path, path.text)

theorem validateFile_report {c : String × Bool} (h : validateFile files k path = .ok c) :
    Reports c.1 [(accepts files k path, path.text)] ∧
      c.2 = [((accepts files k path, path.text) : Verdict)].all (·.1) := by
  unfold validateFile at h
  unfold accepts
  split at h
  · rename_i hd
    obtain rfl := Except.ok.inj h
    rw [hd]
    have hs := Reports.single (true, path.text) []
    rw [List.map_nil, show unlines [] = "" from rfl, String.append_empty] at hs
    exact ⟨hs, rfl⟩
  · rename_i issues hd
    obtain rfl := Except.ok.inj h
    rw [hd]
    have hs := Reports.single (false, path.text) (issues.map Issue.render)
    rw [List.map_map] at hs
    exact ⟨hs, rfl⟩
  · cases h

/-- **What is printed on the files of a path.** -/
theorem validatePath_report {c : String × Bool} (h : validatePath files k p = .ok c) :
    Reports c.1 (verdictsOn files k p) ∧ c.2 = (verdictsOn files k p).all (·.1) := by
  unfold validatePath at h
  unfold verdictsOn
  cases hfound : Suite.discover files (.ofText p) with
  | nil =>
    rw [hfound] at h
    obtain rfl := Except.ok.inj h
    have hs := Reports.single (false, p) ["no *.json suite files found"]
    refine ⟨?_, rfl⟩
    have ht : "FAILED " ++ p ++ "\n  no *.json suite files found\n" =
        Verdict.line (false, p) ++ "\n" ++ unlines (["no *.json suite files found"].map ("  " ++ ·)) := by
      rw [String.ext_iff]
      simp [Verdict.line, unlines, String.join_cons, String.toList_append]
    exact ht ▸ hs
  | cons path paths =>
    rw [hfound] at h
    obtain ⟨checked, hm, h⟩ := bind_eq_ok.mp h
    obtain rfl := Except.ok.inj h
    have hj := Reports.join (mapM_eq_ok.mp hm) (fun _ _ => validateFile_report)
    rw [← List.map_eq_flatMap] at hj
    exact hj

theorem all_verdictsOn : (verdictsOn files k p).all (·.1) = true ↔
    Suite.discover files (.ofText p) ≠ [] ∧
      ∀ path ∈ Suite.discover files (.ofText p), accepts files k path = true := by
  unfold verdictsOn
  split
  · rename_i hnone
    simp [hnone]
  · rename_i hsome
    rw [List.all_map, List.all_eq_true]
    exact ⟨fun h => ⟨hsome, h⟩, fun h => h.2⟩

/-- A file is neither accepted nor found to be at fault where the check of a path is given up. -/
theorem not_accepted_of_validatePath {f : Failure} (h : validatePath files k p = .error f) :
    ∃ path ∈ Suite.discover files (.ofText p), accepts files k path = false := by
  unfold validatePath at h
  split at h
  · cases h
  · rcases bind_eq_error.mp h with h | ⟨_, -, h⟩
    · obtain ⟨before, path, after, hfound, -, hfile⟩ := mapM_eq_error.mp h
      refine ⟨path, hfound ▸ by simp, ?_⟩
      unfold validateFile at hfile
      unfold accepts
      split at hfile
      · cases hfile
      · cases hfile
      · rename_i hd
        rw [hd]
        rfl
    · cases h

/-- The check of a path is not given up where all of its files are accepted. -/
theorem validatePath_of_accepted
    (h : ∀ path ∈ Suite.discover files (.ofText p), accepts files k path = true) :
    ∃ c, validatePath files k p = .ok c := by
  cases hp : validatePath files k p with
  | ok c => exact ⟨c, rfl⟩
  | error f =>
    obtain ⟨path, hm, ha⟩ := not_accepted_of_validatePath hp
    rw [h path hm] at ha
    cases ha

/-! ## Calls -/

/-- The verdicts of a check, in the order in which the paths are named. -/
def verdicts (files : Tree) (g : Given) : List Verdict :=
  (g.all "--api-suite").flatMap (verdictsOn files .api) ++
    (g.all "--ui-suite").flatMap (verdictsOn files .ui)

theorem validate_eq (hn : g.all "--api-suite" ≠ [] ∨ g.all "--ui-suite" ≠ []) :
    validate files g = do
      let api ← (g.all "--api-suite").mapM (validatePath files .api)
      let ui ← (g.all "--ui-suite").mapM (validatePath files .ui)
      return {
        status := if (api ++ ui).all (·.2) then 0 else 1
        output := String.join ((api ++ ui).map (·.1)), errors := "" } := by
  have hp : ((g.all "--api-suite").isEmpty && (g.all "--ui-suite").isEmpty) = false := by
    simpa only [Bool.and_eq_false_iff, List.isEmpty_eq_false_iff] using hn
  unfold validate
  dsimp only
  rw [hp, if_neg Bool.false_ne_true]

/-- **What a check prints**: its verdicts, each with the lines that belong to it. -/
theorem validate_report (hn : g.all "--api-suite" ≠ [] ∨ g.all "--ui-suite" ≠ []) {e : Ending}
    (h : validate files g = .ok e) :
    Reports e.output (verdicts files g) ∧
      e.status = if (verdicts files g).all (·.1) then 0 else 1 := by
  rw [validate_eq hn] at h
  obtain ⟨api, ha, h⟩ := bind_eq_ok.mp h
  obtain ⟨ui, hu, h⟩ := bind_eq_ok.mp h
  obtain rfl := Except.ok.inj h
  obtain ⟨hra, hga⟩ := Reports.join (mapM_eq_ok.mp ha) (fun _ _ => validatePath_report)
  obtain ⟨hru, hgu⟩ := Reports.join (mapM_eq_ok.mp hu) (fun _ _ => validatePath_report)
  have hall : (api ++ ui).all (·.2) = (verdicts files g).all (·.1) := by
    rw [List.all_append, hga, hgu, verdicts, List.all_append]
  refine ⟨?_, ?_⟩
  · dsimp only
    rw [List.map_append, String.join_append]
    exact hra.append hru
  · dsimp only
    rw [hall]

/-- The check of some paths is not given up where all of their files are accepted. -/
theorem mapM_of_accepted {paths : List String} (h : AllAccepted files k paths) :
    ∃ checked, paths.mapM (validatePath files k) = .ok checked := by
  simp only [mapM_eq_ok]
  refine exists_forall₂.mpr fun p hp => validatePath_of_accepted fun path hm => ?_
  exact h path (List.mem_flatMap.mpr ⟨p, hp, hm⟩)

theorem all_verdicts {paths : List String} : (paths.flatMap (verdictsOn files k)).all (·.1) = true ↔
    (∀ p ∈ paths, Suite.discover files (.ofText p) ≠ []) ∧ AllAccepted files k paths := by
  have hp : (paths.flatMap (verdictsOn files k)).all (·.1) = true ↔
      ∀ p ∈ paths, (verdictsOn files k p).all (·.1) = true := by
    rw [List.all_flatMap, List.all_eq_true]
  simp only [hp, all_verdictsOn, AllAccepted, Run.filesOf, List.mem_flatMap]
  constructor
  · intro h
    refine ⟨fun p hp => (h p hp).1, ?_⟩
    rintro path ⟨p, hp, hm⟩
    exact (h p hp).2 path hm
  · rintro ⟨hd, ha⟩ p hp
    exact ⟨hd p hp, fun path hm => ha path ⟨p, hp, hm⟩⟩

/-- **What a check and a run make of the same paths**, given a configuration with both addresses. The
check succeeds if and only if the run begins and every path stands for a file. It prints one verdict on
each file, and one on each path that stands for none. Where it is given up, the run does not begin. -/
theorem validate_agrees (hn : g.all "--api-suite" ≠ [] ∨ g.all "--ui-suite" ≠ [])
    (hapi : r.apiPaths = g.all "--api-suite") (hui : r.uiPaths = g.all "--ui-suite") {config : Config}
    (hc : Config.load files (.ofText r.configPath) environ = .ok config)
    (ha : config.environment.apiBaseUrl ≠ "") (hu : config.environment.uiBaseUrl ≠ "") :
    ((∃ e, validate files g = .ok e ∧ e.status = 0) ↔
      (∃ l, Run.load files environ r = .ok l) ∧
        ∀ p ∈ r.apiPaths ++ r.uiPaths, Suite.discover files (.ofText p) ≠ []) ∧
    (∀ e, validate files g = .ok e →
      ∃ lines, e.output = unlines lines ∧
        lines.filter isVerdict = (verdicts files g).map Verdict.line) ∧
    (∀ f, validate files g = .error f → ∀ l, Run.load files environ r ≠ .ok l) := by
  have hbegins := exists_load_iff (hapi ▸ hui ▸ hn) hc ha hu
  have hgiven : AllAccepted files .api r.apiPaths ∧ AllAccepted files .ui r.uiPaths →
      ∃ e, validate files g = .ok e := by
    rw [hapi, hui]
    rintro ⟨haccApi, haccUi⟩
    obtain ⟨api, hapi'⟩ := mapM_of_accepted haccApi
    obtain ⟨ui, hui'⟩ := mapM_of_accepted haccUi
    rw [validate_eq hn, hapi', hui']
    exact ⟨_, rfl⟩
  have hgood : (verdicts files g).all (·.1) = true ↔
      (∀ p ∈ r.apiPaths ++ r.uiPaths, Suite.discover files (.ofText p) ≠ []) ∧
        AllAccepted files .api r.apiPaths ∧ AllAccepted files .ui r.uiPaths := by
    rw [hapi, hui, verdicts, List.all_append, Bool.and_eq_true, all_verdicts, all_verdicts,
      List.forall_mem_append]
    exact and_and_and_comm
  refine ⟨?_, fun e he => (validate_report hn he).1, fun f hf l hl => ?_⟩
  · rw [hbegins]
    constructor
    · rintro ⟨e, he, hs⟩
      have hall : (verdicts files g).all (·.1) = true := by
        by_contra hbad
        rw [(validate_report hn he).2, if_neg hbad] at hs
        cases hs
      exact (hgood.mp hall).symm
    · rintro ⟨hacc, hd⟩
      obtain ⟨e, he⟩ := hgiven hacc
      exact ⟨e, he, (validate_report hn he).2.trans (if_pos (hgood.mpr ⟨hd, hacc⟩))⟩
  · obtain ⟨e, he⟩ := hgiven (hbegins.mp ⟨l, hl⟩)
    cases hf.symm.trans he

/-! ## A tree -/

/-- Variables that give both addresses. -/
def bothAddresses : Config.Environ :=
  [("API_BASE_URL", "http://api.test"), ("UI_BASE_URL", "http://ui.test")]

/-- A configuration, a file that is no JSON and a directory with nothing in it. The share of pixels is an
integer, so that no float is computed where the configuration is read. -/
def fewFiles : Tree :=
  let environment := "\"environment\": \x7b\x7d\n"
  let features := "\"features\": \x7b\"max_diff_pixel_ratio\": !!int \"0\"\x7d\n"
  { cwd := []
    entries := [(["c.yaml"], .file (.ofText (environment ++ features))),
      (["a.json"], .file (.ofText "[")), (["suites"], .directory)] }

/-- A call that names one path for API suites. -/
def callOf (p : String) : Given :=
  { values := [("--config", "c.yaml"), ("--api-suite", p)], switches := [], rest := [] }

/-- The configuration can be read, and has both addresses. -/
theorem fewFiles_load : ∃ c, Config.load fewFiles (.ofText "c.yaml") bothAddresses = .ok c ∧
    c.environment.apiBaseUrl ≠ "" ∧ c.environment.uiBaseUrl ≠ "" := by
  have h : (match Config.load fewFiles (.ofText "c.yaml") bothAddresses with
      | .ok c => c.environment.apiBaseUrl != "" && c.environment.uiBaseUrl != ""
      | .error _ => false) = true := by
    decide +kernel
  split at h
  · rename_i c hc
    simp only [Bool.and_eq_true, bne_iff_ne] at h
    exact ⟨c, hc, h⟩
  · cases h

/-- A file that is no suite is reported once, and keeps the run from beginning. -/
theorem validate_agrees_broken : (callOf "a.json").all "--api-suite" ≠ [] ∧
    (∃ c, Config.load fewFiles (.ofText "c.yaml") bothAddresses = .ok c ∧ c.environment.apiBaseUrl ≠ "" ∧
      c.environment.uiBaseUrl ≠ "") ∧
    (∃ e lines, validate fewFiles (callOf "a.json") = .ok e ∧ e.output = unlines lines ∧
      lines.filter isVerdict = ["FAILED a.json"]) ∧
    ∀ l, Run.load fewFiles bothAddresses (runRequest (callOf "a.json")) ≠ .ok l := by
  have hn : (callOf "a.json").all "--api-suite" ≠ [] := by decide
  obtain ⟨c, hc, ha, hu⟩ := fewFiles_load
  obtain ⟨hiff, hlines, -⟩ :=
    validate_agrees (r := runRequest (callOf "a.json")) (.inl hn) rfl rfl hc ha hu
  have hv : (validate fewFiles (callOf "a.json")).toOption.map (·.status) = some 1 := by
    decide +kernel
  have hverdicts : (verdicts fewFiles (callOf "a.json")).map Verdict.line = ["FAILED a.json"] := by
    decide +kernel
  have hdiscover : ∀ p ∈ (runRequest (callOf "a.json")).apiPaths ++
      (runRequest (callOf "a.json")).uiPaths, Suite.discover fewFiles (.ofText p) ≠ [] := by
    decide +kernel
  cases he : validate fewFiles (callOf "a.json") with
  | error f =>
    rw [he] at hv
    cases hv
  | ok e =>
    rw [he] at hv
    obtain ⟨lines, hout, hl⟩ := hlines e he
    refine ⟨hn, ⟨c, hc, ha, hu⟩, ⟨e, lines, rfl, hout, hl.trans hverdicts⟩, fun l hload => ?_⟩
    obtain ⟨e', he', hs⟩ := hiff.mpr ⟨⟨l, hload⟩, hdiscover⟩
    obtain rfl := Except.ok.inj (he.symm.trans he')
    rw [show e.status = 1 from Option.some.inj hv] at hs
    cases hs

/-- A directory without suites is reported though nothing is discovered in it, and a run begins. -/
theorem validate_emptyDirectory :
    (∃ c, Config.load fewFiles (.ofText "c.yaml") bothAddresses = .ok c ∧ c.environment.apiBaseUrl ≠ "" ∧
      c.environment.uiBaseUrl ≠ "") ∧
    Suite.discover fewFiles (.ofText "suites") = [] ∧
    validate fewFiles (callOf "suites") =
      .ok ⟨1, "FAILED suites\n  no *.json suite files found\n", ""⟩ ∧
    ∃ l, Run.load fewFiles bothAddresses (runRequest (callOf "suites")) = .ok l := by
  obtain ⟨c, hc, ha, hu⟩ := fewFiles_load
  have hdiscover : Suite.discover fewFiles (.ofText "suites") = [] := by decide +kernel
  refine ⟨⟨c, hc, ha, hu⟩, hdiscover, ?_, ?_⟩
  · have hv : (validate fewFiles (callOf "suites")).toOption =
        some ⟨1, "FAILED suites\n  no *.json suite files found\n", ""⟩ := by
      decide +kernel
    cases he : validate fewFiles (callOf "suites") with
    | error f =>
      rw [he] at hv
      cases hv
    | ok e =>
      rw [he] at hv
      exact congrArg Except.ok (Option.some.inj hv)
  · have hn : (runRequest (callOf "suites")).apiPaths ≠ [] := by decide
    refine (exists_load_iff (.inl hn) hc ha hu).mpr ⟨?_, ?_⟩
    · intro path hm
      obtain ⟨p, hp, hm⟩ := List.mem_flatMap.mp hm
      obtain rfl : p = "suites" := by simpa [runRequest, callOf, Given.all] using hp
      rw [hdiscover] at hm
      cases hm
    · intro path hm
      obtain ⟨p, hp, -⟩ := List.mem_flatMap.mp hm
      simp [runRequest, callOf, Given.all] at hp

end SuiteEngine.Cli
