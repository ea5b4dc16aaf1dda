import SuiteEngine.Proofs.Except
import SuiteEngine.Proofs.Suite.Discovery
import SuiteEngine.Run.Execute

/-!
# What a run loads

A run begins if and only if a suite is asked for, the configuration and every suite file that is named
can be read, and there is an address for each kind of suite. It then has one suite for each file, in the
order in which they are named.

Headlines:
* **`load_eq_ok_iff`**: when a run can begin, and with what.
* `LoadedFrom.sources`: which file each suite is from.
-/

namespace SuiteEngine.Run

open Files (Path Tree)
open Suite (ApiSuite LoadError UiSuite)

variable {files : Tree} {environ : Config.Environ} {r : Request} {l : Loaded} {path : Path}

/-- The suite files that some paths stand for, in their order. -/
def filesOf (files : Tree) (paths : List String) : List Path :=
  paths.flatMap fun p => Suite.discover files (.ofText p)

/-- What a run has loaded. -/
structure LoadedFrom (files : Tree) (environ : Config.Environ) (r : Request) (l : Loaded) : Prop where
  named : r.apiPaths ≠ [] ∨ r.uiPaths ≠ []
  config : Config.load files (.ofText r.configPath) environ = .ok l.config
  api : List.Forall₂ (fun p s => ApiSuite.load files p = .ok s) (filesOf files r.apiPaths) l.apiSuites
  ui : List.Forall₂ (fun p s => UiSuite.load files p = .ok s) (filesOf files r.uiPaths) l.uiSuites
  apiAddress : l.apiSuites ≠ [] → l.config.environment.apiBaseUrl ≠ ""
  uiAddress : l.uiSuites ≠ [] → l.config.environment.uiBaseUrl ≠ ""

/-- Loading path by path is loading file by file. -/
theorem mapM_flatMap {α : Type} (load : Path → Except LoadError α) (paths : List String) :
    (do
      let found ← paths.mapM fun p => (Suite.discover files (.ofText p)).mapM load
      return found.flatten) = (filesOf files paths).mapM load := by
  induction paths with
  | nil => rfl
  | cons p paths ih =>
    rw [filesOf, List.flatMap_cons, List.mapM_append]
    change _ = do
      let some_ ← (Suite.discover files (.ofText p)).mapM load
      let rest ← (filesOf files paths).mapM load
      return some_ ++ rest
    rw [← ih]
    simp

theorem loadAll_eq_ok_iff {α : Type} {load : Path → Except LoadError α} {paths : List String}
    {suites : List α} :
    loadAll (fun p => (Suite.discover files p).mapM load) paths = .ok suites ↔
      List.Forall₂ (fun p s => load p = .ok s) (filesOf files paths) suites := by
  rw [← mapM_eq_ok, ← mapM_flatMap, loadAll, bind_eq_ok, bind_eq_ok]
  simp only [mapError_eq_ok, pure, Except.pure, Except.ok.injEq]

theorem read_eq_ok_iff :
    read files environ r = .ok l ↔
      Config.load files (.ofText r.configPath) environ = .ok l.config ∧
        List.Forall₂ (fun p s => ApiSuite.load files p = .ok s) (filesOf files r.apiPaths) l.apiSuites ∧
        List.Forall₂ (fun p s => UiSuite.load files p = .ok s) (filesOf files r.uiPaths) l.uiSuites := by
  rw [read, bind_eq_ok]
  simp only [bind_eq_ok, mapError_eq_ok]
  constructor
  · rintro ⟨config, hc, api, ha, ui, hu, h⟩
    obtain rfl := Except.ok.inj h
    exact ⟨hc, loadAll_eq_ok_iff.mp ha, loadAll_eq_ok_iff.mp hu⟩
  · rintro ⟨hc, ha, hu⟩
    exact ⟨_, hc, _, loadAll_eq_ok_iff.mpr ha, _, loadAll_eq_ok_iff.mpr hu, rfl⟩

/-- **When a run can begin, and with what.** -/
theorem load_eq_ok_iff : load files environ r = .ok l ↔ LoadedFrom files environ r l := by
  have hload : load files environ r = .ok l ↔
      (r.apiPaths.isEmpty && r.uiPaths.isEmpty) = false ∧ read files environ r = .ok l ∧
        (!l.apiSuites.isEmpty && l.config.environment.apiBaseUrl == "") = false ∧
        (!l.uiSuites.isEmpty && l.config.environment.uiBaseUrl == "") = false := by
    unfold load
    dsimp only
    rw [guard_eq_ok, bind_eq_ok]
    simp only [guard_eq_ok, mapError_eq_ok]
    refine and_congr_right fun _ => ⟨?_, fun ⟨hr, ha, hu⟩ => ⟨l, hr, ha, hu, rfl⟩⟩
    rintro ⟨l', hr, ha, hu, h⟩
    obtain rfl := Except.ok.inj h
    exact ⟨hr, ha, hu⟩
  rw [hload, read_eq_ok_iff]
  simp only [Bool.and_eq_false_iff, List.isEmpty_eq_false_iff, Bool.not_eq_false', List.isEmpty_iff,
    beq_eq_false_iff_ne]
  constructor
  · rintro ⟨hn, ⟨hc, ha, hu⟩, haddr, huddr⟩
    exact ⟨hn, hc, ha, hu, fun h => haddr.resolve_left h, fun h => huddr.resolve_left h⟩
  · rintro ⟨hn, hc, ha, hu, haddr, huddr⟩
    exact ⟨hn, ⟨hc, ha, hu⟩, or_iff_not_imp_left.mpr haddr, or_iff_not_imp_left.mpr huddr⟩

theorem source_of_api {s : ApiSuite} (h : ApiSuite.load files path = .ok s) : s.source = some path := by
  obtain ⟨document, -, h⟩ := bind_eq_ok.mp h
  split at h
  · obtain rfl := Except.ok.inj h
    rfl
  · cases h

theorem source_of_ui {s : UiSuite} (h : UiSuite.load files path = .ok s) : s.source = some path := by
  obtain ⟨document, -, h⟩ := bind_eq_ok.mp h
  split at h
  · obtain rfl := Except.ok.inj h
    rfl
  · cases h

theorem map_source {α : Type} {load : Path → Except LoadError α} {source : α → Option Path}
    {paths : List Path} {suites : List α} (hs : ∀ p s, load p = .ok s → source s = some p)
    (h : List.Forall₂ (fun p s => load p = .ok s) paths suites) :
    suites.map source = paths.map some := by
  induction h with
  | nil => rfl
  | cons hp _ ih => rw [List.map_cons, List.map_cons, hs _ _ hp, ih]

/-- **Each suite is from one of the files that are named**, in their order. -/
theorem LoadedFrom.sources (h : LoadedFrom files environ r l) :
    l.apiSuites.map ApiSuite.source = (filesOf files r.apiPaths).map some ∧
      l.uiSuites.map UiSuite.source = (filesOf files r.uiPaths).map some :=
  ⟨map_source (fun _ _ => source_of_api) h.api, map_source (fun _ _ => source_of_ui) h.ui⟩

end SuiteEngine.Run
