import SuiteEngine.Proofs.Config.Escapes
import SuiteEngine.Proofs.Files.Path
import SuiteEngine.Proofs.Suite.Discovery

/-!
# The environments of a directory

A directory has a file for each environment. Which environments there are is read off the names of its
files, which are taken apart; the file of an environment is looked for by names that are put together.
The two agree: an environment is listed exactly where a file is found for it. A name may have dots
anywhere, and a directory does not count as a file.

Variables are collected before the file is looked for, since the file beside the configuration may be
what names the environment. Where that file is no text, an environment is neither found nor missed.

Headlines:
* `mem_environments_iff`, `environments_sorted`: the environments of a directory.
* `file_eq_ok_iff`: the file of an environment.
* `load_eq_stated`: what is read once the variables are known.
* **`environments_found`**: an environment is listed exactly where its file is found.
-/

namespace SuiteEngine.Config

open Files (Path Tree)
open Yaml (Datum)

variable {files : Tree} {directory path : Path} {environ vars : Environ} {name s : String}

/-! ## Names of files -/

theorem exists_of_mem_suffixes (h : s ∈ suffixes) :
    ∃ ext : String, ext ≠ "" ∧ '.' ∉ ext.toList ∧ '/' ∉ ext.toList ∧ s = "." ++ ext := by
  simp only [suffixes, List.mem_cons, List.not_mem_nil, or_false] at h
  rcases h with rfl | rfl | rfl
  · exact ⟨"yaml", by decide, by decide, by decide, rfl⟩
  · exact ⟨"yml", by decide, by decide, by decide, rfl⟩
  · exact ⟨"json", by decide, by decide, by decide, rfl⟩

/-- The names that are taken apart are those that are put together. -/
theorem splitSuffix_eq_iff_of_mem {n : String} (h : s ∈ suffixes) :
    Path.splitSuffix n = (name, s) ↔ name ≠ "" ∧ n = name ++ s := by
  obtain ⟨ext, he, hd, -, rfl⟩ := exists_of_mem_suffixes h
  exact Path.splitSuffix_eq_iff he hd

/-- The name of a file for an environment leads below a directory. -/
theorem isName_append (hslash : '/' ∉ name.toList) (h : s ∈ suffixes) : Files.IsName (name ++ s) := by
  have hlong : 4 ≤ s.length := by
    revert s
    decide
  have hne : ∀ short : String, short.length ≤ 2 → name ++ s ≠ short := by
    rintro _ hshort rfl
    rw [String.length_append] at hshort
    omega
  obtain ⟨ext, -, -, hs, rfl⟩ := exists_of_mem_suffixes h
  exact ⟨by simp [hslash, hs], hne "" (by decide), hne "." (by decide), hne ".." (by decide)⟩

/-! ## Environments -/

theorem mem_environments_iff (hd : files.isDirectory directory = true) (hslash : '/' ∉ name.toList) :
    name ∈ environments files directory ↔
      name ≠ "" ∧ ∃ s ∈ suffixes, files.isFile (directory.child (name ++ s)) = true := by
  have hchild : ∀ s ∈ suffixes, directory.child (name ++ s) =
      { directory with names := directory.names ++ [name ++ s] } :=
    fun s hs => Path.child_of_isName (isName_append hslash hs)
  rw [environments, if_pos hd]
  simp only [List.mem_mergeSort, List.mem_eraseDups, List.mem_map, List.mem_filter, Bool.and_eq_true,
    List.contains_iff_mem]
  constructor
  · rintro ⟨n, ⟨-, hs, hf⟩, rfl⟩
    obtain ⟨hne, hn⟩ := (splitSuffix_eq_iff_of_mem hs).mp (Prod.mk.eta (p := Path.splitSuffix n)).symm
    refine ⟨hne, _, hs, ?_⟩
    rw [hchild _ hs, ← hn]
    exact hf
  · rintro ⟨hne, s, hs, hf⟩
    rw [hchild s hs] at hf
    have hsplit := (splitSuffix_eq_iff_of_mem hs).mpr ⟨hne, rfl⟩
    refine ⟨name ++ s, ⟨?_, hsplit ▸ hs, hf⟩, by rw [hsplit]⟩
    exact Tree.mem_names_of_isFile (Tree.isDirectory_iff.mp hd) (isName_append hslash hs).up hf

theorem eraseDups_sorted (l : List String) :
    (l.eraseDups.mergeSort fun a b => decide (a ≤ b)).Pairwise (· < ·) := by
  have htrans : ∀ a b c : String, decide (a ≤ b) = true → decide (b ≤ c) = true →
      decide (a ≤ c) = true := fun a b c hab hbc =>
    decide_eq_true (le_trans (of_decide_eq_true hab) (of_decide_eq_true hbc))
  have htotal : ∀ a b : String, (decide (a ≤ b) || decide (b ≤ a)) = true := fun a b => by
    simpa using le_total a b
  have hne : (l.eraseDups.mergeSort fun a b => decide (a ≤ b)).Nodup :=
    (List.mergeSort_perm _ _).nodup_iff.mpr (Suite.nodup_eraseDups l)
  exact (List.pairwise_mergeSort htrans htotal _).imp₂
    (fun a b hab hne => lt_of_le_of_ne (of_decide_eq_true hab) hne) hne

/-- **Environments are listed in order**, each once. -/
theorem environments_sorted (files : Tree) (directory : Path) :
    (environments files directory).Pairwise (· < ·) := by
  unfold environments
  split
  · exact eraseDups_sorted _
  · exact List.Pairwise.nil

/-! ## The file of an environment -/

/-- The path is that of a file for the environment, and there is no file with a suffix that is looked
for before. -/
def IsFirstFile (files : Tree) (directory : Path) (name : String) (path : Path) : Prop :=
  ∃ before s after, suffixes = before ++ s :: after ∧ path = directory.child (name ++ s) ∧
    files.isFile path = true ∧ ∀ s' ∈ before, files.isFile (directory.child (name ++ s')) = false

theorem file_of_directory (hd : files.isDirectory directory = true)
    (hn : vars.nonEmpty? "TEST_ENV" = some name) :
    file files directory vars =
      match suffixes.find? fun s => files.isFile (directory.child (name ++ s)) with
      | some s => .ok (directory.child (name ++ s))
      | none => .error (.noEnvironment name directory (environments files directory)) := by
  rw [file, if_pos hd, hn, Option.getD_some]
  dsimp only
  rw [List.find?_map, Function.comp_def]
  cases suffixes.find? fun s => files.isFile (directory.child (name ++ s)) <;> rfl

theorem file_eq_ok_iff (hd : files.isDirectory directory = true)
    (hn : vars.nonEmpty? "TEST_ENV" = some name) :
    file files directory vars = .ok path ↔ IsFirstFile files directory name path := by
  rw [file_of_directory hd hn]
  constructor
  · intro h
    split at h
    · rename_i s hs
      obtain ⟨hf, before, after, hsplit, hb⟩ := List.find?_eq_some_iff_append.mp hs
      obtain rfl := Except.ok.inj h
      exact ⟨before, s, after, hsplit, rfl, hf, fun s' hs' => by simpa using hb s' hs'⟩
    · cases h
  · rintro ⟨before, s, after, hsplit, rfl, hf, hb⟩
    have hs : (suffixes.find? fun s => files.isFile (directory.child (name ++ s))) = some s :=
      List.find?_eq_some_iff_append.mpr
        ⟨hf, before, after, hsplit, fun s' hs' => by simpa using hb s' hs'⟩
    rw [hs]

/-- **The file of an environment is found where the environment is listed**; where it is not, the
environments that are listed are named. -/
theorem file_of_name (hd : files.isDirectory directory = true) (hname : name ≠ "")
    (hslash : '/' ∉ name.toList) (hn : vars.nonEmpty? "TEST_ENV" = some name) :
    name ∈ environments files directory ∧ (∃ path, file files directory vars = .ok path) ∨
      name ∉ environments files directory ∧ file files directory vars =
        .error (.noEnvironment name directory (environments files directory)) := by
  rw [mem_environments_iff hd hslash, file_of_directory hd hn]
  cases hs : suffixes.find? fun s => files.isFile (directory.child (name ++ s)) with
  | some s =>
    have hf := List.find?_some hs
    exact .inl ⟨⟨hname, s, List.mem_of_find?_eq_some hs, hf⟩, _, rfl⟩
  | none =>
    refine .inr ⟨?_, rfl⟩
    rintro ⟨-, s, hmem, hf⟩
    exact List.find?_eq_none.mp hs s hmem hf

/-! ## What is read -/

theorem nonEmpty?_visible {requested : Path} (hname : name ≠ "")
    (henv : environ.lookup "TEST_ENV" = some name)
    (h : visibleVariables files requested environ = .ok vars) :
    vars.nonEmpty? "TEST_ENV" = some name := by
  have hvars : ∃ beside, vars = environ ++ beside := by
    change (if files.isFile (variablesFile files requested) = true then _ else _) = _ at h
    split at h
    · split at h
      · exact ⟨_, (Except.ok.inj h).symm⟩
      · cases h
    · exact ⟨[], by rw [List.append_nil]; exact (Except.ok.inj h).symm⟩
  obtain ⟨beside, rfl⟩ := hvars
  rw [Environ.nonEmpty?, List.lookup_append, henv]
  simp [hname]

/-- The configuration that the file at a path states. -/
def stated (files : Tree) (vars : Environ) (path : Path) : Except Error Config :=
  match files.readText path with
  | .error f => .error (.failure f.failure)
  | .ok text => parse text >>= ofDatum files.cwd path vars

theorem load_eq_stated (files : Tree) (requested : Path) (environ : Environ) :
    load files requested environ = visibleVariables files requested environ >>= fun vars =>
      file files requested vars >>= stated files vars := by
  unfold load stated
  refine bind_congr fun vars => bind_congr fun path => ?_
  cases files.readText path <;> rfl

/-! ## Errors that say that there is no file -/

/-- The error says that there is no file to read. -/
def Error.IsMissing : Error → Prop
  | .noFile _ => True
  | .noEnvironment _ _ _ => True
  | _ => False

/-- No error says that there is no file to read. -/
abbrev Finds {α : Type} (x : Except Error α) : Prop := Only (¬Error.IsMissing ·) x

theorem Only.finds {α : Type} {x : Except Error α} (h : Only Error.IsStated x) : Finds x :=
  h.mono fun e he hm => by
    cases e with
    | noFile _ => exact he
    | noEnvironment _ _ _ => exact he
    | _ => exact hm

theorem scalarEntry_finds (field : String) (e : Datum × Datum) : Finds (scalarEntry field e) := by
  unfold scalarEntry
  split
  · split
    · exact .error not_false
    · split
      · exact .ok _
      · exact .error not_false
  · exact .error not_false

theorem texts_finds (field : String) (o : Option Datum) : Finds (texts field o) := by
  unfold texts
  split
  · exact .ok _
  · exact .ok _
  · split
    · intro e he
      obtain ⟨_, entry, _, -, -, h⟩ := mapM_eq_error.mp he
      exact scalarEntry_finds field entry e h
    · exact .error not_false

theorem readAuth_finds (o : Option Datum) : Finds (readAuth o) := by
  refine (optionalSection_blames _ _).finds.bind fun s => ?_
  dsimp only
  split
  · refine .error ?_
    split <;> exact not_false
  · refine (text?_blames _ _).finds.bind fun _ => (texts_finds _ _).bind fun _ => ?_
    exact (text?_blames _ _).finds.bind fun _ => (text?_blames _ _).finds.bind fun _ => .ok _

theorem readFeatures_finds (cwd : Files.Place) (base : Path) (o : Option Datum) :
    Finds (readFeatures cwd base o) := by
  refine (optionalSection_blames _ _).finds.bind fun s => (requiredText_blames _ _).finds.bind fun _ => ?_
  dsimp only
  split
  · exact .error not_false
  · split
    · exact .error not_false
    · exact .ok _

theorem parse_finds (text : String) : Finds (parse text) := by
  unfold parse
  split
  · exact .error not_false
  · exact .error not_false
  · split
    · exact .ok _
    · split
      · exact .ok _
      · exact .error not_false

theorem ofDatum_finds (cwd : Files.Place) (path : Path) (vars : Environ) (d : Datum) :
    Finds (ofDatum cwd path vars d) := by
  refine (readEnvironment_blames _ _ _).finds.bind fun _ => ?_
  refine (readExecution_blames _ _).finds.bind fun _ => (readAuth_finds _).bind fun _ => ?_
  refine (texts_finds _ _).bind fun _ => (readBrowser_blames _).finds.bind fun _ => ?_
  exact (readFeatures_finds _ _ _).bind fun _ => .ok _

theorem stated_finds (files : Tree) (vars : Environ) (path : Path) : Finds (stated files vars path) := by
  unfold stated
  split
  · exact .error not_false
  · exact (parse_finds _).bind fun _ => ofDatum_finds _ _ _ _

/-! ## Environments and their files -/

/-- The file of variables in a directory is a text, if there is one. -/
def HasReadableVariables (files : Tree) (directory : Path) : Prop :=
  files.isFile (directory.child ".env") = true →
    ∃ text, files.readText (directory.child ".env") = .ok text

theorem visibleVariables_ok (hd : files.isDirectory directory = true)
    (h : HasReadableVariables files directory) (environ : Environ) :
    ∃ vars, visibleVariables files directory environ = .ok vars := by
  unfold visibleVariables
  dsimp only
  rw [if_pos hd]
  split
  · rename_i hf
    obtain ⟨text, ht⟩ := h hf
    rw [ht]
    exact ⟨_, rfl⟩
  · exact ⟨_, rfl⟩

/-- **An environment is listed exactly where its file is found.** The list is in order, each once. For
a name without slashes it tells whether a file is found, and the file that is found is the first of
those that are looked for. What a configuration is read from is that file; where there is none, the
error names the environments that are listed. -/
theorem environments_found (files : Tree) (directory : Path) :
    (environments files directory).Pairwise (· < ·) ∧
    ∀ name : String, name ≠ "" → '/' ∉ name.toList → files.isDirectory directory = true →
      (∀ vars : Environ, vars.nonEmpty? "TEST_ENV" = some name →
        (name ∈ environments files directory ↔ ∃ path, file files directory vars = .ok path) ∧
        ∀ path, file files directory vars = .ok path ↔ IsFirstFile files directory name path) ∧
      ∀ environ : Environ, environ.lookup "TEST_ENV" = some name →
        HasReadableVariables files directory →
        (name ∈ environments files directory ↔ Finds (load files directory environ)) ∧
        (name ∈ environments files directory → ∃ path vars, IsFirstFile files directory name path ∧
          visibleVariables files directory environ = .ok vars ∧
          load files directory environ = stated files vars path) ∧
        (name ∉ environments files directory → load files directory environ =
          .error (.noEnvironment name directory (environments files directory))) := by
  refine ⟨environments_sorted files directory, fun name hname hslash hd => ⟨fun vars hn => ?_, ?_⟩⟩
  · refine ⟨?_, fun path => file_eq_ok_iff hd hn⟩
    rcases file_of_name hd hname hslash hn with ⟨hmem, hfile⟩ | ⟨hmem, hfile⟩
    · exact iff_of_true hmem hfile
    · exact iff_of_false hmem fun ⟨path, hpath⟩ => nomatch hfile.symm.trans hpath
  · intro environ henv hreadable
    obtain ⟨vars, hvars⟩ := visibleVariables_ok hd hreadable environ
    have hn := nonEmpty?_visible hname henv hvars
    have hload : load files directory environ = file files directory vars >>= stated files vars := by
      rw [load_eq_stated, hvars]
      rfl
    rw [hload]
    rcases file_of_name hd hname hslash hn with ⟨hmem, path, hfile⟩ | ⟨hmem, hfile⟩
    · rw [hfile]
      exact ⟨iff_of_true hmem (stated_finds files vars path),
        fun _ => ⟨path, vars, (file_eq_ok_iff hd hn).mp hfile, hvars, rfl⟩, fun h => absurd hmem h⟩
    · rw [hfile]
      exact ⟨iff_of_false hmem fun h => h _ rfl trivial, fun h => absurd h hmem, fun _ => rfl⟩

/-- A directory with two files for one environment, a name with dots, a dot file, a directory named
like a file and variables. -/
def crowded : Tree :=
  { cwd := ["work"]
    entries := [(["work", "envs", "dev.json"], .file (.ofText "{}")),
      (["work", "envs", "dev.yaml"], .file (.ofText "environment: {api_base_url: http://dev}")),
      (["work", "envs", "eu.west.yml"], .file (.ofText "")),
      (["work", "envs", ".hidden.yaml"], .file (.ofText "")),
      (["work", "envs", "prod.yaml", "note"], .file (.ofText "")),
      (["work", "envs", ".env"], .file (.ofText "TEST_ENV=eu.west\n"))] }

theorem not_mem_environments (hd : files.isDirectory directory = true) (hslash : '/' ∉ name.toList)
    (h : ∀ s ∈ suffixes, files.isFile (directory.child (name ++ s)) = false) :
    name ∉ environments files directory := by
  rw [mem_environments_iff hd hslash]
  rintro ⟨-, s, hs, hf⟩
  exact Bool.noConfusion (hf.symm.trans (h s hs))

/-- An environment with two files is found in the one that comes first, whatever the file of variables
names; one that has a directory only is not found. -/
theorem environments_found_crowded :
    let directory := Path.ofText "envs"
    IsFirstFile crowded directory "dev" (Path.ofText "envs/dev.yaml") ∧
      "dev" ∈ environments crowded directory ∧
      file crowded directory [("TEST_ENV", "dev")] = .ok (Path.ofText "envs/dev.yaml") ∧
      HasReadableVariables crowded directory ∧
      "prod" ∉ environments crowded directory ∧
      load crowded directory [("TEST_ENV", "prod")] =
        .error (.noEnvironment "prod" directory (environments crowded directory)) := by
  intro directory
  have hd : crowded.isDirectory directory = true := by decide +kernel
  have hreadable : HasReadableVariables crowded directory := fun _ =>
    ⟨"TEST_ENV=eu.west\n", by with_unfolding_all rfl⟩
  have hfirst : IsFirstFile crowded directory "dev" (Path.ofText "envs/dev.yaml") :=
    ⟨[], ".yaml", [".yml", ".json"], rfl, by decide +kernel, by decide +kernel, List.forall_mem_nil _⟩
  have hprod : "prod" ∉ environments crowded directory :=
    not_mem_environments hd (by decide) (by decide +kernel)
  obtain ⟨hdev, -⟩ := (environments_found crowded directory).2 "dev" (by decide) (by decide) hd
  obtain ⟨hlisted, hfile⟩ := hdev [("TEST_ENV", "dev")] rfl
  obtain ⟨-, hload⟩ := (environments_found crowded directory).2 "prod" (by decide) (by decide) hd
  obtain ⟨-, -, hmissed⟩ := hload [("TEST_ENV", "prod")] rfl hreadable
  exact ⟨hfirst, hlisted.mpr ⟨_, (hfile _).mpr hfirst⟩, (hfile _).mpr hfirst, hreadable, hprod,
    hmissed hprod⟩

/-- A directory where the file of variables is a single byte, which begins no character. -/
def garbled : Tree :=
  { cwd := ["work"]
    entries := [(["work", "envs", "dev.yaml"], .file (.ofText "environment:\n  api_base_url: http://dev\n")),
      (["work", "envs", ".env"], .file (.bytes [0xFF]))] }

/-- Where the file of variables is no text, an environment that is not listed is not missed either: the
variables are wanted first. -/
theorem load_garbled :
    ¬("prod" ∈ environments garbled (.ofText "envs") ↔
      Finds (load garbled (.ofText "envs") [("TEST_ENV", "prod")])) := by
  have hd : garbled.isDirectory (.ofText "envs") = true := by decide +kernel
  have hprod : "prod" ∉ environments garbled (.ofText "envs") :=
    not_mem_environments hd (by decide) (by decide +kernel)
  have hload : load garbled (.ofText "envs") [("TEST_ENV", "prod")] =
      .error (.failure (Files.Fault.notText ⟨0, 0xFF, 1, .invalidStart⟩).failure) :=
    load_eq_failure_iff.mpr (.variableText rfl rfl)
  intro h
  refine hprod (h.mpr ?_)
  rw [hload]
  exact .error not_false

end SuiteEngine.Config
