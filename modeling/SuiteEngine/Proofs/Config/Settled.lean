import SuiteEngine.Config.Load
import SuiteEngine.Proofs.Document.Json
import SuiteEngine.Proofs.Except
import SuiteEngine.Proofs.Files.Tree
import SuiteEngine.Proofs.Yaml.Keys

/-!
# What a configuration has settled

Runners take their limits from the configuration without looking at them again. So all that is asked of
a value is made sure of when the configuration is read, wherever the value comes from: a variable of the
process, a variable of the file beside the configuration, the configuration itself, or a default.

Headlines:
* `load_eq_ok_iff`: what a configuration is read from.
* `readExecution_settled`, `readEnvironment_settled`, `readAuth_settled`, `readBrowser_settled`,
  `readFeatures_settled`: what each section makes sure of.
* **`load_settled`**: every configuration that is read is settled.
-/

namespace SuiteEngine.Config

open Files (Path Tree)
open Yaml (Datum Tidy)

/-- What runners rely on. A share of pixels is exact, so it is compared as the number that it is. -/
structure Settled (c : Config) : Prop where
  name : c.environment.name ≠ ""
  address : c.environment.apiBaseUrl ≠ "" ∨ c.environment.uiBaseUrl ≠ ""
  timeout : 0 < c.execution.timeout
  retries : 0 ≤ c.execution.retries
  workers : 0 < c.execution.workers
  actionTimeout : 0 < c.execution.actionTimeout
  navigationTimeout : 0 < c.execution.navigationTimeout
  strategy : c.auth.strategy ∈ Strategy.all
  headerName : c.auth.headerName ≠ ""
  credentials : (c.auth.credentials.map Prod.fst).Nodup
  headers : (c.headers.map Prod.fst).Nodup
  browser : c.browser.name ∈ browsers
  ratio : ∃ share : Dyadic, floatExact c.features.maxDiffPixelRatio = .finite share ∧
    0 ≤ share.toRat ∧ share.toRat ≤ 1
  snapshotDir : c.features.snapshotDir.isAbsolute = true

/-- The integer is what the section says under the key, and an integer there; where the section says
nothing it is the default. -/
def Says (section_ : Datum) (key : String) (default n : Int) : Prop :=
  fieldOr section_ key (.int default) = .plain (.int n)

/-- The integer is the one that a variable states; where the variable is empty or not there, it is what
the section says. -/
def SaysFirst (vars : Environ) (var : String) (section_ : Datum) (key : String) (default n : Int) :
    Prop :=
  match vars.nonEmpty? var with
  | some raw => Text.parseInt? raw = some n
  | none => Says section_ key default n

/-- Where the limits of a run come from. -/
structure LimitsFrom (vars : Environ) (section_ : Datum) (e : Execution) : Prop where
  timeout : SaysFirst vars "TEST_TIMEOUT" section_ "timeout_ms" 30000 e.timeout
  retries : SaysFirst vars "TEST_RETRIES" section_ "retries" 0 e.retries
  workers : Says section_ "workers" 4 e.workers
  actionTimeout : Says section_ "action_timeout_ms" 15000 e.actionTimeout
  navigationTimeout : Says section_ "navigation_timeout_ms" 30000 e.navigationTimeout

/-- What a configuration is read from: the variables, its file and what the text of that denotes. -/
structure ReadFrom (files : Tree) (requested : Path) (environ : Environ) (path : Path)
    (vars : Environ) (document : Datum) : Prop where
  seen : visibleVariables files requested environ = .ok vars
  file : file files requested vars = .ok path
  text : ∃ text, files.readText path = .ok text ∧ parse text = .ok document

variable {files : Tree} {requested path : Path} {environ vars : Environ} {document d : Datum}
  {c : Config}

/-- **What a configuration is read from.** -/
theorem load_eq_ok_iff : load files requested environ = .ok c ↔
    ∃ path vars document, ReadFrom files requested environ path vars document ∧
      ofDatum files.cwd path vars document = .ok c := by
  unfold load
  simp only [bind_eq_ok]
  constructor
  · rintro ⟨vars, hv, path, hp, h⟩
    split at h
    · cases h
    · rename_i text ht
      obtain ⟨document, hd, h⟩ := bind_eq_ok.mp h
      exact ⟨path, vars, document, ⟨hv, hp, text, ht, hd⟩, h⟩
  · rintro ⟨path, vars, document, ⟨hv, hp, text, ht, hd⟩, h⟩
    refine ⟨vars, hv, path, hp, ?_⟩
    rw [ht]
    exact bind_eq_ok.mpr ⟨document, hd, h⟩

/-! ## Fields -/

/-- A text that is read is not empty. -/
theorem text?_ne {field : String} {o : Option Datum} {s : String} (h : text? field o = .ok (some s)) :
    s ≠ "" := by
  unfold text? at h
  split at h
  · cases h
  · cases h
  · have h := Except.ok.inj h
    have hs := (Option.filter_eq_some_iff.mp h).2
    simpa using hs
  · cases h

/-- A text that is read, or else another one, is not empty if the other one is not. -/
theorem text?_getD_ne {field : String} {o : Option Datum} {t : Option String} {default : String}
    (h : text? field o = .ok t) (hd : default ≠ "") : t.getD default ≠ "" := by
  cases t with
  | none => exact hd
  | some s => exact text?_ne h

theorem nonEmpty?_ne {var v : String} (h : vars.nonEmpty? var = some v) : v ≠ "" := by
  simpa using (Option.filter_eq_some_iff.mp h).2

theorem integer_eq_ok_iff {field : String} {n : Int} :
    integer field d = .ok n ↔ d = .plain (.int n) := by
  unfold integer
  split
  · rename_i m
    constructor
    · intro h
      rw [Except.ok.inj h]
    · intro h
      cases h
      rfl
  · rename_i hne
    constructor
    · intro h
      cases h
    · intro h
      exact absurd h (hne n)

theorem positive_eq_ok {field : String} {n : Int} (h : positive field d = .ok n) :
    d = .plain (.int n) ∧ 0 < n := by
  obtain ⟨m, hm, h⟩ := bind_eq_ok.mp h
  split at h
  · cases h
  · obtain rfl := Except.ok.inj h
    exact ⟨integer_eq_ok_iff.mp hm, by omega⟩

theorem nonNegative_eq_ok {field : String} {n : Int} (h : nonNegative field d = .ok n) :
    d = .plain (.int n) ∧ 0 ≤ n := by
  obtain ⟨m, hm, h⟩ := bind_eq_ok.mp h
  split at h
  · cases h
  · obtain rfl := Except.ok.inj h
    exact ⟨integer_eq_ok_iff.mp hm, by omega⟩

/-- An integer that a variable may state first. -/
theorem saysFirst_of_overridden {var key : String} {default n : Int}
    (h : overridden vars var (fieldOr d key (.int default)) = .ok (.plain (.int n))) :
    SaysFirst vars var d key default n := by
  unfold overridden at h
  unfold SaysFirst
  cases hv : vars.nonEmpty? var with
  | none =>
    rw [hv] at h
    exact Except.ok.inj h
  | some raw =>
    rw [hv] at h
    dsimp only at h
    cases hp : Text.parseInt? raw with
    | none => rw [hp] at h; cases h
    | some m =>
      rw [hp] at h
      cases h
      exact hp

/-! ## Mappings from names to texts -/

/-- What a tidy mapping has under a key is tidy. -/
theorem tidy_get? {key : String} {v : Datum} (ht : Tidy d) (h : d.get? key = some v) : Tidy v := by
  unfold Datum.get? at h
  obtain ⟨e, he, rfl⟩ := Option.map_eq_some_iff.mp h
  have hm := List.mem_of_find?_eq_some he
  cases ht with
  | map hk hv => exact hv e hm
  | other hne =>
    cases d with
    | map es => exact absurd rfl (hne es)
    | loop ofMap => cases ofMap <;> cases hm
    | _ => cases hm

theorem scalarEntry_key {field : String} {e : Datum × Datum} {p : String × String}
    (h : scalarEntry field e = .ok p) : e.1 = .str p.1 := by
  obtain ⟨k, v⟩ := e
  unfold scalarEntry at h
  split at h
  · rename_i hk
    split at h
    · cases h
    · split at h
      · obtain rfl := Except.ok.inj h
        exact hk
      · cases h
  · cases h

/-- **Names that are read are distinct.** -/
theorem texts_nodup {field : String} {o : Option Datum} {ps : List (String × String)}
    (ht : ∀ v, o = some v → Tidy v) (h : texts field o = .ok ps) : (ps.map Prod.fst).Nodup := by
  unfold texts at h
  split at h
  · obtain rfl := Except.ok.inj h
    exact List.nodup_nil
  · obtain rfl := Except.ok.inj h
    exact List.nodup_nil
  · rename_i v _
    split at h
    · rename_i es hes
      have hkeys : es.map Prod.fst = (ps.map Prod.fst).map Datum.str := by
        rw [List.map_map, ← List.forall₂_eq_eq_eq, List.forall₂_map_left_iff,
          List.forall₂_map_right_iff]
        exact (mapM_eq_ok.mp h).imp fun _ _ => scalarEntry_key
      have hd : (es.map Prod.fst).Pairwise fun a b => a.sameKey b = false := by
        cases ht v rfl with
        | map hk _ =>
          obtain rfl := Option.some.inj hes
          exact hk
        | other hne =>
          cases v with
          | map es => exact absurd rfl (hne es)
          | loop ofMap =>
            cases ofMap with
            | true =>
              obtain rfl := Option.some.inj hes
              exact List.Pairwise.nil
            | false => cases hes
          | _ => cases hes
      rw [hkeys, List.pairwise_map] at hd
      exact hd.imp fun hne he => by simp [Datum.sameKey, Datum.str, he] at hne
    · cases h

/-! ## Sections -/

theorem readEnvironment_settled {o : Option Datum} {defaultName : String} {e : Environment}
    (hn : defaultName ≠ "") (h : readEnvironment o defaultName vars = .ok e) :
    e.name ≠ "" ∧ (e.apiBaseUrl ≠ "" ∨ e.uiBaseUrl ≠ "") := by
  unfold readEnvironment at h
  simp only [bind_eq_ok] at h
  obtain ⟨s, -, name, hname, api, -, ui, -, h⟩ := h
  split at h
  · cases h
  · rename_i hurl
    obtain rfl := Except.ok.inj h
    refine ⟨text?_getD_ne hname hn, ?_⟩
    simpa [-not_and, not_and_or] using hurl

/-- **The limits of a run are integers within their bounds**, and come from where they should. -/
theorem readExecution_settled {o : Option Datum} {e : Execution}
    (h : readExecution o vars = .ok e) :
    (0 < e.timeout ∧ 0 ≤ e.retries ∧ 0 < e.workers ∧ 0 < e.actionTimeout ∧
      0 < e.navigationTimeout) ∧
    ∃ s, optionalSection "execution" o = .ok s ∧ LimitsFrom vars s e := by
  unfold readExecution at h
  simp only [bind_eq_ok] at h
  obtain ⟨s, hs, timeout, ht, retries, hr, _, hpt, _, hpr, _, hpw, _, hpa, _, hpn, h⟩ := h
  obtain rfl := Except.ok.inj h
  obtain ⟨rfl, htpos⟩ := positive_eq_ok hpt
  obtain ⟨rfl, hrpos⟩ := nonNegative_eq_ok hpr
  obtain ⟨hw, hwpos⟩ := positive_eq_ok hpw
  obtain ⟨ha, hapos⟩ := positive_eq_ok hpa
  obtain ⟨hn, hnpos⟩ := positive_eq_ok hpn
  exact ⟨⟨htpos, hrpos, hwpos, hapos, hnpos⟩, s, hs,
    ⟨saysFirst_of_overridden ht, saysFirst_of_overridden hr, hw, ha, hn⟩⟩

theorem Strategy.mem_all (s : Strategy) : s ∈ Strategy.all := by
  cases s <;> decide

/-- A section that is read is the one that is there, or an empty one. -/
theorem tidy_section {name : String} {o : Option Datum} {s : Datum} (ht : ∀ v, o = some v → Tidy v)
    (h : optionalSection name o = .ok s) : Tidy s := by
  have hs : (o.filter Datum.truthy).getD (.map []) = s := by
    unfold optionalSection requiredSection at h
    dsimp only at h
    split at h
    · exact Except.ok.inj h
    · cases h
  cases ho : o.filter Datum.truthy with
  | none =>
    rw [ho] at hs
    exact hs ▸ .map List.Pairwise.nil (List.forall_mem_nil _)
  | some v =>
    rw [ho] at hs
    exact hs ▸ ht v (Option.filter_eq_some_iff.mp ho).1

theorem readAuth_settled {o : Option Datum} {a : Auth} (ht : ∀ v, o = some v → Tidy v)
    (h : readAuth o = .ok a) :
    a.strategy ∈ Strategy.all ∧ a.headerName ≠ "" ∧ (a.credentials.map Prod.fst).Nodup := by
  unfold readAuth at h
  obtain ⟨s, hs, h⟩ := bind_eq_ok.mp h
  dsimp only at h
  split at h
  · cases h
  · simp only [bind_eq_ok] at h
    obtain ⟨_, -, credentials, hc, _, -, name, hname, h⟩ := h
    obtain rfl := Except.ok.inj h
    have hsec := tidy_section ht hs
    exact ⟨Strategy.mem_all _, text?_getD_ne hname (by decide),
      texts_nodup (fun v hv => tidy_get? hsec hv) hc⟩

theorem readBrowser_settled {o : Option Datum} {b : Browser} (h : readBrowser o = .ok b) :
    b.name ∈ browsers := by
  unfold readBrowser at h
  simp only [bind_eq_ok] at h
  obtain ⟨_, -, _, -, h⟩ := h
  split at h
  · cases h
  · rename_i hb
    obtain rfl := Except.ok.inj h
    simpa using hb

theorem Exact.finite_of_le {d e : Dyadic} {x : Exact} (hd : Exact.le (.finite d) x = true)
    (he : Exact.le x (.finite e) = true) :
    ∃ q, x = .finite q ∧ d.toRat ≤ q.toRat ∧ q.toRat ≤ e.toRat := by
  cases x with
  | finite q =>
    exact ⟨q, rfl, Dyadic.toRat_le_toRat_iff.mpr (of_decide_eq_true hd),
      Dyadic.toRat_le_toRat_iff.mpr (of_decide_eq_true he)⟩
  | nan => cases hd
  | negInf => cases hd
  | posInf => cases he

/-- **A share of pixels lies between zero and one**, so it is a number. -/
theorem ratio?_settled {x : Float} (h : ratio? d = some x) :
    ∃ share : Dyadic, floatExact x = .finite share ∧ 0 ≤ share.toRat ∧ share.toRat ≤ 1 := by
  have hbounds : ∀ {e : Exact}, (Exact.le (intExact 0) e && Exact.le e (intExact 1)) = true →
      ∃ q : Dyadic, e = .finite q ∧ 0 ≤ q.toRat ∧ q.toRat ≤ 1 := by
    intro e he
    obtain ⟨h0, h1⟩ := Bool.and_eq_true_iff.mp he
    exact Exact.finite_of_le h0 h1
  unfold ratio? at h
  dsimp only at h
  split at h
  · rename_i n
    split at h
    · rename_i hr
      obtain rfl := Option.some.inj h
      obtain ⟨q, hq, h0, h1⟩ := hbounds hr
      -- Of the integers only zero and one are shares.
      have hn : q.toRat = n := by
        rw [← Exact.finite.inj hq]
        exact Dyadic.toRat_intCast n
      rw [hn] at h0 h1
      have h0 : (0 : Int) ≤ n := by exact_mod_cast h0
      have h1 : n ≤ (1 : Int) := by exact_mod_cast h1
      obtain rfl | rfl : n = 0 ∨ n = 1 := by omega
      · exact ⟨0, by decide +kernel, by decide +kernel, by decide +kernel⟩
      · exact ⟨1, by decide +kernel, by decide +kernel, by decide +kernel⟩
    · cases h
  · split at h
    · rename_i hr
      obtain rfl := Option.some.inj h
      exact hbounds hr
    · cases h
  · cases h

theorem resolve_isAbsolute (cwd : Files.Place) (p : Path) : (p.resolve cwd).isAbsolute = true := by
  unfold Path.resolve
  cases hp : p.isAbsolute with
  | true => exact hp
  | false => rfl

theorem readFeatures_settled {cwd : Files.Place} {base : Path} {o : Option Datum} {f : Features}
    (h : readFeatures cwd base o = .ok f) :
    (∃ share : Dyadic, floatExact f.maxDiffPixelRatio = .finite share ∧
      0 ≤ share.toRat ∧ share.toRat ≤ 1) ∧ f.snapshotDir.isAbsolute = true := by
  unfold readFeatures at h
  obtain ⟨s, -, h⟩ := bind_eq_ok.mp h
  obtain ⟨raw, -, h⟩ := bind_eq_ok.mp h
  dsimp only at h
  split at h
  · cases h
  · rename_i x hx
    split at h
    · cases h
    · obtain rfl := Except.ok.inj h
      refine ⟨ratio?_settled hx, ?_⟩
      dsimp only
      split
      · rename_i ha
        exact ha
      · exact resolve_isAbsolute cwd _

/-! ## The name of the environment -/

theorem splitSuffix_ne {name : String} (h : name ≠ "") : (Path.splitSuffix name).1 ≠ "" := by
  unfold Path.splitSuffix
  dsimp only
  split
  · exact h
  · rename_i hs
    simp only [Bool.or_eq_true, List.isEmpty_iff, not_or] at hs
    intro he
    exact hs.2 (List.reverse_eq_nil_iff.mp (String.ofList_eq_empty_iff.mp he))

/-- A path with names has a stem, since none of its names is empty. -/
theorem stem_ne (hn : path.names ≠ []) (he : "" ∉ path.names) : path.stem ≠ "" := by
  refine splitSuffix_ne ?_
  unfold Path.name
  rw [List.getLast?_eq_some_getLast hn]
  exact fun h => he (h ▸ List.getLast_mem hn)

theorem not_mem_ofText (s : String) : "" ∉ (Path.ofText s).names := by
  intro h
  simpa using (List.mem_filter.mp h).2

theorem stem_child_ne {s : String} (hn : (Path.ofText s).names ≠ []) (he : "" ∉ path.names) :
    (path.child s).stem ≠ "" := by
  unfold Path.child Path.join
  split
  · exact stem_ne hn (not_mem_ofText s)
  · refine stem_ne (List.append_ne_nil_of_right_ne_nil _ hn) ?_
    rw [List.mem_append, not_or]
    exact ⟨he, not_mem_ofText s⟩

/-- The root and the current directory are directories, as they are wherever there are files. -/
structure Grounded (files : Tree) : Prop where
  root : files.at? [] = some .directory
  cwd : files.at? files.cwd = some .directory

/-- A path without names leads to a directory. -/
theorem isDirectory_of_nil (hg : Grounded files) (h : path.names = []) :
    files.isDirectory path = true := by
  have hat : files.at? (if path.isAbsolute then [] else files.cwd) = some .directory := by
    split
    · exact hg.root
    · exact hg.cwd
  unfold Tree.isDirectory Tree.find? Tree.place
  rw [h, Tree.walk]
  simp only [hat]

/-- The environment has a name, if it is that of no variable then that of its file. -/
theorem defaultName_ne (hg : Grounded files) {text : String}
    (h : file files (.ofText text) vars = .ok path) :
    (vars.nonEmpty? "TEST_ENV").getD path.stem ≠ "" := by
  cases hv : vars.nonEmpty? "TEST_ENV" with
  | some v => exact nonEmpty?_ne hv
  | none =>
    unfold file at h
    split at h
    · dsimp only at h
      rw [hv] at h
      split at h
      · rename_i hfound
        obtain rfl := Except.ok.inj h
        obtain ⟨s, hs, rfl⟩ := List.mem_map.mp (List.mem_of_find?_eq_some hfound)
        have hnames : ∀ s ∈ suffixes, (Path.ofText (defaultEnvironment ++ s)).names ≠ [] := by
          decide
        exact stem_child_ne (hnames s hs) (not_mem_ofText text)
      · cases h
    · rename_i hdir
      split at h
      · obtain rfl := Except.ok.inj h
        refine stem_ne (fun hn => hdir (isDirectory_of_nil hg hn)) (not_mem_ofText text)
      · cases h

/-! ## Configurations -/

theorem tidy_of_parse {text : String} (h : parse text = .ok d) : Tidy d := by
  unfold parse at h
  split at h
  · cases h
  · cases h
  · rename_i hr
    split at h
    · obtain rfl := Except.ok.inj h
      exact .map List.Pairwise.nil (List.forall_mem_nil _)
    · split at h
      · obtain rfl := Except.ok.inj h
        exact Yaml.tidy_of_read hr
      · cases h

/-- **Every configuration that is read is settled**, and its limits are the integers that stand where
they are looked for. -/
theorem load_settled (hg : Grounded files) {text : String}
    (h : load files (.ofText text) environ = .ok c) :
    Settled c ∧ ∃ vars document section_, ReadFrom files (.ofText text) environ c.path vars document ∧
      optionalSection "execution" (document.get? "execution") = .ok section_ ∧
      LimitsFrom vars section_ c.execution := by
  obtain ⟨path, vars, document, hread, h⟩ := load_eq_ok_iff.mp h
  obtain ⟨_, _, hparse⟩ := hread.text
  have ht := tidy_of_parse hparse
  unfold ofDatum at h
  simp only [bind_eq_ok] at h
  obtain ⟨environment, he, execution, hx, auth, ha, headers, hh, browser, hb, features, hf, h⟩ := h
  obtain rfl := Except.ok.inj h
  obtain ⟨hname, haddress⟩ := readEnvironment_settled (defaultName_ne hg hread.file) he
  obtain ⟨⟨h1, h2, h3, h4, h5⟩, section_, hs, hlimits⟩ := readExecution_settled hx
  obtain ⟨hstrategy, hheader, hcred⟩ := readAuth_settled (fun v hv => tidy_get? ht hv) ha
  obtain ⟨hratio, hdir⟩ := readFeatures_settled hf
  exact ⟨⟨hname, haddress, h1, h2, h3, h4, h5, hstrategy, hheader, hcred,
    texts_nodup (fun v hv => tidy_get? ht hv) hh, readBrowser_settled hb, hratio, hdir⟩,
    vars, document, section_, hread, hs, hlimits⟩

/-- A configuration with a file of variables beside it. The share is an integer, so that no float is
computed where it is read. -/
def layeredFiles : Tree :=
  let environment := "\"environment\": \x7b\"api_base_url\": \"http://api.test\"\x7d\n"
  let execution := "\"execution\": \x7b\"timeout_ms\": \"soon\", \"workers\": !!int \"2\"\x7d\n"
  let features := "\"features\": \x7b\"max_diff_pixel_ratio\": !!int \"1\"\x7d\n"
  { cwd := ["work"]
    entries := [(["work", "c.yaml"], .file (.ofText (environment ++ execution ++ features))),
      (["work", ".env"], .file (.ofText "TEST_TIMEOUT=500\n"))] }

/-- A variable stands before the configuration, here before a limit that is no integer. -/
theorem load_settled_layered : Grounded layeredFiles ∧
    ∃ c, load layeredFiles (.ofText "c.yaml") [("TEST_RETRIES", "2")] = .ok c ∧
      c.execution.timeout = 500 ∧ c.execution.retries = 2 ∧ Settled c := by
  have hg : Grounded layeredFiles := ⟨rfl, rfl⟩
  have hread : (load layeredFiles (.ofText "c.yaml") [("TEST_RETRIES", "2")]).toOption.map
      (fun c => (c.execution.timeout, c.execution.retries)) = some (500, 2) := by
    decide +kernel
  cases hc : load layeredFiles (.ofText "c.yaml") [("TEST_RETRIES", "2")] with
  | error e =>
    rw [hc] at hread
    cases hread
  | ok c =>
    rw [hc] at hread
    have hlimits := Prod.mk.inj (Option.some.inj hread)
    exact ⟨hg, c, rfl, hlimits.1, hlimits.2, (load_settled hg hc).1⟩

end SuiteEngine.Config
