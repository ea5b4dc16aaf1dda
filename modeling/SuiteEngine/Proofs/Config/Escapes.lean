import SuiteEngine.Proofs.Config.Settled
import SuiteEngine.Run.Execute

/-!
# What reading a configuration does not foresee

A configuration that cannot be read is blamed with an error of its own kind, which says what is wrong.
There are failures that reading it does not foresee; they pass through as they are. `Escapes` lists them:
text that is not UTF-8, in the configuration or in the file of variables beside it; a scalar that denotes
no value of its kind; an integer with too many digits where a text is wanted; and a zero character in the
directory of the baselines. They escape only where nothing that comes before is wrong.

Headlines:
* `texts_eq_failure`, `readAuth_eq_failure`, `readFeatures_eq_failure`: the sections that a failure can
  pass through; `readEnvironment_blames`, `readExecution_blames`, `readBrowser_blames`: the others.
* **`load_eq_failure_iff`**: the failures that pass through are those listed, and no others.
* `Escapes.unforeseen`: none of them is one that a run is prepared for.
-/

namespace SuiteEngine.Config

open Files (Path Tree)
open Yaml (Datum)

variable {α β : Type} {files : Tree} {requested path : Path} {environ vars : Environ}
  {document d : Datum} {f : Failure}

/-! ## Errors that blame the configuration -/

/-- Whatever goes wrong is of this sort. -/
def Only (p : Error → Prop) (x : Except Error α) : Prop := ∀ e, x = .error e → p e

theorem Only.ok {p : Error → Prop} (a : α) : Only p (.ok a : Except Error α) :=
  fun _ h => nomatch h

theorem Only.error {p : Error → Prop} {e : Error} (h : p e) : Only p (.error e : Except Error α) := by
  intro e' he
  cases he
  exact h

theorem Only.bind {p : Error → Prop} {x : Except Error α} {g : α → Except Error β} (hx : Only p x)
    (hg : ∀ a, Only p (g a)) : Only p (x >>= g) := by
  intro e h
  rcases bind_eq_error.mp h with h | ⟨a, -, h⟩
  · exact hx e h
  · exact hg a e h

theorem Only.mono {p q : Error → Prop} {x : Except Error α} (hx : Only p x) (h : ∀ e, p e → q e) :
    Only q x := fun e he => h e (hx e he)

/-- The error is about what the configuration states or leaves out. -/
def Error.IsStated : Error → Prop
  | .noFile _ => False
  | .noEnvironment _ _ _ => False
  | .failure _ => False
  | _ => True

/-- No failure of another kind passes through. -/
def Blames (x : Except Error α) : Prop := ∀ f, x ≠ .error (.failure f)

theorem Only.blames {x : Except Error α} (h : Only Error.IsStated x) : Blames x := fun f => h (.failure f)

theorem requiredSection_blames (name : String) (o : Option Datum) :
    Only Error.IsStated (requiredSection name o) := by
  unfold requiredSection
  split
  · split
    · exact .ok _
    · exact .error trivial
  · exact .error trivial

theorem optionalSection_blames (name : String) (o : Option Datum) :
    Only Error.IsStated (optionalSection name o) :=
  requiredSection_blames name _

theorem text?_blames (field : String) (o : Option Datum) : Only Error.IsStated (text? field o) := by
  unfold text?
  split
  · exact .ok _
  · exact .ok _
  · exact .ok _
  · exact .error trivial

theorem requiredText_blames (field : String) (d : Datum) :
    Only Error.IsStated (requiredText field d) := by
  unfold requiredText
  split
  · dsimp only
    split
    · exact .error trivial
    · exact .ok _
  · exact .error trivial

theorem integer_blames (field : String) (d : Datum) : Only Error.IsStated (integer field d) := by
  unfold integer
  split
  · exact .ok _
  · exact .error trivial

theorem positive_blames (field : String) (d : Datum) : Only Error.IsStated (positive field d) :=
  (integer_blames field d).bind fun n => by
    split
    · exact .error trivial
    · exact .ok n

theorem nonNegative_blames (field : String) (d : Datum) : Only Error.IsStated (nonNegative field d) :=
  (integer_blames field d).bind fun n => by
    split
    · exact .error trivial
    · exact .ok n

theorem overridden_blames (vars : Environ) (var : String) (d : Datum) :
    Only Error.IsStated (overridden vars var d) := by
  unfold overridden
  split
  · exact .ok _
  · split
    · exact .ok _
    · exact .error trivial

theorem readEnvironment_blames (o : Option Datum) (name : String) (vars : Environ) :
    Only Error.IsStated (readEnvironment o name vars) := by
  refine (requiredSection_blames _ _).bind fun s => (text?_blames _ _).bind fun _ => ?_
  refine Only.bind ?_ fun _ => Only.bind ?_ fun _ => ?_
  -- Both addresses are read in one way.
  iterate 2
    · dsimp only
      split
      · exact .ok _
      · exact (text?_blames _ _).bind fun _ => .ok _
  split
  · exact .error trivial
  · exact .ok _

theorem readExecution_blames (o : Option Datum) (vars : Environ) :
    Only Error.IsStated (readExecution o vars) := by
  refine (optionalSection_blames _ _).bind fun s => (overridden_blames _ _ _).bind fun _ => ?_
  refine (overridden_blames _ _ _).bind fun _ => (positive_blames _ _).bind fun _ => ?_
  refine (nonNegative_blames _ _).bind fun _ => (positive_blames _ _).bind fun _ => ?_
  exact (positive_blames _ _).bind fun _ => (positive_blames _ _).bind fun _ => .ok _

theorem readBrowser_blames (o : Option Datum) : Only Error.IsStated (readBrowser o) := by
  refine (optionalSection_blames _ _).bind fun s => (requiredText_blames _ _).bind fun name => ?_
  dsimp only
  split
  · exact .error trivial
  · exact .ok _

/-! ## Integers that are too long for a text -/

/-- The failure of an integer with too many digits. -/
def longInteger : Failure := ⟨.other "ValueError", Text.tooLongToWrite⟩

/-- An entry of the mapping needs an integer with too many digits as its text, and no entry before it is
wrong. -/
def HasLongEntry (field : String) (o : Option Datum) : Prop :=
  ∃ d es before k v after, o = some d ∧ d.entries? = some es ∧
    es = before ++ (Datum.str k, v) :: after ∧
    (∀ e ∈ before, ∃ p, scalarEntry field e = .ok p) ∧
    v.isNull = false ∧ isCollection v = false ∧ v.writable = false

theorem scalarEntry_eq_failure {field : String} {e : Datum × Datum} :
    scalarEntry field e = .error (.failure f) ↔ f = longInteger ∧ ∃ k v, e = (Datum.str k, v) ∧
      v.isNull = false ∧ isCollection v = false ∧ v.writable = false := by
  obtain ⟨key, v⟩ := e
  constructor
  · intro h
    unfold scalarEntry at h
    split at h
    · rename_i k hk
      split at h
      · cases h
      · rename_i hv
        split at h
        · cases h
        · rename_i hw
          obtain ⟨hnull, hcoll⟩ := Bool.or_eq_false_iff.mp (Bool.eq_false_iff.mpr hv)
          refine ⟨(Error.failure.inj (Except.error.inj h)).symm, k, v, ?_, hnull, hcoll,
            Bool.eq_false_iff.mpr hw⟩
          exact congrArg (·, v) hk
    · cases h
  · rintro ⟨rfl, k, v, he, hnull, hcoll, hw⟩
    cases he
    have hor : (v.isNull || isCollection v) = false := Bool.or_eq_false_iff.mpr ⟨hnull, hcoll⟩
    simp only [scalarEntry, Datum.str, hor, hw, Bool.false_eq_true, if_false]
    rfl

/-- **What passes through where texts are read.** -/
theorem texts_eq_failure {field : String} {o : Option Datum} :
    texts field o = .error (.failure f) ↔ f = longInteger ∧ HasLongEntry field o := by
  unfold texts HasLongEntry
  split
  · simp
  · refine ⟨fun h => (nomatch h), ?_⟩
    rintro ⟨-, d, es, _, _, _, _, ho, hes, -⟩
    obtain rfl := Option.some.inj ho
    cases hes
  · rename_i d _
    split
    · rename_i es hes
      rw [mapM_eq_error]
      constructor
      · rintro ⟨before, e, after, rfl, hb, he⟩
        obtain ⟨hf, k, v, rfl, hv⟩ := scalarEntry_eq_failure.mp he
        exact ⟨hf, d, _, before, k, v, after, rfl, hes, rfl, hb, hv⟩
      · rintro ⟨hf, d', es', before, k, v, after, ho, hes', rfl, hb, hv⟩
        obtain rfl := Option.some.inj ho
        obtain rfl := Option.some.inj (hes.symm.trans hes')
        exact ⟨before, _, after, rfl, hb, scalarEntry_eq_failure.mpr ⟨hf, k, v, rfl, hv⟩⟩
    · rename_i hes
      refine ⟨fun h => (nomatch h), ?_⟩
      rintro ⟨-, d', es', _, _, _, _, ho, hes', -⟩
      obtain rfl := Option.some.inj ho
      rw [hes] at hes'
      cases hes'

/-! ## Sections -/

/-- The word that the section on authentication gives, of whatever kind it is. -/
def strategyGiven (s : Datum) : Datum := fieldOr s "strategy" (.str Strategy.none.word)

/-- The strategy that the section on authentication names. -/
def strategyNamed? (s : Datum) : Option Strategy := (strategyGiven s).str?.bind Strategy.ofWord?

/-- What keeps the section on authentication from being read, and is not blamed on it. -/
inductive AuthEscapes (o : Option Datum) : Prop
  /-- What is given as the strategy is none, and is too long to be named. -/
  | strategy {s : Datum} (hs : optionalSection "auth" o = .ok s) (hn : strategyNamed? s = none)
      (hw : (strategyGiven s).writable = false)
  /-- A credential is too long to be written. -/
  | credentials {s : Datum} {strategy : Strategy} {endpoint : Option String}
      (hs : optionalSection "auth" o = .ok s) (hn : strategyNamed? s = some strategy)
      (he : text? "auth.token_endpoint" (s.get? "token_endpoint") = .ok endpoint)
      (hl : HasLongEntry "auth.credentials" (s.get? "credentials"))

theorem readAuth_eq_failure {o : Option Datum} :
    readAuth o = .error (.failure f) ↔ f = longInteger ∧ AuthEscapes o := by
  constructor
  · intro h
    rcases bind_eq_error.mp h with h | ⟨s, hs, h⟩
    · exact absurd h ((optionalSection_blames _ _).blames f)
    dsimp only at h
    split at h
    · rename_i hn
      cases hw : (strategyGiven s).writable with
      | true =>
        change Except.error (if (strategyGiven s).writable = true then _ else _) = _ at h
        rw [hw, if_pos rfl] at h
        cases h
      | false =>
        change Except.error (if (strategyGiven s).writable = true then _ else _) = _ at h
        rw [hw, if_neg Bool.false_ne_true] at h
        exact ⟨(Error.failure.inj (Except.error.inj h)).symm, .strategy hs hn hw⟩
    · rename_i strategy hn
      rcases bind_eq_error.mp h with h | ⟨endpoint, he, h⟩
      · exact absurd h ((text?_blames _ _).blames f)
      rcases bind_eq_error.mp h with h | ⟨_, -, h⟩
      · obtain ⟨hf, hl⟩ := texts_eq_failure.mp h
        exact ⟨hf, .credentials hs hn he hl⟩
      · exact absurd h (((text?_blames _ _).bind fun _ => (text?_blames _ _).bind fun _ =>
          .ok _).blames f)
  · rintro ⟨rfl, ⟨hs, hn, hw⟩ | ⟨hs, hn, he, hl⟩⟩
    · refine bind_eq_error.mpr (.inr ⟨_, hs, ?_⟩)
      dsimp only
      split
      · change Except.error (if (strategyGiven _).writable = true then _ else _) = _
        rw [hw, if_neg Bool.false_ne_true]
        rfl
      · rename_i hn'
        cases hn.symm.trans hn'
    · refine bind_eq_error.mpr (.inr ⟨_, hs, ?_⟩)
      dsimp only
      split
      · rename_i hn'
        cases hn.symm.trans hn'
      · exact bind_eq_error.mpr
          (.inr ⟨_, he, bind_eq_error.mpr (.inl (texts_eq_failure.mpr ⟨rfl, hl⟩))⟩)

/-- The failure of a directory with a zero character in its name. -/
def nullCharacter : Failure := ⟨.other "ValueError", "embedded null byte"⟩

/-- The directory of the baselines has a zero character in its name, and would be looked for. -/
def HasNullDirectory (o : Option Datum) : Prop :=
  ∃ s raw ratio, optionalSection "features" o = .ok s ∧
    requiredText "features.snapshot_dir" (fieldOr s "snapshot_dir" (.str "snapshots")) = .ok raw ∧
    ratio? (fieldOr s "max_diff_pixel_ratio" (.float 0.01)) = some ratio ∧
    (Path.ofText raw).isAbsolute = false ∧ '\x00' ∈ raw.toList

theorem readFeatures_eq_failure {cwd : Files.Place} {base : Path} {o : Option Datum} :
    readFeatures cwd base o = .error (.failure f) ↔ f = nullCharacter ∧ HasNullDirectory o := by
  unfold readFeatures HasNullDirectory
  constructor
  · intro h
    rcases bind_eq_error.mp h with h | ⟨s, hs, h⟩
    · exact absurd h ((optionalSection_blames _ _).blames f)
    rcases bind_eq_error.mp h with h | ⟨raw, hraw, h⟩
    · exact absurd h ((requiredText_blames _ _).blames f)
    dsimp only at h
    split at h
    · cases h
    · rename_i ratio hratio
      split at h
      · rename_i hn
        simp only [Bool.and_eq_true, Bool.not_eq_true', List.contains_iff_mem] at hn
        exact ⟨(Error.failure.inj (Except.error.inj h)).symm, s, raw, ratio, hs, hraw, hratio, hn⟩
      · cases h
  · rintro ⟨rfl, s, raw, ratio, hs, hraw, hratio, habs, hnull⟩
    refine bind_eq_error.mpr (.inr ⟨s, hs, bind_eq_error.mpr (.inr ⟨raw, hraw, ?_⟩)⟩)
    dsimp only
    rw [hratio]
    dsimp only
    rw [if_pos (by simp [habs, hnull])]
    rfl

/-! ## The whole configuration -/

/-- What keeps a document from being read as a configuration, and is not blamed on it. -/
inductive DocumentEscapes (path : Path) (vars : Environ) (document : Datum) : Failure → Prop
  | auth {environment : Environment} {execution : Execution}
      (he : readEnvironment (document.get? "environment")
        ((vars.nonEmpty? "TEST_ENV").getD path.stem) vars = .ok environment)
      (hx : readExecution (document.get? "execution") vars = .ok execution)
      (h : AuthEscapes (document.get? "auth")) : DocumentEscapes path vars document longInteger
  | headers {environment : Environment} {execution : Execution} {auth : Auth}
      (he : readEnvironment (document.get? "environment")
        ((vars.nonEmpty? "TEST_ENV").getD path.stem) vars = .ok environment)
      (hx : readExecution (document.get? "execution") vars = .ok execution)
      (ha : readAuth (document.get? "auth") = .ok auth)
      (h : HasLongEntry "headers" (document.get? "headers")) :
      DocumentEscapes path vars document longInteger
  | features {environment : Environment} {execution : Execution} {auth : Auth}
      {headers : List (String × String)} {browser : Browser}
      (he : readEnvironment (document.get? "environment")
        ((vars.nonEmpty? "TEST_ENV").getD path.stem) vars = .ok environment)
      (hx : readExecution (document.get? "execution") vars = .ok execution)
      (ha : readAuth (document.get? "auth") = .ok auth)
      (hh : texts "headers" (document.get? "headers") = .ok headers)
      (hb : readBrowser (document.get? "browser") = .ok browser)
      (h : HasNullDirectory (document.get? "features")) :
      DocumentEscapes path vars document nullCharacter

theorem ofDatum_eq_failure {cwd : Files.Place} :
    ofDatum cwd path vars document = .error (.failure f) ↔ DocumentEscapes path vars document f := by
  constructor
  · intro h
    unfold ofDatum at h
    dsimp only at h
    rcases bind_eq_error.mp h with h | ⟨environment, he, h⟩
    · exact absurd h ((readEnvironment_blames _ _ _).blames f)
    rcases bind_eq_error.mp h with h | ⟨execution, hx, h⟩
    · exact absurd h ((readExecution_blames _ _).blames f)
    rcases bind_eq_error.mp h with h | ⟨auth, ha, h⟩
    · obtain ⟨rfl, hs⟩ := readAuth_eq_failure.mp h
      exact .auth he hx hs
    rcases bind_eq_error.mp h with h | ⟨headers, hh, h⟩
    · obtain ⟨rfl, hl⟩ := texts_eq_failure.mp h
      exact .headers he hx ha hl
    rcases bind_eq_error.mp h with h | ⟨browser, hb, h⟩
    · exact absurd h ((readBrowser_blames _).blames f)
    rcases bind_eq_error.mp h with h | ⟨features, -, h⟩
    · obtain ⟨rfl, hn⟩ := readFeatures_eq_failure.mp h
      exact .features he hx ha hh hb hn
    · cases h
  · intro h
    unfold ofDatum
    dsimp only
    simp only [bind_eq_error]
    cases h with
    | auth he hx h =>
      exact .inr ⟨_, he, .inr ⟨_, hx, .inl (readAuth_eq_failure.mpr ⟨rfl, h⟩)⟩⟩
    | headers he hx ha h =>
      exact .inr ⟨_, he, .inr ⟨_, hx, .inr ⟨_, ha, .inl (texts_eq_failure.mpr ⟨rfl, h⟩)⟩⟩⟩
    | features he hx ha hh hb h =>
      exact .inr ⟨_, he, .inr ⟨_, hx, .inr ⟨_, ha, .inr ⟨_, hh, .inr ⟨_, hb,
        .inl (readFeatures_eq_failure.mpr ⟨rfl, h⟩)⟩⟩⟩⟩⟩

/-- The file of variables beside a configuration. -/
def variablesFile (files : Tree) (requested : Path) : Path :=
  (if files.isDirectory requested then requested else requested.parent).child ".env"

/-- The failures that reading a configuration does not foresee. -/
inductive Escapes (files : Tree) (requested : Path) (environ : Environ) : Failure → Prop
  /-- The file of variables is not UTF-8. -/
  | variableText {e : Files.Fault} (hf : files.isFile (variablesFile files requested) = true)
      (h : files.readText (variablesFile files requested) = .error e) :
      Escapes files requested environ e.failure
  /-- The configuration is not UTF-8. -/
  | text {vars : Environ} {path : Path} {e : Files.Fault}
      (hv : visibleVariables files requested environ = .ok vars)
      (hp : file files requested vars = .ok path) (h : files.readText path = .error e) :
      Escapes files requested environ e.failure
  /-- A scalar in the configuration denotes no value of its kind. -/
  | scalar {vars : Environ} {path : Path} {text : String} {fault : Yaml.ScalarFault}
      (hv : visibleVariables files requested environ = .ok vars)
      (hp : file files requested vars = .ok path) (ht : files.readText path = .ok text)
      (h : Yaml.read text = .error (.scalar fault)) : Escapes files requested environ fault.failure
  /-- What the configuration denotes cannot be taken for one. -/
  | document {vars : Environ} {path : Path} {document : Datum} {f : Failure}
      (hr : ReadFrom files requested environ path vars document)
      (h : DocumentEscapes path vars document f) : Escapes files requested environ f

theorem visibleVariables_eq_failure :
    visibleVariables files requested environ = .error (.failure f) ↔
      files.isFile (variablesFile files requested) = true ∧
        ∃ e, files.readText (variablesFile files requested) = .error e ∧ e.failure = f := by
  change (if files.isFile (variablesFile files requested) = true then _ else _) = _ ↔ _
  split
  · rename_i hf
    split
    · rename_i text ht
      have ht : files.readText (variablesFile files requested) = .ok text := ht
      simp [ht, pure, Except.pure]
    · rename_i e he
      have he : files.readText (variablesFile files requested) = .error e := he
      simp [hf, he, throw, throwThe, MonadExceptOf.throw]
  · rename_i hf
    simp [hf, pure, Except.pure]

theorem file_blames : Blames (file files requested vars) := by
  intro f h
  unfold file at h
  split at h
  · dsimp only at h
    split at h <;> cases h
  · split at h <;> cases h

theorem parse_eq_failure {text : String} : parse text = .error (.failure f) ↔
    ∃ fault, Yaml.read text = .error (.scalar fault) ∧ fault.failure = f := by
  unfold parse
  split
  · rename_i hr
    simp [hr]
  · rename_i fault hr
    simp [hr]
  · rename_i hr
    split
    · simp [hr]
    · split <;> simp [hr]

/-- **The failures that pass through are those listed, and no others.** -/
theorem load_eq_failure_iff :
    load files requested environ = .error (.failure f) ↔ Escapes files requested environ f := by
  constructor
  · intro h
    rcases bind_eq_error.mp h with h | ⟨vars, hv, h⟩
    · obtain ⟨hf, e, he, rfl⟩ := visibleVariables_eq_failure.mp h
      exact .variableText hf he
    rcases bind_eq_error.mp h with h | ⟨path, hp, h⟩
    · exact absurd h (file_blames f)
    split at h
    · rename_i e he
      rw [← Error.failure.inj (Except.error.inj h)]
      exact .text hv hp he
    · rename_i text ht
      rcases bind_eq_error.mp h with h | ⟨document, hd, h⟩
      · obtain ⟨fault, hr, rfl⟩ := parse_eq_failure.mp h
        exact .scalar hv hp ht hr
      · exact .document ⟨hv, hp, text, ht, hd⟩ (ofDatum_eq_failure.mp h)
  · rintro (⟨hf, he⟩ | ⟨hv, hp, he⟩ | ⟨hv, hp, ht, hr⟩ | ⟨⟨hv, hp, text, ht, hd⟩, hs⟩)
    · exact bind_eq_error.mpr (.inl (visibleVariables_eq_failure.mpr ⟨hf, _, he, rfl⟩))
    · refine bind_eq_error.mpr (.inr ⟨_, hv, bind_eq_error.mpr (.inr ⟨_, hp, ?_⟩)⟩)
      rw [he]
      rfl
    · refine bind_eq_error.mpr (.inr ⟨_, hv, bind_eq_error.mpr (.inr ⟨_, hp, ?_⟩)⟩)
      rw [ht]
      exact bind_eq_error.mpr (.inl (parse_eq_failure.mpr ⟨_, hr, rfl⟩))
    · refine bind_eq_error.mpr (.inr ⟨_, hv, bind_eq_error.mpr (.inr ⟨_, hp, ?_⟩)⟩)
      rw [ht]
      exact bind_eq_error.mpr (.inr ⟨_, hd, ofDatum_eq_failure.mpr hs⟩)

/-! ## None of them is foreseen -/

/-- Where there is a file, only its text can be at fault. -/
theorem readText_of_isFile {e : Files.Fault} (hf : files.isFile path = true)
    (h : files.readText path = .error e) : ∃ error, e = .notText error := by
  unfold Tree.isFile Tree.find? at hf
  unfold Tree.readText Tree.read at h
  cases hp : files.place path with
  | error _ => rw [hp] at hf; cases hf
  | ok p =>
    rw [hp] at hf h
    dsimp only at hf
    rcases bind_eq_error.mp h with h | ⟨content, -, h⟩
    · rcases bind_eq_error.mp h with h | ⟨p', hp', h⟩
      · cases h
      · obtain rfl := Except.ok.inj hp'
        cases ha : files.at? p with
        | none => rw [ha] at hf; cases hf
        | some entry =>
          rw [ha] at hf h
          cases entry with
          | file c => cases h
          | directory => cases hf
    · cases ht : content.text with
      | ok text => rw [ht] at h; cases h
      | error error =>
        rw [ht] at h
        exact ⟨error, (Except.error.inj h).symm⟩

/-- What is read as a configuration is a file. -/
theorem isFile_of_file (h : file files requested vars = .ok path) : files.isFile path = true := by
  unfold file at h
  split at h
  · dsimp only at h
    split at h
    · rename_i hfound
      obtain rfl := Except.ok.inj h
      exact List.find?_some hfound
    · cases h
  · rename_i hdir
    split at h
    · rename_i hholds
      obtain rfl := Except.ok.inj h
      unfold Tree.isDirectory at hdir
      unfold Tree.holds at hholds
      unfold Tree.isFile
      cases he : files.find? requested with
      | none => rw [he] at hholds; cases hholds
      | some entry =>
        cases entry with
        | file c => rfl
        | directory => rw [he] at hdir; exact absurd rfl hdir
    · cases h

/-- The names of the kinds of failure that pass through. -/
def escapingKinds : List String :=
  ["UnicodeDecodeError", "ValueError", "OverflowError", "KeyError", "IndexError", "AttributeError"]

theorem Escapes.kind (h : Escapes files requested environ f) :
    ∃ name ∈ escapingKinds, f.kind = .other name := by
  cases h with
  | variableText hf he =>
    obtain ⟨error, rfl⟩ := readText_of_isFile hf he
    exact ⟨"UnicodeDecodeError", by decide, rfl⟩
  | text hv hp he =>
    obtain ⟨error, rfl⟩ := readText_of_isFile (isFile_of_file hp) he
    exact ⟨"UnicodeDecodeError", by decide, rfl⟩
  | @scalar _ _ _ fault _ _ _ _ =>
    refine ⟨fault.kind.name, ?_, rfl⟩
    cases fault.kind <;> decide
  | document _ hd => cases hd <;> exact ⟨"ValueError", by decide, rfl⟩

/-- **No failure that passes through is one that a run is prepared for.** -/
theorem Escapes.unforeseen (h : Escapes files requested environ f) :
    Run.isGivenAtFault f = false ∧ f.kind ≠ Run.runKind := by
  obtain ⟨name, hn, hk⟩ := h.kind
  unfold Run.isGivenAtFault Run.isFileFailure
  rw [hk]
  clear hk
  revert name
  decide

end SuiteEngine.Config
