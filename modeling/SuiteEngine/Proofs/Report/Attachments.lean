import Mathlib.Data.Set.Card
import SuiteEngine.Proofs.Except
import SuiteEngine.Proofs.Report.Names

/-!
# Where attachments are written

Each attachment has a place below the directory of its case, which is named for the suite and the case.
Names are cleaned, and neither suites nor cases need to have different names, so two attachments may have
one place; then the later one is written over the earlier one, while both are counted.

Headlines:
* `writeAttachments_written`: what writing attachments leaves, and how many it says there are.
* `allKept_iff`: no attachment is lost if and only if no two of them have one place, and none is outside
  of the directory of attachments.
* `writeAttachments_plain`: for plain names and an empty directory, all attachments are written.
* **`writeAttachments_keeps`**: both together, with the condition in terms of the cleaned names.
-/

namespace SuiteEngine.Report

open Files (Content Entry IsName Path Place Tree enter)
open Files.Tree (Grown Overwritten Written)

variable {files t t' : Tree} {out dir : Path} {suites : List SuiteResult} {suite : String}
  {number n : Nat} {c : CaseResult} {as : List Attachment}

/-! ## Attachments and their places -/

/-- An attachment, the case that it belongs to, and its number among those of the case. -/
structure Located where
  suite : String
  case : String
  number : Nat
  attachment : Attachment

/-- The attachments of a case, numbered from `number` on. -/
def numbered (suite case : String) (number : Nat) : List Attachment → List Located
  | [] => []
  | a :: rest => ⟨suite, case, number, a⟩ :: numbered suite case (number + 1) rest

/-- The cases of some suites, each with the name of its suite. -/
def casesOf (suites : List SuiteResult) : List (String × CaseResult) :=
  suites.flatMap fun s => s.cases.map fun c => (s.suite, c)

/-- The attachments of some suites. -/
def located (suites : List SuiteResult) : List Located :=
  (casesOf suites).flatMap fun p => numbered p.1 p.2.name 1 p.2.attachments

/-- The names of the directory of an attachment below that of all attachments. -/
def caseNames (p : String × CaseResult) : List String := [safeName p.1, safeName p.2.name]

namespace Located

/-- The names of the file of an attachment below the directory of all attachments. -/
def names (l : Located) : List String :=
  [safeName l.suite, safeName l.case, l.attachment.fileName l.number]

/-- The path of the file of an attachment. -/
def path (out : Path) (l : Located) : Path :=
  (((out.child attachmentsName).child (safeName l.suite)).child (safeName l.case)).child
    (l.attachment.fileName l.number)

/-- The file of an attachment and what is written into it. -/
def content (out : Path) (l : Located) : Path × Content := (l.path out, l.attachment.payload)

/-- The place of the file of an attachment. -/
def place (cwd : Place) (out : Path) (l : Located) : Place := (l.path out).target cwd

end Located

theorem length_numbered {case : String} : (numbered suite case number as).length = as.length := by
  induction as generalizing number with
  | nil => rfl
  | cons a as ih => rw [numbered, List.length_cons, List.length_cons, ih]

/-! ## What is written -/

theorem writeAll_written {case : String}
    (hd : dir = ((out.child attachmentsName).child (safeName suite)).child (safeName case))
    (h : writeAll files dir number as = .ok t) :
    Written files ((numbered suite case number as).map (Located.content out)) t := by
  induction as generalizing files number with
  | nil =>
    obtain rfl := Except.ok.inj h
    exact (Grown.refl _).written
  | cons a as ih =>
    obtain ⟨made, hw, h⟩ := bind_eq_ok.mp h
    rw [hd] at hw
    exact (Written.of_write hw).trans (ih h)

theorem writeCase_written (h : writeCase out suite files c = .ok t) :
    Written files ((numbered suite c.name 1 c.attachments).map (Located.content out)) t := by
  unfold writeCase at h
  split at h
  · rename_i he
    obtain rfl := Except.ok.inj h
    rw [List.isEmpty_iff.mp he]
    exact (Grown.refl _).written
  · obtain ⟨made, hm, h⟩ := bind_eq_ok.mp h
    exact (Files.Tree.makeDirectories_grown hm).written.trans (writeAll_written rfl h)

theorem writeCases_written {cases : List (String × CaseResult)}
    (h : cases.foldlM (fun t p => writeCase out p.1 t p.2) files = .ok t) :
    Written files ((cases.flatMap fun p => numbered p.1 p.2.name 1 p.2.attachments).map
      (Located.content out)) t := by
  induction cases generalizing files with
  | nil =>
    obtain rfl := Except.ok.inj h
    exact (Grown.refl _).written
  | cons p cases ih =>
    rw [List.foldlM_cons] at h
    obtain ⟨between, hc, h⟩ := bind_eq_ok.mp h
    rw [List.flatMap_cons, List.map_append]
    exact (writeCase_written hc).trans (ih h)

theorem writeAttachments_eq : writeAttachments files out suites = do
    let written ← (casesOf suites).foldlM (fun t p => writeCase out p.1 t p.2) files
    return ((located suites).length, written) := by
  have hn : ((casesOf suites).map fun p => p.2.attachments.length).foldl (· + ·) 0 =
      (located suites).length := by
    rw [← List.sum_eq_foldl, located, List.length_flatMap]
    simp only [length_numbered]
  rw [← hn]
  rfl

/-- **What writing attachments leaves**, and how many files it says to have written. -/
theorem writeAttachments_written (h : writeAttachments files out suites = .ok (n, t)) :
    n = (located suites).length ∧ Written files ((located suites).map (Located.content out)) t := by
  rw [writeAttachments_eq] at h
  obtain ⟨written, hw, h⟩ := bind_eq_ok.mp h
  obtain ⟨rfl, rfl⟩ := Prod.mk.inj (Except.ok.inj h)
  exact ⟨rfl, writeCases_written hw⟩

/-! ## What is kept -/

/-- The place of the directory of all attachments. -/
def attachmentsPlace (cwd : Place) (out : Path) : Place := (out.child attachmentsName).target cwd

/-- The places of the files below the directory of all attachments. -/
def filesBelow (t : Tree) (out : Path) : Set Place :=
  {q | attachmentsPlace t.cwd out <+: q ∧ ∃ c, t.at? q = some (.file c)}

/-- A directory with nothing in it. -/
structure EmptyDirectory (files : Tree) (out : Path) : Prop where
  there : files.LeadsToDirectory out
  empty : ∀ q e, files.at? q = some e → out.target files.cwd <+: q → q = out.target files.cwd

/-- No attachment is lost: each has a file of its own with its content, and there are as many files as
are counted. -/
structure AllKept (out : Path) (suites : List SuiteResult) (n : Nat) (t : Tree) : Prop where
  apart : ((located suites).map (Located.place t.cwd out)).Nodup
  payload : ∀ l ∈ located suites, t.read (l.path out) = .ok l.attachment.payload
  counted : (filesBelow t out).ncard = n

theorem isName_attachmentsName : IsName attachmentsName := ⟨by decide, by decide, by decide, by decide⟩

theorem attachmentsPlace_eq {cwd : Place} :
    attachmentsPlace cwd out = out.target cwd ++ [attachmentsName] :=
  Path.target_child isName_attachmentsName

theorem EmptyDirectory.no_file (h : EmptyDirectory files out) {q : Place} {e : Entry}
    (hq : attachmentsPlace files.cwd out <+: q) : files.at? q ≠ some e := by
  intro he
  rw [attachmentsPlace_eq] at hq
  have hlen := hq.length_le
  rw [h.empty q e he ((List.prefix_append _ _).trans hq)] at hlen
  simp at hlen

theorem lookup_of_mem_nodup {fs : List (Place × Content)} {p : Place} {c : Content}
    (hd : (fs.map Prod.fst).Nodup) (h : (p, c) ∈ fs) : fs.lookup p = some c := by
  obtain ⟨l₁, l₂, rfl⟩ := List.append_of_mem h
  refine List.lookup_eq_some_iff.mpr ⟨l₁, l₂, rfl, fun x hx => bne_iff_ne.mpr ?_⟩
  rw [List.map_append, List.nodup_append] at hd
  exact (hd.2.2 x.1 (List.mem_map_of_mem hx) p (by simp)).symm

theorem card_filter_eq_length_iff {P : Place → Prop} [DecidablePred P] {l : List Place} :
    (l.filter (P ·)).toFinset.card = l.length ↔ l.Nodup ∧ ∀ x ∈ l, P x := by
  constructor
  · intro h
    have hall : ∀ x ∈ l, P x := by
      have hle := (l.filter (P ·)).toFinset_card_le
      have hlen := List.length_filter_eq_length_iff.mp
        (Nat.le_antisymm (List.length_filter_le (P ·) l) (h ▸ hle))
      simpa using hlen
    rw [List.filter_eq_self.mpr (by simpa using hall)] at h
    exact ⟨Multiset.toFinset_card_eq_card_iff_nodup.mp h, hall⟩
  · rintro ⟨hd, hall⟩
    rw [List.filter_eq_self.mpr (by simpa using hall), List.toFinset_card_of_nodup hd]

/-- The places that were written, and what was written there. -/
theorem written_file_iff (hw : Written files ((located suites).map (Located.content out)) t) {q : Place}
    {c : Content} :
    t.at? q = some (.file c) ↔
      let written := (located suites).map fun l => (l.place t.cwd out, l.attachment.payload)
      written.reverse.lookup q = some c ∨
        written.reverse.lookup q = none ∧ files.at? q = some (.file c) := by
  rw [hw.overwritten.file_iff, List.map_map, hw.overwritten.cwd]
  rfl

/-- Something was written at each of the places of attachments, and nowhere else. -/
theorem mem_places_iff {cwd q : Place} :
    q ∈ (located suites).map (Located.place cwd out) ↔
      (((located suites).map fun l => (l.place cwd out, l.attachment.payload)).reverse.lookup
        q).isSome = true := by
  rw [List.lookup_isSome_iff]
  simp only [List.mem_map, List.mem_reverse, beq_iff_eq]
  constructor
  · rintro ⟨l, hl, rfl⟩
    exact ⟨_, ⟨l, hl, rfl⟩, rfl⟩
  · rintro ⟨_, ⟨l, hl, rfl⟩, rfl⟩
    exact ⟨l, hl, rfl⟩

/-- The files below the directory of attachments are those that were written there. -/
theorem filesBelow_eq (h : EmptyDirectory files out)
    (hw : Written files ((located suites).map (Located.content out)) t) :
    filesBelow t out = ((((located suites).map (Located.place t.cwd out)).filter
      (attachmentsPlace t.cwd out <+: ·)).toFinset : Set Place) := by
  ext q
  rw [Finset.mem_coe, List.mem_toFinset, List.mem_filter, decide_eq_true_iff, and_comm]
  refine and_congr_right fun hq => ?_
  rw [hw.overwritten.cwd] at hq
  rw [mem_places_iff, Option.isSome_iff_exists]
  refine exists_congr fun c => ?_
  rw [written_file_iff hw]
  exact or_iff_left fun hf => h.no_file hq hf.2

/-- **No attachment is lost if and only if no two of them have one place**, and none is outside of the
directory of attachments. -/
theorem allKept_iff (h : EmptyDirectory files out)
    (hw : Written files ((located suites).map (Located.content out)) t) :
    AllKept out suites (located suites).length t ↔
      ((located suites).map (Located.place t.cwd out)).Nodup ∧
        ∀ l ∈ located suites, attachmentsPlace t.cwd out <+: l.place t.cwd out := by
  have hcount : (filesBelow t out).ncard = (located suites).length ↔
      ((located suites).map (Located.place t.cwd out)).Nodup ∧
        ∀ l ∈ located suites, attachmentsPlace t.cwd out <+: l.place t.cwd out := by
    rw [filesBelow_eq h hw, Set.ncard_coe_finset, ← List.length_map (Located.place t.cwd out),
      card_filter_eq_length_iff]
    simp
  refine ⟨fun hk => hcount.mp hk.counted, fun hp => ⟨hp.1, fun l hl => ?_, hcount.mpr hp⟩⟩
  have hplace := hw.reached (l.content out) (List.mem_map_of_mem hl)
  refine Tree.read_eq_ok_iff.mpr ⟨_, hplace, (written_file_iff hw).mpr (.inl ?_)⟩
  rw [← hw.overwritten.cwd]
  refine lookup_of_mem_nodup ?_ (List.mem_reverse.mpr (List.mem_map_of_mem hl))
  rw [List.map_reverse, List.nodup_reverse, List.map_map]
  exact hp.1

/-! ## Plain names -/

/-- The names of all suites and cases that have attachments are plain. -/
def PlainNames (suites : List SuiteResult) : Prop :=
  ∀ p ∈ casesOf suites, p.2.attachments ≠ [] → PlainName p.1 ∧ PlainName p.2.name

/-- The directory of a case with plain names. -/
theorem caseDirectory_eq {case : String} (hs : PlainName suite) (hc : PlainName case) :
    ((out.child attachmentsName).child (safeName suite)).child (safeName case) =
      { out with names := out.names ++ [attachmentsName, safeName suite, safeName case] } := by
  rw [Path.child_of_isName isName_attachmentsName, Path.child_of_isName (isName_safeName hs),
    Path.child_of_isName (isName_safeName hc)]
  simp only [List.append_assoc, List.cons_append, List.nil_append]

theorem caseDirectory_up {case : String} (hs : PlainName suite) (hc : PlainName case) :
    ∀ n ∈ [attachmentsName, safeName suite, safeName case], n ≠ ".." := by
  simp only [List.mem_cons, List.not_mem_nil, or_false, forall_eq_or_imp, forall_eq]
  exact ⟨isName_attachmentsName.up, hs.2, hc.2⟩

theorem place_plain {cwd : Place} {l : Located} (hs : PlainName l.suite) (hc : PlainName l.case) :
    l.place cwd out = attachmentsPlace cwd out ++ l.names := by
  rw [Located.place, Located.path, Path.target_child isName_fileName,
    Path.target_child (isName_safeName hc), Path.target_child (isName_safeName hs)]
  simp only [attachmentsPlace, Located.names, List.append_assoc, List.cons_append, List.nil_append]

/-- Below a directory there are files at the level of attachments only, and directories above it. -/
structure Tidy (out : Path) (t : Tree) : Prop where
  there : t.LeadsToDirectory out
  files : ∀ q c, t.at? q = some (.file c) → out.target t.cwd <+: q →
    q.length = (out.target t.cwd).length + 4
  directories : ∀ q, t.at? q = some .directory → out.target t.cwd <+: q →
    q.length ≤ (out.target t.cwd).length + 3

theorem EmptyDirectory.tidy (h : EmptyDirectory files out) : Tidy out files where
  there := h.there
  files q c hc hq := by
    rw [h.empty q _ hc hq, h.there.directory] at hc
    cases hc
  directories q hd hq := by
    rw [h.empty q _ hd hq]
    exact Nat.le_add_right _ 3

/-- The directory of a case can be made. -/
theorem Tidy.makeDirectories {case : String} (h : Tidy out t) (hs : PlainName suite)
    (hc : PlainName case)
    (hdir : dir = ((out.child attachmentsName).child (safeName suite)).child (safeName case)) :
    ∃ t', t.makeDirectories dir = .ok t' ∧ Tidy out t' ∧ t'.LeadsToDirectory dir := by
  rw [hdir, caseDirectory_eq hs hc]
  obtain ⟨t', ht, hg, hd, hnew⟩ := Tree.makeDirectories_below h.there (caseDirectory_up hs hc)
    fun ms hm _ c hf => by
      have hlen := h.files _ c hf (List.prefix_append _ _)
      have := hm.length_le
      simp only [List.length_append, List.length_cons, List.length_nil] at hlen this
      omega
  refine ⟨t', ht, ⟨h.there.mono hg.cwd fun q => hg.kept q .directory, ?_, ?_⟩, hd⟩
  · rw [hg.cwd]
    exact fun q c hf => h.files q c (hg.files q c hf)
  · rw [hg.cwd]
    exact fun q hd hq => (hnew q hd).elim (h.directories q · hq) id

/-- A file can be written into the directory of a case. -/
theorem Tidy.write {case s : String} (content : Content) (h : Tidy out t) (hs : PlainName suite)
    (hc : PlainName case) (hn : IsName s)
    (hdir : dir = ((out.child attachmentsName).child (safeName suite)).child (safeName case))
    (hd : t.LeadsToDirectory dir) :
    ∃ t', t.write (dir.child s) content = .ok t' ∧ Tidy out t' ∧ t'.LeadsToDirectory dir := by
  have htarget : dir.target t.cwd =
      out.target t.cwd ++ [attachmentsName, safeName suite, safeName case] := by
    rw [hdir, caseDirectory_eq hs hc, Tree.target_append (caseDirectory_up hs hc)]
  have hlen : (dir.target t.cwd ++ [s]).length = (out.target t.cwd).length + 4 := by
    rw [htarget]
    simp
  have hfree : t.at? (dir.target t.cwd ++ [s]) ≠ some .directory := by
    intro hd'
    have := h.directories _ hd' (by rw [htarget, List.append_assoc]; exact List.prefix_append _ _)
    omega
  have hkept : ∀ q, t.at? q = some .directory →
      (t.put (dir.target t.cwd ++ [s]) (.file content)).at? q = some .directory :=
    fun q => Tree.put_keeps_directories hfree
  refine ⟨_, Tree.write_eq_ok_iff.mpr ⟨_, Tree.place_child hd hn, hfree, ?_, rfl⟩, ⟨?_, ?_, ?_⟩, ?_⟩
  · rw [List.dropLast_concat]
    exact hd.directory
  · exact h.there.mono Tree.cwd_put hkept
  · rw [Tree.cwd_put]
    intro q c hf hq
    by_cases hp : q = dir.target t.cwd ++ [s]
    · rw [hp, hlen]
    · rcases Tree.at?_of_put hp hf with hf | ⟨hf, -⟩
      · exact h.files q c hf hq
      · cases hf
  · rw [Tree.cwd_put]
    intro q hd' hq
    by_cases hp : q = dir.target t.cwd ++ [s]
    · rw [hp, Tree.at?_put_self] at hd'
      cases hd'
    · rcases Tree.at?_of_put hp hd' with hd' | ⟨-, -, hlt⟩
      · exact h.directories q hd' hq
      · omega
  · exact hd.mono Tree.cwd_put hkept

theorem Tidy.writeAll {case : String} (as : List Attachment) (number : Nat) (h : Tidy out t)
    (hs : PlainName suite) (hc : PlainName case)
    (hdir : dir = ((out.child attachmentsName).child (safeName suite)).child (safeName case))
    (hd : t.LeadsToDirectory dir) :
    ∃ t', Report.writeAll t dir number as = .ok t' ∧ Tidy out t' := by
  induction as generalizing t number with
  | nil => exact ⟨t, rfl, h⟩
  | cons a as ih =>
    have hn : IsName (a.fileName number) := isName_fileName
    obtain ⟨t₁, hw, h₁, hd₁⟩ := h.write a.payload hs hc hn hdir hd
    obtain ⟨t', ht, h'⟩ := ih (number + 1) h₁ hd₁
    exact ⟨t', bind_eq_ok.mpr ⟨t₁, hw, ht⟩, h'⟩

theorem Tidy.writeCase (h : Tidy out t) (hp : c.attachments ≠ [] → PlainName suite ∧ PlainName c.name) :
    ∃ t', Report.writeCase out suite t c = .ok t' ∧ Tidy out t' := by
  unfold Report.writeCase
  split
  · exact ⟨t, rfl, h⟩
  · rename_i he
    obtain ⟨hs, hc⟩ := hp (by simpa using he)
    obtain ⟨t₁, hm, h₁, hd⟩ := h.makeDirectories hs hc rfl
    obtain ⟨t', ht, h'⟩ := h₁.writeAll c.attachments 1 hs hc rfl hd
    exact ⟨t', bind_eq_ok.mpr ⟨t₁, hm, ht⟩, h'⟩

theorem Tidy.writeCases {cases : List (String × CaseResult)} (h : Tidy out t)
    (hp : ∀ p ∈ cases, p.2.attachments ≠ [] → PlainName p.1 ∧ PlainName p.2.name) :
    ∃ t', cases.foldlM (fun t p => Report.writeCase out p.1 t p.2) t = .ok t' ∧ Tidy out t' := by
  induction cases generalizing t with
  | nil => exact ⟨t, rfl, h⟩
  | cons p cases ih =>
    obtain ⟨t₁, hc, h₁⟩ := h.writeCase (hp p List.mem_cons_self)
    obtain ⟨t', ht, h'⟩ := ih h₁ fun q hq => hp q (List.mem_cons_of_mem p hq)
    rw [List.foldlM_cons]
    exact ⟨t', bind_eq_ok.mpr ⟨t₁, hc, ht⟩, h'⟩

/-- **Attachments with plain names are all written into an empty directory.** -/
theorem writeAttachments_plain (h : EmptyDirectory files out) (hp : PlainNames suites) :
    ∃ t, writeAttachments files out suites = .ok ((located suites).length, t) := by
  obtain ⟨t, ht, -⟩ := h.tidy.writeCases hp
  rw [writeAttachments_eq]
  exact ⟨t, bind_eq_ok.mpr ⟨t, ht, rfl⟩⟩

/-! ## Names that keep files apart -/

theorem mem_numbered {case : String} {l : Located} (h : l ∈ numbered suite case number as) :
    l.suite = suite ∧ l.case = case ∧ number ≤ l.number ∧ as ≠ [] := by
  induction as generalizing number with
  | nil => cases h
  | cons a as ih =>
    rcases List.mem_cons.mp h with rfl | h
    · exact ⟨rfl, rfl, le_rfl, List.cons_ne_nil a as⟩
    · obtain ⟨hs, hc, hn, -⟩ := ih h
      exact ⟨hs, hc, Nat.le_of_succ_le hn, List.cons_ne_nil a as⟩

theorem mem_located {l : Located} (h : l ∈ located suites) :
    ∃ p ∈ casesOf suites, p.2.attachments ≠ [] ∧ l.suite = p.1 ∧ l.case = p.2.name := by
  obtain ⟨p, hp, hl⟩ := List.mem_flatMap.mp h
  obtain ⟨hs, hc, -, hne⟩ := mem_numbered hl
  exact ⟨p, hp, hne, hs, hc⟩

/-- The attachments of one case have files of their own. -/
theorem nodup_numbered {case : String} :
    ((numbered suite case number as).map Located.names).Nodup := by
  induction as generalizing number with
  | nil => exact List.nodup_nil
  | cons a as ih =>
    rw [numbered, List.map_cons, List.nodup_cons]
    refine ⟨fun h => ?_, ih⟩
    obtain ⟨l, hl, hnames⟩ := List.mem_map.mp h
    obtain ⟨-, -, hn, -⟩ := mem_numbered hl
    have hfile : l.attachment.fileName l.number = a.fileName number :=
      (List.cons.inj (List.cons.inj (List.cons.inj hnames).2).2).1
    have := number_of_fileName hfile
    omega

/-- Files are apart when the directories of the cases are. -/
theorem nodup_of_caseNames
    (h : (((casesOf suites).filter fun p => !p.2.attachments.isEmpty).map caseNames).Nodup) :
    ((located suites).map Located.names).Nodup := by
  rw [located, List.map_flatMap, List.nodup_flatMap]
  refine ⟨fun p _ => nodup_numbered, ?_⟩
  rw [List.Nodup, List.pairwise_map, List.pairwise_filter] at h
  refine h.imp fun {p q} hpq x hp hq => ?_
  obtain ⟨l, hl, rfl⟩ := List.mem_map.mp hp
  obtain ⟨m, hm, hnames⟩ := List.mem_map.mp hq
  obtain ⟨hls, hlc, -, hlne⟩ := mem_numbered hl
  obtain ⟨hms, hmc, -, hmne⟩ := mem_numbered hm
  refine hpq (by simpa using hlne) (by simpa using hmne) ?_
  have hnames := congrArg (List.take 2) hnames
  simpa [Located.names, caseNames, hls, hlc, hms, hmc, eq_comm] using hnames

/-- With plain names, the places are apart and inside when the cleaned names differ. -/
theorem places_plain {cwd : Place} (hp : PlainNames suites) :
    (((located suites).map (Located.place cwd out)).Nodup ∧
        ∀ l ∈ located suites, attachmentsPlace cwd out <+: l.place cwd out) ↔
      ((located suites).map Located.names).Nodup := by
  have hplain : ∀ l ∈ located suites,
      l.place cwd out = attachmentsPlace cwd out ++ l.names := by
    intro l hl
    obtain ⟨p, hmem, hne, hs, hc⟩ := mem_located hl
    obtain ⟨hs', hc'⟩ := hp p hmem hne
    exact place_plain (hs ▸ hs') (hc ▸ hc')
  have hmap : (located suites).map (Located.place cwd out) =
      ((located suites).map Located.names).map (attachmentsPlace cwd out ++ ·) := by
    rw [List.map_map]
    exact List.map_congr_left hplain
  rw [hmap, List.nodup_map_iff (List.append_right_injective _)]
  refine and_iff_left fun l hl => ?_
  rw [hplain l hl]
  exact List.prefix_append _ _

/-- **What becomes of attachments that are written into an empty directory.** Whatever the names, the
number that is given is that of the attachments, and none is lost if and only if no two have one place
and none leads out of the directory of attachments. With plain names all are written, and none is lost if
and only if no two of them have the same cleaned suite, case and file name; so it is enough that the
cases with attachments differ in their cleaned names. -/
theorem writeAttachments_keeps (h : EmptyDirectory files out) :
    (∀ n t, writeAttachments files out suites = .ok (n, t) → n = (located suites).length ∧
      (AllKept out suites n t ↔
        ((located suites).map (Located.place t.cwd out)).Nodup ∧
          ∀ l ∈ located suites, attachmentsPlace t.cwd out <+: l.place t.cwd out)) ∧
    (PlainNames suites →
      ∃ t, writeAttachments files out suites = .ok ((located suites).length, t) ∧
        (AllKept out suites (located suites).length t ↔
          ((located suites).map Located.names).Nodup) ∧
        ((((casesOf suites).filter fun p => !p.2.attachments.isEmpty).map caseNames).Nodup →
          AllKept out suites (located suites).length t)) := by
  constructor
  · intro n t ht
    obtain ⟨rfl, hw⟩ := writeAttachments_written ht
    exact ⟨rfl, allKept_iff h hw⟩
  · intro hp
    obtain ⟨t, ht⟩ := writeAttachments_plain h hp
    obtain ⟨-, hw⟩ := writeAttachments_written ht
    have hiff := (allKept_iff h hw).trans (places_plain hp)
    exact ⟨t, ht, hiff, fun hd => hiff.mpr (nodup_of_caseNames hd)⟩

/-- A case with one attachment. -/
def caseWith (name payload : String) : CaseResult :=
  { CaseResult.untried "S" name [] .passed with attachments := [.text "x" payload] }

/-- A suite with two cases of one name. -/
def namesakes : SuiteResult :=
  { suite := "S", kind := .api, cases := [caseWith "a" "one", caseWith "a" "two"], source := none
    duration := 0.0, setupError := none }

/-- Of two attachments that are counted, one is lost. -/
theorem writeAttachments_keeps_namesakes :
    EmptyDirectory ⟨[], [(["out"], .directory)]⟩ ⟨"", ["out"]⟩ ∧ PlainNames [namesakes] ∧
    ∃ t, writeAttachments ⟨[], [(["out"], .directory)]⟩ ⟨"", ["out"]⟩ [namesakes] = .ok (2, t) ∧
      ¬AllKept ⟨"", ["out"]⟩ [namesakes] 2 t := by
  have empty : EmptyDirectory ⟨[], [(["out"], .directory)]⟩ ⟨"", ["out"]⟩ := by
    refine ⟨Tree.isDirectory_iff.mp (by decide), fun q e hq hp => ?_⟩
    obtain ⟨r, rfl⟩ := hp
    cases r with
    | nil => rfl
    | cons s r =>
      change Tree.at? _ ("out" :: s :: r) = _ at hq
      simp [Tree.at?, Tree.entry?, Tree.hasBelow, List.lookup_cons] at hq
  have plain : PlainNames [namesakes] := by
    intro p hp _
    have hs : PlainName "S" := by decide
    have ha : PlainName "a" := by decide
    rcases List.mem_cons.mp hp with rfl | hp
    · exact ⟨hs, ha⟩
    · obtain rfl := List.mem_singleton.mp hp
      exact ⟨hs, ha⟩
  obtain ⟨t, ht, hiff, -⟩ := (writeAttachments_keeps empty).2 plain
  exact ⟨empty, plain, t, ht, fun hk => absurd (hiff.mp hk) (by decide)⟩

end SuiteEngine.Report
