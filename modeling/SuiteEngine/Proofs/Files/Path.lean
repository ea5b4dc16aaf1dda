import SuiteEngine.Proofs.Files.Tree

/-!
# Names below a path

A text without a slash is one name, or no name at all when it is empty or a single dot. Put at the end
of a path it leads one step further, or nowhere.

Headlines:
* **`Path.target_child`**: where a name below a path leads.
* `Tree.place_child`: a name below a directory leads to a place.
* `Tree.makeDirectories_below`: directories are made below a directory where no file is in the way.
* `Tree.mem_names_of_isFile`: a file below a directory is one of the names in it.
* **`Path.splitSuffix_eq_iff`**: which names have a stem and a suffix.
-/

namespace SuiteEngine.Files

variable {path : Path} {cwd : Place} {s : String}

/-- A text that a path holds as a single name, and that leads below a directory. -/
structure IsName (s : String) : Prop where
  slash : '/' ∉ s.toList
  empty : s ≠ ""
  dot : s ≠ "."
  up : s ≠ ".."

namespace Path

theorem rootOf_of_not_mem {l : List Char} (h : '/' ∉ l) : rootOf l = "" := by
  unfold rootOf
  split <;> simp_all

theorem ofText_of_not_mem (h : '/' ∉ s.toList) :
    ofText s = ⟨"", [s].filter fun n => n != "" && n != "."⟩ := by
  have hs : s.toList.splitOnP (· == '/') = [s.toList] :=
    List.splitOnP_eq_singleton fun c hc => by
      simpa using fun h' : c = '/' => h (h' ▸ hc)
  rw [ofText, rootOf_of_not_mem h, hs]
  simp

/-- A name below a path. -/
theorem child_of_not_mem (h : '/' ∉ s.toList) :
    path.child s = { path with names := path.names ++ [s].filter fun n => n != "" && n != "." } := by
  rw [child, ofText_of_not_mem h, join]
  rfl

theorem child_of_isName (h : IsName s) : path.child s = { path with names := path.names ++ [s] } := by
  rw [child_of_not_mem h.slash, List.filter_cons_of_pos (by simp [h.empty, h.dot]), List.filter_nil]

theorem start_child (h : '/' ∉ s.toList) : (path.child s).start cwd = path.start cwd := by
  rw [child_of_not_mem h]
  rfl

/-- **A name below a path leads one step below where the path leads.** -/
theorem target_child (h : IsName s) : (path.child s).target cwd = path.target cwd ++ [s] := by
  rw [child_of_isName h, target, List.foldl_append, List.foldl_cons, List.foldl_nil, enter_of_ne h.up]
  rfl

theorem length_enter_le (p : Place) (n : String) : (enter p n).length ≤ p.length + 1 := by
  unfold enter
  split
  · rw [List.length_dropLast]
    omega
  · exact Nat.le_of_eq List.length_append

/-- A name leads one step down at most. -/
theorem length_target_child_le (path : Path) (cwd : Place) (h : '/' ∉ s.toList) :
    ((path.child s).target cwd).length ≤ (path.target cwd).length + 1 := by
  rw [child_of_not_mem h, target, List.foldl_append, List.filter_cons]
  split
  · exact length_enter_le _ s
  · exact Nat.le_succ _

/-- A text that is no name leads no step down. -/
theorem length_target_child_le_of_not_isName (path : Path) (cwd : Place) (h : '/' ∉ s.toList)
    (hn : ¬ IsName s) :
    ((path.child s).target cwd).length ≤ (path.target cwd).length := by
  rw [child_of_not_mem h, target, List.foldl_append, List.filter_cons]
  split
  · rename_i hs
    simp only [Bool.and_eq_true, bne_iff_ne] at hs
    have hup : s = ".." := Decidable.byContradiction fun hup => hn ⟨h, hs.1, hs.2, hup⟩
    rw [List.filter_nil, List.foldl_cons, List.foldl_nil, enter, if_pos (by rw [hup]; rfl),
      List.length_dropLast]
    exact Nat.sub_le _ 1
  · exact Nat.le_refl _

end Path

theorem foldl_enter {p : Place} {ns : List String} (h : ∀ n ∈ ns, n ≠ "..") :
    ns.foldl enter p = p ++ ns := by
  induction ns generalizing p with
  | nil => exact (List.append_nil p).symm
  | cons n ns ih =>
    rw [List.foldl_cons, enter_of_ne (h n List.mem_cons_self),
      ih fun m hm => h m (List.mem_cons_of_mem n hm), List.append_assoc]
    rfl

namespace Tree

variable {t t' : Tree} {ns : List String}

/-- A name below a directory leads to a place in it. -/
theorem place_child (h : t.LeadsToDirectory path) (hs : IsName s) :
    t.place (path.child s) = .ok (path.target t.cwd ++ [s]) := by
  obtain ⟨hp, -⟩ := place_eq_ok_iff.mp h.reached
  rw [place_eq_ok_iff, Path.target_child hs, Path.start_child hs.slash, Path.child_of_isName hs]
  exact ⟨hp.append ⟨h.directory, trivial⟩, rfl⟩

/-- The path that some names lead along below another one. -/
theorem target_append (h : ∀ n ∈ ns, n ≠ "..") :
    Path.target t.cwd { path with names := path.names ++ ns } = path.target t.cwd ++ ns := by
  rw [Path.target, List.foldl_append, foldl_enter h]
  rfl

/-- **Directories are made below a directory** where no file is in the way. What is new is on the way. -/
theorem makeDirectories_below (h : t.LeadsToDirectory path) (hns : ∀ n ∈ ns, n ≠ "..")
    (hfree : ∀ ms, ms <+: ns → ms ≠ [] → ∀ c, t.at? (path.target t.cwd ++ ms) ≠ some (.file c)) :
    ∃ t', t.makeDirectories { path with names := path.names ++ ns } = .ok t' ∧ Grown t t' ∧
      t'.LeadsToDirectory { path with names := path.names ++ ns } ∧
      ∀ q, t'.at? q = some .directory → t.at? q = some .directory ∨
        q.length ≤ (path.target t.cwd).length + ns.length := by
  obtain ⟨hp, -⟩ := place_eq_ok_iff.mp h.reached
  have hstep : ∀ ms, ms <+: ns → ms.foldl enter (path.target t.cwd) = path.target t.cwd ++ ms :=
    fun ms hm => foldl_enter fun n hn => hns n (hm.subset hn)
  obtain ⟨t', ht⟩ : ∃ t', t.makeAlong { path with names := path.names ++ ns } (path.target t.cwd) ns =
      .ok t' := makeAlong_ok fun ms hm hne c => hstep ms hm ▸ hfree ms hm hne c
  obtain ⟨hg, hway⟩ := makeAlong_spec ht
  obtain ⟨hpass, hend⟩ := hway h.directory
  refine ⟨t', ?_, hg, ⟨?_, ?_⟩, fun q hq => (makeAlong_directories ht hq).imp_right ?_⟩
  · rw [makeDirectories]
    exact (makeAlong_append hp h.directory).trans ht
  · rw [place_eq_ok_iff, hg.cwd]
    exact ⟨(hp.mono fun q => hg.kept q .directory).append hpass, rfl⟩
  · rw [hg.cwd, target_append hns, ← hstep ns List.prefix_rfl]
    exact hend
  · rintro ⟨ms, hm, hq⟩
    rw [hstep ms hm] at hq
    have := hq.length_le
    have := hm.length_le
    rw [List.length_append] at *
    omega

theorem isFile_iff : t.isFile path = true ↔
    ∃ c, t.place path = .ok (path.target t.cwd) ∧ t.at? (path.target t.cwd) = some (.file c) := by
  constructor
  · intro h
    unfold isFile find? at h
    cases hp : t.place path with
    | error f => simp [hp] at h
    | ok p =>
      obtain ⟨-, rfl⟩ := place_eq_ok_iff.mp hp
      rw [hp] at h
      dsimp only at h
      split at h
      · rename_i c hc
        exact ⟨c, rfl, hc⟩
      · cases h
  · rintro ⟨c, hp, hc⟩
    simp [isFile, find?, hp, hc]

/-- **A file below a directory is one of the names in it.** -/
theorem mem_names_of_isFile (h : t.LeadsToDirectory path) (hs : s ≠ "..")
    (hf : t.isFile { path with names := path.names ++ [s] } = true) : s ∈ t.names path := by
  obtain ⟨c, -, hc⟩ := isFile_iff.mp hf
  rw [target_append (List.forall_mem_singleton.mpr hs), at?_eq_file_iff] at hc
  obtain ⟨e, he, hp⟩ := List.lookup_isSome_iff.mp (Option.isSome_of_eq_some hc)
  rw [names, h.reached]
  refine List.mem_eraseDups.mpr (List.mem_filterMap.mpr ⟨e, he, ?_⟩)
  rw [← eq_of_beq hp]
  simp [nameBelow?]

end Tree

/-! ## Stems and suffixes -/

/-- What ends with a dot and a text without dots, read backwards. -/
theorem span_dot {ext : List Char} (h : '.' ∉ ext) (stem : List Char) :
    (ext ++ '.' :: stem).takeWhile (· != '.') = ext ∧
      (ext ++ '.' :: stem).dropWhile (· != '.') = '.' :: stem := by
  have hall : ∀ c ∈ ext, (c != '.') = true := fun c hc => by
    simpa using fun h' : c = '.' => h (h' ▸ hc)
  rw [List.takeWhile_append_of_pos hall, List.dropWhile_append_of_pos hall]
  simp

/-- What is left where the last dot is looked for begins with it. -/
theorem dropWhile_dot {l : List Char} (h : l.dropWhile (· != '.') ≠ []) :
    l.dropWhile (· != '.') = '.' :: (l.dropWhile (· != '.')).drop 1 := by
  have hhead := List.head_dropWhile_not (· != '.') h
  obtain ⟨c, rest, hl⟩ := List.exists_cons_of_ne_nil h
  simp only [hl, List.head_cons, bne_eq_false_iff_eq] at hhead
  rw [hl, hhead]
  rfl

/-- **A name has a stem and a suffix** exactly where it is a text, a dot and a text without dots, and
neither text is empty. -/
theorem Path.splitSuffix_eq_iff {stem ext : String} (he : ext ≠ "") (hd : '.' ∉ ext.toList) :
    Path.splitSuffix s = (stem, "." ++ ext) ↔ stem ≠ "" ∧ s = stem ++ ("." ++ ext) := by
  unfold splitSuffix
  dsimp only
  constructor
  · intro h
    split at h
    · exact absurd (Prod.mk.inj h).2 (by simp)
    · rename_i hs
      obtain ⟨rfl, hsuffix⟩ := Prod.mk.inj h
      simp only [Bool.or_eq_true, List.isEmpty_iff, not_or] at hs
      refine ⟨by simpa using hs.2, ?_⟩
      have hne : s.toList.reverse.dropWhile (· != '.') ≠ [] := fun h => hs.2 (by rw [h]; rfl)
      have hback := (s.toList.reverse.takeWhile_append_dropWhile (p := (· != '.'))).symm
      rw [dropWhile_dot hne] at hback
      rw [← hsuffix, ← String.toList_inj, ← List.reverse_inj]
      exact hback.trans (by simp)
  · rintro ⟨hstem, rfl⟩
    have hback : (stem ++ ("." ++ ext)).toList.reverse =
        ext.toList.reverse ++ '.' :: stem.toList.reverse := by simp
    obtain ⟨htake, hdrop⟩ := span_dot (mt List.mem_reverse.mp hd) stem.toList.reverse
    rw [hback, htake, hdrop, if_neg (by simp [he, hstem])]
    simp

end SuiteEngine.Files
