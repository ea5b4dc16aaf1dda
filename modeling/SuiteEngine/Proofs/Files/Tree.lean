import SuiteEngine.Files.Tree

/-!
# What operations leave of a tree

A path is walked name by name: `enter` is one step, and a walk succeeds exactly where all that it comes
through are directories. Putting something at a place changes nothing at any other place, except that
places above it become directories where there was nothing.

Headlines:
* `walk_eq_ok_iff`: where a walk leads, and what it needs.
* `write_eq_ok_iff`: when a file is written, and what the tree is then.
* **`read_write`**: a file that was written is read back.
* `makeAlong_spec`, `makeAlong_ok`: what making directories leaves, and when they can be made.
* **`Overwritten`**: what a tree is after several files were written, one after the other.
-/

namespace SuiteEngine.Files

variable {t t' t'' : Tree} {p q from_ : Place} {e : Entry} {c : Content} {path path' : Path}

/-! ## Walking -/

/-- The place that a name leads to from a place. -/
def enter (p : Place) (n : String) : Place := if n == ".." then p.dropLast else p ++ [n]

theorem enter_of_ne {n : String} (h : n ≠ "..") : enter p n = p ++ [n] := if_neg (by simpa using h)

/-- The place where a path starts from. -/
def Path.start (cwd : Place) (path : Path) : Place := if path.isAbsolute then [] else cwd

/-- The place that a path leads to. -/
def Path.target (cwd : Place) (path : Path) : Place := path.names.foldl enter (path.start cwd)

namespace Tree

/-- All that some names lead through from a place are directories. -/
def Passable (t : Tree) : Place → List String → Prop
  | _, [] => True
  | p, n :: ns => t.at? p = some .directory ∧ t.Passable (enter p n) ns

theorem Passable.append {ns ms : List String} (h : t.Passable p ns)
    (h' : t.Passable (ns.foldl enter p) ms) : t.Passable p (ns ++ ms) := by
  induction ns generalizing p with
  | nil => exact h'
  | cons n ns ih => exact ⟨h.1, ih h.2 h'⟩

theorem Passable.mono {ns : List String} (h : t.Passable p ns)
    (hd : ∀ q, t.at? q = some .directory → t'.at? q = some .directory) : t'.Passable p ns := by
  induction ns generalizing p with
  | nil => trivial
  | cons n ns ih => exact ⟨hd p h.1, ih h.2⟩

/-- **A walk succeeds exactly where it comes through directories only.** -/
theorem walk_eq_ok_iff {ns : List String} :
    t.walk path from_ ns = .ok p ↔ t.Passable from_ ns ∧ p = ns.foldl enter from_ := by
  induction ns generalizing from_ with
  | nil =>
    rw [walk, Passable, true_and, List.foldl_nil]
    exact ⟨fun h => (Except.ok.inj h).symm, fun h => h ▸ rfl⟩
  | cons n ns ih =>
    rw [walk, Passable, List.foldl_cons]
    split
    · rename_i hd
      rw [hd]
      exact ih.trans (by simp [enter])
    · rename_i hd
      rw [hd]
      simp
    · rename_i hd
      rw [hd]
      simp

theorem place_eq_ok_iff :
    t.place path = .ok p ↔
      t.Passable (path.start t.cwd) path.names ∧ p = path.target t.cwd := walk_eq_ok_iff

/-! ## Putting something at a place -/

/-- A place is above another one. -/
def Above (q p : Place) : Prop := q <+: p ∧ q.length < p.length

theorem hasBelow_eq_true_iff : t.hasBelow q = true ↔ ∃ x ∈ t.entries, Above q x.1 := by
  simp [hasBelow, Above]

@[simp] theorem cwd_put : (t.put p e).cwd = t.cwd := by
  unfold put
  split <;> rfl

theorem lookup_replace {l : List (Place × Entry)} (h : (l.lookup p).isSome = true) :
    (l.map fun x => if x.1 == p then (p, e) else x).lookup p = some e := by
  induction l with
  | nil => simp at h
  | cons x l ih =>
    obtain ⟨r, e'⟩ := x
    rw [List.map_cons]
    by_cases hr : r = p
    · rw [if_pos (beq_iff_eq.mpr hr), List.lookup_cons_self]
    · have hr' : (p == r) = false := by simpa using fun h => hr h.symm
      rw [List.lookup_cons, hr'] at h
      rw [if_neg (by simpa using hr), List.lookup_cons, hr']
      exact ih h

theorem lookup_replace_of_ne {l : List (Place × Entry)} (h : q ≠ p) :
    (l.map fun x => if x.1 == p then (p, e) else x).lookup q = l.lookup q := by
  induction l with
  | nil => rfl
  | cons x l ih =>
    obtain ⟨r, e'⟩ := x
    rw [List.map_cons, List.lookup_cons]
    by_cases hr : r = p
    · have hq : (q == p) = false := by simpa using h
      rw [if_pos (beq_iff_eq.mpr hr), List.lookup_cons, hr, hq]
      exact ih
    · rw [if_neg (by simpa using hr), List.lookup_cons, ih]

@[simp] theorem entry?_put_self : entry? (t.put p e) p = some e := by
  unfold put entry?
  split
  · rename_i h
    exact lookup_replace h
  · rename_i h
    have h : t.entries.lookup p = none := Option.not_isSome_iff_eq_none.mp h
    simp [List.lookup_append, h]

theorem entry?_put_of_ne (h : q ≠ p) : entry? (t.put p e) q = t.entry? q := by
  unfold put entry?
  split
  · exact lookup_replace_of_ne h
  · have hq : (q == p) = false := by simpa using h
    simp [List.lookup_append, List.lookup_cons, hq]

theorem hasBelow_put : (t.put p e).hasBelow q = true ↔ t.hasBelow q = true ∨ Above q p := by
  simp only [hasBelow_eq_true_iff]
  unfold put
  split
  · rename_i h
    obtain ⟨y, hy, hyp⟩ := List.lookup_isSome_iff.mp h
    obtain rfl := eq_of_beq hyp
    constructor
    · rintro ⟨x, hx, ha⟩
      obtain ⟨z, hz, rfl⟩ := List.mem_map.mp hx
      split at ha
      · exact .inr ha
      · exact .inl ⟨z, hz, ha⟩
    · rintro (⟨x, hx, ha⟩ | ha)
      · refine ⟨_, List.mem_map_of_mem hx, ?_⟩
        split
        · rename_i hxy
          rw [← eq_of_beq hxy]
          exact ha
        · exact ha
      · exact ⟨_, List.mem_map_of_mem hy, by simpa using ha⟩
  · constructor
    · rintro ⟨x, hx, ha⟩
      rcases List.mem_append.mp hx with hx | hx
      · exact .inl ⟨x, hx, ha⟩
      · obtain rfl := List.mem_singleton.mp hx
        exact .inr ha
    · rintro (⟨x, hx, ha⟩ | ha)
      · exact ⟨x, List.mem_append_left _ hx, ha⟩
      · exact ⟨(p, e), List.mem_append_right _ List.mem_cons_self, ha⟩

/-- There is a file where one was put, and nowhere else. -/
theorem at?_eq_file_iff : t.at? p = some (.file c) ↔ t.entry? p = some (.file c) := by
  unfold at?
  cases t.entry? p with
  | some e => exact Iff.rfl
  | none =>
    dsimp only
    split <;> simp

@[simp] theorem at?_put_self : (t.put p e).at? p = some e := by simp [at?]

/-- What is at a place stays there when something is put elsewhere. -/
theorem at?_put_of_some {x : Entry} (h : q ≠ p) (hx : t.at? q = some x) :
    (t.put p e).at? q = some x := by
  unfold at? at hx ⊢
  rw [entry?_put_of_ne h, cwd_put]
  cases he : t.entry? q with
  | some y =>
    rw [he] at hx
    exact hx
  | none =>
    rw [he] at hx
    dsimp only at hx ⊢
    split at hx
    · rename_i hb
      rw [if_pos]
      · exact hx
      · rw [Bool.or_eq_true] at hb ⊢
        exact hb.imp_left fun hb => hasBelow_put.mpr (.inl hb)
    · cases hx

/-- Whatever is at a place other than the one where something is put was there before, or is a
directory on the way to it. -/
theorem at?_of_put {x : Entry} (h : q ≠ p) (hx : (t.put p e).at? q = some x) :
    t.at? q = some x ∨ x = .directory ∧ Above q p := by
  unfold at? at hx ⊢
  rw [entry?_put_of_ne h, cwd_put] at hx
  cases he : t.entry? q with
  | some y =>
    rw [he] at hx
    exact .inl hx
  | none =>
    rw [he] at hx
    dsimp only at hx ⊢
    split at hx
    · rename_i hb
      obtain rfl := Option.some.inj hx
      rw [Bool.or_eq_true, hasBelow_put] at hb
      rcases hb with (hb | hb) | hb
      · exact .inl (by simp [hb])
      · exact .inr ⟨rfl, hb⟩
      · exact .inl (by simp [hb])
    · cases hx

/-! ## Files -/

/-- **A file is written where the path leads, if that is no directory but is in one.** -/
theorem write_eq_ok_iff :
    t.write path c = .ok t' ↔
      ∃ p, t.place path = .ok p ∧ t.at? p ≠ some .directory ∧
        t.at? p.dropLast = some .directory ∧ t' = t.put p (.file c) := by
  unfold write
  cases hp : t.place path with
  | error f => simp [bind, Except.bind]
  | ok p =>
    simp only [bind, Except.bind, Except.ok.injEq]
    constructor
    · intro h
      split at h
      · cases h
      · rename_i hd hn
        exact ⟨p, rfl, hn, hd, (Except.ok.inj h).symm⟩
      · cases h
      · cases h
    · rintro ⟨_, rfl, hn, hd, rfl⟩
      rw [hd]
      cases ha : t.at? p with
      | none => rfl
      | some e =>
        cases e with
        | file d => rfl
        | directory => exact absurd ha hn

theorem read_eq_ok_iff :
    t.read path = .ok c ↔ ∃ p, t.place path = .ok p ∧ t.at? p = some (.file c) := by
  unfold read
  cases hp : t.place path with
  | error f => simp [bind, Except.bind]
  | ok p =>
    simp only [bind, Except.bind, Except.ok.injEq, exists_eq_left']
    split
    · rename_i c' hc
      rw [hc]
      exact ⟨fun h => by rw [Except.ok.inj h], fun h => by cases h; rfl⟩
    · rename_i hc
      simp [hc, throw, throwThe, MonadExceptOf.throw]
    · rename_i hc
      simp [hc, throw, throwThe, MonadExceptOf.throw]

theorem holds_of_read (h : t.read path = .ok c) : t.holds path = true := by
  obtain ⟨p, hp, hc⟩ := read_eq_ok_iff.mp h
  simp [holds, find?, hp, hc]

/-- What a path leads to stays the same while nothing on its way changes. -/
theorem place_mono (h : t.place path = .ok p) (hc : t'.cwd = t.cwd)
    (hd : ∀ q, t.at? q = some .directory → t'.at? q = some .directory) :
    t'.place path = .ok p := by
  obtain ⟨hp, rfl⟩ := place_eq_ok_iff.mp h
  rw [place_eq_ok_iff, hc]
  exact ⟨hp.mono hd, rfl⟩

theorem put_keeps_directories (hp : t.at? p ≠ some .directory) (hq : t.at? q = some .directory) :
    (t.put p e).at? q = some .directory :=
  at?_put_of_some (fun h => hp (h ▸ hq)) hq

/-- **A file that was written is read back.** -/
theorem read_write (h : t.write path c = .ok t') : t'.read path = .ok c := by
  obtain ⟨p, hp, hn, -, rfl⟩ := write_eq_ok_iff.mp h
  refine read_eq_ok_iff.mpr ⟨p, ?_, at?_put_self⟩
  exact place_mono hp cwd_put fun q => put_keeps_directories hn

/-! ## Directories -/

/-- A tree to which directories were added at most. -/
structure Grown (t t' : Tree) : Prop where
  cwd : t'.cwd = t.cwd
  kept : ∀ q x, t.at? q = some x → t'.at? q = some x
  files : ∀ q c, t'.at? q = some (.file c) → t.at? q = some (.file c)

theorem Grown.refl (t : Tree) : Grown t t := ⟨rfl, fun _ _ h => h, fun _ _ h => h⟩

theorem Grown.trans (h : Grown t t') (h' : Grown t' t'') : Grown t t'' where
  cwd := h'.cwd.trans h.cwd
  kept q x hx := h'.kept q x (h.kept q x hx)
  files q c hc := h.files q c (h'.files q c hc)

theorem Grown.put (h : t.at? p = none) : Grown t (t.put p .directory) where
  cwd := cwd_put
  kept q x hx := at?_put_of_some (fun hq => by simp [hq, h] at hx) hx
  files q c hc := by
    by_cases hq : q = p
    · simp [hq] at hc
    · rcases at?_of_put hq hc with hc | ⟨hc, -⟩
      · exact hc
      · cases hc

theorem makeAlong_cons {n : String} {ns : List String} :
    t.makeAlong path from_ (n :: ns) = match t.at? (enter from_ n) with
      | some .directory => t.makeAlong path (enter from_ n) ns
      | some (.file _) => .error (if ns.isEmpty then .alreadyThere path else .notADirectory path)
      | none => (t.put (enter from_ n) .directory).makeAlong path (enter from_ n) ns := rfl

/-- **Making directories adds directories only**, and then the way is free. -/
theorem makeAlong_spec {ns : List String} (h : t.makeAlong path from_ ns = .ok t') :
    Grown t t' ∧
      (t.at? from_ = some .directory →
        t'.Passable from_ ns ∧ t'.at? (ns.foldl enter from_) = some .directory) := by
  induction ns generalizing t from_ with
  | nil =>
    obtain rfl := Except.ok.inj h
    exact ⟨.refl _, fun hd => ⟨trivial, hd⟩⟩
  | cons n ns ih =>
    rw [makeAlong_cons] at h
    split at h
    · rename_i hd
      obtain ⟨hg, hp⟩ := ih h
      exact ⟨hg, fun hf => ⟨⟨hg.kept _ _ hf, (hp hd).1⟩, (hp hd).2⟩⟩
    · cases h
    · rename_i hn
      obtain ⟨hg, hp⟩ := ih h
      have hg := (Grown.put hn).trans hg
      exact ⟨hg, fun hf => ⟨⟨hg.kept _ _ hf, (hp at?_put_self).1⟩, (hp at?_put_self).2⟩⟩

theorem makeDirectories_grown (h : t.makeDirectories path = .ok t') : Grown t t' :=
  (makeAlong_spec h).1

/-- Where the way is free already, only the rest of it is made. -/
theorem makeAlong_append {ns ms : List String} (hp : t.Passable from_ ns)
    (hd : t.at? (ns.foldl enter from_) = some .directory) :
    t.makeAlong path from_ (ns ++ ms) = t.makeAlong path (ns.foldl enter from_) ms := by
  induction ns generalizing from_ with
  | nil => rfl
  | cons n ns ih =>
    have hn : t.at? (enter from_ n) = some .directory := by
      cases ns with
      | nil => exact hd
      | cons m ns => exact hp.2.1
    rw [List.cons_append, makeAlong_cons, hn]
    exact ih hp.2 hd

/-- The directories that are made are those on the way. -/
theorem makeAlong_directories {ns : List String} (h : t.makeAlong path from_ ns = .ok t')
    (hq : t'.at? q = some .directory) :
    t.at? q = some .directory ∨ ∃ ms, ms <+: ns ∧ q <+: ms.foldl enter from_ := by
  induction ns generalizing t from_ with
  | nil =>
    obtain rfl := Except.ok.inj h
    exact .inl hq
  | cons n ns ih =>
    have hrest : (∃ ms, ms <+: ns ∧ q <+: ms.foldl enter (enter from_ n)) →
        ∃ ms, ms <+: n :: ns ∧ q <+: ms.foldl enter from_ := fun ⟨ms, hm, hq⟩ =>
      ⟨n :: ms, List.cons_prefix_cons.mpr ⟨rfl, hm⟩, hq⟩
    rw [makeAlong_cons] at h
    split at h
    · exact (ih h).imp_right hrest
    · cases h
    · rcases ih h with hd | hm
      · by_cases hn : q = enter from_ n
        · exact .inr (hrest ⟨[], List.nil_prefix, hn ▸ List.prefix_rfl⟩)
        · rcases at?_of_put hn hd with hd | ⟨-, hd⟩
          · exact .inl hd
          · exact .inr (hrest ⟨[], List.nil_prefix, hd.1⟩)
      · exact .inr (hrest hm)

/-- Directories can be made where no file is in the way. -/
theorem makeAlong_ok {ns : List String}
    (h : ∀ ms, ms <+: ns → ms ≠ [] → ∀ c, t.at? (ms.foldl enter from_) ≠ some (.file c)) :
    ∃ t', t.makeAlong path from_ ns = .ok t' := by
  induction ns generalizing t from_ with
  | nil => exact ⟨t, rfl⟩
  | cons n ns ih =>
    have hrest : ∀ ms, ms <+: ns → ms ≠ [] →
        ∀ c, t.at? (ms.foldl enter (enter from_ n)) ≠ some (.file c) := fun ms hm _ =>
      h (n :: ms) (List.cons_prefix_cons.mpr ⟨rfl, hm⟩) (List.cons_ne_nil n ms)
    rw [makeAlong_cons]
    split
    · exact ih hrest
    · rename_i c hc
      exact absurd hc (h [n] (List.cons_prefix_cons.mpr ⟨rfl, List.nil_prefix⟩) (by simp) c)
    · rename_i hn
      exact ih fun ms hm hne c hc => hrest ms hm hne c ((Grown.put hn).files _ c hc)

/-- A path that leads to a directory. -/
structure LeadsToDirectory (t : Tree) (path : Path) : Prop where
  reached : t.place path = .ok (path.target t.cwd)
  directory : t.at? (path.target t.cwd) = some .directory

theorem isDirectory_iff : t.isDirectory path = true ↔ t.LeadsToDirectory path := by
  constructor
  · intro h
    unfold isDirectory find? at h
    cases hp : t.place path with
    | error f => simp [hp] at h
    | ok p =>
      obtain ⟨-, rfl⟩ := place_eq_ok_iff.mp hp
      refine ⟨hp, ?_⟩
      rw [hp] at h
      dsimp only at h
      split at h
      · assumption
      · cases h
  · rintro ⟨hp, hd⟩
    simp [isDirectory, find?, hp, hd]

theorem LeadsToDirectory.mono (h : t.LeadsToDirectory path) (hc : t'.cwd = t.cwd)
    (hd : ∀ q, t.at? q = some .directory → t'.at? q = some .directory) :
    t'.LeadsToDirectory path := by
  refine ⟨?_, ?_⟩ <;> rw [hc]
  · exact place_mono h.reached hc hd
  · exact hd _ h.directory

/-! ## Several files -/

/-- A tree after files were written at some places, one after the other, and directories were made:
at each place is what was written there last, and all other files are as they were. -/
structure Overwritten (t : Tree) (files : List (Place × Content)) (t' : Tree) : Prop where
  cwd : t'.cwd = t.cwd
  directories : ∀ q, t.at? q = some .directory → t'.at? q = some .directory
  file_iff : ∀ q c, t'.at? q = some (.file c) ↔
    files.reverse.lookup q = some c ∨ files.reverse.lookup q = none ∧ t.at? q = some (.file c)

theorem Grown.overwritten (h : Grown t t') : Overwritten t [] t' where
  cwd := h.cwd
  directories q := h.kept q .directory
  file_iff q c := by
    simp only [List.reverse_nil, List.lookup_nil, reduceCtorEq, true_and, false_or]
    exact ⟨h.files q c, h.kept q _⟩

theorem Overwritten.put (h : t.at? p ≠ some .directory) :
    Overwritten t [(p, c)] (t.put p (.file c)) where
  cwd := cwd_put
  directories q := put_keeps_directories h
  file_iff q d := by
    rw [at?_eq_file_iff, at?_eq_file_iff]
    by_cases hq : q = p
    · simp [hq]
    · have hq' : (q == p) = false := by simpa using hq
      simp [entry?_put_of_ne hq, List.lookup_cons, hq']

theorem Overwritten.trans {fs gs : List (Place × Content)} (h : Overwritten t fs t')
    (h' : Overwritten t' gs t'') : Overwritten t (fs ++ gs) t'' where
  cwd := h'.cwd.trans h.cwd
  directories q hq := h'.directories q (h.directories q hq)
  file_iff q c := by
    rw [h'.file_iff, h.file_iff, List.reverse_append, List.lookup_append]
    cases gs.reverse.lookup q with
    | none => simp
    | some d => simp

/-- A file at another place is still read. -/
theorem Overwritten.read {fs : List (Place × Content)} (h : Overwritten t fs t')
    (hr : t.read path = .ok c) (hp : ∀ f ∈ fs, f.1 ≠ path.target t.cwd) :
    t'.read path = .ok c := by
  obtain ⟨p, hplace, hc⟩ := read_eq_ok_iff.mp hr
  refine read_eq_ok_iff.mpr ⟨p, place_mono hplace h.cwd h.directories, ?_⟩
  obtain ⟨-, rfl⟩ := place_eq_ok_iff.mp hplace
  refine (h.file_iff _ c).mpr (.inr ⟨?_, hc⟩)
  rw [List.lookup_eq_none_iff]
  intro f hf
  exact bne_iff_ne.mpr (hp f (List.mem_reverse.mp hf)).symm

/-- Paths lead where they led before. -/
theorem Overwritten.place {fs : List (Place × Content)} (h : Overwritten t fs t')
    (hp : t.place path = .ok p) : t'.place path = .ok p := place_mono hp h.cwd h.directories

/-- A tree after files were written at some paths, in this order. -/
structure Written (t : Tree) (cs : List (Path × Content)) (t' : Tree) : Prop where
  overwritten : Overwritten t (cs.map fun c => (c.1.target t.cwd, c.2)) t'
  reached : ∀ c ∈ cs, t'.place c.1 = .ok (c.1.target t.cwd)

theorem Grown.written (h : Grown t t') : Written t [] t' := ⟨h.overwritten, by simp⟩

theorem Written.of_write (h : t.write path c = .ok t') : Written t [(path, c)] t' := by
  obtain ⟨p, hp, hn, -, rfl⟩ := write_eq_ok_iff.mp h
  obtain ⟨-, rfl⟩ := place_eq_ok_iff.mp hp
  refine ⟨.put hn, fun d hd => ?_⟩
  obtain rfl := List.mem_singleton.mp hd
  exact (Overwritten.put hn).place hp

theorem Written.trans {cs ds : List (Path × Content)} (h : Written t cs t') (h' : Written t' ds t'') :
    Written t (cs ++ ds) t'' := by
  have ho := h'.overwritten
  have hr := h'.reached
  rw [h.overwritten.cwd] at ho hr
  refine ⟨?_, fun c hc => ?_⟩
  · rw [List.map_append]
    exact h.overwritten.trans ho
  · rcases List.mem_append.mp hc with hc | hc
    · exact h'.overwritten.place (h.reached c hc)
    · exact hr c hc

end Tree

end SuiteEngine.Files
