import Mathlib.Data.List.Forall2
import SuiteEngine.Proofs.Decimal.Quotient
import SuiteEngine.Proofs.Files.Tree
import SuiteEngine.Proofs.Picture.Pixels
import SuiteEngine.Ui.Snapshot

/-!
# Baselines

Screenshots are compared with one baseline, one after the other. The first of them is stored, unless its
file cannot be written. From then on no comparison writes anything, so each screenshot is held against
the first one and never against the one before it: differences that pass do not add up.

The limit of a comparison is any float. One below zero, or one that is no number, lets nothing pass, not
even the screenshot that is the baseline.

Headlines:
* `compareWithBaseline_stored`: what one comparison with a stored baseline says; it writes nothing.
* `compareEach_stored`: the same of any number of comparisons.
* **`compareEach_first`**: what any number of comparisons say where there was no baseline.
-/

namespace SuiteEngine.Ui

open Files (Content Fault Path Tree)

/-- A screenshot that is compared, and the ratio of changed pixels that it may have. -/
structure Shot where
  picture : Picture
  limit : Float

/-- Compares a screenshot with a baseline. -/
def Shot.compare (shot : Shot) (files : Tree) (baseline : Path) : Except Failure (Comparison × Tree) :=
  compareWithBaseline files (.picture shot.picture) baseline shot.limit

/-- Compares screenshots with one baseline, one after the other: what each comparison says, and the files
that are left. -/
def compareEach (baseline : Path) : Tree → List Shot → List (Except Failure Comparison) × Tree
  | files, [] => ([], files)
  | files, shot :: rest =>
    match shot.compare files baseline with
    | .error f =>
      let later := compareEach baseline files rest
      (.error f :: later.1, later.2)
    | .ok (c, files) =>
      let later := compareEach baseline files rest
      (.ok c :: later.1, later.2)

variable {files stored made : Tree} {baseline : Path} {shot : Shot} {first : Picture}

/-! ## Pictures -/

/-- The ratio of the changed pixels of a picture when it is held against another one. -/
def changedRatio (actual base : Picture) : Float :=
  ratioOf ((actual.changes base).countP (· == true)) (actual.width * actual.height)

theorem sameSize_iff {a b : Picture} :
    a.sameSize b = true ↔ a.width = b.width ∧ a.height = b.height := by
  simp [Picture.sameSize]

theorem not_changed_self (c : Picture.Color) : c.changed c = false := by
  simp [Picture.Color.changed, Picture.Color.difference, Picture.apart, Picture.brightness,
    Picture.tolerance]

theorem countP_changes_self (p : Picture) : (p.changes p).countP (· == true) = 0 := by
  rw [List.countP_eq_zero]
  intro b hb
  rw [Picture.changes, List.zipWith_self] at hb
  obtain ⟨c, -, rfl⟩ := List.mem_map.mp hb
  simp [not_changed_self]

/-- **No pixel of a picture differs from itself.** -/
theorem changedRatio_self (p : Picture) : changedRatio p p = 0.0 := by
  rw [changedRatio, countP_changes_self, ratioOf, floatQuotient_zero]

/-! ## One comparison -/

/-- What a comparison with a picture says. -/
structure HeldAgainst (base : Picture) (shot : Shot) (c : Comparison) : Prop where
  passed_iff : c.passed = true ↔
    shot.picture.width = base.width ∧ shot.picture.height = base.height ∧
      changedRatio shot.picture base ≤ shot.limit
  ratio : shot.picture.width = base.width → shot.picture.height = base.height →
    c.ratio = changedRatio shot.picture base
  created : c.created = false

theorem comparePictures_spec (base : Picture) (name : String) (shot : Shot) :
    HeldAgainst base shot (comparePictures shot.picture base name shot.limit) := by
  unfold comparePictures
  cases hs : shot.picture.sameSize base with
  | false =>
    have hne : ¬(shot.picture.width = base.width ∧ shot.picture.height = base.height) := by
      rw [← sameSize_iff, hs]
      exact Bool.false_ne_true
    exact ⟨⟨(fun h => nomatch h), fun h => absurd ⟨h.1, h.2.1⟩ hne⟩, fun h h' => absurd ⟨h, h'⟩ hne, rfl⟩
  | true =>
    obtain ⟨hw, hh⟩ := sameSize_iff.mp hs
    rw [if_neg (by simp)]
    simp only [Picture.histogram_changeMask]
    split
    · rename_i hr
      exact ⟨⟨fun _ => ⟨hw, hh, hr⟩, fun _ => rfl⟩, fun _ _ => rfl, rfl⟩
    · rename_i hr
      exact ⟨⟨(fun h => nomatch h), fun h => absurd h.2.2 hr⟩, fun _ _ => rfl, rfl⟩

/-- The screenshot that is the baseline has no changed pixel, and passes where that is allowed. -/
theorem HeldAgainst.replayed {c : Comparison} (h : HeldAgainst shot.picture shot c) :
    c.ratio = 0.0 ∧ (c.passed = true ↔ 0.0 ≤ shot.limit) := by
  rw [h.ratio rfl rfl, h.passed_iff, changedRatio_self]
  simp

/-- A comparison with a stored picture compares the pictures. -/
theorem compareWithBaseline_pictures (h : files.read baseline = .ok (.picture first)) (actual : Picture)
    (limit : Float) : compareWithBaseline files (.picture actual) baseline limit =
      .ok (comparePictures actual first baseline.name limit, files) := by
  simp [compareWithBaseline, Tree.holds_of_read h, h, Content.picture?, bind, Except.bind,
    Except.mapError, pure, Except.pure]

/-- **A comparison with a stored baseline writes nothing.** -/
theorem compareWithBaseline_stored (h : files.read baseline = .ok (.picture first)) (shot : Shot) :
    ∃ c, shot.compare files baseline = .ok (c, files) ∧ HeldAgainst first shot c :=
  ⟨_, compareWithBaseline_pictures h shot.picture shot.limit,
    comparePictures_spec first baseline.name shot⟩

/-- What the first comparison says: the screenshot is the baseline now. -/
structure Created (c : Comparison) : Prop where
  passed : c.passed = true
  ratio : c.ratio = 0.0
  created : c.created = true

/-- **The first screenshot is stored**, unless its file cannot be written. -/
theorem compareWithBaseline_absent (h : files.holds baseline = false) (shot : Shot) :
    (∃ t : Fault, shot.compare files baseline = .error t.failure ∧
      (files.makeDirectories baseline.parent = .error t ∨
        ∃ made, files.makeDirectories baseline.parent = .ok made ∧
          made.write baseline (.picture shot.picture) = .error t)) ∨
    ∃ c stored, shot.compare files baseline = .ok (c, stored) ∧ Created c ∧
      stored.read baseline = .ok (.picture shot.picture) := by
  rw [Shot.compare, compareWithBaseline, if_pos (by rw [h]; rfl), createBaseline]
  cases hm : files.makeDirectories baseline.parent with
  | error t => exact .inl ⟨t, rfl, .inl rfl⟩
  | ok made =>
    cases hw : made.write baseline (.picture shot.picture) with
    | error t => exact .inl ⟨t, by simp [Except.mapError, bind, Except.bind, hw], .inr ⟨made, rfl, hw⟩⟩
    | ok stored =>
      refine .inr ⟨{ passed := true, ratio := 0.0, created := true, marked := none
                     message := "Baseline written to " ++ baseline.text },
        stored, ?_, ⟨rfl, rfl, rfl⟩, Tree.read_write hw⟩
      simp [Except.mapError, bind, Except.bind, hw, pure, Except.pure]

/-! ## Any number of comparisons -/

/-- **Comparisons with a stored baseline write nothing**, and each of them is with that baseline. -/
theorem compareEach_stored (h : files.read baseline = .ok (.picture first)) (shots : List Shot) :
    (compareEach baseline files shots).2 = files ∧
      List.Forall₂ (fun shot result => ∃ c, result = .ok c ∧ HeldAgainst first shot c) shots
        (compareEach baseline files shots).1 := by
  induction shots with
  | nil => exact ⟨rfl, .nil⟩
  | cons shot shots ih =>
    obtain ⟨c, hc, held⟩ := compareWithBaseline_stored h shot
    rw [compareEach, hc]
    exact ⟨ih.1, .cons ⟨c, rfl, held⟩ ih.2⟩

/-- **What comparisons say where there was no baseline.** Either the file of the first screenshot cannot
be written, which the first comparison raises. Or the first comparison passes and stores the screenshot;
then, whatever comparisons follow, the files stay as they are, each comparison is with the first
screenshot, and that one has no changed pixel when it is compared again. -/
theorem compareEach_first (h : files.holds baseline = false) (shot : Shot) :
    (∃ t : Fault, shot.compare files baseline = .error t.failure ∧
      (files.makeDirectories baseline.parent = .error t ∨
        ∃ made, files.makeDirectories baseline.parent = .ok made ∧
          made.write baseline (.picture shot.picture) = .error t)) ∨
    ∃ c stored, shot.compare files baseline = .ok (c, stored) ∧ Created c ∧
      stored.read baseline = .ok (.picture shot.picture) ∧
      ∀ shots, (compareEach baseline files (shot :: shots)).2 = stored ∧
        List.Forall₂ (fun later result => ∃ c, result = .ok c ∧ HeldAgainst shot.picture later c ∧
            (later.picture = shot.picture → c.ratio = 0.0 ∧ (c.passed = true ↔ 0.0 ≤ later.limit)))
          shots (compareEach baseline files (shot :: shots)).1.tail := by
  rcases compareWithBaseline_absent h shot with hf | ⟨c, stored, hc, created, hr⟩
  · exact .inl hf
  refine .inr ⟨c, stored, hc, created, hr, fun shots => ?_⟩
  obtain ⟨hkept, hall⟩ := compareEach_stored hr shots
  rw [compareEach, hc]
  refine ⟨hkept, hall.imp fun later result hl => ?_⟩
  obtain ⟨d, rfl, held⟩ := hl
  refine ⟨d, rfl, held, fun hp => ?_⟩
  rw [← hp] at held
  exact held.replayed

/-- A grey picture of a single pixel. -/
def greyDot (shade : UInt8) : Picture := { mode := .grey, width := 1, height := 1, data := [shade] }

/-- What comparisons say of passing where there was no file at first. -/
def passes (shots : List Shot) : List (Option Bool) :=
  (compareEach ⟨"", ["home.png"]⟩ ⟨[], []⟩ shots).1.map fun result =>
    result.toOption.map Comparison.passed

theorem compareEach_first_grey :
    Tree.holds ⟨[], []⟩ ⟨"", ["home.png"]⟩ = false ∧
    ∃ c stored, Shot.compare ⟨greyDot 100, 0.0⟩ ⟨[], []⟩ ⟨"", ["home.png"]⟩ = .ok (c, stored) ∧
      Created c ∧ stored.read ⟨"", ["home.png"]⟩ = .ok (.picture (greyDot 100)) ∧
      ∀ shots, (compareEach ⟨"", ["home.png"]⟩ ⟨[], []⟩ (⟨greyDot 100, 0.0⟩ :: shots)).2 = stored ∧
        List.Forall₂ (fun later result => ∃ c, result = .ok c ∧ HeldAgainst (greyDot 100) later c ∧
            (later.picture = greyDot 100 → c.ratio = 0.0 ∧ (c.passed = true ↔ 0.0 ≤ later.limit)))
          shots
          (compareEach ⟨"", ["home.png"]⟩ ⟨[], []⟩ (⟨greyDot 100, 0.0⟩ :: shots)).1.tail := by
  have absent : Tree.holds ⟨[], []⟩ ⟨"", ["home.png"]⟩ = false := by decide
  refine ⟨absent, (compareEach_first absent ⟨greyDot 100, 0.0⟩).resolve_left ?_⟩
  rintro ⟨t, hf, -⟩
  have : (Shot.compare ⟨greyDot 100, 0.0⟩ ⟨[], []⟩ ⟨"", ["home.png"]⟩).toOption.isSome = true := by
    decide
  rw [hf] at this
  cases this

/-- The screenshot that is the baseline does not pass below a limit of zero, and the first comparison
raises where a file is in the way of the baseline. -/
theorem compareEach_first_refused :
    passes [⟨greyDot 100, 0.0⟩, ⟨greyDot 100, -1.0⟩] = [some true, some false] ∧
    (Shot.compare ⟨greyDot 100, 0.0⟩ ⟨[], [(["shots"], .file (.picture (greyDot 100)))]⟩
      ⟨"", ["shots", "home.png"]⟩).toOption.isSome = false := by
  decide +kernel

/-- Each shade is within the tolerance of the one before it, and the last is not within that of the
first. -/
example : passes [⟨greyDot 100, 0.0⟩, ⟨greyDot 110, 0.0⟩, ⟨greyDot 120, 0.0⟩] =
    [some true, some true, some false] := by decide +kernel

end SuiteEngine.Ui
