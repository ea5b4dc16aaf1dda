import SuiteEngine.Proofs.Ui.Baseline

/-!
# What a comparison counts

A screenshot and a baseline of one size are compared place by place. The ratio that is reported is that of
the changed places; it passes if it is at most the limit, and else the screenshot is shown with these places
marked. Which of the two pictures is the baseline makes no difference to the ratio.

A place is changed by the brightness of the difference, in which green weighs most and blue least. So every
changed place has a channel that differs by more than the tolerance, but not the other way round: what
differs in a single channel is changed from 36 on in red, from 18 on in green and from 93 on in blue.

Headlines:
* **`compareWithBaseline_pixels`**: the ratio, whether it passes, and what is marked, place by place.
* **`compareWithBaseline_channels`**: which places with a channel above the tolerance are changed.
-/

namespace SuiteEngine.Ui

open Files (Path Tree)
open Picture (SameShape apart brightness changedPlaces markColor tolerance)

variable {files : Tree} {baseline : Path} {actual base : Picture}

/-! ## Place by place -/

/-- What is said of two pictures of one size. -/
structure PixelVerdict (actual base : Picture) (limit : Float) (c : Comparison) : Prop where
  /-- The ratio is that of the changed places to all places, rounded once. -/
  ratio : c.ratio = floatQuotient (changedPlaces actual base).card actual.places.card
  nearest : IsNearest c.ratio ((changedPlaces actual base).card / actual.places.card)
  bounds : 0.0 ≤ c.ratio ∧ c.ratio ≤ 1.0
  passed : c.passed = true ↔ c.ratio ≤ limit
  /-- Of a screenshot that passes it is said how many places of how many are changed. -/
  counted : c.passed = true → c.message = toString (changedPlaces actual base).card ++ " of " ++
    toString actual.places.card ++ " pixels differ (" ++ floatPercent c.ratio 4 ++ ")"
  /-- A screenshot that does not pass is shown, of the same size, with the changed places marked. -/
  marked : c.marked.isSome = true ↔ c.passed = false
  size : ∀ m, c.marked = some m → m.Complete ∧ m.width = actual.width ∧ m.height = actual.height
  shown : ∀ m, c.marked = some m → ∀ q ∈ actual.places,
    m.colorAt q.1 q.2 = if q ∈ changedPlaces actual base then markColor else actual.colorAt q.1 q.2
  created : c.created = false

theorem comparePictures_pixels (h : SameShape actual base) (name : String) (limit : Float) :
    PixelVerdict actual base limit (comparePictures actual base name limit) := by
  have hpart : (changedPlaces actual base).card ≤ actual.places.card := Finset.card_filter_le _ _
  have hall : 0 < actual.places.card := by
    rw [Picture.card_places]
    exact Nat.mul_pos h.left.width_pos h.left.height_pos
  have hcount : (actual.changeMask base).histogram.getD 255 0 = (changedPlaces actual base).card :=
    (Picture.histogram_changeMask actual base).trans (Picture.card_changedPlaces h)
  have hsame : ¬ (!actual.sameSize base) = true := by
    rw [Bool.not_eq_true', Bool.not_eq_false, sameSize_iff]
    exact ⟨h.width, h.height⟩
  unfold comparePictures
  rw [if_neg hsame]
  simp only [hcount, ← Picture.card_places, ratioOf]
  have hnearest := isNearest_quotient hall hpart
  have hbounds := quotient_bounds hall hpart
  split
  · rename_i hle
    refine ⟨rfl, hnearest, hbounds, iff_of_true rfl hle, fun _ => rfl,
      iff_of_false Bool.false_ne_true Bool.true_eq_false.mp, ?_, ?_, rfl⟩
    · rintro m ⟨⟩
    · rintro m ⟨⟩
  · rename_i hle
    refine ⟨rfl, hnearest, hbounds, iff_of_false Bool.false_ne_true hle, ?_, iff_of_true rfl rfl, ?_, ?_, rfl⟩
    · rintro ⟨⟩
    · rintro m ⟨⟩
      exact ⟨Picture.complete_marked h, rfl, rfl⟩
    · rintro m ⟨⟩ q hq
      exact Picture.colorAt_marked h hq

/-- Pictures of different size do not pass, and nothing is shown. -/
theorem comparePictures_sizes (h : ¬ (actual.width = base.width ∧ actual.height = base.height))
    (name : String) (limit : Float) :
    (comparePictures actual base name limit).passed = false ∧
      (comparePictures actual base name limit).ratio = 1.0 ∧
      (comparePictures actual base name limit).marked = none := by
  have hsame : (!actual.sameSize base) = true := by
    rw [Bool.not_eq_true', ← Bool.not_eq_true, sameSize_iff]
    exact h
  unfold comparePictures
  rw [if_pos hsame]
  exact ⟨rfl, rfl, rfl⟩

/-- **A comparison counts the changed places.** It never raises. The pictures being of one size, the ratio is
that of the changed places, the same for every limit and with the pictures exchanged; a larger limit lets
all pass that a smaller one does. Pictures of different size never pass. -/
theorem compareWithBaseline_pixels (ha : actual.Complete) (hb : base.Complete)
    (h : files.read baseline = .ok (.picture base)) :
    ∃ c : Float → Comparison,
      (∀ limit, compareWithBaseline files (.picture actual) baseline limit = .ok (c limit, files)) ∧
      (actual.width = base.width ∧ actual.height = base.height →
        (∀ limit, PixelVerdict actual base limit (c limit)) ∧
        (∀ limit limit', limit ≤ limit' → (c limit).passed = true → (c limit').passed = true) ∧
        ∀ files' baseline', Tree.read files' baseline' = .ok (.picture actual) → ∀ limit, ∃ exchanged,
          compareWithBaseline files' (.picture base) baseline' limit = .ok (exchanged, files') ∧
          changedPlaces base actual = changedPlaces actual base ∧ exchanged.ratio = (c limit).ratio) ∧
      (¬ (actual.width = base.width ∧ actual.height = base.height) → ∀ limit,
        (c limit).passed = false ∧ (c limit).ratio = 1.0 ∧ (c limit).marked = none) := by
  refine ⟨comparePictures actual base baseline.name, compareWithBaseline_pictures h actual, fun hsize => ?_,
    fun hsize => comparePictures_sizes hsize baseline.name⟩
  have hshape : SameShape actual base := ⟨ha, hb, hsize.1, hsize.2⟩
  have verdict := comparePictures_pixels hshape baseline.name
  refine ⟨verdict, fun limit limit' hle hp => ?_, fun files' baseline' h' limit => ?_⟩
  · rw [(verdict limit').passed, (verdict limit').ratio]
    rw [(verdict limit).passed, (verdict limit).ratio] at hp
    exact float_le_trans hp hle
  · have exchanged := comparePictures_pixels hshape.symm baseline'.name limit
    refine ⟨_, compareWithBaseline_pictures h' base limit, Picture.changedPlaces_comm hshape.symm, ?_⟩
    rw [exchanged.ratio, (verdict limit).ratio, Picture.changedPlaces_comm hshape, Picture.card_places,
      Picture.card_places, hshape.width, hshape.height]

/-- A picture of two pixels: a black one and one of this colour. -/
def twoDots (c : Picture.Color) : Picture := .ofColors 2 1 [⟨0, 0, 0⟩, c]

theorem complete_twoDots (c : Picture.Color) : (twoDots c).Complete :=
  Picture.complete_ofColors Nat.zero_lt_two Nat.zero_lt_one rfl

/-- The files in which a picture is stored as the baseline `home.png`. -/
def stored (p : Picture) : Tree := ⟨[], [(["home.png"], .file (.picture p))]⟩

theorem compareWithBaseline_pixels_half :
    (twoDots ⟨36, 0, 0⟩).Complete ∧ (twoDots ⟨0, 0, 0⟩).Complete ∧
    Tree.read (stored (twoDots ⟨0, 0, 0⟩)) ⟨"", ["home.png"]⟩ = .ok (.picture (twoDots ⟨0, 0, 0⟩)) ∧
    ∃ c : Float → Comparison,
      (∀ limit, compareWithBaseline (stored (twoDots ⟨0, 0, 0⟩)) (.picture (twoDots ⟨36, 0, 0⟩))
        ⟨"", ["home.png"]⟩ limit = .ok (c limit, stored (twoDots ⟨0, 0, 0⟩))) ∧
      (∀ limit, PixelVerdict (twoDots ⟨36, 0, 0⟩) (twoDots ⟨0, 0, 0⟩) limit (c limit)) ∧
      changedPlaces (twoDots ⟨36, 0, 0⟩) (twoDots ⟨0, 0, 0⟩) = {(1, 0)} ∧
      (c 0.5).passed = true ∧ (c 0.4).passed = false := by
  have hread : Tree.read (stored (twoDots ⟨0, 0, 0⟩)) ⟨"", ["home.png"]⟩ =
      .ok (.picture (twoDots ⟨0, 0, 0⟩)) := rfl
  obtain ⟨c, hc, hsame, -⟩ := compareWithBaseline_pixels (complete_twoDots ⟨36, 0, 0⟩)
    (complete_twoDots ⟨0, 0, 0⟩) hread
  obtain ⟨verdict, -, -⟩ := hsame ⟨rfl, rfl⟩
  refine ⟨complete_twoDots _, complete_twoDots _, hread, c, hc, verdict, by decide, ?_, ?_⟩
  · rw [(verdict 0.5).passed, (verdict 0.5).ratio]
    decide +kernel
  · rw [← Bool.not_eq_true, (verdict 0.4).passed, (verdict 0.4).ratio]
    decide +kernel

/-! ## Channel by channel -/

/-- Whether a channel of two colours differs by more than the tolerance. -/
def channelAbove (a b : Picture.Color) : Bool :=
  decide (tolerance < apart a.red b.red) || decide (tolerance < apart a.green b.green) ||
    decide (tolerance < apart a.blue b.blue)

/-- The weighted difference of two colours, in which the weights make up 65536. -/
def weighted (a b : Picture.Color) : Nat :=
  19595 * apart a.red b.red + 38470 * apart a.green b.green + 7471 * apart a.blue b.blue

/-- The weighted difference from which on two colours are changed, which is `10.5 · 65536`. -/
def leastChange : Nat := 688128

/-- The places at which a channel differs by more than the tolerance. -/
def channelPlaces (a b : Picture) : Finset (Nat × Nat) :=
  a.places.filter fun q => channelAbove (a.colorAt q.1 q.2) (b.colorAt q.1 q.2) = true

/-- The places of these whose weighted difference is too small. -/
def overlookedPlaces (a b : Picture) : Finset (Nat × Nat) :=
  (channelPlaces a b).filter fun q => weighted (a.colorAt q.1 q.2) (b.colorAt q.1 q.2) < leastChange

theorem changed_iff (a b : Picture.Color) : a.changed b = true ↔ leastChange ≤ weighted a b := by
  unfold Picture.Color.changed Picture.Color.difference brightness tolerance weighted leastChange
  rw [decide_eq_true_iff]
  omega

/-- A changed pixel has a channel above the tolerance. -/
theorem channelAbove_of_changed {a b : Picture.Color} (h : a.changed b = true) :
    channelAbove a b = true := by
  rw [changed_iff] at h
  unfold weighted leastChange at h
  unfold channelAbove tolerance
  simp only [Bool.or_eq_true, decide_eq_true_eq]
  omega

/-- What differs in one channel alone is changed from 36 on in red, from 18 on in green and from 93 on in
blue. -/
theorem changed_single_iff (a b : Picture.Color) :
    (a.green = b.green → a.blue = b.blue → (a.changed b = true ↔ 36 ≤ apart a.red b.red)) ∧
    (a.red = b.red → a.blue = b.blue → (a.changed b = true ↔ 18 ≤ apart a.green b.green)) ∧
    (a.red = b.red → a.green = b.green → (a.changed b = true ↔ 93 ≤ apart a.blue b.blue)) := by
  have hself : ∀ v : UInt8, apart v v = 0 := fun v => by simp [apart]
  rw [changed_iff, weighted, leastChange]
  refine ⟨fun h h' => ?_, fun h h' => ?_, fun h h' => ?_⟩
  all_goals
    rw [h, h', hself, hself]
    omega

theorem changedPlaces_eq (a b : Picture) :
    changedPlaces a b = channelPlaces a b \ overlookedPlaces a b := by
  ext q
  rw [Picture.mem_changedPlaces, Finset.mem_sdiff, overlookedPlaces, Finset.mem_filter, channelPlaces,
    Finset.mem_filter, Picture.changedAt]
  constructor
  · rintro ⟨hq, hc⟩
    exact ⟨⟨hq, channelAbove_of_changed hc⟩, fun hover => Nat.not_lt.mpr ((changed_iff _ _).mp hc) hover.2⟩
  · rintro ⟨hq, hnot⟩
    exact ⟨hq.1, (changed_iff _ _).mpr (Nat.not_lt.mp fun hlt => hnot ⟨hq, hlt⟩)⟩

/-- **A comparison counts the places with a channel above the tolerance, but for those that it overlooks**,
whose weighted difference is too small. It counts all of them just if there is none to be overlooked. -/
theorem compareWithBaseline_channels (h : SameShape actual base)
    (hread : files.read baseline = .ok (.picture base)) (limit : Float) :
    ∃ c, compareWithBaseline files (.picture actual) baseline limit = .ok (c, files) ∧
      PixelVerdict actual base limit c ∧
      (∀ q ∈ actual.places, q ∈ changedPlaces actual base ↔
        leastChange ≤ weighted (actual.colorAt q.1 q.2) (base.colorAt q.1 q.2)) ∧
      changedPlaces actual base = channelPlaces actual base \ overlookedPlaces actual base ∧
      (changedPlaces actual base = channelPlaces actual base ↔ overlookedPlaces actual base = ∅) := by
  refine ⟨_, compareWithBaseline_pictures hread actual limit, comparePictures_pixels h _ limit, fun q hq => ?_,
    changedPlaces_eq actual base, ?_⟩
  · rw [Picture.mem_changedPlaces, and_iff_right hq]
    exact changed_iff _ _
  · rw [changedPlaces_eq, Finset.sdiff_eq_self_iff_disjoint]
    have hsub : overlookedPlaces actual base ⊆ channelPlaces actual base := Finset.filter_subset _ _
    constructor
    · intro hdisjoint
      exact Finset.disjoint_self_iff_empty _ |>.mp (hdisjoint.mono_left hsub)
    · intro hnone
      rw [hnone]
      exact Finset.disjoint_empty_right _

/-- A pixel of which blue differs by 92 is overlooked. -/
theorem compareWithBaseline_channels_blue :
    SameShape (twoDots ⟨0, 0, 92⟩) (twoDots ⟨0, 0, 0⟩) ∧
    Tree.read (stored (twoDots ⟨0, 0, 0⟩)) ⟨"", ["home.png"]⟩ = .ok (.picture (twoDots ⟨0, 0, 0⟩)) ∧
    ∃ c, compareWithBaseline (stored (twoDots ⟨0, 0, 0⟩)) (.picture (twoDots ⟨0, 0, 92⟩))
        ⟨"", ["home.png"]⟩ 0.0 = .ok (c, stored (twoDots ⟨0, 0, 0⟩)) ∧
      c.passed = true ∧ channelPlaces (twoDots ⟨0, 0, 92⟩) (twoDots ⟨0, 0, 0⟩) = {(1, 0)} ∧
      overlookedPlaces (twoDots ⟨0, 0, 92⟩) (twoDots ⟨0, 0, 0⟩) = {(1, 0)} := by
  have hshape : SameShape (twoDots ⟨0, 0, 92⟩) (twoDots ⟨0, 0, 0⟩) :=
    ⟨complete_twoDots _, complete_twoDots _, rfl, rfl⟩
  have hread : Tree.read (stored (twoDots ⟨0, 0, 0⟩)) ⟨"", ["home.png"]⟩ =
      .ok (.picture (twoDots ⟨0, 0, 0⟩)) := rfl
  obtain ⟨c, hc, verdict, -, -, -⟩ := compareWithBaseline_channels hshape hread 0.0
  refine ⟨hshape, hread, c, hc, ?_, by decide, by decide⟩
  rw [verdict.passed, verdict.ratio]
  decide +kernel

end SuiteEngine.Ui
