import Mathlib.Data.Finset.Prod
import Mathlib.Tactic.IntervalCases
import Mathlib.Tactic.Ring
import SuiteEngine.Picture.Png

/-!
# The pixels of a picture

A picture that is complete has a colour at each place, and bytes or bits of its own for it. The changed
pixels of two pictures are found in several steps, each of which makes a picture: the difference, its
shades, the mask, its histogram, the marks. Place by place these steps come to one test of two colours.

Headlines:
* **`colors_getElem?`**: which bytes or bits are the pixel at a place.
* **`histogram_changeMask`**, `card_changedPlaces`: the mask counts the changed places.
* **`colorAt_marked`**: what the marked picture shows at each place.
-/

namespace SuiteEngine.Picture

/-! ## Places -/

/-- The picture has pixels, and its data are those of all its rows. -/
structure Complete (p : Picture) : Prop where
  width_pos : 0 < p.width
  height_pos : 0 < p.height
  length_data : p.data.length = p.height * Png.stride p

/-- The colour at a place: `x` pixels from the left and `y` rows from above. -/
def colorAt (p : Picture) (x y : Nat) : Color :=
  let byte (i : Nat) : UInt8 := p.data.getD (y * Png.stride p + i) 0
  match p.mode with
  | .rgb => ⟨byte (3 * x), byte (3 * x + 1), byte (3 * x + 2)⟩
  | .rgba => ⟨byte (4 * x), byte (4 * x + 1), byte (4 * x + 2)⟩
  | .grey => .grey (byte x)
  | .greyAlpha => .grey (byte (2 * x))
  | .bit => .grey (if (byte (x / 8)).toNat.testBit (7 - x % 8) then 255 else 0)

/-! ### Pixels of whole bytes -/

/-- A function that makes a colour of each `k` bytes. -/
structure ReadsBytes (k : Nat) (color : (Nat → UInt8) → Color) (f : List UInt8 → List Color) : Prop where
  nil : f [] = []
  cons : ∀ data, k ≤ data.length → f data = color (data.getD · 0) :: f (data.drop k)

section ReadsBytes

variable {k : Nat} {color : (Nat → UInt8) → Color} {f : List UInt8 → List Color} {data : List UInt8}

theorem ReadsBytes.getElem? (h : ReadsBytes k color f) {i : Nat} (hi : k * (i + 1) ≤ data.length) :
    (f data)[i]? = some (color fun j => data.getD (k * i + j) 0) := by
  induction i generalizing data with
  | zero =>
    rw [h.cons data (by simpa using hi), List.getElem?_cons_zero]
    simp
  | succ i ih =>
    rw [Nat.mul_succ] at hi
    rw [h.cons data (by omega), List.getElem?_cons_succ, ih (by rw [List.length_drop]; omega)]
    congr 2
    funext j
    rw [List.getD_eq_getElem?_getD, List.getElem?_drop, ← List.getD_eq_getElem?_getD]
    congr 1
    rw [Nat.mul_succ]
    omega

theorem ReadsBytes.length (h : ReadsBytes k color f) {n : Nat} (hn : data.length = k * n) :
    (f data).length = n := by
  induction n generalizing data with
  | zero =>
    obtain rfl := List.eq_nil_of_length_eq_zero hn
    rw [h.nil]
    rfl
  | succ n ih =>
    rw [Nat.mul_succ] at hn
    rw [h.cons data (by omega), List.length_cons, ih (by rw [List.length_drop]; omega)]

end ReadsBytes

theorem readsBytes_rgb : ReadsBytes 3 (fun byte => ⟨byte 0, byte 1, byte 2⟩) rgbColors :=
  ⟨rfl, fun | _ :: _ :: _ :: _, _ => rfl⟩

theorem readsBytes_rgba : ReadsBytes 4 (fun byte => ⟨byte 0, byte 1, byte 2⟩) rgbaColors :=
  ⟨rfl, fun | _ :: _ :: _ :: _ :: _, _ => rfl⟩

theorem readsBytes_grey : ReadsBytes 1 (fun byte => .grey (byte 0)) (List.map Color.grey) :=
  ⟨rfl, fun | _ :: _, _ => rfl⟩

theorem readsBytes_greyAlpha : ReadsBytes 2 (fun byte => .grey (byte 0)) greyAlphaColors :=
  ⟨rfl, fun | _ :: _ :: _, _ => rfl⟩

/-! ### Pixels of a bit -/

theorem length_bits (b : UInt8) : (bits b).length = 8 := rfl

theorem bits_getElem? (b : UInt8) {i : Nat} (hi : i < 8) :
    (bits b)[i]? = some (b.toNat.testBit (7 - i)) := by
  rw [Nat.testBit_eq_decide_div_mod_eq]
  interval_cases i <;> rfl

theorem flatMap_bits_getElem? (data : List UInt8) (i : Nat) :
    (data.flatMap bits)[i]? = data[i / 8]?.map fun b => b.toNat.testBit (7 - i % 8) := by
  induction data generalizing i with
  | nil => rfl
  | cons b data ih =>
    rw [List.flatMap_cons]
    by_cases hi : i < 8
    · rw [List.getElem?_append_left hi, bits_getElem? b hi, Nat.div_eq_of_lt hi, Nat.mod_eq_of_lt hi]
      rfl
    · obtain ⟨j, rfl⟩ := Nat.exists_eq_add_of_le' (Nat.le_of_not_lt hi)
      rw [List.getElem?_append_right (by rw [length_bits]; omega), length_bits, Nat.add_sub_cancel, ih,
        Nat.add_div_right j (by decide), Nat.add_mod_right]
      rfl

section Bits

variable {width rows : Nat} {data : List UInt8}

/-- A row of bits has all its pixels, if its bytes are there. -/
theorem length_bitRow (h : (width + 7) / 8 ≤ data.length) :
    (((data.take ((width + 7) / 8)).flatMap bits).take width).length = width := by
  rw [List.length_take, List.length_flatMap]
  simp only [length_bits, List.map_const', List.sum_replicate_nat, List.length_take]
  omega

theorem bitColors_getElem? {x y : Nat} (hx : x < width) (hy : y < rows)
    (h : rows * ((width + 7) / 8) ≤ data.length) :
    (bitColors width rows data)[y * width + x]? = some (.grey
      (if (data.getD (y * ((width + 7) / 8) + x / 8) 0).toNat.testBit (7 - x % 8) then 255 else 0)) := by
  induction rows generalizing y data with
  | zero => omega
  | succ rows ih =>
    rw [Nat.succ_mul] at h
    have hrow : (((data.take ((width + 7) / 8)).flatMap bits).take width).length = width :=
      length_bitRow (by omega)
    rw [bitColors]
    cases y with
    | zero =>
      have hbyte : x / 8 < data.length := by omega
      rw [Nat.zero_mul, Nat.zero_mul, Nat.zero_add, Nat.zero_add,
        List.getElem?_append_left (by rw [List.length_map, hrow]; exact hx), List.getElem?_map,
        List.getElem?_take_of_lt hx, flatMap_bits_getElem?, List.getElem?_take_of_lt (by omega),
        List.getD_eq_getElem?_getD, List.getElem?_eq_getElem hbyte]
      rfl
    | succ y =>
      have hplace : (y + 1) * width + x = width + (y * width + x) := by
        rw [Nat.succ_mul]
        omega
      have hbyte : (y + 1) * ((width + 7) / 8) + x / 8 =
          (width + 7) / 8 + (y * ((width + 7) / 8) + x / 8) := by
        rw [Nat.succ_mul]
        omega
      rw [hplace, hbyte, List.getElem?_append_right (by rw [List.length_map, hrow]; omega),
        List.length_map, hrow, Nat.add_sub_cancel_left, ih (by omega) (by rw [List.length_drop]; omega),
        List.getD_eq_getElem?_getD, List.getElem?_drop, ← List.getD_eq_getElem?_getD]

theorem length_bitColors (h : rows * ((width + 7) / 8) ≤ data.length) :
    (bitColors width rows data).length = rows * width := by
  induction rows generalizing data with
  | zero => rw [bitColors, Nat.zero_mul]; rfl
  | succ rows ih =>
    rw [Nat.succ_mul] at h
    rw [bitColors, List.length_append, List.length_map, length_bitRow (by omega),
      ih (by rw [List.length_drop]; omega), Nat.succ_mul, Nat.add_comm]

end Bits

/-! ### Pixels of any kind -/

section Complete

variable {p : Picture} {x y : Nat}

/-- A complete picture has a colour for each place. -/
theorem Complete.length_colors (h : p.Complete) : p.colors.length = p.width * p.height := by
  have hlen := h.length_data
  have hbytes : ∀ k, p.height * (p.width * k) = k * (p.width * p.height) := fun k => by ring
  unfold Png.stride at hlen
  unfold colors
  cases hm : p.mode <;> simp only [hm, Mode.channels, hbytes] at hlen ⊢
  case rgb => exact readsBytes_rgb.length hlen
  case rgba => exact readsBytes_rgba.length hlen
  case grey => exact readsBytes_grey.length hlen
  case greyAlpha => exact readsBytes_greyAlpha.length hlen
  case bit => rw [length_bitColors hlen.ge, Nat.mul_comm]

/-- **The colours row by row are those at the places.** -/
theorem colors_getElem? (h : p.Complete) (hx : x < p.width) (hy : y < p.height) :
    p.colors[y * p.width + x]? = some (p.colorAt x y) := by
  have hlen := h.length_data
  have hplace : y * p.width + x + 1 ≤ p.height * p.width :=
    calc y * p.width + x + 1 ≤ (y + 1) * p.width := by rw [Nat.succ_mul]; omega
      _ ≤ p.height * p.width := Nat.mul_le_mul_right _ hy
  have hbytes : ∀ k, k * (y * p.width + x + 1) ≤ p.height * (p.width * k) := fun k => by
    rw [← Nat.mul_assoc, Nat.mul_comm k]
    exact Nat.mul_le_mul_right k hplace
  have hfirst : ∀ k j, k * (y * p.width + x) + j = y * (p.width * k) + (k * x + j) := fun k j => by ring
  unfold Png.stride at hlen
  unfold colors colorAt Png.stride
  cases hm : p.mode <;> simp only [hm, Mode.channels] at hlen ⊢
  case rgb =>
    rw [readsBytes_rgb.getElem? (hlen ▸ hbytes 3)]
    simp only [hfirst, Nat.add_zero]
  case rgba =>
    rw [readsBytes_rgba.getElem? (hlen ▸ hbytes 4)]
    simp only [hfirst, Nat.add_zero]
  case grey =>
    rw [readsBytes_grey.getElem? (hlen ▸ hbytes 1)]
    simp only [Nat.one_mul, Nat.mul_one, Nat.add_zero]
  case greyAlpha =>
    rw [readsBytes_greyAlpha.getElem? (hlen ▸ hbytes 2)]
    simp only [hfirst, Nat.add_zero]
  case bit => exact bitColors_getElem? hx hy hlen.ge

end Complete

/-! ## Pictures of colours -/

theorem rgbColors_bytes (cs : List Color) : rgbColors (cs.flatMap Color.bytes) = cs := by
  induction cs with
  | nil => rfl
  | cons c cs ih =>
    rw [List.flatMap_cons]
    exact congrArg (c :: ·) ih

/-- A picture made of colours has these colours. -/
@[simp] theorem colors_ofColors (width height : Nat) (cs : List Color) :
    (ofColors width height cs).colors = cs := rgbColors_bytes cs

@[simp] theorem colors_toRgb (p : Picture) : p.toRgb.colors = p.colors := colors_ofColors _ _ _

@[simp] theorem colors_filled (width height : Nat) (c : Color) :
    (filled width height c).colors = List.replicate (width * height) c := colors_ofColors _ _ _

theorem complete_ofColors {width height : Nat} {cs : List Color} (hw : 0 < width) (hh : 0 < height)
    (hcs : cs.length = width * height) : (ofColors width height cs).Complete := by
  refine ⟨hw, hh, ?_⟩
  have hthree : cs.map (fun c => c.bytes.length) = List.replicate cs.length 3 := by
    rw [← List.map_const']
    rfl
  change (cs.flatMap Color.bytes).length = height * (width * 3)
  rw [List.length_flatMap, hthree, List.sum_replicate_nat, hcs]
  ring

theorem data_toGrey (p : Picture) : p.toGrey.data = p.colors.map Color.shade := rfl

theorem data_reshaded (p : Picture) (f : UInt8 → UInt8) : (p.reshaded f).data = p.data.map f := rfl

/-! ## Changed pixels -/

/-- How far two colours differ: the brightness of how far they are apart. -/
def Color.difference (a b : Color) : Nat :=
  brightness (Picture.apart a.red b.red) (Picture.apart a.green b.green) (Picture.apart a.blue b.blue)

/-- Whether a pixel of two colours counts as changed. -/
def Color.changed (a b : Color) : Bool := decide (a.difference b > tolerance)

/-- Which pixels of two pictures are changed, row by row. -/
def changes (a b : Picture) : List Bool := List.zipWith Color.changed a.colors b.colors

/-- Whether the pixel at a place is changed. -/
def changedAt (a b : Picture) (x y : Nat) : Bool := (a.colorAt x y).changed (b.colorAt x y)

theorem apart_comm (a b : UInt8) : apart a b = apart b a := by
  rw [apart, apart, Nat.max_comm, Nat.min_comm]

theorem apart_lt (a b : UInt8) : apart a b < 256 := by
  have ha := a.toNat_lt
  have hb := b.toNat_lt
  unfold apart
  omega

theorem Color.difference_comm (a b : Color) : a.difference b = b.difference a := by
  rw [Color.difference, Picture.apart_comm a.red, Picture.apart_comm a.green, Picture.apart_comm a.blue]
  rfl

theorem Color.changed_comm (a b : Color) : a.changed b = b.changed a := by
  rw [Color.changed, Color.difference_comm]
  rfl

theorem brightness_lt {red green blue : Nat} (hr : red < 256) (hg : green < 256) (hb : blue < 256) :
    brightness red green blue < 256 := by
  unfold brightness
  omega

/-- The shade of the difference is how far the colours differ. -/
theorem toNat_shade_apart (a b : Color) : (a.apart b).shade.toNat = a.difference b := by
  have hr := Picture.apart_lt a.red b.red
  have hg := Picture.apart_lt a.green b.green
  have hb := Picture.apart_lt a.blue b.blue
  have hbright := brightness_lt hr hg hb
  simp only [Color.shade, Color.apart, Color.difference, UInt8.toNat_ofNat']
  rw [Nat.mod_eq_of_lt hr, Nat.mod_eq_of_lt hg, Nat.mod_eq_of_lt hb, Nat.mod_eq_of_lt hbright]

/-- White for a changed pixel, black for any other. -/
def flagOf (changed : Bool) : UInt8 := if changed then 255 else 0

theorem flag_shade_apart (a b : Color) : flag (a.apart b).shade = flagOf (a.changed b) := by
  rw [flag, toNat_shade_apart, flagOf, Color.changed]
  simp only [decide_eq_true_eq]

/-- **The mask is white where pixels are changed.** -/
theorem data_changeMask (a b : Picture) : (changeMask a b).data = (changes a b).map flagOf := by
  rw [changeMask, data_reshaded, data_toGrey, difference, colors_ofColors, colors_toRgb, colors_toRgb,
    changes, List.map_zipWith, List.map_zipWith, List.map_zipWith]
  simp only [flag_shade_apart]

/-! ### Counting them -/

theorem getD_foldl_modify (data : List UInt8) (counts : Array Nat) (hsize : counts.size = 256) (v : UInt8) :
    (data.foldl (fun counts w => counts.modify w.toNat (· + 1)) counts).getD v.toNat 0 =
      counts.getD v.toNat 0 + data.count v := by
  induction data generalizing counts with
  | nil => rfl
  | cons w data ih =>
    have hv : v.toNat < counts.size := hsize ▸ v.toNat_lt
    rw [List.foldl_cons, ih _ (by rw [Array.size_modify, hsize]), List.count_cons]
    simp only [Array.getD_eq_getD_getElem?, Array.getElem?_modify, beq_iff_eq]
    rw [Array.getElem?_eq_getElem hv]
    by_cases hw : w = v
    · subst hw
      simp only [if_pos, Option.map_some, Option.getD_some]
      omega
    · have hne : w.toNat ≠ v.toNat := fun h => hw (UInt8.toNat_inj.mp h)
      simp only [if_neg hne, if_neg hw, Option.getD_some, Nat.add_zero]

/-- **The histogram says how often each shade occurs.** -/
theorem histogram_getD (p : Picture) (v : UInt8) : p.histogram.getD v.toNat 0 = p.data.count v := by
  rw [histogram, getD_foldl_modify p.data _ Array.size_replicate v, Array.getD_eq_getD_getElem?,
    Array.getElem?_replicate, if_pos v.toNat_lt]
  exact Nat.zero_add _

/-- The mask has as many white pixels as there are changed ones. -/
theorem histogram_changeMask (a b : Picture) :
    (changeMask a b).histogram.getD 255 0 = (changes a b).countP (· == true) := by
  refine (histogram_getD (changeMask a b) 255).trans ?_
  rw [data_changeMask, List.count, List.countP_map]
  refine List.countP_congr fun c _ => ?_
  cases c <;> decide

/-! ### Place by place -/

/-- The places of a picture. -/
def places (p : Picture) : Finset (Nat × Nat) := Finset.range p.width ×ˢ Finset.range p.height

/-- The places at which the pixels of two pictures are changed. -/
def changedPlaces (a b : Picture) : Finset (Nat × Nat) :=
  (places a).filter fun q => a.changedAt b q.1 q.2 = true

/-- Two pictures are complete and have one size. -/
structure SameShape (a b : Picture) : Prop where
  left : a.Complete
  right : b.Complete
  width : a.width = b.width
  height : a.height = b.height

theorem mem_places {p : Picture} {q : Nat × Nat} : q ∈ p.places ↔ q.1 < p.width ∧ q.2 < p.height := by
  rw [places, Finset.mem_product, Finset.mem_range, Finset.mem_range]

theorem mem_changedPlaces {a b : Picture} {q : Nat × Nat} :
    q ∈ changedPlaces a b ↔ q ∈ a.places ∧ a.changedAt b q.1 q.2 = true := Finset.mem_filter

theorem card_places (p : Picture) : p.places.card = p.width * p.height := by
  rw [places, Finset.card_product, Finset.card_range, Finset.card_range]

/-- The number of a place, row by row, is less than that of all places. -/
theorem place_lt {width height x y : Nat} (hx : x < width) (hy : y < height) :
    y * width + x < width * height :=
  calc y * width + x < (y + 1) * width := by rw [Nat.succ_mul]; omega
    _ ≤ height * width := Nat.mul_le_mul_right _ hy
    _ = width * height := Nat.mul_comm _ _

/-- How many numbers below a bound pass a test. -/
theorem countP_range (n : Nat) (test : Nat → Bool) :
    (List.range n).countP ((· == true) ∘ test) = ((Finset.range n).filter fun i => test i = true).card := by
  induction n with
  | zero => rfl
  | succ n ih =>
    rw [List.range_succ, List.countP_append, ih, Finset.range_add_one, Finset.filter_insert,
      List.countP_singleton]
    cases hn : test n with
    | false => simp [hn]
    | true => simp [hn, Finset.card_insert_of_notMem]

section SameShape

variable {a b : Picture} (h : SameShape a b)

include h

theorem SameShape.symm : SameShape b a := ⟨h.right, h.left, h.width.symm, h.height.symm⟩

/-- The changed places do not depend on which picture is held against the other one. -/
theorem changedPlaces_comm : changedPlaces a b = changedPlaces b a := by
  rw [changedPlaces, changedPlaces, places, places, h.width, h.height]
  refine Finset.filter_congr fun q _ => ?_
  rw [changedAt, Color.changed_comm]
  rfl

theorem changes_getElem? {x y : Nat} (hx : x < a.width) (hy : y < a.height) :
    (changes a b)[y * a.width + x]? = some (a.changedAt b x y) := by
  have hright := colors_getElem? h.right (h.width ▸ hx) (h.height ▸ hy)
  rw [← h.width] at hright
  rw [changes, List.getElem?_zipWith, colors_getElem? h.left hx hy, hright]
  rfl

theorem length_changes : (changes a b).length = a.width * a.height := by
  rw [changes, List.length_zipWith, h.left.length_colors, h.right.length_colors, h.width, h.height,
    Nat.min_self]

/-- Row by row, the changes are those at the places. -/
theorem changes_eq : changes a b =
    (List.range (a.width * a.height)).map fun i => a.changedAt b (i % a.width) (i / a.width) := by
  refine List.ext_getElem? fun i => ?_
  rw [List.getElem?_map]
  by_cases hi : i < a.width * a.height
  · have hplace := changes_getElem? h (Nat.mod_lt i h.left.width_pos) (Nat.div_lt_of_lt_mul hi)
    rw [Nat.div_add_mod'] at hplace
    rw [List.getElem?_range hi, hplace]
    rfl
  · rw [List.getElem?_eq_none (by rw [length_changes h]; omega),
      List.getElem?_eq_none (by rw [List.length_range]; omega)]
    rfl

/-- **What is counted are the changed places.** -/
theorem card_changedPlaces : (changes a b).countP (· == true) = (changedPlaces a b).card := by
  rw [changes_eq h, List.countP_map]
  refine (countP_range _ fun i => a.changedAt b (i % a.width) (i / a.width)).trans ?_
  -- A place is the same as its number in the row of rows.
  refine Finset.card_nbij' (fun i => (i % a.width, i / a.width)) (fun q => q.2 * a.width + q.1)
    (fun i hi => ?_) (fun q hq => ?_) (fun i _ => Nat.div_add_mod' i a.width) (fun q hq => ?_)
  · obtain ⟨hi, hc⟩ := Finset.mem_filter.mp hi
    exact Finset.mem_filter.mpr ⟨mem_places.mpr ⟨Nat.mod_lt i h.left.width_pos,
      Nat.div_lt_of_lt_mul (Finset.mem_range.mp hi)⟩, hc⟩
  all_goals
    obtain ⟨hq, hc⟩ := Finset.mem_filter.mp hq
    obtain ⟨hx, hy⟩ := mem_places.mp hq
    have hmod : (q.2 * a.width + q.1) % a.width = q.1 := by
      rw [Nat.mul_add_mod_self_right, Nat.mod_eq_of_lt hx]
    have hdiv : (q.2 * a.width + q.1) / a.width = q.2 := by
      rw [Nat.mul_comm, Nat.mul_add_div h.left.width_pos, Nat.div_eq_of_lt hx, Nat.add_zero]
  · exact Finset.mem_filter.mpr ⟨Finset.mem_range.mpr (place_lt hx hy), by rwa [hmod, hdiv]⟩
  · exact Prod.ext hmod hdiv

end SameShape

/-! ## Marked pixels -/

/-- An amount that is given full weight stays as it is. -/
theorem rounded_full {n : Nat} (h : n < 256) :
    ((n * 255 + 128) / 256 + (n * 255 + 128)) / 256 % 256 = n := by
  rcases Nat.lt_or_ge 128 n with hn | hn
  · have hquotient : (n * 255 + 128) / 256 = n - 1 := by omega
    omega
  · have hquotient : (n * 255 + 128) / 256 = n := by omega
    omega

theorem mixed_white (top ground : UInt8) : mixed 255 top ground = top := by
  apply UInt8.toNat_inj.mp
  have hwhite : (255 : UInt8).toNat = 255 := rfl
  simp only [mixed, UInt8.toNat_ofNat', hwhite, Nat.sub_self, Nat.mul_zero, Nat.add_zero]
  exact rounded_full top.toNat_lt

theorem mixed_black (top ground : UInt8) : mixed 0 top ground = ground := by
  apply UInt8.toNat_inj.mp
  have hblack : (0 : UInt8).toNat = 0 := rfl
  simp only [mixed, UInt8.toNat_ofNat', hblack, Nat.sub_zero, Nat.mul_zero, Nat.zero_add]
  exact rounded_full ground.toNat_lt

theorem mixed_flagOf (changed : Bool) (top ground : Color) :
    Color.mixed (flagOf changed) top ground = if changed then top else ground := by
  cases changed
  · simp only [flagOf, Color.mixed, mixed_black, Bool.false_eq_true, if_false]
  · simp only [flagOf, Color.mixed, mixed_white, if_true]

/-- Row by row, the marked picture has the marking colour for changed pixels. -/
theorem colors_marked (a b : Picture) : (a.marked (changeMask a b)).colors =
    List.zipWith (fun (changed : Bool) (c : Color × Color) => if changed then c.1 else c.2) (changes a b)
      ((List.replicate (a.width * a.height) markColor).zip a.colors) := by
  simp only [marked, composite, colors_ofColors, colors_filled, colors_toRgb, data_changeMask,
    List.zipWith_map_left, mixed_flagOf]

section SameShape

variable {a b : Picture} (h : SameShape a b)

include h

/-- The marked picture has all its pixels. -/
theorem complete_marked : (a.marked (changeMask a b)).Complete := by
  have hlen : (a.marked (changeMask a b)).colors.length = a.width * a.height := by
    rw [colors_marked, List.length_zipWith, length_changes h, List.length_zip, List.length_replicate,
      h.left.length_colors, Nat.min_self, Nat.min_self]
  rw [marked, composite, colors_ofColors] at hlen
  exact complete_ofColors h.left.width_pos h.left.height_pos hlen

/-- **What the marked picture shows at a place**: the marking colour if the pixel is changed, and the
picture's own colour if it is not. -/
theorem colorAt_marked {q : Nat × Nat} (hq : q ∈ a.places) :
    (a.marked (changeMask a b)).colorAt q.1 q.2 =
      if q ∈ changedPlaces a b then markColor else a.colorAt q.1 q.2 := by
  obtain ⟨hx, hy⟩ := mem_places.mp hq
  have hchanged : q ∈ changedPlaces a b ↔ a.changedAt b q.1 q.2 = true := by
    rw [mem_changedPlaces, and_iff_right hq]
  have hshown := colors_getElem? (complete_marked h) hx hy
  change (a.marked (changeMask a b)).colors[q.2 * a.width + q.1]? = _ at hshown
  rw [colors_marked, List.getElem?_zipWith, changes_getElem? h hx hy, List.zip, List.getElem?_zipWith,
    List.getElem?_replicate, if_pos (place_lt hx hy), colors_getElem? h.left hx hy] at hshown
  simp only [hchanged]
  exact (Option.some.inj hshown).symm

end SameShape

end SuiteEngine.Picture
