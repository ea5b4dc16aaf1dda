import Mathlib.Algebra.Order.Group.Int
import Mathlib.Data.Prod.Lex
import Mathlib.Order.Compare

/-!
# The order of floats

Floats that are numbers stand in one row: infinity at both ends, the negative ones by falling
exponent and mantissa, both zeros at one place, the positive ones by rising exponent and mantissa.
`rank` is the place in that row. What is not a number has none, and is compared with nothing: `¬ x <
y` does not say that `y ≤ x`.

Headlines:
* `compare_eq`: floats are compared by their ranks.
* **`float_lt_of_lt_of_le`**, `float_le_trans`: comparisons can be chained.
-/

namespace SuiteEngine

open Float.Model (UnpackedFloat)

/-- The place of a float among all that are numbers: by sign and kind, then by exponent, then by
mantissa. -/
def rank : UnpackedFloat → Option (ℤ ×ₗ ℤ ×ₗ ℤ)
  | .notANumber => none
  | .infinity .negative => some (toLex (-2, toLex (0, 0)))
  | .finite .negative m e _ => some (toLex (-1, toLex (-e, -m)))
  | .zero _ => some (toLex (0, toLex (0, 0)))
  | .finite .positive m e _ => some (toLex (1, toLex (e, m)))
  | .infinity .positive => some (toLex (2, toLex (0, 0)))

/-! ## Comparing places -/

theorem compare_toLex {α β : Type} [LinearOrder α] [LinearOrder β] (a a' : α) (b b' : β) :
    compare (toLex (a, b)) (toLex (a', b')) = (compare a a').then (compare b b') := by
  rw [Prod.Lex.compare_def]
  rfl

theorem compare_neg (a b : ℤ) : compare (-a) (-b) = (compare a b).swap := by
  rcases lt_trichotomy a b with h | rfl | h
  · rw [compare_lt_iff_lt.mpr h, compare_gt_iff_gt.mpr (Int.neg_lt_neg h)]
    rfl
  · rw [compare_eq_iff_eq.mpr rfl, compare_eq_iff_eq.mpr rfl]
    rfl
  · rw [compare_gt_iff_gt.mpr h, compare_lt_iff_lt.mpr (Int.neg_lt_neg h)]
    rfl

theorem compare_natCast (m n : ℕ) : compare (m : ℤ) (n : ℤ) = compare m n := by
  rcases lt_trichotomy m n with h | rfl | h
  · rw [compare_lt_iff_lt.mpr h, compare_lt_iff_lt.mpr (Int.ofNat_lt.mpr h)]
  · rw [compare_eq_iff_eq.mpr rfl, compare_eq_iff_eq.mpr rfl]
  · rw [compare_gt_iff_gt.mpr h, compare_gt_iff_gt.mpr (Int.ofNat_lt.mpr h)]

/-- **Floats are compared by their ranks.** -/
theorem compare_eq (x y : UnpackedFloat) :
    x.compare y = (rank x).bind fun a => (rank y).map fun b => compare a b := by
  cases x with
  | notANumber => rfl
  | infinity s => cases s <;> rcases y with (_ | _) | _ | _ | ⟨_ | _, _, _, _⟩ <;> rfl
  | zero s => rcases y with (_ | _) | _ | _ | ⟨_ | _, _, _, _⟩ <;> rfl
  | finite s m e h =>
    -- Only two floats of one sign and kind are compared by their parts.
    cases s with
    | negative =>
      rcases y with (_ | _) | _ | _ | ⟨_ | _, m', e', h'⟩
      case finite.negative =>
        have hparts : compare (toLex ((-1 : ℤ), toLex (-e, -(m : ℤ))))
            (toLex (-1, toLex (-e', -(m' : ℤ)))) = ((compare e e').then (compare m m')).swap := by
          rw [compare_toLex, compare_toLex, compare_neg e, compare_neg (m : ℤ), compare_natCast,
            Ordering.swap_then]
          rfl
        exact congrArg some hparts.symm
      all_goals rfl
    | positive =>
      rcases y with (_ | _) | _ | _ | ⟨_ | _, m', e', h'⟩
      case finite.positive =>
        have hparts : compare (toLex ((1 : ℤ), toLex (e, (m : ℤ))))
              (toLex (1, toLex (e', (m' : ℤ)))) =
            (compare e e').then (compare m m') := by
          rw [compare_toLex, compare_toLex, compare_natCast]
          rfl
        exact congrArg some hparts.symm
      all_goals rfl

/-! ## Comparing floats -/

variable {x y z : Float}

theorem float_lt_iff :
    x < y ↔ ∃ a b, rank x.toModel.unpack = some a ∧ rank y.toModel.unpack = some b ∧ a < b := by
  have hlt : x < y ↔ x.toModel.unpack.compare y.toModel.unpack = some .lt := by
    change decide (x.toModel < y.toModel) = true ↔ _
    rw [decide_eq_true_iff]
    exact beq_iff_eq
  rw [hlt, compare_eq]
  cases rank x.toModel.unpack <;> cases rank y.toModel.unpack <;> simp [compare_lt_iff_lt]

theorem float_le_iff :
    x ≤ y ↔ ∃ a b, rank x.toModel.unpack = some a ∧ rank y.toModel.unpack = some b ∧ a ≤ b := by
  have hle : x ≤ y ↔ (x.toModel.unpack.compare y.toModel.unpack).any Ordering.isLE = true := by
    change decide (x.toModel ≤ y.toModel) = true ↔ _
    rw [decide_eq_true_iff]
    exact Iff.rfl
  rw [hle, compare_eq]
  cases rank x.toModel.unpack <;> cases rank y.toModel.unpack <;>
    simp [Ordering.isLE_iff_ne_gt, compare_le_iff_le]

/-- **What lies before something lies before all that comes after it.** -/
theorem float_lt_of_lt_of_le (hxy : x < y) (hyz : y ≤ z) : x < z := by
  obtain ⟨a, b, ha, hb, hab⟩ := float_lt_iff.mp hxy
  obtain ⟨b', c, hb', hc, hbc⟩ := float_le_iff.mp hyz
  obtain rfl := Option.some.inj (hb.symm.trans hb')
  exact float_lt_iff.mpr ⟨a, c, ha, hc, hab.trans_le hbc⟩

theorem float_le_trans (hxy : x ≤ y) (hyz : y ≤ z) : x ≤ z := by
  obtain ⟨a, b, ha, hb, hab⟩ := float_le_iff.mp hxy
  obtain ⟨b', c, hb', hc, hbc⟩ := float_le_iff.mp hyz
  obtain rfl := Option.some.inj (hb.symm.trans hb')
  exact float_le_iff.mpr ⟨a, c, ha, hc, hab.trans hbc⟩

end SuiteEngine
