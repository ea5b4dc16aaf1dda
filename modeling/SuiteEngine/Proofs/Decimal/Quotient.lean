import SuiteEngine.Document.Value
import SuiteEngine.Proofs.Decimal.Order
import SuiteEngine.Proofs.Decimal.Reading

/-!
# Whole numbers and their quotients as floats

A quotient of natural numbers is rounded once, so the ratio of a part to the whole is the float nearest to
the exact ratio. It lies between zero and one as the exact ratio does, since both ends are floats. A whole
number is rounded once as well, and is beyond all floats from the middle between the largest float and the
next power of two on.

Headlines:
* **`isNearest_quotient`**, `quotient_bounds`: the ratio of a part to the whole.
* **`intToFloat?_eq_none_iff`**: the whole numbers that are no float.
-/

namespace SuiteEngine

open Float.Model (UnpackedFloat Format totalExponent)
open Float.Model.UnpackedFloat

/-- The float is the one that the number, not below zero, is rounded to: the nearest one, and of two that
are as near the one with an even mantissa. At most half of the smallest float is rounded to zero. -/
def IsNearest (x : Float) (q : ℚ) : Prop :=
  (x = 0.0 ∧ 0 ≤ q ∧ q ≤ 2 ^ (-1075 : Int)) ∨
    ∃ m e h, x.toModel.unpack = .finite .positive m e h ∧ RoundsTo (q / 2 ^ e) m e

/-! ## Numbers no larger than one -/

/-- How far the numbers around a float go down. -/
theorem RoundsTo.lower {q : ℚ} {m : Nat} {e : Int} (hy : RoundsTo (q / 2 ^ e) m e) :
    (m - gapBelow m e) * 2 ^ e ≤ q :=
  (le_div_iff₀ (by positivity)).mp hy.bounds.1

/-- The float nearest to a number up to one is not above one. -/
theorem parts_le_one {q : ℚ} {m : Nat} {e : Int} (h : Canonical m e) (hy : RoundsTo (q / 2 ^ e) m e)
    (hq : q ≤ 1) : toLex (e, (m : ℤ)) ≤ toLex (-52, 2 ^ 52) := by
  have hlow := hy.lower
  have hgap := gapBelow_le m e
  rw [Prod.Lex.toLex_le_toLex]
  rcases lt_trichotomy e (-52) with hlt | rfl | hgt
  · exact .inl hlt
  · refine .inr ⟨rfl, ?_⟩
    have hone : ((m : ℚ) - gapBelow m (-52)) * 2 ^ (-52 : Int) ≤ 2 ^ 52 * 2 ^ (-52 : Int) :=
      (hlow.trans hq).trans (by norm_num)
    have hm : (m : ℚ) - gapBelow m (-52) ≤ 2 ^ 52 := le_of_mul_le_mul_right hone (by positivity)
    have : (m : ℚ) < 2 ^ 52 + 1 := by linarith
    have : m < 2 ^ 52 + 1 := by exact_mod_cast this
    change (m : ℤ) ≤ 2 ^ 52
    omega
  · -- The float would be the next power of two at least.
    have hm : (2 ^ 52 : ℚ) ≤ m := by exact_mod_cast h.normal.resolve_right (by omega)
    have hpow : (2 : ℚ) ^ (-51 : Int) ≤ 2 ^ e := zpow_le_zpow_right₀ one_le_two (by omega)
    have : ((2 : ℚ) ^ 52 - 1 / 2) * 2 ^ (-51 : Int) ≤ (m - gapBelow m e) * 2 ^ e :=
      mul_le_mul (by linarith) hpow (by positivity) (by linarith)
    norm_num at this
    linarith

/-- **What is nearest to a number from zero to one lies there itself.** -/
theorem IsNearest.bounds {x : Float} {q : ℚ} (h : IsNearest x q) (hq : q ≤ 1) : 0.0 ≤ x ∧ x ≤ 1.0 := by
  rcases h with ⟨rfl, -⟩ | ⟨m, e, hm, hu, hy⟩
  · decide
  have hle := parts_le_one (canonical_of_unpack hu).1 hy hq
  refine ⟨float_le_iff.mpr ⟨_, _, rfl, congrArg rank hu, ?_⟩,
    float_le_iff.mpr ⟨_, _, congrArg rank hu, rfl, ?_⟩⟩
  · exact Prod.Lex.toLex_le_toLex.mpr (.inl Int.zero_lt_one)
  · exact Prod.Lex.toLex_le_toLex.mpr (.inr ⟨rfl, hle⟩)

/-! ## Quotients -/

theorem floatQuotient_zero (d : Nat) : floatQuotient 0 d = 0.0 := dif_neg fun h => Nat.lt_irrefl 0 h.1

/-- **The ratio of a part to the whole is rounded once.** -/
theorem isNearest_quotient {n d : Nat} (hd : 0 < d) (h : n ≤ d) : IsNearest (floatQuotient n d) (n / d) := by
  have hd' : (0 : ℚ) < d := by exact_mod_cast hd
  rcases Nat.eq_zero_or_pos n with rfl | hn
  · refine .inl ⟨floatQuotient_zero d, ?_⟩
    rw [Nat.cast_zero, zero_div]
    exact ⟨le_rfl, by positivity⟩
  obtain ⟨M, E, a, y, hcore, hden, hbits, hval⟩ := divCore_spec n 0 0 hn hd
  rw [zpow_zero, mul_one, mul_one] at hval
  have hone : (n / d : ℚ) ≤ 1 := (div_le_one hd').mpr (by exact_mod_cast h)
  have hx : (floatQuotient n d).toModel.unpack =
      (Float.Model.pack (roundWithAccuracy Format.binary64 .positive M E a)).unpack := by
    rw [floatQuotient, dif_pos ⟨hn, hd⟩, UnpackedFloat.div, hcore]
    rfl
  rcases round_spec hden hbits with ⟨hr, hle⟩ | ⟨m, e, hm, hc, hy, hr⟩
  · refine .inl ⟨eq_ofModel_pack (u := .zero .positive) ?_, by positivity, hval ▸ hle⟩
    rw [hx, hr]
    rfl
  · rw [hval] at hy
    have he : e ≤ 971 := by
      have := (Prod.Lex.toLex_le_toLex.mp (parts_le_one hc hy hone))
      omega
    refine .inr ⟨m, e, hc.pos, ?_, hy⟩
    rw [hx, hr]
    exact unpack_pack .positive hc he

/-- The ratio of a part to the whole lies between nothing and all. -/
theorem quotient_bounds {n d : Nat} (hd : 0 < d) (h : n ≤ d) :
    0.0 ≤ floatQuotient n d ∧ floatQuotient n d ≤ 1.0 :=
  (isNearest_quotient hd h).bounds ((div_le_one (by exact_mod_cast hd)).mpr (by exact_mod_cast h))

/-! ## Whole numbers -/

/-- The middle between the largest float, which is `(2^53 - 1) · 2^971`, and the next power of two, which is
`2^1024`. From here on nothing is a float. -/
def floatLimit : Nat := (2 ^ 54 - 1) * 2 ^ 970

theorem cast_floatLimit : (floatLimit : ℚ) = (2 ^ 54 - 1) * 2 ^ (970 : Int) := by
  rw [floatLimit, Nat.cast_mul, Nat.cast_pow, ← zpow_natCast]
  congr 1
  norm_num

theorem two_pow_le_floatLimit : 2 ^ 53 ≤ floatLimit := by
  have hpow : ∀ k, 2 ^ 53 ≤ (2 ^ 54 - 1) * 2 ^ k := fun k =>
    (show 2 ^ 53 ≤ 2 ^ 54 - 1 by decide).trans (Nat.le_mul_of_pos_right _ (Nat.two_pow_pos k))
  exact hpow 970

/-- A whole number lies around a mantissa and an exponent. -/
theorem exists_roundsTo {n : Nat} (hn : 0 < n) : ∃ m e, Canonical m e ∧ RoundsTo (n / 2 ^ e) m e := by
  have hval : ((n * 2 ^ 52 : Nat) : ℚ) * 2 ^ (-52 : Int) = n := by
    rw [Nat.cast_mul, mul_assoc, Nat.cast_pow]
    norm_num
  rcases round_spec (E := -52) (Denotes.exact (n * 2 ^ 52)) (.inl (Nat.le_mul_of_pos_left _ hn)) with
    ⟨-, hle⟩ | ⟨m, e, -, hc, hy, -⟩
  · have hone : (1 : ℚ) ≤ n := by exact_mod_cast hn
    have : (2 : ℚ) ^ (-1075 : Int) < 1 := zpow_lt_one_of_neg₀ one_lt_two (by decide)
    rw [hval] at hle
    linarith
  · exact ⟨m, e, hc, hval ▸ hy⟩

section WholeNumber

variable {n m : Nat} {e : Int} (hn : 0 < n) (h : Canonical m e) (hy : RoundsTo (n / 2 ^ e) m e)

include h hy

/-- The exponent is too large for a float from the limit on. -/
theorem exponent_le_iff : e ≤ 971 ↔ n < floatLimit := by
  have hpos : (0 : ℚ) < 2 ^ e := by positivity
  constructor
  · intro he
    have hup : (n / 2 ^ e : ℚ) < 2 ^ 53 - 1 / 2 := by
      rcases hy.2 with hlt | ⟨heven, heq⟩
      · have : (m : ℚ) + 1 ≤ 2 ^ 53 := by exact_mod_cast h.lt
        linarith
      · -- The largest mantissa is odd.
        have hlt := h.lt
        have : (m : ℚ) + 2 ≤ 2 ^ 53 := by exact_mod_cast (show m + 2 ≤ 2 ^ 53 by omega)
        linarith
    have hpow : (2 : ℚ) ^ e ≤ 2 ^ (971 : Int) := zpow_le_zpow_right₀ one_le_two he
    have hn : (n : ℚ) < (2 ^ 53 - 1 / 2) * 2 ^ e := (div_lt_iff₀ hpos).mp hup
    have : ((2 : ℚ) ^ 53 - 1 / 2) * 2 ^ e ≤ (2 ^ 53 - 1 / 2) * 2 ^ (971 : Int) :=
      mul_le_mul_of_nonneg_left hpow (by norm_num)
    have : ((2 : ℚ) ^ 53 - 1 / 2) * 2 ^ (971 : Int) = floatLimit := by
      rw [cast_floatLimit, show (971 : Int) = 1 + 970 from rfl, zpow_add₀ two_ne_zero]
      ring
    have : (n : ℚ) < floatLimit := by linarith
    exact_mod_cast this
  · intro hlt
    by_contra he
    have hm : (2 ^ 52 : ℚ) ≤ m := by exact_mod_cast h.normal.resolve_right (by omega)
    have hlow : (2 : ℚ) ^ 52 - 1 / 4 ≤ m - gapBelow m e := by
      unfold gapBelow
      split
      · linarith
      · -- Only below a power of two the gap is that small.
        rename_i hne
        have hne : m ≠ 2 ^ 52 := fun heq => hne ⟨heq, by omega⟩
        have hge : 2 ^ 52 ≤ m := by exact_mod_cast hm
        have : (2 : ℚ) ^ 52 + 1 ≤ m := by exact_mod_cast (show 2 ^ 52 + 1 ≤ m by omega)
        linarith
    have hpow : (2 : ℚ) ^ (972 : Int) ≤ 2 ^ e := zpow_le_zpow_right₀ one_le_two (by omega)
    have : ((2 : ℚ) ^ 52 - 1 / 4) * 2 ^ (972 : Int) ≤ (m - gapBelow m e) * 2 ^ e :=
      mul_le_mul hlow hpow (by positivity) (by linarith)
    have : ((2 : ℚ) ^ 52 - 1 / 4) * 2 ^ (972 : Int) = floatLimit := by
      rw [cast_floatLimit, show (972 : Int) = 2 + 970 from rfl, zpow_add₀ two_ne_zero]
      ring
    have hn : (n : ℚ) < floatLimit := by exact_mod_cast hlt
    linarith [hy.lower]

include hn

/-- A whole number with an exponent that is not too large is the float that it lies around. -/
theorem unpack_ofNat (he : e ≤ 971) : (Float.ofNat n).toModel.unpack = .finite .positive m e h.pos := by
  have hy' : RoundsTo (n * 10 ^ (0 : Int) / 2 ^ e) m e := by rwa [zpow_zero, mul_one]
  change (Float.ofScientific n false 0).toModel.unpack = _
  by_cases hfast : n < 2 ^ 53
  · exact @ofScientific_fast n m 0 e h he hn hy' hfast (by decide)
  · rw [Float.ofScientific, dif_neg fun hf => hfast hf.1]
    exact @ofScientific_slow n m 0 e h he hn hy'

/-- One with a larger exponent is infinite. -/
theorem unpack_ofNat_large (he : 971 < e) : (Float.ofNat n).toModel.unpack = .infinity .positive := by
  have hy' : RoundsTo (n * 10 ^ (0 : Int) / 2 ^ e) m e := by rwa [zpow_zero, mul_one]
  have hlarge : ¬ n < 2 ^ 53 := fun hlt =>
    absurd ((exponent_le_iff h hy).mpr (hlt.trans_le two_pow_le_floatLimit)) (Int.not_le.mpr he)
  have hbits : (0 : Int) ≤ 2 ^ Format.binary64.exponentBits := Int.pow_nonneg (by decide)
  change (Float.ofScientific n false 0).toModel.unpack = _
  rw [Float.ofScientific, dif_neg fun hf => hlarge hf.1]
  have hs : UnpackedFloat.ofScientific Format.binary64 n 0 = .finite .positive m e h.pos := by
    rw [UnpackedFloat.ofScientific, dif_neg (Nat.ne_of_gt hn), if_neg (by omega), if_neg (by omega),
      if_pos le_rfl]
    exact @ofScientific_positive n m 0 e h hn hy' le_rfl _ _
  change (Float.Model.pack (UnpackedFloat.ofScientific Format.binary64 n 0)).unpack = _
  rw [hs]
  exact unpack_pack_large .positive h he

end WholeNumber

theorem isInf_ofNat_iff (n : Nat) : (Float.ofNat n).isInf = true ↔ floatLimit ≤ n := by
  rcases Nat.eq_zero_or_pos n with rfl | hn
  · have := two_pow_le_floatLimit
    exact iff_of_false (by decide) (by omega)
  obtain ⟨m, e, hc, hy⟩ := exists_roundsTo hn
  change (Float.ofNat n).toModel.unpack.isInf = true ↔ _
  rw [← Nat.not_lt, ← exponent_le_iff hc hy]
  by_cases he : e ≤ 971
  · rw [unpack_ofNat hn hc hy he]
    exact iff_of_false Bool.false_ne_true (not_not_intro he)
  · rw [unpack_ofNat_large hn hc hy (by omega)]
    exact iff_of_true rfl he

/-- The sign makes no difference to whether a float is infinite. -/
theorem isInf_neg (x : Float) : x.neg.isInf = x.isInf := by
  change (Float.Model.pack x.toModel.unpack.neg).unpack.isInf = x.toModel.unpack.isInf
  cases hu : x.toModel.unpack with
  | notANumber => rfl
  | infinity s => cases s <;> rfl
  | zero s => cases s <;> rfl
  | finite s m e h =>
    obtain ⟨hc, he⟩ := canonical_of_unpack hu
    exact (congrArg UnpackedFloat.isInf (unpack_pack (-s) hc he)).trans rfl

/-- **The whole numbers that are no float**: those that are as far from zero as the limit. -/
theorem intToFloat?_eq_none_iff (n : Int) : Value.intToFloat? n = none ↔ floatLimit ≤ n.natAbs := by
  have hinf : (Float.ofInt n).isInf = (Float.ofNat n.natAbs).isInf := by
    cases n with
    | ofNat n => rfl
    | negSucc n => exact isInf_neg _
  rw [← isInf_ofNat_iff, ← hinf, Value.intToFloat?]
  cases (Float.ofInt n).isInf <;> simp

end SuiteEngine
