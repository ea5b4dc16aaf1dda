import SuiteEngine.Decimal.Rounded
import SuiteEngine.Proofs.Decimal.Rounding

/-!
# The float that a decimal is read as

Products and quotients of floats are exact before they are rounded. A decimal is read as a product with a
power of ten or as a quotient by one, so it is read as the float that it lies around.

Headlines:
* `mul_eq`, `div_eq`: products and quotients are rounded once.
* **`toFloat_eq`**: a decimal is read as the float that it lies around.
-/

namespace SuiteEngine

open Float.Model (UnpackedFloat Format totalExponent)
open Float.Model.UnpackedFloat

/-! ## Products and quotients -/

/-- A quotient and what remains of it denote the exact quotient. -/
theorem denotes_quotient (n : Nat) {d : Nat} (hd : 0 < d) :
    Denotes (.ofMantissaAndAccuracy (n / d) (accuracyOfFraction (n % d) d)) ((n : ℚ) / d) := by
  have hd' : (0 : ℚ) < d := by exact_mod_cast hd
  have hn : (n : ℚ) = d * (n / d : Nat) + (n % d : Nat) := by exact_mod_cast (Nat.div_add_mod n d).symm
  have hlt : ((n % d : Nat) : ℚ) < d := by exact_mod_cast Nat.mod_lt n hd
  have hq : (n : ℚ) / d = (n / d : Nat) + ((n % d : Nat) : ℚ) / d := by
    rw [hn]
    field_simp
  generalize n % d = r at hlt hq
  generalize n / d = q at hq
  rw [hq]
  unfold accuracyOfFraction
  split
  · rename_i hr
    rw [hr, Nat.cast_zero, zero_div, add_zero]
    exact Denotes.exact q
  · rename_i hr
    have hr' : (0 : ℚ) < r := by exact_mod_cast Nat.pos_of_ne_zero hr
    have hpos : 0 < (r : ℚ) / d := by positivity
    have hone : (r : ℚ) / d < 1 := (div_lt_one hd').mpr hlt
    cases hc : compare (2 * r) d with
    | lt =>
      have h2 : (2 : ℚ) * r < d := by exact_mod_cast Nat.compare_eq_lt.mp hc
      have : (r : ℚ) / d < 1 / 2 := (div_lt_iff₀ hd').mpr (by linarith)
      change (q : ℚ) < q + r / d ∧ (q : ℚ) + r / d < q + 1 / 2
      exact ⟨by linarith, by linarith⟩
    | eq =>
      have h2 : (2 : ℚ) * r = d := by exact_mod_cast Nat.compare_eq_eq.mp hc
      have : (r : ℚ) / d = 1 / 2 := (div_eq_iff hd'.ne').mpr (by linarith)
      change (q : ℚ) + r / d = q + 1 / 2
      rw [this]
    | gt =>
      have h2 : (d : ℚ) < 2 * r := by exact_mod_cast Nat.compare_eq_gt.mp hc
      have : 1 / 2 < (r : ℚ) / d := (lt_div_iff₀ hd').mpr (by linarith)
      change (q : ℚ) + 1 / 2 < q + r / d ∧ (q : ℚ) + r / d < q + 1
      exact ⟨by linarith, by linarith⟩

/-- A quotient has as many bits as are asked for. -/
theorem divCore_spec (m₁ : Nat) (e₁ : Int) {m₂ : Nat} (e₂ : Int) (h₁ : 0 < m₁) (h₂ : 0 < m₂) :
    ∃ M E a y, divCore Format.binary64 m₁ e₁ m₂ e₂ = (M, E, a) ∧
      Denotes (.ofMantissaAndAccuracy M a) y ∧ (2 ^ 52 ≤ M ∨ E ≤ -1074) ∧
      y * 2 ^ E = (m₁ * 2 ^ e₁ / (m₂ * 2 ^ e₂) : ℚ) := by
  have htarget : Format.binary64.targetExponent (totalExponent m₁ e₁ - totalExponent m₂ e₂) =
      max (m₁.log2 + 1 + e₁ - (m₂.log2 + 1 + e₂) - 53) (-1074) := rfl
  rw [divCore, htarget]
  generalize ht : min (e₁ - e₂) (max (m₁.log2 + 1 + e₁ - (m₂.log2 + 1 + e₂) - 53) (-1074)) = t
  obtain ⟨k, hk⟩ : ∃ k : Nat, e₁ - e₂ - t = k := ⟨(e₁ - e₂ - t).toNat, by omega⟩
  rw [hk, Int.toNat_natCast, Nat.shiftLeft_eq]
  refine ⟨_, _, _, _, rfl, denotes_quotient (m₁ * 2 ^ k) h₂, ?_, ?_⟩
  · by_cases hleast : t ≤ -1074
    · exact .inr hleast
    have hbits : m₂.log2 + 1 + 52 ≤ m₁.log2 + k := by omega
    refine .inl ((Nat.le_div_iff_mul_le h₂).mpr ?_)
    calc 2 ^ 52 * m₂ ≤ 2 ^ 52 * 2 ^ (m₂.log2 + 1) := Nat.mul_le_mul_left _ (Nat.le_of_lt Nat.lt_log2_self)
      _ ≤ 2 ^ m₁.log2 * 2 ^ k := by
        rw [← pow_add, ← pow_add]
        exact Nat.pow_le_pow_right (by decide) (by omega)
      _ ≤ m₁ * 2 ^ k := Nat.mul_le_mul_right _ (Nat.log2_self_le (Nat.ne_of_gt h₁))
  · have hm₂ : (0 : ℚ) < m₂ := by exact_mod_cast h₂
    have he₁ : e₁ = e₂ + t + k := by omega
    rw [he₁, zpow_add₀ two_ne_zero, zpow_add₀ two_ne_zero, zpow_natCast]
    push_cast
    field_simp

section Operations

variable {m m₁ m₂ : Nat} {e e₁ e₂ : Int} {h₁ : 0 < m₁} {h₂ : 0 < m₂} (h : Canonical m e)

include h

/-- A product is rounded once. -/
theorem mul_eq (hbits : 2 ^ 52 ≤ m₁ * m₂)
    (hy : RoundsTo (m₁ * 2 ^ e₁ * (m₂ * 2 ^ e₂) / 2 ^ e) m e) :
    UnpackedFloat.mul Format.binary64 (.finite .positive m₁ e₁ h₁) (.finite .positive m₂ e₂ h₂) =
      .finite .positive m e h.pos := by
  refine round_eq h ?_ (.inl hbits) hy
  have hunit : (m₁ * 2 ^ e₁ * (m₂ * 2 ^ e₂) / 2 ^ e * 2 ^ (e - (e₁ + e₂)) : ℚ) = (m₁ * m₂ : Nat) := by
    rw [zpow_sub₀ two_ne_zero, zpow_add₀ two_ne_zero]
    push_cast
    field_simp
  rw [hunit]
  exact Denotes.exact _

/-- A quotient is rounded once. -/
theorem div_eq (hy : RoundsTo (m₁ * 2 ^ e₁ / (m₂ * 2 ^ e₂) / 2 ^ e) m e) :
    UnpackedFloat.div Format.binary64 (.finite .positive m₁ e₁ h₁) (.finite .positive m₂ e₂ h₂) =
      .finite .positive m e h.pos := by
  obtain ⟨M, E, a, y, hcore, hd, hbits, hval⟩ := divCore_spec m₁ e₁ e₂ h₁ h₂
  rw [UnpackedFloat.div, hcore]
  refine round_eq h ?_ hbits hy
  have hunit : (m₁ * 2 ^ e₁ / (m₂ * 2 ^ e₂) / 2 ^ e * 2 ^ (e - E) : ℚ) = y := by
    rw [← hval, zpow_sub₀ two_ne_zero]
    field_simp
  rwa [hunit]

end Operations

/-! ## Numbers that are floats -/

/-- The float is this number above zero, and its mantissa has all its bits. -/
def IsNumber (x : Float) (q : ℚ) : Prop :=
  ∃ m e h, x.toModel.unpack = .finite .positive m e h ∧ 2 ^ 52 ≤ m ∧ (m : ℚ) * 2 ^ e = q

/-- A whole number of no more than 53 bits is a float. -/
theorem isNumber_ofNat {n : Nat} (hn : 0 < n) (hlt : n < 2 ^ 53) :
    IsNumber (n.toUInt64.toFloat) n := by
  have hlog : n.log2 < 53 := (Nat.log2_lt (Nat.ne_of_gt hn)).mpr hlt
  obtain ⟨k, hk⟩ : ∃ k, n.log2 + k = 52 := ⟨52 - n.log2, by omega⟩
  have hlow : 2 ^ 52 ≤ n * 2 ^ k := by
    rw [← hk, pow_add]
    exact Nat.mul_le_mul_right _ (Nat.log2_self_le (Nat.ne_of_gt hn))
  have hhigh : n * 2 ^ k < 2 ^ 53 := by
    have : 2 ^ 53 = 2 ^ (n.log2 + 1) * 2 ^ k := by rw [← pow_add]; congr 1; omega
    rw [this]
    exact Nat.mul_lt_mul_of_pos_right Nat.lt_log2_self (Nat.two_pow_pos k)
  have hc : Canonical (n * 2 ^ k) (-(k : Int)) := ⟨by omega, hhigh, by omega, .inl hlow⟩
  have hround : UnpackedFloat.ofNat Format.binary64 n = .finite .positive (n * 2 ^ k) (-(k : Int)) hc.pos := by
    have hgt : compare (n : Int) 0 = .gt := Int.compare_eq_gt.mpr (by omega)
    have htarget : Format.binary64.targetExponent (totalExponent n 0) = -(k : Int) := by
      rw [targetExponent_eq]
      omega
    simp only [UnpackedFloat.ofNat, UnpackedFloat.ofInt, UnpackedFloat.normalize, hgt,
      Int.toNat_natCast, UnpackedFloat.round, decreaseExponent, htarget, Nat.shiftLeft_eq,
      Int.zero_sub, Int.neg_neg]
    refine round_eq (y := (n * 2 ^ k : Nat)) hc ?_ (.inl hlow) ?_
    · rw [Int.sub_self, zpow_zero, mul_one]
      exact Denotes.exact _
    · have := gapBelow_pos (n * 2 ^ k) (-(k : Int))
      exact ⟨.inl (by linarith), .inl (by linarith)⟩
  have hn64 : n.toUInt64.toNat = n := Nat.mod_eq_of_lt (by omega)
  refine ⟨n * 2 ^ k, -(k : Int), hc.pos, ?_, hlow, ?_⟩
  · change (Float.Model.pack (UnpackedFloat.ofNat Format.binary64 n.toUInt64.toNat)).unpack = _
    rw [hn64, hround]
    exact unpack_pack .positive hc (by omega)
  · rw [zpow_neg, zpow_natCast]
    push_cast
    field_simp

/-- Whether the float has all bits of its mantissa and is this whole number. -/
def isWhole (x : Float) (n : Nat) : Bool :=
  match floatParts x with
  | some (neg, m, e) =>
    !neg && decide (2 ^ 52 ≤ m) && m * 2 ^ e.toNat == n * 2 ^ (-e).toNat
  | none => false

theorem isNumber_of_isWhole {x : Float} {n : Nat} (h : isWhole x n = true) : IsNumber x n := by
  unfold isWhole floatParts at h
  dsimp only at h
  cases hx : x.toModel.unpack with
  | notANumber => simp [hx] at h
  | infinity s => simp [hx] at h
  | zero s => cases s <;> simp [hx] at h
  | finite s m e hm =>
    cases s with
    | negative => simp [hx] at h
    | positive =>
      simp only [hx, Bool.not_false, Bool.true_and, Bool.and_eq_true, decide_eq_true_eq,
        beq_iff_eq] at h
      obtain ⟨hlow, heq⟩ := h
      refine ⟨m, e, hm, hx, hlow, ?_⟩
      have heq' : (m : ℚ) * 2 ^ e.toNat = n * 2 ^ (-e).toNat := by exact_mod_cast heq
      obtain ⟨k, rfl | rfl⟩ := e.eq_nat_or_neg
      · simpa using heq'
      · rw [zpow_neg, zpow_natCast, ← div_eq_mul_inv, div_eq_iff (by positivity)]
        simpa using heq'

/-- The powers of ten up to the 22nd are floats. -/
theorem powers_whole : ∀ (k : Nat) (_ : k < Float.exactlyRepresentablePowersOfTen.size),
    isWhole Float.exactlyRepresentablePowersOfTen[k] (10 ^ k) = true := by
  decide +kernel

theorem isNumber_power {k : Nat} (hk : k < Float.exactlyRepresentablePowersOfTen.size) :
    IsNumber Float.exactlyRepresentablePowersOfTen[k] (10 ^ k) := by
  have h := isNumber_of_isWhole (powers_whole k hk)
  push_cast at h
  exact h

/-! ## How many digits a number has -/

namespace Decimal

theorem digitCount_pos (n : Nat) : 0 < digitCount n := Nat.length_toDigits_pos

theorem digitCount_le_iff {n k : Nat} (hk : 0 < k) : digitCount n ≤ k ↔ n < 10 ^ k :=
  Nat.length_toDigits_le_iff (by decide) hk

theorem lt_pow_digitCount (n : Nat) : n < 10 ^ digitCount n :=
  (digitCount_le_iff (digitCount_pos n)).mp le_rfl

theorem pow_le_of_pos {n : Nat} (hn : 0 < n) : 10 ^ (digitCount n - 1) ≤ n := by
  by_cases hk : 0 < digitCount n - 1
  · have := digitCount_pos n
    exact Nat.le_of_not_lt fun h => absurd ((digitCount_le_iff hk).mpr h) (by omega)
  · rw [Nat.eq_zero_of_not_pos hk]
    exact hn

end Decimal

/-! ## Decimals -/

theorem two_pow_le_ten {x : Int} (hx : 0 ≤ x) : (2 : ℚ) ^ (3 * x) ≤ 10 ^ x := by
  rw [zpow_mul]
  exact zpow_le_zpow_left₀ hx (by norm_num) (by norm_num)

theorem ten_pow_le_two {x : Int} (hx : x ≤ 0) : (10 : ℚ) ^ x ≤ 2 ^ (3 * x) := by
  have h := two_pow_le_ten (x := -x) (by omega)
  rw [mul_neg, zpow_neg, zpow_neg] at h
  exact (inv_le_inv₀ (by positivity) (by positivity)).mp h

theorem zpow_of_neg {x : Int} (hx : x < 0) : (10 : ℚ) ^ x = (10 ^ x.natAbs)⁻¹ := by
  rw [← zpow_natCast, ← zpow_neg]
  congr 1
  omega

theorem zpow_of_nonneg {x : Int} (hx : ¬ x < 0) : (10 : ℚ) ^ x = 10 ^ x.natAbs := by
  rw [← zpow_natCast]
  congr 1
  omega

section Decimal

variable {digits m : Nat} {exponent e : Int} (h : Canonical m e) (he : e ≤ 971) (hd : 0 < digits)
  (hy : RoundsTo (digits * 10 ^ exponent / 2 ^ e) m e)

include h hy

include hd

/-- A decimal that is no whole multiple of a power of ten is a quotient by one. -/
theorem ofScientific_negative (hneg : ¬ 0 ≤ exponent) {h₁ : 0 < 10 ^ (-exponent).toNat} :
    UnpackedFloat.div Format.binary64 (.finite .positive digits 0 hd)
      (.finite .positive (10 ^ (-exponent).toNat) 0 h₁) = .finite .positive m e h.pos := by
  refine div_eq h ?_
  have hnat : (-exponent).toNat = exponent.natAbs := by omega
  have hval : (digits * 2 ^ (0 : Int) / ((10 ^ (-exponent).toNat : Nat) * 2 ^ (0 : Int)) : ℚ) =
      digits * 10 ^ exponent := by
    rw [zpow_of_neg (by omega), hnat, zpow_zero, mul_one, mul_one]
    push_cast
    exact div_eq_mul_inv _ _
  rw [hval]
  exact hy

/-- A whole one is a product, of which the first factor is given enough bits. -/
theorem ofScientific_positive (hpos : 0 ≤ exponent) {h₁ : 0 < digits <<< 53}
    {h₂ : 0 < 10 ^ exponent.toNat} :
    UnpackedFloat.mul Format.binary64 (.finite .positive (digits <<< 53) (-53) h₁)
      (.finite .positive (10 ^ exponent.toNat) 0 h₂) = .finite .positive m e h.pos := by
  refine mul_eq h ?_ ?_
  · rw [Nat.shiftLeft_eq]
    calc 2 ^ 52 ≤ digits * 2 ^ 53 := (Nat.pow_le_pow_right (by decide) (by decide)).trans
          (Nat.le_mul_of_pos_left _ hd)
      _ ≤ digits * 2 ^ 53 * 10 ^ exponent.toNat := Nat.le_mul_of_pos_right _ h₂
  · have hnat : exponent.toNat = exponent.natAbs := by omega
    have hval : ((digits <<< 53 : Nat) * 2 ^ (-53 : Int) *
        ((10 ^ exponent.toNat : Nat) * 2 ^ (0 : Int)) : ℚ) = digits * 10 ^ exponent := by
      rw [zpow_of_nonneg (by omega), hnat, zpow_zero, mul_one, Nat.shiftLeft_eq]
      push_cast
      norm_num
      ring
    rw [hval]
    exact hy

include he

/-- Few digits and a small power of ten are floats themselves. -/
theorem ofScientific_fast (hlt : digits < 2 ^ 53) (hk : exponent.natAbs ≤ 22) :
    (Float.ofScientific digits (exponent < 0) exponent.natAbs).toModel.unpack =
      .finite .positive m e h.pos := by
  obtain ⟨m₁, e₁, hm₁, hu₁, hlow₁, hq₁⟩ := isNumber_ofNat hd hlt
  have hsize : exponent.natAbs < Float.exactlyRepresentablePowersOfTen.size := Nat.lt_succ_of_le hk
  obtain ⟨m₂, e₂, hm₂, hu₂, -, hq₂⟩ := isNumber_power hsize
  rw [Float.ofScientific, dif_pos ⟨hlt, hk⟩]
  by_cases hneg : exponent < 0
  · have hpow : (digits * 10 ^ exponent : ℚ) = m₁ * 2 ^ e₁ / (m₂ * 2 ^ e₂) := by
      rw [hq₁, hq₂, zpow_of_neg hneg, div_eq_mul_inv]
    rw [if_pos (decide_eq_true hneg)]
    change (Float.Model.pack (UnpackedFloat.div Format.binary64 digits.toUInt64.toFloat.toModel.unpack
      Float.exactlyRepresentablePowersOfTen[exponent.natAbs].toModel.unpack)).unpack = _
    rw [hu₁, hu₂, div_eq h (hpow ▸ hy)]
    exact unpack_pack .positive h he
  · have hpow : (digits * 10 ^ exponent : ℚ) = m₁ * 2 ^ e₁ * (m₂ * 2 ^ e₂) := by
      rw [hq₁, hq₂, zpow_of_nonneg hneg]
    rw [if_neg (by simpa using hneg)]
    change (Float.Model.pack (UnpackedFloat.mul Format.binary64 digits.toUInt64.toFloat.toModel.unpack
      Float.exactlyRepresentablePowersOfTen[exponent.natAbs].toModel.unpack)).unpack = _
    rw [hu₁, hu₂, mul_eq h (hlow₁.trans (Nat.le_mul_of_pos_right _ hm₂)) (hpow ▸ hy)]
    exact unpack_pack .positive h he

omit hd in
/-- What is rounded to a float is neither too small for one nor too large. -/
theorem number_bounds : (2 : ℚ) ^ (-1075 : Int) ≤ digits * 10 ^ exponent ∧
    (digits * 10 ^ exponent : ℚ) < 2 ^ (1024 : Int) := by
  obtain ⟨hlow, hhigh⟩ := hy.bounds
  have hgap := gapBelow_le m e
  have hm : (1 : ℚ) ≤ m := by exact_mod_cast h.pos
  have hm' : (m : ℚ) + 1 ≤ 2 ^ 53 := by exact_mod_cast h.lt
  have hleast := h.least
  have hpos : (0 : ℚ) < 2 ^ e := by positivity
  constructor
  · calc (2 : ℚ) ^ (-1075 : Int) ≤ 2 ^ (-1 + e) := zpow_le_zpow_right₀ one_le_two (by omega)
      _ = 1 / 2 * 2 ^ e := by rw [zpow_add₀ two_ne_zero]; norm_num
      _ ≤ digits * 10 ^ exponent := (le_div_iff₀ hpos).mp (by linarith)
  · calc (digits * 10 ^ exponent : ℚ) < 2 ^ (53 : Int) * 2 ^ e :=
          (div_lt_iff₀ hpos).mp (by norm_num at hm' ⊢; linarith)
      _ = 2 ^ (53 + e) := (zpow_add₀ two_ne_zero _ _).symm
      _ ≤ 2 ^ (1024 : Int) := zpow_le_zpow_right₀ one_le_two (by omega)

/-- Otherwise the power of ten is taken as it is, however large. -/
theorem ofScientific_slow :
    (Float.Model.ofScientific digits exponent).unpack = .finite .positive m e h.pos := by
  obtain ⟨hlow, hhigh⟩ := number_bounds h he hy
  have hone : (1 : ℚ) ≤ digits := by exact_mod_cast hd
  have hlarge : ¬ exponent > 2 ^ Format.binary64.exponentBits := by
    intro hlarge
    have hlarge : 2048 < exponent := hlarge
    have hpow := two_pow_le_ten (x := exponent) (by omega)
    have : (2 : ℚ) ^ (1024 : Int) ≤ 2 ^ (3 * exponent) := zpow_le_zpow_right₀ one_le_two (by omega)
    have : (10 : ℚ) ^ exponent ≤ digits * 10 ^ exponent := le_mul_of_one_le_left (by positivity) hone
    linarith
  have hsmall : ¬ exponent < -((2 ^ Format.binary64.exponentBits : Int) + digits.log2) := by
    intro hsmall
    have hsmall : exponent < -(2048 + (digits.log2 : Int)) := hsmall
    have hpow := ten_pow_le_two (x := exponent) (by omega)
    have hlog : (digits : ℚ) < 2 ^ ((digits.log2 + 1 : Nat) : Int) := by
      rw [zpow_natCast]
      exact_mod_cast Nat.lt_log2_self
    have : (2 : ℚ) ^ ((digits.log2 + 1 : Nat) : Int) * 2 ^ (3 * exponent) ≤ 2 ^ (-1075 : Int) := by
      rw [← zpow_add₀ two_ne_zero]
      exact zpow_le_zpow_right₀ one_le_two (by push_cast; omega)
    have : (digits * 10 ^ exponent : ℚ) < 2 ^ ((digits.log2 + 1 : Nat) : Int) * 2 ^ (3 * exponent) :=
      mul_lt_mul hlog hpow (by positivity) (by positivity)
    linarith
  have hs : UnpackedFloat.ofScientific Format.binary64 digits exponent = .finite .positive m e h.pos := by
    rw [UnpackedFloat.ofScientific, dif_neg (Nat.ne_of_gt hd), if_neg hlarge, if_neg hsmall]
    split
    · rename_i hpos
      exact ofScientific_positive h hd hy hpos
    · rename_i hneg
      exact ofScientific_negative h hd hy hneg
  change (Float.Model.pack (UnpackedFloat.ofScientific Format.binary64 digits exponent)).unpack = _
  rw [hs]
  exact unpack_pack .positive h he

/-- Neither guard against huge powers stands in the way. -/
theorem size_bounds : ((Decimal.digitCount digits : Int) + exponent ≤ 400) ∧
    -400 ≤ (Decimal.digitCount digits : Int) + exponent := by
  obtain ⟨hlow, hhigh⟩ := number_bounds h he hy
  have hcount := Decimal.digitCount_pos digits
  obtain ⟨k, hk⟩ : ∃ k, Decimal.digitCount digits = k + 1 := ⟨_, (Nat.succ_pred_eq_of_pos hcount).symm⟩
  have hmin : (10 : ℚ) ^ (k : Int) ≤ digits := by
    have := Decimal.pow_le_of_pos hd
    rw [hk, Nat.add_sub_cancel] at this
    rw [zpow_natCast]
    exact_mod_cast this
  have hmax : (digits : ℚ) < 10 ^ ((k + 1 : Nat) : Int) := by
    have := Decimal.lt_pow_digitCount digits
    rw [hk] at this
    rw [zpow_natCast]
    exact_mod_cast this
  have hpos : (0 : ℚ) < 10 ^ exponent := by positivity
  rw [hk]
  constructor
  · by_contra hlarge
    have hpow := two_pow_le_ten (x := k + exponent) (by omega)
    have : (2 : ℚ) ^ (1024 : Int) ≤ 2 ^ (3 * (k + exponent)) := zpow_le_zpow_right₀ one_le_two (by omega)
    have : (10 : ℚ) ^ (k + exponent) ≤ digits * 10 ^ exponent := by
      rw [zpow_add₀ (by norm_num)]
      exact mul_le_mul_of_nonneg_right hmin hpos.le
    linarith
  · by_contra hsmall
    have hpow := ten_pow_le_two (x := (k + 1 : Nat) + exponent) (by omega)
    have : (2 : ℚ) ^ (3 * ((k + 1 : Nat) + exponent)) ≤ 2 ^ (-1075 : Int) :=
      zpow_le_zpow_right₀ one_le_two (by omega)
    have : (digits * 10 ^ exponent : ℚ) < 10 ^ ((k + 1 : Nat) + exponent) := by
      rw [zpow_add₀ (by norm_num)]
      exact mul_lt_mul_of_pos_right hmax hpos
    linarith

/-- A decimal above zero that lies around a float is read as this float. -/
theorem unpack_toFloat :
    (Decimal.toFloat false digits exponent).toModel.unpack = .finite .positive m e h.pos := by
  obtain ⟨hmax, hmin⟩ := size_bounds h he hd hy
  have hz : ¬ (digits == 0) = true := by simpa using Nat.ne_of_gt hd
  have hread : Decimal.toFloat false digits exponent =
      Float.ofScientific digits (exponent < 0) exponent.natAbs := by
    unfold Decimal.toFloat
    simp only [if_neg hz, if_neg (show ¬ (Decimal.digitCount digits : Int) + exponent > 400 by omega),
      if_neg (show ¬ (Decimal.digitCount digits : Int) + exponent < -400 by omega),
      Bool.false_eq_true, if_false]
  rw [hread]
  by_cases hfast : digits < 2 ^ 53 ∧ exponent.natAbs ≤ 22
  · exact ofScientific_fast h he hd hy hfast.1 hfast.2
  · have hexp : (if (decide (exponent < 0)) = true then Int.negOfNat exponent.natAbs
        else Int.ofNat exponent.natAbs) = exponent := by
      rw [Int.negOfNat_eq]
      split
      · rename_i hneg
        have := of_decide_eq_true hneg
        rw [Int.ofNat_eq_natCast]
        omega
      · rename_i hneg
        have hpos : ¬ exponent < 0 := fun hlt => hneg (decide_eq_true hlt)
        exact Int.natAbs_of_nonneg (by omega)
    rw [Float.ofScientific, dif_neg hfast, hexp]
    exact ofScientific_slow h he hd hy

end Decimal

/-- The sign that a flag stands for. -/
def signOf (neg : Bool) : Sign := if neg then .negative else .positive

theorem unpack_of_floatParts {x : Float} {neg : Bool} {m : Nat} {e : Int}
    (hx : floatParts x = some (neg, m, e)) :
    (∃ h, x.toModel.unpack = .finite (signOf neg) m e h) ∨
      x.toModel.unpack = .zero (signOf neg) ∧ m = 0 := by
  unfold floatParts at hx
  dsimp only at hx
  split at hx
  · rename_i s m' e' h hu
    obtain ⟨rfl, rfl, rfl⟩ := hx
    exact .inl ⟨h, by cases s <;> exact hu⟩
  · rename_i s hu
    obtain ⟨rfl, rfl, rfl⟩ := hx
    exact .inr ⟨by cases s <;> exact hu, rfl⟩
  · cases hx

/-- A float is made of what it is taken apart into. -/
theorem eq_ofModel_pack {x : Float} {u : UnpackedFloat} (hx : x.toModel.unpack = u) :
    x = Float.ofModel (Float.Model.pack u) := by
  rw [← hx, pack_unpack]

theorem neg_eq {x : Float} {u : UnpackedFloat} (hx : x.toModel.unpack = u) :
    -x = Float.ofModel (Float.Model.pack u.neg) := by
  rw [← hx]
  rfl

section Read

variable {x : Float} {neg : Bool} {digits m : Nat} {exponent e : Int}
  (hx : floatParts x = some (neg, m, e))

include hx

/-- **A decimal that lies around a float is read as this float**, with its sign. -/
theorem toFloat_eq (hm : 0 < m) (hd : 0 < digits)
    (hy : RoundsTo (digits * 10 ^ exponent / 2 ^ e) m e) :
    Decimal.toFloat neg digits exponent = x := by
  obtain ⟨h, hu⟩ | ⟨-, hz⟩ := unpack_of_floatParts hx
  · obtain ⟨hc, he⟩ := canonical_of_unpack hu
    have hread := unpack_toFloat hc he hd hy
    rw [eq_ofModel_pack hu]
    cases neg with
    | false => exact eq_ofModel_pack hread
    | true => exact neg_eq hread
  · exact absurd hz (Nat.ne_of_gt hm)

/-- Zeros are read as a zero with the sign. -/
theorem toFloat_zero (hm : m = 0) : Decimal.toFloat neg 0 exponent = x := by
  obtain ⟨h, -⟩ | ⟨hu, -⟩ := unpack_of_floatParts hx
  · exact absurd hm (Nat.ne_of_gt h)
  · rw [eq_ofModel_pack hu]
    have hzero : (0.0 : Float).toModel.unpack = .zero .positive := rfl
    cases neg with
    | false => exact eq_ofModel_pack hzero
    | true => exact neg_eq hzero

end Read

end SuiteEngine
