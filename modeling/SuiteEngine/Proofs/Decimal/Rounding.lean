import SuiteEngine.Proofs.Decimal.Packing

/-!
# What is rounded to a float

A mantissa is rounded with two further bits at hand: they say where in the gap above it the number
lies that it stands for, and halving the number keeps this true. So whatever lies nearer to a float
than to the next one on either side is rounded to this float, and of what lies halfway between two of
them, what lies beside an even mantissa.

Headlines:
* **`Denotes`**: what a mantissa and its two bits say of a number, `Denotes.shiftRight`.
* **`RoundsTo`**: the numbers around a float.
* **`round_eq`**: they are rounded to it.
* **`round_spec`**: every number lies around a float that it is rounded to, or is next to nothing.
-/

namespace SuiteEngine

open Float.Model (UnpackedFloat Format totalExponent)
open Float.Model.UnpackedFloat

/-! ## A mantissa and its two bits -/

/-- Where the number lies, from the mantissa up to the next one. -/
def Denotes (x : ExtendedMantissa) (y : ℚ) : Prop :=
  match x.roundBit, x.stickyBit with
  | false, false => y = x.mantissa
  | false, true => x.mantissa < y ∧ y < x.mantissa + 1 / 2
  | true, false => y = x.mantissa + 1 / 2
  | true, true => x.mantissa + 1 / 2 < y ∧ y < x.mantissa + 1

/-- The number lies nearest to this one; halfway, to an even one. -/
def Nearest (y : ℚ) (n : Nat) : Prop := |y - n| < 1 / 2 ∨ |y - n| = 1 / 2 ∧ n % 2 = 0

theorem eq_of_close {m n : Nat} (h : (m : ℚ) < n + 1) (h' : (n : ℚ) < m + 1) : m = n := by
  have : m < n + 1 := by exact_mod_cast h
  have : n < m + 1 := by exact_mod_cast h'
  omega

namespace Denotes

variable {x : ExtendedMantissa} {y : ℚ}

/-- If one of the two bits is set, the number lies between the mantissa and the next one. -/
theorem strict {m : Nat} {r s : Bool} (h : Denotes ⟨m, r, s⟩ y) (hbits : (r || s) = true) :
    (m : ℚ) < y ∧ y < m + 1 := by
  match r, s, h, hbits with
  | false, true, h, _ =>
    obtain ⟨hlow, hhigh⟩ : (m : ℚ) < y ∧ y < m + 1 / 2 := h
    exact ⟨hlow, by linarith⟩
  | true, false, h, _ =>
    obtain rfl : y = m + 1 / 2 := h
    exact ⟨by linarith, by linarith⟩
  | true, true, h, _ =>
    obtain ⟨hlow, hhigh⟩ : (m : ℚ) + 1 / 2 < y ∧ y < m + 1 := h
    exact ⟨by linarith, hhigh⟩

theorem bounds (h : Denotes x y) : (x.mantissa : ℚ) ≤ y ∧ y < x.mantissa + 1 := by
  obtain ⟨m, r, s⟩ := x
  by_cases hbits : (r || s) = true
  · exact ⟨(h.strict hbits).1.le, (h.strict hbits).2⟩
  · obtain ⟨rfl, rfl⟩ : r = false ∧ s = false := by simpa using hbits
    obtain rfl : y = m := h
    exact ⟨le_refl _, by linarith⟩

theorem exact (m : Nat) : Denotes (.ofMantissaAndAccuracy m .exact) m := rfl

/-- Half the mantissa stands for half the number. -/
theorem shiftRightOne (h : Denotes x y) : Denotes x.shiftRightOne (y / 2) := by
  obtain ⟨m, r, s⟩ := x
  have hm : (m : ℚ) = 2 * (m / 2 : Nat) + (m % 2 : Nat) := by exact_mod_cast (Nat.div_add_mod m 2).symm
  unfold ExtendedMantissa.shiftRightOne
  dsimp only
  -- The last bit of the mantissa says in which half of the gap the number lies then.
  obtain hp | hp := Nat.mod_two_eq_zero_or_one m
  · rw [hp] at hm ⊢
    by_cases hbits : (r || s) = true
    · obtain ⟨hlow, hhigh⟩ := h.strict hbits
      rw [hbits]
      change ((m / 2 : Nat) : ℚ) < y / 2 ∧ y / 2 < (m / 2 : Nat) + 1 / 2
      push_cast at hm
      exact ⟨by linarith, by linarith⟩
    · obtain ⟨rfl, rfl⟩ : r = false ∧ s = false := by simpa using hbits
      obtain rfl : y = m := h
      change (m : ℚ) / 2 = (m / 2 : Nat)
      push_cast at hm
      linarith
  · rw [hp] at hm ⊢
    by_cases hbits : (r || s) = true
    · obtain ⟨hlow, hhigh⟩ := h.strict hbits
      rw [hbits]
      change ((m / 2 : Nat) : ℚ) + 1 / 2 < y / 2 ∧ y / 2 < (m / 2 : Nat) + 1
      push_cast at hm
      exact ⟨by linarith, by linarith⟩
    · obtain ⟨rfl, rfl⟩ : r = false ∧ s = false := by simpa using hbits
      obtain rfl : y = m := h
      change (m : ℚ) / 2 = (m / 2 : Nat) + 1 / 2
      push_cast at hm
      linarith

theorem shiftRight (h : Denotes x y) (k : Nat) : Denotes (x >>> k) (y / 2 ^ k) := by
  induction k with
  | zero =>
    rw [pow_zero, div_one]
    exact h
  | succ k ih =>
    rw [pow_succ, ← div_div]
    exact ih.shiftRightOne

/-- **The mantissa is rounded to the number nearest by.** -/
theorem rounded (h : Denotes x y) {n : Nat} (hn : Nearest y n) : x.roundedMantissa = n := by
  obtain ⟨m, r, s⟩ := x
  have habs : |y - n| ≤ 1 / 2 := hn.elim le_of_lt fun hn => le_of_eq hn.1
  obtain ⟨hlow, hhigh⟩ := abs_le.mp habs
  match r, s, h with
  | false, false, h =>
    change y = m at h
    change m = n
    exact eq_of_close (by linarith) (by linarith)
  | false, true, h =>
    obtain ⟨h₁, h₂⟩ : (m : ℚ) < y ∧ y < m + 1 / 2 := h
    change m = n
    exact eq_of_close (by linarith) (by linarith)
  | true, true, h =>
    obtain ⟨h₁, h₂⟩ : (m : ℚ) + 1 / 2 < y ∧ y < m + 1 := h
    change m + 1 = n
    exact eq_of_close (by push_cast; linarith) (by push_cast; linarith)
  | true, false, h =>
    -- Halfway both neighbours are as near, so the number is the even one of them.
    change y = m + 1 / 2 at h
    have hm : m ≤ n := by
      have : (m : ℚ) < n + 1 := by linarith
      exact Nat.lt_succ_iff.mp (by exact_mod_cast this)
    have hm' : n ≤ m + 1 := by
      have : (n : ℚ) < m + 2 := by linarith
      exact Nat.lt_succ_iff.mp (by exact_mod_cast this)
    have heven : n % 2 = 0 := by
      refine hn.resolve_left (fun hlt => ?_) |>.2
      obtain ⟨h₁, h₂⟩ := abs_lt.mp hlt
      have : (m : ℚ) < n := by linarith
      have : (n : ℚ) < m + 1 := by linarith
      have : m < n := by assumption_mod_cast
      have : n < m + 1 := by assumption_mod_cast
      omega
    change m + m % 2 = n
    omega

/-- The number that the mantissa is rounded to is nearest by. -/
theorem nearest_rounded (h : Denotes x y) : Nearest y x.roundedMantissa := by
  obtain ⟨m, r, s⟩ := x
  match r, s, h with
  | false, false, h =>
    obtain rfl : y = m := h
    change Nearest m m
    exact .inl (by norm_num)
  | false, true, h =>
    obtain ⟨h₁, h₂⟩ : (m : ℚ) < y ∧ y < m + 1 / 2 := h
    change Nearest y m
    exact .inl (abs_lt.mpr ⟨by linarith, by linarith⟩)
  | true, true, h =>
    obtain ⟨h₁, h₂⟩ : (m : ℚ) + 1 / 2 < y ∧ y < m + 1 := h
    change Nearest y (m + 1)
    exact .inl (abs_lt.mpr ⟨by push_cast; linarith, by push_cast; linarith⟩)
  | true, false, h =>
    -- Halfway, the even one of both neighbours is taken.
    obtain rfl : y = m + 1 / 2 := h
    change Nearest (m + 1 / 2) (m + m % 2)
    refine .inr ⟨?_, by omega⟩
    obtain hp | hp := Nat.mod_two_eq_zero_or_one m
    · rw [hp, add_zero, add_sub_cancel_left]
      norm_num
    · rw [hp, Nat.cast_add, Nat.cast_one, add_sub_add_left_eq_sub]
      norm_num

end Denotes

/-! ## The numbers around a float -/

/-- How far the numbers that are rounded to `m · 2^e` go down from it, counted in units of `2^e`. Below
a power of two, the least normal one apart, floats lie twice as close. -/
def gapBelow (m : Nat) (e : Int) : ℚ := if m = 2 ^ 52 ∧ -1074 < e then 1 / 4 else 1 / 2

/-- The number of units of `2^e` lies around `m`, so that it is rounded to `m · 2^e`. The two ends belong
to an even mantissa. -/
def RoundsTo (y : ℚ) (m : Nat) (e : Int) : Prop :=
  (m - gapBelow m e < y ∨ m % 2 = 0 ∧ m - gapBelow m e = y) ∧
    (y < m + 1 / 2 ∨ m % 2 = 0 ∧ y = m + 1 / 2)

theorem gapBelow_le (m : Nat) (e : Int) : gapBelow m e ≤ 1 / 2 := by
  unfold gapBelow
  split <;> norm_num

theorem gapBelow_pos (m : Nat) (e : Int) : 0 < gapBelow m e := by
  unfold gapBelow
  split <;> norm_num

section RoundsTo

variable {y : ℚ} {m : Nat} {e : Int}

theorem RoundsTo.bounds (h : RoundsTo y m e) : m - gapBelow m e ≤ y ∧ y ≤ m + 1 / 2 :=
  ⟨h.1.elim le_of_lt fun h => le_of_eq h.2, h.2.elim le_of_lt fun h => le_of_eq h.2⟩

theorem RoundsTo.nearest (h : RoundsTo y m e) : Nearest y m := by
  obtain ⟨hlow, hhigh⟩ := h.bounds
  have hgap := gapBelow_le m e
  have habs : |y - m| ≤ 1 / 2 := abs_le.mpr ⟨by linarith, by linarith⟩
  rcases habs.lt_or_eq with hlt | heq
  · exact .inl hlt
  refine .inr ⟨heq, ?_⟩
  -- At an end of the interval, which would be open at an odd mantissa.
  rcases h.1 with hl | ⟨heven, -⟩
  · rcases h.2 with hr | ⟨heven, -⟩
    · have hlt : |y - m| < 1 / 2 := abs_lt.mpr ⟨by linarith, by linarith⟩
      exact absurd heq (ne_of_lt hlt)
    · exact heven
  · exact heven

/-- What is rounded to a power of two from below, counted in smaller units. -/
theorem RoundsTo.nearest_below (h : RoundsTo y (2 ^ 52) e) (he : -1074 < e) (hy : y < 2 ^ 52) :
    Nearest (2 * y) (2 ^ 53) := by
  have hlow := h.bounds.1
  have hgap : gapBelow (2 ^ 52) e = 1 / 4 := if_pos ⟨rfl, he⟩
  rw [hgap] at hlow
  push_cast at hlow
  have habs : |2 * y - (2 ^ 53 : Nat)| ≤ 1 / 2 := by
    push_cast
    exact abs_le.mpr ⟨by linarith, by linarith⟩
  exact habs.lt_or_eq.imp id fun h => ⟨h, by decide⟩

end RoundsTo

/-- What is nearest to a number is the mantissa of a float around it, unless it is nothing or has a bit too
many. -/
theorem roundsTo_of_nearest {y : ℚ} {n : Nat} {t : Int} (hn : Nearest y n) (hpos : 0 < n)
    (hlt : n < 2 ^ 53) (ht : -1074 ≤ t) (hlow : t = -1074 ∨ 2 ^ 52 ≤ y) :
    Canonical n t ∧ RoundsTo y n t := by
  have habs : |y - n| ≤ 1 / 2 := hn.elim le_of_lt fun hn => le_of_eq hn.1
  obtain ⟨habove, hbelow⟩ := abs_le.mp habs
  have heven : |y - n| = 1 / 2 → n % 2 = 0 := fun h => (hn.resolve_left (not_lt_of_ge h.ge)).2
  refine ⟨⟨hpos, hlt, ht, hlow.symm.imp_left fun hlow => ?_⟩, ?_, ?_⟩
  · have : (2 ^ 52 : ℚ) < n + 1 := by linarith
    exact Nat.lt_succ_iff.mp (by exact_mod_cast this)
  · unfold gapBelow
    split
    · -- Below a power of two the gap is smaller, but the number does not lie below it.
      rename_i hgap
      have hlow := hlow.resolve_left (by omega)
      have hn : (n : ℚ) = 2 ^ 52 := by exact_mod_cast hgap.1
      exact .inl (by linarith)
    · rcases habove.lt_or_eq with h | h
      · exact .inl (by linarith)
      · exact .inr ⟨heven (by rw [← h]; norm_num), by linarith⟩
  · rcases hbelow.lt_or_eq with h | h
    · exact .inl (by linarith)
    · exact .inr ⟨heven (by rw [h]; norm_num), by linarith⟩

/-! ## Rounding to a float -/

/-- The exponent that the format asks of a number. -/
theorem targetExponent_eq (m : Nat) (e : Int) :
    Format.binary64.targetExponent (totalExponent m e) = max (m.log2 + 1 + e - 53) (-1074) := rfl

/-- What a shift by so many bits leaves. -/
theorem shiftToTargetExponent_eq {m k : Nat} {e t : Int} {a : Accuracy}
    (ht : Format.binary64.targetExponent (totalExponent m e) = t) (hk : t = e + k) :
    shiftToTargetExponent Format.binary64 m e a =
      (ExtendedMantissa.ofMantissaAndAccuracy m a >>> k, t) := by
  have hshift : (t - e).toNat = k := by omega
  unfold shiftToTargetExponent shiftToExponent
  dsimp only
  rw [ht, hshift, ← hk]

/-- A mantissa that fits stays as it is. -/
theorem shift_canonical {m : Nat} {e : Int} (h : Canonical m e) :
    shiftToTargetExponent Format.binary64 m e .exact = (⟨m, false, false⟩, e) := by
  have hlog : m.log2 < 53 := (Nat.log2_lt (Nat.ne_of_gt h.pos)).mpr h.lt
  have hnormal : 52 ≤ m.log2 ∨ e = -1074 := h.normal.imp_left (Nat.le_log2 (Nat.ne_of_gt h.pos)).mpr
  have hleast := h.least
  have ht : Format.binary64.targetExponent (totalExponent m e) = e := by
    rw [targetExponent_eq]
    omega
  exact shiftToTargetExponent_eq (k := 0) ht (Int.add_zero e).symm

/-- A mantissa that grew by a bit is halved. -/
theorem shift_overflow {e : Int} (he : -1074 < e) :
    shiftToTargetExponent Format.binary64 (2 ^ 53) (e - 1) .exact = (⟨2 ^ 52, false, false⟩, e) := by
  have ht : Format.binary64.targetExponent (totalExponent (2 ^ 53) (e - 1)) = e := by
    rw [targetExponent_eq, Nat.log2_two_pow]
    omega
  exact shiftToTargetExponent_eq (k := 1) ht (Int.sub_add_cancel e 1).symm

theorem shifted_mantissa (x : ExtendedMantissa) (k : Nat) :
    (x >>> k).mantissa = x.mantissa / 2 ^ k := by
  induction k with
  | zero => exact (Nat.div_one _).symm
  | succ k ih =>
    change (x >>> k).mantissa / 2 = _
    rw [ih, Nat.div_div_eq_div_mul, pow_succ]

theorem mantissa_ofAccuracy (m : Nat) (a : Accuracy) :
    (ExtendedMantissa.ofMantissaAndAccuracy m a).mantissa = m := by
  cases a with
  | exact => rfl
  | inexact o => cases o <;> rfl

section Round

variable {M : Nat} {E : Int} {a : Accuracy} {y : ℚ}

/-- The first shift: the mantissa stands for the number counted in units of the target exponent `t`, has no
more bits than there is room for, and no fewer unless the exponent is the least. -/
theorem shift_denotes (hd : Denotes (.ofMantissaAndAccuracy M a) y)
    (hbits : 2 ^ 52 ≤ M ∨ E ≤ -1074) :
    ∃ x t, shiftToTargetExponent Format.binary64 M E a = (x, t) ∧
      Denotes x (y * 2 ^ (E - t)) ∧ -1074 ≤ t ∧ y * 2 ^ (E - t) < 2 ^ 53 ∧
      (t = -1074 ∨ 2 ^ 52 ≤ y * 2 ^ (E - t)) := by
  obtain ⟨hlow, hhigh⟩ := hd.bounds
  rw [mantissa_ofAccuracy] at hlow hhigh
  obtain ⟨t, ht⟩ : ∃ t, Format.binary64.targetExponent (totalExponent M E) = t := ⟨_, rfl⟩
  have hmax := ht
  rw [targetExponent_eq] at hmax
  have hE : E ≤ t := by
    rcases hbits with hM | hE
    · have : 52 ≤ M.log2 := (Nat.le_log2 (by omega)).mpr hM
      omega
    · omega
  obtain ⟨k, hk⟩ : ∃ k : Nat, t = E + k := ⟨(t - E).toNat, by omega⟩
  have hunit : y * 2 ^ (E - t) = y / 2 ^ k := by
    rw [hk, show E - (E + k) = -(k : Int) by omega, zpow_neg, zpow_natCast]
    rfl
  have hpos : (0 : ℚ) < 2 ^ k := by positivity
  refine ⟨_, t, shiftToTargetExponent_eq ht hk, hunit ▸ hd.shiftRight k, by omega, ?_, ?_⟩
  · have hM : M + 1 ≤ 2 ^ (53 + k) :=
      Nat.lt_log2_self.trans_le (Nat.pow_le_pow_right (by decide) (by omega))
    have hM' : (M : ℚ) + 1 ≤ 2 ^ 53 * 2 ^ k := by
      rw [← pow_add]
      exact_mod_cast hM
    rw [hunit, div_lt_iff₀ hpos]
    exact hhigh.trans_le hM'
  · by_cases hleast : t = -1074
    · exact .inl hleast
    have hM0 : M ≠ 0 := by
      rintro rfl
      simp only [Nat.log2_zero] at hmax
      omega
    have hM : 2 ^ (52 + k) ≤ M :=
      (Nat.pow_le_pow_right (by decide) (by omega)).trans (Nat.log2_self_le hM0)
    have hM' : (2 : ℚ) ^ 52 * 2 ^ k ≤ M := by
      rw [← pow_add]
      exact_mod_cast hM
    refine .inr ?_
    rw [hunit, le_div_iff₀ hpos]
    exact hM'.trans hlow

/-- **What lies around a float is rounded to it**, given a mantissa that has as many bits as the format asks
for, or an exponent that is not above the least. -/
theorem round_eq {m : Nat} {e : Int} (h : Canonical m e)
    (hd : Denotes (.ofMantissaAndAccuracy M a) (y * 2 ^ (e - E)))
    (hbits : 2 ^ 52 ≤ M ∨ E ≤ -1074) (hy : RoundsTo y m e) :
    roundWithAccuracy Format.binary64 .positive M E a = .finite .positive m e h.pos := by
  obtain ⟨x, t, hshift, hx, ht, hhigh, hlow⟩ := shift_denotes hd hbits
  have hunit : y * 2 ^ (e - E) * 2 ^ (E - t) = y * 2 ^ (e - t) := by
    rw [mul_assoc, ← zpow_add₀ two_ne_zero, sub_add_sub_cancel]
  rw [hunit] at hx hhigh hlow
  obtain ⟨hylow, hyhigh⟩ := hy.bounds
  have hgap := gapBelow_le m e
  have hmlt : (m : ℚ) + 1 ≤ 2 ^ 53 := by exact_mod_cast h.lt
  have hmpos : (1 : ℚ) ≤ m := by exact_mod_cast h.pos
  have hleast := h.least
  -- The target exponent is that of the float, or one less for what is rounded up to a power of two.
  have hte : t ≤ e := by
    by_contra hlt
    have hpow : (2 : ℚ) ^ (e - t) ≤ 2 ^ (-1 : Int) := zpow_le_zpow_right₀ one_le_two (by omega)
    have hlow := hlow.resolve_left (by omega)
    rw [zpow_neg_one] at hpow
    nlinarith
  have hnormal : t < e → (2 : ℚ) ^ 52 ≤ m := fun hlt => by
    exact_mod_cast h.normal.resolve_right (by omega)
  have het : e - 1 ≤ t := by
    by_contra hlt
    have hm := hnormal (by omega)
    have hpow : (2 : ℚ) ^ (2 : Int) ≤ 2 ^ (e - t) := zpow_le_zpow_right₀ one_le_two (by omega)
    rw [show (2 : ℚ) ^ (2 : Int) = 4 by norm_num] at hpow
    nlinarith
  rcases hte.eq_or_lt with rfl | hlt
  · rw [Int.sub_self, zpow_zero, mul_one] at hx
    rw [roundWithAccuracy, hshift]
    dsimp only
    rw [hx.rounded hy.nearest, shift_canonical h]
    exact dif_neg (Nat.ne_of_gt h.pos)
  · obtain rfl : t = e - 1 := by omega
    rw [show e - (e - 1) = 1 by omega, zpow_one] at hx hhigh
    have hm := hnormal hlt
    obtain rfl : m = 2 ^ 52 := eq_of_close (by push_cast; linarith) (by push_cast; linarith)
    have hnear := hy.nearest_below (by omega) (by linarith)
    rw [mul_comm] at hnear
    rw [roundWithAccuracy, hshift]
    dsimp only
    rw [hx.rounded hnear, shift_overflow (by omega)]
    exact dif_neg (Nat.ne_of_gt h.pos)

/-- What is rounded to nothing stays nothing. -/
theorem round_zero {x : ExtendedMantissa} {t : Int}
    (hshift : shiftToTargetExponent Format.binary64 M E a = (x, t)) (hx : x.roundedMantissa = 0) :
    roundWithAccuracy Format.binary64 .positive M E a = .zero .positive := by
  have hnone : (shiftToTargetExponent Format.binary64 0 t .exact).1.mantissa = 0 := by
    rw [shiftToTargetExponent, shiftToExponent]
    simp only [shifted_mantissa, mantissa_ofAccuracy, Nat.zero_div]
  rw [roundWithAccuracy, hshift]
  dsimp only
  rw [hx]
  exact dif_pos hnone

/-- **Every number above zero is rounded to a float that it lies around**, or to zero if it is at most half
of the smallest float. -/
theorem round_spec (hd : Denotes (.ofMantissaAndAccuracy M a) y) (hbits : 2 ^ 52 ≤ M ∨ E ≤ -1074) :
    (roundWithAccuracy Format.binary64 .positive M E a = .zero .positive ∧
        y * 2 ^ E ≤ 2 ^ (-1075 : Int)) ∨
      ∃ m e h, Canonical m e ∧ RoundsTo (y * 2 ^ E / 2 ^ e) m e ∧
        roundWithAccuracy Format.binary64 .positive M E a = .finite .positive m e h := by
  have hunit : ∀ e : Int, y * 2 ^ E / 2 ^ e = y * 2 ^ (E - e) := fun e => by
    rw [zpow_sub₀ two_ne_zero, mul_div_assoc]
  have hfinite : ∀ {m e}, Canonical m e → RoundsTo (y * 2 ^ (E - e)) m e →
      ∃ m e h, Canonical m e ∧ RoundsTo (y * 2 ^ E / 2 ^ e) m e ∧
        roundWithAccuracy Format.binary64 .positive M E a = .finite .positive m e h := by
    intro m e hc hy
    refine ⟨m, e, hc.pos, hc, by rwa [hunit], round_eq hc ?_ hbits hy⟩
    rwa [mul_assoc, ← zpow_add₀ two_ne_zero, sub_add_sub_cancel, Int.sub_self, zpow_zero, mul_one]
  obtain ⟨x, t, hshift, hx, ht, hhigh, hlow⟩ := shift_denotes hd hbits
  have hnear := hx.nearest_rounded
  have habs : |y * 2 ^ (E - t) - x.roundedMantissa| ≤ 1 / 2 :=
    hnear.elim le_of_lt fun hn => le_of_eq hn.1
  obtain ⟨habove, hbelow⟩ := abs_le.mp habs
  have hle : x.roundedMantissa ≤ 2 ^ 53 := by
    have : (x.roundedMantissa : ℚ) < 2 ^ 53 + 1 := by linarith
    exact Nat.lt_succ_iff.mp (by exact_mod_cast this)
  rcases Nat.eq_zero_or_pos x.roundedMantissa with hzero | hpos
  · refine .inl ⟨round_zero hshift hzero, ?_⟩
    rw [hzero, Nat.cast_zero, sub_zero] at hbelow
    obtain rfl : t = -1074 := hlow.resolve_right (by norm_num; linarith)
    rw [← hunit, div_le_iff₀ (by positivity)] at hbelow
    have hhalf : (1 / 2 * 2 ^ (-1074 : Int) : ℚ) = 2 ^ (-1075 : Int) := by
      rw [show (-1075 : Int) = -1074 - 1 from rfl, zpow_sub_one₀ two_ne_zero, mul_comm, one_div]
    exact hhalf ▸ hbelow
  refine .inr ?_
  rcases hle.lt_or_eq with hlt | hmax
  · obtain ⟨hc, hy⟩ := roundsTo_of_nearest hnear hpos hlt ht hlow
    exact hfinite hc hy
  · -- The mantissa has grown by a bit: the float is the next power of two.
    have hc : Canonical (2 ^ 52) (t + 1) := ⟨by decide, by decide, by omega, .inl le_rfl⟩
    have hhalf : y * 2 ^ (E - (t + 1)) = y * 2 ^ (E - t) / 2 := by
      rw [← sub_sub, zpow_sub_one₀ two_ne_zero, ← mul_assoc, div_eq_mul_inv]
    have hgap : gapBelow (2 ^ 52) (t + 1) = 1 / 4 := if_pos ⟨rfl, by omega⟩
    rw [hmax] at habove
    push_cast at habove
    refine hfinite hc ?_
    rw [RoundsTo, hgap, hhalf]
    push_cast
    refine ⟨?_, .inl (by linarith)⟩
    rcases habove.lt_or_eq with h | h
    · exact .inl (by linarith)
    · exact .inr ⟨by decide, by linarith⟩

end Round

end SuiteEngine
