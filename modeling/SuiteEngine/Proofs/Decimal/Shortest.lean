import SuiteEngine.Proofs.Decimal.Reading

/-!
# The shortest decimal is read back

The decimals that are tested for a float are the neighbours of it on a grid. A hit lies around the float;
a grid of seventeen digits is so narrow that it has one, whatever the float is, so the search finds a
decimal that is read as the float again.

Headlines:
* `Interval.holds_iff`, `around_iff`: what the test of a decimal says.
* `pointOf_spec`: how large a quotient is.
* `neighbour_spec`, `neighbour_isSome`: a hit, and where there is one.
* **`shortest_roundsTo`**: the shortest decimal lies around its float.
-/

namespace SuiteEngine.Decimal

/-! ## The test of a decimal -/

/-- The number lies in the interval. -/
def Interval.Holds (i : Interval) (x : ℚ) : Prop :=
  ((i.low : ℚ) / i.den < x ∨ i.closed = true ∧ (i.low : ℚ) / i.den = x) ∧
    (x < (i.high : ℚ) / i.den ∨ i.closed = true ∧ x = (i.high : ℚ) / i.den)

theorem Interval.holds_iff {i : Interval} (hi : 0 < i.den) {num den : Nat} (hd : 0 < den) :
    i.holds num den = true ↔ i.Holds ((num : ℚ) / den) := by
  have hi' : (0 : ℚ) < i.den := by exact_mod_cast hi
  have hd' : (0 : ℚ) < den := by exact_mod_cast hd
  unfold Interval.holds Interval.Holds
  rw [div_lt_div_iff₀ hi' hd', div_lt_div_iff₀ hd' hi', div_eq_div_iff hi'.ne' hd'.ne',
    div_eq_div_iff hd'.ne' hi'.ne']
  simp only [Bool.and_eq_true, Bool.or_eq_true, decide_eq_true_eq, beq_iff_eq]
  norm_cast

section Around

variable {m : Nat} (hm : 0 < m) (e : Int)

theorem around_den_pos : 0 < (Interval.around m e).den := by
  unfold Interval.around
  dsimp only
  split
  · decide
  · exact Nat.mul_pos (by decide) (Nat.two_pow_pos _)

include hm

theorem around_ends :
    ((Interval.around m e).low : ℚ) / (Interval.around m e).den = (m - gapBelow m e) * 2 ^ e ∧
      ((Interval.around m e).high : ℚ) / (Interval.around m e).den = (m + 1 / 2) * 2 ^ e := by
  have hgap : ((4 * m - (if (m == 2 ^ 52 && decide (e > -1074)) = true then 1 else 2) : Nat) : ℚ) =
      4 * (m - gapBelow m e) := by
    unfold gapBelow
    by_cases h : m = 2 ^ 52 ∧ -1074 < e
    · rw [if_pos (by simpa using h), if_pos h, Nat.cast_sub (by omega)]
      push_cast
      ring
    · rw [if_neg (by simpa using h), if_neg h, Nat.cast_sub (by omega)]
      push_cast
      ring
  unfold Interval.around
  simp only [Nat.pow_eq]
  by_cases he : 0 ≤ e
  · obtain ⟨k, rfl⟩ := Int.eq_ofNat_of_zero_le he
    rw [if_pos he, if_pos he, Nat.cast_mul, hgap, Int.toNat_natCast, zpow_natCast]
    constructor
    · push_cast
      ring
    · push_cast
      ring
  · obtain ⟨k, rfl⟩ : ∃ k : Nat, e = -(k : Int) := ⟨e.natAbs, by omega⟩
    rw [if_neg he, if_neg he, Nat.cast_mul, hgap, Int.natAbs_neg, Int.natAbs_natCast, zpow_neg,
      zpow_natCast]
    constructor
    · push_cast
      field_simp
    · push_cast
      field_simp
      ring

/-- The interval around a float holds what is rounded to it. -/
theorem around_iff {x : ℚ} : (Interval.around m e).Holds x ↔ RoundsTo (x / 2 ^ e) m e := by
  have hpos : (0 : ℚ) < 2 ^ e := by positivity
  have hclosed : (Interval.around m e).closed = true ↔ m % 2 = 0 := beq_iff_eq
  obtain ⟨hlow, hhigh⟩ := around_ends hm e
  unfold Interval.Holds RoundsTo
  rw [hlow, hhigh, hclosed, lt_div_iff₀ hpos, div_lt_iff₀ hpos, eq_div_iff hpos.ne',
    div_eq_iff hpos.ne']

end Around

/-! ## How large a quotient is -/

theorem log10Floor_spec {num den : Nat} (hd : 0 < den) (h : den ≤ num) :
    10 ^ log10Floor num den * den ≤ num ∧ num < 10 ^ (log10Floor num den + 1) * den := by
  have hq : 0 < num / den := Nat.div_pos h hd
  have hk : log10Floor num den + 1 = digitCount (num / den) := by
    have := digitCount_pos (num / den)
    unfold log10Floor
    omega
  constructor
  · exact (Nat.le_div_iff_mul_le hd).mp (pow_le_of_pos hq)
  · rw [hk]
    exact (Nat.div_lt_iff_lt_mul hd).mp (lt_pow_digitCount _)

theorem pointOf_spec {num den : Nat} (hn : 0 < num) (hd : 0 < den) :
    (10 : ℚ) ^ (pointOf num den - 1) ≤ (num : ℚ) / den ∧ (num : ℚ) / den < 10 ^ pointOf num den := by
  have hn' : (0 : ℚ) < num := by exact_mod_cast hn
  have hd' : (0 : ℚ) < den := by exact_mod_cast hd
  unfold pointOf
  by_cases h : den ≤ num
  · obtain ⟨hlow, hhigh⟩ := log10Floor_spec hd h
    rw [if_pos h, Int.add_sub_cancel, le_div_iff₀ hd', div_lt_iff₀ hd', zpow_natCast,
      ← Int.natCast_succ, zpow_natCast]
    exact ⟨by exact_mod_cast hlow, by exact_mod_cast hhigh⟩
  · obtain ⟨hlow, hhigh⟩ := log10Floor_spec hn (Nat.le_of_not_le h)
    rw [if_neg h]
    simp only [Nat.pow_eq]
    generalize log10Floor den num = k at hlow hhigh
    have hlow' : (10 : ℚ) ^ k * num ≤ den := by exact_mod_cast hlow
    have hhigh' : (den : ℚ) < 10 ^ (k + 1) * num := by exact_mod_cast hhigh
    -- The power of ten itself is one more digit than what lies right below it.
    split
    · rename_i heq
      have heq' : (10 : ℚ) ^ k * num = den := by exact_mod_cast heq
      have hval : (num : ℚ) / den = 10 ^ (-(k : Int)) := by
        rw [zpow_neg, zpow_natCast, ← heq']
        field_simp
      rw [hval]
      exact ⟨zpow_le_zpow_right₀ (by norm_num) (by omega), zpow_lt_zpow_right₀ (by norm_num) (by omega)⟩
    · rename_i hne
      have hlt : (10 : ℚ) ^ k * num < den := lt_of_le_of_ne hlow' fun h => hne (by exact_mod_cast h)
      constructor
      · rw [show -(k : Int) - 1 = -((k + 1 : Nat) : Int) by omega, zpow_neg, zpow_natCast,
          inv_eq_one_div, div_le_div_iff₀ (by positivity) hd']
        linarith
      · rw [zpow_neg, zpow_natCast, inv_eq_one_div, div_lt_div_iff₀ hd' (by positivity)]
        linarith

/-! ## Neighbours on a grid -/

/-- The step of a grid as a quotient. -/
theorem step_eq (unit : Int) :
    ∃ up down : Nat, (if 0 ≤ unit then Nat.pow 10 unit.toNat else 1) = up ∧
      (if 0 ≤ unit then 1 else Nat.pow 10 unit.natAbs) = down ∧ 0 < up ∧ 0 < down ∧
      (up : ℚ) / down = 10 ^ unit := by
  refine ⟨_, _, rfl, rfl, ?_⟩
  simp only [Nat.pow_eq]
  by_cases h : 0 ≤ unit
  · rw [if_pos h, if_pos h, zpow_of_nonneg (by omega), show unit.toNat = unit.natAbs by omega]
    exact ⟨by positivity, by decide, by push_cast; exact div_one _⟩
  · rw [if_neg h, if_neg h, zpow_of_neg (by omega)]
    exact ⟨by decide, by positivity, by push_cast; exact one_div _⟩

section Neighbour

variable {i : Interval} {num den : Nat} {point : Int} {n : Nat} (hi : 0 < i.den) (hd : 0 < den)

include hi hd

variable (point n) in
/-- The quotient counted in steps of the grid is `q + r / w`. Both neighbours are tested. -/
theorem neighbour_eq : ∃ (q r w : Nat) (low high nearer : Bool),
    (0 ≤ (r : ℚ) / w ∧ (r : ℚ) / w < 1) ∧
    (num / den : ℚ) = (q + r / w) * 10 ^ (point - n) ∧
    (low = true ↔ i.Holds (q * 10 ^ (point - n))) ∧
    (high = true ↔ i.Holds ((q + 1 : Nat) * 10 ^ (point - n))) ∧
    neighbour? i num den point n =
      if r == 0 then some q
      else if low && high then if nearer then some q else some (q + 1)
      else if low then some q
      else if high then some (q + 1)
      else none := by
  obtain ⟨up, down, hup, hdown, hup0, hdown0, hu⟩ := step_eq (point - n)
  have hw : 0 < den * up := Nat.mul_pos hd hup0
  have hd' : (0 : ℚ) < den := by exact_mod_cast hd
  have hup' : (0 : ℚ) < up := by exact_mod_cast hup0
  have hdown' : (0 : ℚ) < down := by exact_mod_cast hdown0
  have hgrid (k : Nat) : ((k * up : Nat) / (down : ℚ)) = k * 10 ^ (point - n) := by
    rw [← hu]
    push_cast
    exact mul_div_assoc _ _ _
  have hsplit : (num * down : ℚ) = den * up * (num * down / (den * up) : Nat) +
      (num * down % (den * up) : Nat) := by
    exact_mod_cast (Nat.div_add_mod (num * down) (den * up)).symm
  refine ⟨num * down / (den * up), num * down % (den * up), den * up,
    i.holds (num * down / (den * up) * up) down, i.holds ((num * down / (den * up) + 1) * up) down,
    decide (2 * (num * down % (den * up)) < den * up) ||
      (2 * (num * down % (den * up)) == den * up && num * down / (den * up) % 2 == 0),
    ⟨by positivity, (div_lt_one (by exact_mod_cast hw)).mpr (by exact_mod_cast Nat.mod_lt _ hw)⟩,
    ?_, ?_, ?_, ?_⟩
  · rw [← hu]
    push_cast
    field_simp
    linarith
  · rw [Interval.holds_iff hi hdown0, hgrid]
  · rw [Interval.holds_iff hi hdown0, hgrid]
  · unfold neighbour?
    dsimp only
    rw [hup, hdown]

/-- A hit lies in the interval and next to the quotient. -/
theorem neighbour_spec (hself : i.Holds (num / den)) {d : Nat}
    (h : neighbour? i num den point n = some d) :
    i.Holds (d * 10 ^ (point - n)) ∧ ((d : ℚ) - 1) * 10 ^ (point - n) ≤ num / den ∧
      (num / den : ℚ) < (d + 1) * 10 ^ (point - n) := by
  obtain ⟨q, r, w, low, high, nearer, hrest, hv, hlow, hhigh, heq⟩ := neighbour_eq point n hi hd
  rw [heq] at h
  have hu : (0 : ℚ) < 10 ^ (point - n : Int) := by positivity
  have hq : ∀ k : Nat, i.Holds (k * 10 ^ (point - n)) → k = q ∨ k = q + 1 →
      i.Holds (k * 10 ^ (point - n)) ∧ ((k : ℚ) - 1) * 10 ^ (point - n) ≤ num / den ∧
        (num / den : ℚ) < (k + 1) * 10 ^ (point - n) := by
    intro k hk hcase
    have hbounds : (k : ℚ) - 1 ≤ q + r / w ∧ (q + r / w : ℚ) < k + 1 := by
      rcases hcase with rfl | rfl
      · exact ⟨by linarith, by linarith⟩
      · exact ⟨by push_cast; linarith, by push_cast; linarith⟩
    rw [hv]
    exact ⟨hk, mul_le_mul_of_nonneg_right hbounds.1 hu.le, mul_lt_mul_of_pos_right hbounds.2 hu⟩
  split at h
  · rename_i hz
    have hz : r = 0 := by simpa using hz
    have hself : i.Holds (q * 10 ^ (point - n)) := by
      rw [hv, hz, Nat.cast_zero, zero_div, add_zero] at hself
      exact hself
    exact hq d (Option.some.inj h ▸ hself) (.inl (Option.some.inj h).symm)
  split at h
  · rename_i hboth
    obtain ⟨h₁, h₂⟩ := (Bool.and_eq_true _ _).mp hboth
    split at h
    · exact hq d (Option.some.inj h ▸ hlow.mp h₁) (.inl (Option.some.inj h).symm)
    · exact hq d (Option.some.inj h ▸ hhigh.mp h₂) (.inr (Option.some.inj h).symm)
  split at h
  · rename_i h₁
    exact hq d (Option.some.inj h ▸ hlow.mp h₁) (.inl (Option.some.inj h).symm)
  split at h
  · rename_i h₂
    exact hq d (Option.some.inj h ▸ hhigh.mp h₂) (.inr (Option.some.inj h).symm)
  · cases h

/-- There is a hit if the interval holds what is no farther from the quotient than half a step. -/
theorem neighbour_isSome
    (h : ∀ x : ℚ, |x - num / den| ≤ 10 ^ (point - n) / 2 → i.Holds x) :
    (neighbour? i num den point n).isSome = true := by
  obtain ⟨q, r, w, low, high, nearer, hrest, hv, hlow, hhigh, heq⟩ := neighbour_eq point n hi hd
  have hu : (0 : ℚ) < 10 ^ (point - n : Int) := by positivity
  have hone : low = true ∨ high = true := by
    by_cases hhalf : (r : ℚ) / w ≤ 1 / 2
    · refine .inl (hlow.mpr (h _ ?_))
      rw [hv, abs_le]
      constructor <;> nlinarith
    · refine .inr (hhigh.mpr (h _ ?_))
      rw [hv, abs_le]
      push_cast
      constructor <;> nlinarith
  rw [heq]
  split
  · rfl
  split
  · split <;> rfl
  split
  · rfl
  split
  · rfl
  · rename_i h₁ h₂
    exact absurd hone (by simp [h₁, h₂])

end Neighbour

/-! ## The search -/

/-- The number that is written `0.d₁d₂…dₖ · 10^point`. -/
def Digits.value (d : Digits) : ℚ := d.digits * 10 ^ (d.point - digitCount d.digits)

theorem digitCount_eq {n k : Nat} (hk : 0 < k) (hlow : 10 ^ (k - 1) ≤ n) (hhigh : n < 10 ^ k) :
    digitCount n = k := by
  have hle := (digitCount_le_iff hk).mpr hhigh
  by_contra hne
  have hlt : digitCount n ≤ k - 1 := by omega
  have := digitCount_pos n
  have := (digitCount_le_iff (n := n) (k := k - 1) (by omega)).mp hlt
  omega

section Search

variable {i : Interval} {num den : Nat} {point : Int} (hi : 0 < i.den) (hd : 0 < den)
  (hself : i.Holds (num / den)) (hlow : (10 : ℚ) ^ (point - 1) ≤ num / den)
  (hhigh : (num / den : ℚ) < 10 ^ point)

include hi hd hself hlow hhigh

/-- A hit on the grid of `k + 1` digits has as many digits, or is the next power of ten. -/
theorem hit_bounds {k d : Nat} (h : neighbour? i num den point (k + 1) = some d) :
    10 ^ k ≤ d ∧ d ≤ 10 ^ (k + 1) := by
  obtain ⟨-, hbelow, habove⟩ := neighbour_spec hi hd hself h
  have hu : (0 : ℚ) < 10 ^ (point - (k + 1 : Nat) : Int) := by positivity
  have hscale (j : Nat) : (10 : ℚ) ^ (j + (point - (k + 1 : Nat)) : Int) =
      10 ^ j * 10 ^ (point - (k + 1 : Nat) : Int) := by
    rw [zpow_add₀ (by norm_num), zpow_natCast]
  constructor
  · rw [show point - 1 = (k : Int) + (point - (k + 1 : Nat)) by omega, hscale] at hlow
    have hlt : (10 : ℚ) ^ k < d + 1 := lt_of_mul_lt_mul_right (hlow.trans_lt habove) hu.le
    exact Nat.lt_succ_iff.mp (by exact_mod_cast hlt)
  · rw [show point = ((k + 1 : Nat) : Int) + (point - (k + 1 : Nat)) by omega, hscale] at hhigh
    have hlt := lt_of_mul_lt_mul_right (hbelow.trans_lt hhigh) hu.le
    exact Nat.lt_succ_iff.mp (by exact_mod_cast (sub_lt_iff_lt_add.mp hlt))

/-- It is written with these digits, or with a one. -/
theorem hit_value {n d : Nat} (hn : 0 < n) (h : neighbour? i num den point n = some d) :
    0 < (if d = 10 ^ n then ⟨1, point + 1⟩ else ⟨d, point⟩ : Digits).digits ∧
      (if d = 10 ^ n then ⟨1, point + 1⟩ else ⟨d, point⟩ : Digits).value = d * 10 ^ (point - n) := by
  obtain ⟨k, rfl⟩ : ∃ k, n = k + 1 := ⟨n - 1, by omega⟩
  obtain ⟨hmin, hmax⟩ := hit_bounds hi hd hself hlow hhigh h
  by_cases hpower : d = 10 ^ (k + 1)
  · rw [if_pos hpower, hpower]
    refine ⟨Nat.one_pos, ?_⟩
    have hone : digitCount 1 = 1 := rfl
    unfold Digits.value
    rw [hone]
    push_cast
    rw [one_mul, ← zpow_natCast, ← zpow_add₀ (by norm_num)]
    congr 1
    push_cast
    ring
  · rw [if_neg hpower]
    refine ⟨lt_of_lt_of_le (by positivity) hmin, ?_⟩
    unfold Digits.value
    rw [digitCount_eq (k := k + 1) (by omega) hmin (lt_of_le_of_ne hmax hpower)]

/-- **The search ends with a decimal in the interval**, if there is a hit among the grids. -/
theorem firstHit_spec {last : Nat} (hlast : (neighbour? i num den point last).isSome = true)
    (fuel n : Nat) (hn : 0 < n) (hle : n ≤ last) (hfuel : last < n + fuel) :
    0 < (firstHit i num den point fuel n).digits ∧ i.Holds (firstHit i num den point fuel n).value := by
  induction fuel generalizing n with
  | zero => omega
  | succ fuel ih =>
    rw [firstHit]
    split
    · rename_i d h
      obtain ⟨hpos, hval⟩ := hit_value hi hd hself hlow hhigh hn h
      simp only [Nat.pow_eq]
      rw [hval]
      exact ⟨hpos, (neighbour_spec hi hd hself h).1⟩
    · rename_i h
      have hne : n ≠ last := by
        rintro rfl
        rw [h] at hlast
        cases hlast
      exact ih (n + 1) (by omega) (by omega) (by omega)

end Search

/-! ## The shortest decimal -/

theorem stripZeros_spec (fuel : Nat) {n : Nat} (hn : 0 < n) :
    0 < stripZeros fuel n ∧ ∃ j, n = stripZeros fuel n * 10 ^ j := by
  induction fuel generalizing n with
  | zero => exact ⟨hn, 0, (mul_one n).symm⟩
  | succ fuel ih =>
    rw [stripZeros]
    split
    · rename_i h
      obtain ⟨-, hmod⟩ : n ≠ 0 ∧ n % 10 = 0 := by simpa using h
      obtain ⟨hpos, j, hj⟩ := ih (n := n / 10) (by omega)
      refine ⟨hpos, j + 1, ?_⟩
      rw [pow_succ, ← mul_assoc, ← hj]
      omega
    · exact ⟨hn, 0, (mul_one n).symm⟩

theorem digitCount_mul_pow {n : Nat} (hn : 0 < n) (j : Nat) :
    digitCount (n * 10 ^ j) = digitCount n + j := by
  have hpos := digitCount_pos n
  refine digitCount_eq (by omega) ?_ ?_
  · rw [show digitCount n + j - 1 = digitCount n - 1 + j by omega, pow_add]
    exact Nat.mul_le_mul_right _ (pow_le_of_pos hn)
  · rw [pow_add]
    exact Nat.mul_lt_mul_of_pos_right (lt_pow_digitCount n) (by positivity)

/-- The zeros at the end add nothing to the number. -/
theorem value_stripZeros (fuel : Nat) {d : Digits} (hd : 0 < d.digits) :
    (⟨stripZeros fuel d.digits, d.point⟩ : Digits).value = d.value := by
  obtain ⟨hpos, j, hj⟩ := stripZeros_spec fuel hd
  unfold Digits.value
  dsimp only
  conv_rhs => rw [hj, digitCount_mul_pow hpos]
  push_cast
  rw [mul_assoc, ← zpow_natCast, ← zpow_add₀ (by norm_num)]
  congr 2
  ring

/-- What is within seventeen digits of a float lies around it. -/
theorem roundsTo_of_near {m : Nat} {e : Int} (h : Canonical m e) {y : ℚ}
    (hy : |y - m| ≤ m / (2 * 10 ^ 16)) : RoundsTo y m e := by
  obtain ⟨hlow, hhigh⟩ := abs_le.mp hy
  have hlt : (m : ℚ) + 1 ≤ 2 ^ 53 := by exact_mod_cast h.lt
  have hhalf : (m : ℚ) / (2 * 10 ^ 16) < 1 / 2 := by
    rw [div_lt_iff₀ (by positivity)]
    linarith
  have hgap : (m : ℚ) / (2 * 10 ^ 16) < gapBelow m e := by
    unfold gapBelow
    split
    · rename_i hpower
      rw [hpower.1]
      norm_num
    · exact hhalf
  exact ⟨.inl (by linarith), .inl (by linarith)⟩

/-- A float as the quotient that is worked with. -/
theorem float_eq_quotient {m : Nat} (hm : 0 < m) (e : Int) : ∃ num den : Nat,
    (if 0 ≤ e then m * Nat.pow 2 e.toNat else m) = num ∧
      (if 0 ≤ e then 1 else Nat.pow 2 e.natAbs) = den ∧ 0 < num ∧ 0 < den ∧
      (num / den : ℚ) = m * 2 ^ e := by
  refine ⟨_, _, rfl, rfl, ?_⟩
  simp only [Nat.pow_eq]
  by_cases he : 0 ≤ e
  · obtain ⟨k, rfl⟩ := Int.eq_ofNat_of_zero_le he
    rw [if_pos he, if_pos he, Int.toNat_natCast, zpow_natCast]
    exact ⟨by positivity, by decide, by push_cast; exact div_one _⟩
  · obtain ⟨k, rfl⟩ : ∃ k : Nat, e = -(k : Int) := ⟨e.natAbs, by omega⟩
    rw [if_neg he, if_neg he, Int.natAbs_neg, Int.natAbs_natCast, zpow_neg, zpow_natCast]
    exact ⟨hm, by positivity, by push_cast; exact div_eq_mul_inv _ _⟩

/-- **The shortest decimal lies around its float.** -/
theorem shortest_roundsTo {m : Nat} {e : Int} (h : Canonical m e) :
    0 < (shortest m e).digits ∧ RoundsTo ((shortest m e).value / 2 ^ e) m e := by
  obtain ⟨num, den, hnum, hden, hn, hd, hval⟩ : ∃ num den : Nat,
      (if 0 ≤ e then m * Nat.pow 2 e.toNat else m) = num ∧
      (if 0 ≤ e then 1 else Nat.pow 2 e.natAbs) = den ∧ 0 < num ∧ 0 < den ∧
      (num / den : ℚ) = m * 2 ^ e := float_eq_quotient h.pos e
  have hi := around_den_pos (m := m) e
  have hpos : (0 : ℚ) < 2 ^ e := by positivity
  have hm : (1 : ℚ) ≤ m := by exact_mod_cast h.pos
  obtain ⟨hlow, hhigh⟩ := pointOf_spec hn hd
  have hgap := gapBelow_pos m e
  have hself : (Interval.around m e).Holds (num / den) := by
    rw [around_iff h.pos, hval, mul_div_assoc, div_self hpos.ne', mul_one]
    exact ⟨.inl (by linarith), .inl (by linarith)⟩
  -- Half a step of the grid of seventeen digits is less than what lies between two floats.
  have hlast : (neighbour? (Interval.around m e) num den (pointOf num den) 17).isSome = true := by
    refine neighbour_isSome hi hd fun x hx => ?_
    rw [around_iff h.pos]
    refine roundsTo_of_near h ?_
    have hstep : (10 : ℚ) ^ (pointOf num den - 17 : Int) * 10 ^ (16 : Int) ≤ m * 2 ^ e := by
      rw [← zpow_add₀ (by norm_num), ← hval]
      exact (le_of_eq (by congr 1; ring)).trans hlow
    rw [hval] at hx
    rw [show x / 2 ^ e - m = (x - m * 2 ^ e) / 2 ^ e by field_simp, abs_div, abs_of_pos hpos,
      div_le_iff₀ hpos]
    norm_num at hstep hx ⊢
    linarith
  obtain ⟨hdigits, hholds⟩ :=
    firstHit_spec hi hd hself hlow hhigh hlast 17 1 Nat.one_pos (by decide) (by decide)
  unfold shortest
  dsimp only
  rw [hnum, hden]
  refine ⟨(stripZeros_spec 20 hdigits).1, ?_⟩
  rw [← around_iff h.pos]
  have := value_stripZeros 20 hdigits
  rw [← this] at hholds
  exact hholds

end SuiteEngine.Decimal
