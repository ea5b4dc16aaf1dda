import Mathlib
import SuiteEngine.Decimal.Exact

/-!
# The bits of a float

A float is held as three fields of bits: sign, exponent and mantissa. Taking it apart and putting the
parts together again are inverse to each other, on the one side for every float, on the other for
every mantissa and exponent that a float can have.

Headlines:
* **`Canonical`**: the mantissas and exponents of floats, `canonical_of_unpack`.
* **`pack_unpack`**, **`unpack_pack`**: both round trips.
-/

namespace SuiteEngine

open Float.Model (UnpackedFloat Format totalExponent)
open Float.Model.UnpackedFloat

/-- The float `m · 2^e` has a mantissa of 53 bits, or fewer if its exponent is the least. How large the
exponent is, is left open. -/
structure Canonical (m : Nat) (e : Int) : Prop where
  pos : 0 < m
  lt : m < 2 ^ 53
  least : -1074 ≤ e
  normal : 2 ^ 52 ≤ m ∨ e = -1074

/-! ## The three fields -/

theorem ofBitVec_toBitVec (s : Sign) : Sign.ofBitVec s.toBitVec = s := by cases s <;> rfl

theorem toBitVec_ofBitVec : ∀ b : BitVec 1, (Sign.ofBitVec b).toBitVec = b := by decide

theorem unpackSign_packComponents {spec : Format} (s : Sign) (e : BitVec spec.exponentBits)
    (m : BitVec spec.mantissaBitsWithoutImplicit) :
    unpackSign (packComponents spec s e m) = s.toBitVec := by
  apply BitVec.eq_of_getLsbD_eq
  intro i hi
  obtain rfl : i = 0 := by omega
  simp [unpackSign, packComponents, BitVec.getLsbD_append, BitVec.getElem_append]

/-- Bits are what their fields make. -/
theorem packComponents_unpack (b : BitVec Format.binary64.numBits) :
    packComponents Format.binary64 (Sign.ofBitVec (unpackSign b)) (unpackExponent b)
      (unpackMantissa b) = b := by
  unfold packComponents unpackSign unpackExponent unpackMantissa
  rw [toBitVec_ofBitVec]
  ext i hi
  grind

/-- Between the exponents that are none, a field of bits is a number. -/
theorem toNat_exponent {n : Nat} (h : n + 1 < 2 ^ 11) : (BitVec.ofNat 11 n).toNat = n := by
  rw [BitVec.toNat_ofNat, Nat.mod_eq_of_lt (by omega)]

theorem exponent_ne {n : Nat} (hz : n ≠ 0) (hi : n + 1 < 2 ^ 11) :
    BitVec.ofNat 11 n ≠ -1#11 ∧ BitVec.ofNat 11 n ≠ 0#11 := by
  have hn := toNat_exponent hi
  constructor
  · intro h
    rw [h, show (-1#11).toNat = 2047 from rfl] at hn
    omega
  · intro h
    rw [h] at hn
    exact hz hn.symm

theorem exponent_bounds {e : BitVec 11} (hi : e ≠ -1#11) (hz : e ≠ 0#11) :
    0 < e.toNat ∧ e.toNat + 1 < 2 ^ 11 := by
  have hlt := e.isLt
  have hz' : e.toNat ≠ 0 := fun h => hz (BitVec.eq_of_toNat_eq h)
  have hi' : e.toNat ≠ 2047 := fun h => hi (BitVec.eq_of_toNat_eq h)
  omega

/-- A normal float has one bit more than its mantissa shows. -/
theorem toNat_implicit (m : BitVec 52) : (1#1 ++ m).toNat = 2 ^ 52 + m.toNat := by
  rw [BitVec.toNat_append, ← Nat.shiftLeft_add_eq_or_of_lt m.isLt]
  rfl

/-! ## Taking apart -/

section Unpack

variable (s : Sign)

theorem unpack_normal {e : BitVec 11} {m : BitVec 52} (hi : e ≠ -1#11) (hz : e ≠ 0#11) :
    ∃ h, unpack Format.binary64 (packComponents Format.binary64 s e m) =
      .finite s (2 ^ 52 + m.toNat) (e.toNat - 1075) h := by
  refine ⟨by omega, ?_⟩
  simp only [unpack, unpackMantissa_packComponents, unpackExponent_packComponents,
    unpackSign_packComponents, ofBitVec_toBitVec]
  rw [if_neg hi, if_neg hz]
  simp only [toNat_implicit]
  rfl

/-- A float below the normal ones has the least exponent. -/
theorem unpack_subnormal {m : BitVec 52} (hm : m ≠ 0#52) :
    ∃ h, unpack Format.binary64 (packComponents Format.binary64 s 0#11 m) =
      .finite s m.toNat (-1074) h := by
  refine ⟨by simpa [BitVec.toNat_pos, BitVec.pos_iff_ne_zero], ?_⟩
  simp only [unpack, unpackMantissa_packComponents, unpackExponent_packComponents,
    unpackSign_packComponents, ofBitVec_toBitVec]
  rw [if_neg (by decide), if_pos trivial, dif_neg hm]
  rfl

theorem unpack_zero :
    unpack Format.binary64 (packComponents Format.binary64 s 0#11 0#52) = .zero s := by
  cases s <;> rfl

/-- The largest exponent is that of an infinity, or of no number. -/
theorem unpack_special (m : BitVec 52) :
    unpack Format.binary64 (packComponents Format.binary64 s (-1#11) m) =
      if m = 0#52 then .infinity s else .notANumber := by
  simp only [unpack, unpackMantissa_packComponents, unpackExponent_packComponents,
    unpackSign_packComponents, ofBitVec_toBitVec]
  rw [if_pos trivial]

end Unpack

/-! ## Putting together -/

section Pack

variable (s : Sign) {m : Nat} {e : Int} (h : 0 < m)

theorem biased_exponent (e : Int) :
    (e + Format.binary64.exponentBias + Format.binary64.mantissaBitsWithoutImplicit).toNat =
      (e + 1075).toNat := by
  change (e + 1023 + 52).toNat = _
  rw [add_assoc]
  rfl

theorem pack_normal (hm : 2 ^ 52 ≤ m) (hlt : m < 2 ^ 53) (he : e ≤ 971) :
    UnpackedFloat.pack Format.binary64 (.finite s m e h) =
      packComponents Format.binary64 s (BitVec.ofNat 11 (e + 1075).toNat) (BitVec.ofNat 52 m) := by
  have hlog : m.log2 + 1 = Format.binary64.mantissaBits :=
    congrArg (· + 1) ((Nat.log2_eq_iff (Nat.ne_of_gt h)).mpr ⟨hm, hlt⟩)
  rw [UnpackedFloat.pack]
  dsimp only
  rw [biased_exponent, if_neg (show ¬ 2 ^ 11 ≤ (e + 1075).toNat + 1 by omega), if_pos hlog]

theorem pack_subnormal (hlt : m < 2 ^ 52) :
    UnpackedFloat.pack Format.binary64 (.finite s m (-1074) h) =
      packComponents Format.binary64 s 0#11 (BitVec.ofNat 52 m) := by
  have hlog : m.log2 < 52 := (Nat.log2_lt (Nat.ne_of_gt h)).mpr hlt
  have hne : m.log2 + 1 ≠ Format.binary64.mantissaBits := by
    change m.log2 + 1 ≠ 53
    omega
  rw [UnpackedFloat.pack]
  dsimp only
  rw [if_neg (by decide), if_neg hne]

end Pack

/-! ## Both round trips -/

section RoundTrip

variable (s : Sign) {e : BitVec 11} {m : BitVec 52}

theorem roundTrip_normal (hi : e ≠ -1#11) (hz : e ≠ 0#11) :
    UnpackedFloat.pack Format.binary64 (unpack Format.binary64 (packComponents Format.binary64 s e m)) =
      packComponents Format.binary64 s e m := by
  have hlt := m.isLt
  obtain ⟨hlow, hhigh⟩ := exponent_bounds hi hz
  obtain ⟨hpos, hu⟩ := unpack_normal s (m := m) hi hz
  have he : BitVec.ofNat 11 ((e.toNat : Int) - 1075 + 1075).toNat = e := by
    rw [Int.sub_add_cancel, Int.toNat_natCast, BitVec.ofNat_toNat, BitVec.setWidth_eq]
  have hm : BitVec.ofNat 52 (2 ^ 52 + m.toNat) = m := by
    apply BitVec.eq_of_toNat_eq
    rw [BitVec.toNat_ofNat, Nat.add_mod_left, Nat.mod_eq_of_lt hlt]
  rw [hu, pack_normal s hpos (by omega) (by omega) (by omega), he, hm]

theorem roundTrip_subnormal :
    UnpackedFloat.pack Format.binary64
        (unpack Format.binary64 (packComponents Format.binary64 s 0#11 m)) =
      packComponents Format.binary64 s 0#11 m := by
  by_cases hm : m = 0#52
  · rw [hm, unpack_zero]
    rfl
  · obtain ⟨hpos, hu⟩ := unpack_subnormal s hm
    rw [hu, pack_subnormal s hpos m.isLt, BitVec.ofNat_toNat, BitVec.setWidth_eq]

/-- All that is no number has the same fields. -/
theorem roundTrip_special (hv : Format.binary64.Valid (packComponents Format.binary64 s (-1#11) m)) :
    UnpackedFloat.pack Format.binary64
        (unpack Format.binary64 (packComponents Format.binary64 s (-1#11) m)) =
      packComponents Format.binary64 s (-1#11) m := by
  rw [unpack_special]
  by_cases hm : m = 0#52
  · rw [if_pos hm, hm]
    rfl
  · rw [if_neg hm]
    exact (hv.eq_packedNaN (by rw [unpackExponent_packComponents])
      (by rw [unpackMantissa_packComponents]; exact hm)).symm

end RoundTrip

theorem exists_packComponents (b : BitVec Format.binary64.numBits) :
    ∃ (s : Sign) (e : BitVec 11) (m : BitVec 52), b = packComponents Format.binary64 s e m :=
  ⟨_, _, _, (packComponents_unpack b).symm⟩

theorem pack_unpack_bits {b : BitVec Format.binary64.numBits} (hv : Format.binary64.Valid b) :
    UnpackedFloat.pack Format.binary64 (unpack Format.binary64 b) = b := by
  obtain ⟨s, e, m, rfl⟩ := exists_packComponents b
  by_cases hi : e = -1#11
  · subst hi
    exact roundTrip_special s hv
  by_cases hz : e = 0#11
  · subst hz
    exact roundTrip_subnormal s
  · exact roundTrip_normal s hi hz

theorem canonical_of_bits {b : BitVec Format.binary64.numBits} {s : Sign} {m : Nat} {e : Int} {h : 0 < m}
    (hb : unpack Format.binary64 b = .finite s m e h) : Canonical m e ∧ e ≤ 971 := by
  obtain ⟨s', x, f, rfl⟩ := exists_packComponents b
  have hlt := f.isLt
  by_cases hi : x = -1#11
  · rw [hi, unpack_special] at hb
    split at hb <;> cases hb
  by_cases hz : x = 0#11
  · by_cases hf : f = 0#52
    · rw [hz, hf, unpack_zero] at hb
      cases hb
    · obtain ⟨hpos, hu⟩ := unpack_subnormal s' hf
      rw [hz, hu] at hb
      cases hb
      exact ⟨⟨hpos, by omega, by omega, .inr rfl⟩, by omega⟩
  · obtain ⟨hlow, hhigh⟩ := exponent_bounds hi hz
    obtain ⟨hpos, hu⟩ := unpack_normal s' (m := f) hi hz
    rw [hu] at hb
    cases hb
    exact ⟨⟨hpos, by omega, by omega, .inl (by omega)⟩, by omega⟩

/-- **A float has a canonical mantissa and exponent.** -/
theorem canonical_of_unpack {x : Float.Model} {s : Sign} {m : Nat} {e : Int} {h : 0 < m}
    (hx : x.unpack = .finite s m e h) : Canonical m e ∧ e ≤ 971 :=
  canonical_of_bits hx

/-- **What a float was taken apart into makes the float again.** -/
theorem pack_unpack (x : Float.Model) : Float.Model.pack x.unpack = x := by
  obtain ⟨bits, valid⟩ := x
  have h := pack_unpack_bits valid
  unfold Float.Model.pack Float.Model.unpack
  simp only [h, UInt64.ofBitVec_toBitVec]

/-- **What a float was made of is what it is taken apart into.** -/
theorem unpack_pack (s : Sign) {m : Nat} {e : Int} (h : Canonical m e) (he : e ≤ 971) :
    (Float.Model.pack (.finite s m e h.pos)).unpack = .finite s m e h.pos := by
  change unpack Format.binary64 (UnpackedFloat.pack Format.binary64 _) = _
  by_cases hm : 2 ^ 52 ≤ m
  · have hlow := h.least
    have hbits : (e + 1075).toNat + 1 < 2 ^ 11 := by omega
    obtain ⟨hi, hz⟩ := exponent_ne (n := (e + 1075).toNat) (by omega) hbits
    obtain ⟨_, hu⟩ := unpack_normal s (m := BitVec.ofNat 52 m) hi hz
    rw [pack_normal s h.pos hm h.lt he, hu]
    have hexp := toNat_exponent hbits
    have hmant : 2 ^ 52 + (BitVec.ofNat 52 m).toNat = m := by
      have hlt := h.lt
      rw [BitVec.toNat_ofNat]
      omega
    simp only [hmant, hexp]
    congr 1
    omega
  · obtain rfl := h.normal.resolve_left hm
    have hlt : m < 2 ^ 52 := by omega
    have hnat : (BitVec.ofNat 52 m).toNat = m := by rw [BitVec.toNat_ofNat, Nat.mod_eq_of_lt hlt]
    have hne : BitVec.ofNat 52 m ≠ 0#52 := by
      intro hz
      rw [hz] at hnat
      exact Nat.ne_of_gt h.pos hnat.symm
    obtain ⟨_, hu⟩ := unpack_subnormal s hne
    rw [pack_subnormal s h.pos hlt, hu]
    simp only [hnat]

/-- What has a larger exponent than floats have is infinite. -/
theorem unpack_pack_large (s : Sign) {m : Nat} {e : Int} (h : Canonical m e) (he : 971 < e) :
    (Float.Model.pack (.finite s m e h.pos)).unpack = .infinity s := by
  change unpack Format.binary64 (UnpackedFloat.pack Format.binary64 _) = _
  rw [UnpackedFloat.pack]
  dsimp only
  rw [biased_exponent, if_pos (show 2 ^ 11 ≤ (e + 1075).toNat + 1 by omega)]
  cases s <;> rfl

end SuiteEngine
