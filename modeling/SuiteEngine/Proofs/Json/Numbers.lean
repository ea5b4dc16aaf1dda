import SuiteEngine.Json.Print
import SuiteEngine.Proofs.Decimal.Shortest
import SuiteEngine.Proofs.Json.Reader

/-!
# Printed numbers are read back

An integer is printed by its digits. The text of a float is one of three layouts of its shortest decimal:
with zeros after the point, with the point among the digits or behind them, with an exponent. Each is a
number in JSON, and of the same value as the decimal, so it is read as the float.

Headlines:
* **`numberText_int`**: a printed integer is a number, if it is not too long.
* `write_number`: the layouts are numbers with the value of the decimal.
* **`numberText_floatText`**, `parse_floatText`: the text of a finite float is a number that stands for it.
-/

namespace SuiteEngine.Json

open Decimal

/-! ## Integers -/

theorem digitsValue_toDigits (n : Nat) : digitsValue (Nat.toDigits 10 n) = n := by
  have h : Nat.ofDigitChars 10 (Nat.toDigits 10 n) 0 = n := Nat.ofDigitChars_ten_toDigits
  unfold Nat.ofDigitChars at h
  unfold digitsValue Text.ofDigits
  rw [List.foldl_map]
  simp only [Nat.mul_comm 10] at h
  exact h

theorem digitChar_ne_zero : ∀ n < 10, 0 < n → n.digitChar ≠ '0' := by
  decide

/-- The digits of a number above zero do not start with a zero. -/
theorem toDigits_head {n : Nat} (hn : 0 < n) :
    ∃ d ds, Nat.toDigits 10 n = d :: ds ∧ d ≠ '0' := by
  induction n using Nat.strongRecOn with
  | ind n ih =>
    by_cases h : n < 10
    · exact ⟨n.digitChar, [], Nat.toDigits_of_lt_base h, digitChar_ne_zero n h hn⟩
    · obtain ⟨d, ds, hds, hd⟩ := ih (n / 10) (by omega) (by omega)
      have hsplit : Nat.toDigits 10 n = d :: (ds ++ [(n % 10).digitChar]) := by
        rw [Nat.toDigits_of_base_le (by omega) (by omega), hds, List.cons_append]
      exact ⟨d, ds ++ [(n % 10).digitChar], hsplit, hd⟩

theorem allDigits_toDigits (n : Nat) : AllDigits (Nat.toDigits 10 n) := fun _ hc =>
  Nat.isDigit_of_mem_toDigits (by omega) (by omega) hc

theorem wholeText_toDigits (n : Nat) : WholeText (Nat.toDigits 10 n) := by
  by_cases hn : 0 < n
  · obtain ⟨d, ds, hds, hd⟩ := toDigits_head hn
    have hall := allDigits_toDigits n
    rw [hds] at hall ⊢
    exact WholeText.digits (hall d List.mem_cons_self) hd fun c hc =>
      hall c (List.mem_cons_of_mem d hc)
  · obtain rfl : n = 0 := by omega
    exact WholeText.zero

theorem toList_int (n : Int) :
    (toString n).toList = (if decide (n < 0) then ['-'] else []) ++ Nat.toDigits 10 n.natAbs := by
  cases n with
  | ofNat m =>
    have hr : toString (Int.ofNat m) = m.repr := rfl
    rw [hr, Nat.repr_eq_ofList_toDigits, String.toList_ofList,
      if_neg (by simp)]
    rfl
  | negSucc m =>
    have hr : toString (Int.negSucc m) = "-" ++ (m + 1).repr := rfl
    have hn : (Int.negSucc m).natAbs = m + 1 := rfl
    rw [hr, hn, Nat.repr_eq_ofList_toDigits, String.toList_append, if_pos (by simp)]
    exact congrArg (['-'] ++ ·) String.toList_ofList

/-- A printed integer is a number, if it is not too long. -/
theorem numberText_int {n : Int} (h : intFits n = true) : NumberText (toString n).toList (.int n) := by
  have hl : (Nat.toDigits 10 n.natAbs).length ≤ Text.digitLimit := of_decide_eq_true h
  have ht := NumberText.parts (decide (n < 0)) (wholeText_toDigits n.natAbs) AllDigits.nil
    ExponentText.none fun _ => hl
  have hv : numeral (decide (n < 0)) (Nat.toDigits 10 n.natAbs) [] none = .int n := by
    unfold numeral
    simp only [List.isEmpty_nil, Option.isNone_none, Bool.and_self, if_true]
    rw [digitsValue_toDigits]
    congr 1
    by_cases hneg : n < 0
    · rw [if_pos (decide_eq_true hneg)]
      omega
    · rw [if_neg (by simpa using hneg)]
      omega
  rw [hv] at ht
  rw [toList_int]
  simpa only [fractionText, List.append_nil] using ht

/-! ## Digits and zeros -/

theorem digitsValue_append (as bs : List Char) :
    digitsValue (as ++ bs) = digitsValue as * 10 ^ bs.length + digitsValue bs := by
  unfold digitsValue Text.ofDigits
  induction bs using List.reverseRecOn with
  | nil => simp
  | append_singleton bs b ih =>
    rw [← List.append_assoc, List.map_append, List.foldl_append, ih, List.map_append, List.foldl_append]
    simp only [List.map_cons, List.map_nil, List.foldl_cons, List.foldl_nil, List.length_append,
      List.length_singleton, pow_succ]
    ring

theorem digitsValue_zeros (n : Nat) : digitsValue (List.replicate n '0') = 0 := by
  induction n with
  | zero => rfl
  | succ n ih =>
    have hcons : List.replicate (n + 1) '0' = ['0'] ++ List.replicate n '0' := rfl
    have hzero : digitsValue ['0'] = 0 := rfl
    rw [hcons, digitsValue_append, ih, hzero, Nat.zero_mul]

theorem allDigits_zeros (n : Nat) : AllDigits (List.replicate n '0') := fun d hd => by
  rw [List.eq_of_mem_replicate hd]
  rfl

theorem digitsValue_digitChars (n : Nat) : digitsValue (digitChars n) = n := digitsValue_toDigits n

/-- What begins as the digits of a number above zero do is a whole part. -/
theorem wholeText_of_digits {n : Nat} (hn : 0 < n) {p : Nat} (hp : 0 < p) {ds : List Char}
    (hd : AllDigits ds) : WholeText ((digitChars n).take p ++ ds) := by
  obtain ⟨d, cs, hcs, hd0⟩ := toDigits_head hn
  have hall := allDigits_toDigits n
  have hcs' : digitChars n = d :: cs := hcs
  obtain ⟨p, rfl⟩ : ∃ k, p = k + 1 := ⟨p - 1, by omega⟩
  rw [hcs] at hall
  rw [hcs', List.take_succ_cons, List.cons_append]
  refine WholeText.digits (hall d List.mem_cons_self) hd0 fun c hc => ?_
  rcases List.mem_append.mp hc with hc | hc
  · exact hall c (List.mem_cons_of_mem d (List.mem_of_mem_take hc))
  · exact hd c hc

/-! ## Exponents -/

/-- The sign of an exponent. -/
def exponentSign (e : Int) : List Char := [if e < 0 then '-' else '+']

/-- The digits of an exponent, at least two. -/
def exponentDigits (e : Int) : List Char :=
  if (digitChars e.natAbs).length < 2 then '0' :: digitChars e.natAbs else digitChars e.natAbs

theorem exponentText_toList (e : Int) :
    (exponentText e).toList = exponentSign e ++ exponentDigits e := by
  unfold exponentText exponentSign exponentDigits
  dsimp only
  rw [String.toList_append, String.toList_ofList]
  split
  · rfl
  · rfl

/-- An exponent stands for the power that it is written for. -/
theorem exponent_spec (e : Int) :
    ExponentText ('e' :: (exponentSign e ++ exponentDigits e))
      (some (decide (e < 0), exponentDigits e)) ∧
      powerOf (some (decide (e < 0), exponentDigits e)) = e := by
  have hall : AllDigits (exponentDigits e) := by
    have h := allDigits_toDigits e.natAbs
    unfold exponentDigits
    split
    · exact List.forall_mem_cons.mpr ⟨rfl, h⟩
    · exact h
  have hvalue : digitsValue (exponentDigits e) = e.natAbs := by
    unfold exponentDigits
    split
    · rw [← List.singleton_append, digitsValue_append, digitsValue_digitChars]
      exact (congrArg (· + e.natAbs) (Nat.zero_mul _)).trans (Nat.zero_add _)
    · exact digitsValue_digitChars _
  have hne : exponentDigits e ≠ [] := by
    have : digitChars e.natAbs ≠ [] := List.length_pos_iff.mp (digitCount_pos e.natAbs)
    unfold exponentDigits
    split
    · exact List.cons_ne_nil _ _
    · exact this
  constructor
  · obtain ⟨d, ds, hds⟩ := List.exists_cons_of_ne_nil hne
    rw [hds] at hall ⊢
    refine ExponentText.some (.inl rfl) ?_ hall
    unfold exponentSign
    by_cases h : e < 0
    · rw [if_pos h, decide_eq_true h]
      exact SignText.minus
    · rw [if_neg h, decide_eq_false h]
      exact SignText.plus
  · change (if decide (e < 0) = true then -(digitsValue (exponentDigits e) : Int)
      else digitsValue (exponentDigits e)) = e
    rw [hvalue]
    by_cases h : e < 0
    · rw [if_pos (decide_eq_true h)]
      omega
    · rw [if_neg (by simpa using h)]
      omega

theorem powerOf_none : powerOf none = 0 := rfl

/-! ## Layouts -/

/-- A text that is a number with this value, whatever its sign. -/
def WritesNumber (text : List Char) (q : ℚ) : Prop :=
  ∃ (digits : Nat) (exponent : Int), 0 < digits ∧ (digits * 10 ^ exponent : ℚ) = q ∧
    ∀ neg : Bool, NumberText ((if neg then ['-'] else []) ++ text)
      (.float (toFloat neg digits exponent))

theorem writes_parts {whole frac etext : List Char} {exponent : Option (Bool × List Char)}
    (hw : WholeText whole) (hf : AllDigits frac) (he : ExponentText etext exponent)
    (hfloat : ¬ (frac.isEmpty && exponent.isNone) = true) (hpos : 0 < digitsValue (whole ++ frac)) :
    WritesNumber (whole ++ (fractionText frac ++ etext))
      (digitsValue (whole ++ frac) * 10 ^ (powerOf exponent - frac.length)) := by
  refine ⟨_, _, hpos, rfl, fun neg => ?_⟩
  have h := NumberText.parts neg hw hf he fun hint => absurd hint hfloat
  unfold numeral at h
  rw [if_neg hfloat] at h
  exact h

theorem fractionText_of_ne {frac : List Char} (h : frac ≠ []) : fractionText frac = '.' :: frac := by
  cases frac with
  | nil => exact absurd rfl h
  | cons d ds => rfl

theorem not_empty_of_ne {frac : List Char} (h : frac ≠ []) (exponent : Option (Bool × List Char)) :
    ¬ (frac.isEmpty && exponent.isNone) = true := by
  simp [h]

section Write

variable {d : Digits} (hd : 0 < d.digits)

include hd

/-- Zeros between the point and the digits. -/
theorem write_small (hp : d.point ≤ 0) :
    WritesNumber ('0' :: '.' :: (List.replicate d.point.natAbs '0' ++ digitChars d.digits)) d.value := by
  obtain ⟨zeros, hzeros⟩ : ∃ zeros, List.replicate d.point.natAbs '0' = zeros := ⟨_, rfl⟩
  have hlength : (zeros ++ digitChars d.digits).length = d.point.natAbs + digitCount d.digits := by
    rw [List.length_append, ← hzeros, List.length_replicate]
    rfl
  have hne : zeros ++ digitChars d.digits ≠ [] := by
    have := digitCount_pos d.digits
    exact List.length_pos_iff.mp (by omega)
  have hall : AllDigits (zeros ++ digitChars d.digits) :=
    List.forall_mem_append.mpr ⟨hzeros ▸ allDigits_zeros _, allDigits_toDigits _⟩
  have hvalue : digitsValue (['0'] ++ (zeros ++ digitChars d.digits)) = d.digits := by
    have hz := digitsValue_zeros (d.point.natAbs + 1)
    rw [List.replicate_succ, hzeros, ← List.singleton_append] at hz
    rw [← List.append_assoc, digitsValue_append, digitsValue_digitChars, hz, Nat.zero_mul,
      Nat.zero_add]
  have h := writes_parts WholeText.zero hall ExponentText.none (not_empty_of_ne hne none)
    (hvalue.symm ▸ hd)
  rw [fractionText_of_ne hne, hvalue, hlength, List.append_nil] at h
  have hpow : powerOf none - ((d.point.natAbs + digitCount d.digits : Nat) : Int) =
      d.point - digitCount d.digits := by
    rw [powerOf_none, Nat.cast_add]
    omega
  rw [hpow] at h
  rw [hzeros]
  exact h

/-- Zeros between the digits and the point, behind which stands one more. -/
theorem write_whole (hp : (digitCount d.digits : Int) ≤ d.point) :
    WritesNumber (digitChars d.digits ++ List.replicate (d.point.toNat - digitCount d.digits) '0' ++
      ['.', '0']) d.value := by
  obtain ⟨j, hj⟩ : ∃ j, d.point.toNat - digitCount d.digits = j := ⟨_, rfl⟩
  rw [hj]
  have hw : WholeText (digitChars d.digits ++ List.replicate j '0') := by
    have h := wholeText_of_digits hd (digitCount_pos d.digits) (allDigits_zeros j)
    have htake : (digitChars d.digits).take (digitCount d.digits) = digitChars d.digits :=
      List.take_of_length_le le_rfl
    rw [htake] at h
    exact h
  have hvalue : digitsValue (digitChars d.digits ++ List.replicate j '0' ++ ['0']) =
      d.digits * 10 ^ (j + 1) := by
    rw [List.append_assoc, ← List.replicate_succ', digitsValue_append, digitsValue_digitChars,
      digitsValue_zeros, List.length_replicate, Nat.add_zero]
  have h := writes_parts hw (allDigits_zeros 1) ExponentText.none
    (not_empty_of_ne (List.cons_ne_nil _ _) none) (hvalue ▸ by positivity)
  have hsame : ((digitsValue (digitChars d.digits ++ List.replicate j '0' ++ ['0']) : ℚ) *
      10 ^ (powerOf none - (['0'].length : Int))) = d.value := by
    unfold Digits.value
    rw [powerOf_none, hvalue, show d.point - (digitCount d.digits : Int) = j by omega]
    push_cast
    rw [pow_succ, mul_assoc, mul_assoc]
    norm_num
  exact hsame ▸ h

/-- The point among the digits. -/
theorem write_among (hp : 0 < d.point) (hlt : d.point < digitCount d.digits) :
    WritesNumber ((digitChars d.digits).take d.point.toNat ++
      '.' :: (digitChars d.digits).drop d.point.toNat) d.value := by
  have hall : AllDigits ((digitChars d.digits).drop d.point.toNat) := fun c hc =>
    allDigits_toDigits _ c (List.mem_of_mem_drop hc)
  have hlength : ((digitChars d.digits).drop d.point.toNat).length =
      digitCount d.digits - d.point.toNat := List.length_drop
  have hne : (digitChars d.digits).drop d.point.toNat ≠ [] := List.length_pos_iff.mp (by omega)
  have hw := wholeText_of_digits hd (p := d.point.toNat) (by omega) AllDigits.nil
  rw [List.append_nil] at hw
  have hvalue : digitsValue ((digitChars d.digits).take d.point.toNat ++
      (digitChars d.digits).drop d.point.toNat) = d.digits := by
    rw [List.take_append_drop, digitsValue_digitChars]
  have h := writes_parts hw hall ExponentText.none (not_empty_of_ne hne none) (hvalue.symm ▸ hd)
  have hpow : powerOf none - ((digitCount d.digits - d.point.toNat : Nat) : Int) =
      d.point - digitCount d.digits := by
    rw [powerOf_none]
    omega
  rw [fractionText_of_ne hne, hvalue, hlength, List.append_nil, hpow] at h
  exact h

/-- One digit before the point, and an exponent. -/
theorem write_exponent :
    WritesNumber ((digitChars d.digits).take 1 ++ (fractionText ((digitChars d.digits).drop 1) ++
      'e' :: (exponentSign (d.point - 1) ++ exponentDigits (d.point - 1)))) d.value := by
  obtain ⟨he, hpower⟩ := exponent_spec (d.point - 1)
  have hall : AllDigits ((digitChars d.digits).drop 1) := fun c hc =>
    allDigits_toDigits _ c (List.mem_of_mem_drop hc)
  have hlength : ((digitChars d.digits).drop 1).length = digitCount d.digits - 1 := List.length_drop
  have hw := wholeText_of_digits hd Nat.one_pos AllDigits.nil
  rw [List.append_nil] at hw
  have hvalue : digitsValue ((digitChars d.digits).take 1 ++ (digitChars d.digits).drop 1) =
      d.digits := by
    rw [List.take_append_drop, digitsValue_digitChars]
  have h := writes_parts hw hall he (by simp) (hvalue.symm ▸ hd)
  have hpow : d.point - 1 - ((digitCount d.digits - 1 : Nat) : Int) = d.point - digitCount d.digits := by
    have := digitCount_pos d.digits
    omega
  rw [hvalue, hpower, hlength, hpow] at h
  exact h

/-- **What is written for a decimal is a number of the same value.** -/
theorem write_number : WritesNumber (floatStyle.write d).toList d.value := by
  have hcount : (digitChars d.digits).length = digitCount d.digits := rfl
  unfold Style.write
  dsimp only
  split
  · split
    · rename_i hp
      rw [String.toList_append, String.toList_ofList (l := _ ++ _)]
      exact write_small hd hp
    · rename_i hp
      by_cases hlt : d.point < digitCount d.digits
      · have hne : ((digitChars d.digits).drop d.point.toNat).isEmpty = false := by
          rw [List.isEmpty_eq_false_iff]
          exact List.length_pos_iff.mp (by rw [List.length_drop]; omega)
        have hzero : d.point.toNat - (digitChars d.digits).length = 0 := by omega
        rw [hne, hzero, List.replicate_zero, List.append_nil, String.toList_append,
          String.toList_ofList, if_neg Bool.false_ne_true, String.toList_append,
          String.toList_ofList (l := (digitChars d.digits).drop d.point.toNat)]
        exact write_among hd (by omega) hlt
      · have hnil : (digitChars d.digits).drop d.point.toNat = [] := List.drop_of_length_le (by omega)
        have htake : (digitChars d.digits).take d.point.toNat = digitChars d.digits :=
          List.take_of_length_le (by omega)
        rw [hnil, htake, String.toList_append, String.toList_ofList]
        exact write_whole hd (by omega)
  · have hfrac : (if ((digitChars d.digits).drop 1).isEmpty then ""
        else "." ++ String.ofList ((digitChars d.digits).drop 1)).toList =
        fractionText ((digitChars d.digits).drop 1) := by
      cases (digitChars d.digits).drop 1 with
      | nil => rfl
      | cons c cs => exact (String.toList_append ..).trans (congrArg ('.' :: ·) String.toList_ofList)
    rw [String.toList_append, String.toList_append, String.toList_append, String.toList_ofList, hfrac,
      exponentText_toList, List.append_assoc, List.append_assoc]
    exact write_exponent hd

end Write

/-! ## Floats -/

section Finite

variable {x : Float} (hn : x.isNaN = false) (hi : x.isInf = false)

include hn hi

theorem floatParts_of_finite : ∃ neg m e, floatParts x = some (neg, m, e) := by
  change x.toModel.unpack.isNaN = false at hn
  change x.toModel.unpack.isInf = false at hi
  unfold floatParts
  cases hx : x.toModel.unpack with
  | notANumber =>
    rw [hx] at hn
    cases hn
  | infinity s =>
    rw [hx] at hi
    cases hi
  | zero s => exact ⟨_, _, _, rfl⟩
  | finite s m e h => exact ⟨_, _, _, rfl⟩

/-- **The text of a finite float is a number that stands for it.** -/
theorem numberText_floatText : NumberText (floatText x).toList (.float x) := by
  obtain ⟨neg, m, e, hx⟩ := floatParts_of_finite hn hi
  have hsign : (if neg then "-" else "").toList = if neg then ['-'] else [] := by cases neg <;> rfl
  unfold floatText
  rw [hx]
  dsimp only
  rw [String.toList_append, hsign]
  by_cases hm : m = 0
  · rw [if_pos (show (m == 0) = true from beq_iff_eq.mpr hm)]
    have h := NumberText.parts neg WholeText.zero (allDigits_zeros 1) ExponentText.none fun h => by cases h
    have hvalue : numeral neg ['0'] (List.replicate 1 '0') none = .float x :=
      congrArg Value.float (show Decimal.toFloat neg 0 (-1) = x from toFloat_zero hx hm)
    rw [hvalue] at h
    exact h
  · rw [if_neg (show ¬ (m == 0) = true from fun h => hm (beq_iff_eq.mp h))]
    obtain ⟨h, hu⟩ | ⟨-, hz⟩ := unpack_of_floatParts hx
    · obtain ⟨hdigits, hround⟩ := shortest_roundsTo (canonical_of_unpack hu).1
      obtain ⟨digits, exponent, hpos, hval, htext⟩ := write_number hdigits
      rw [← hval] at hround
      have hread := htext neg
      rw [toFloat_eq hx h hpos hround] at hread
      exact hread
    · exact absurd hz hm

/-- **The text of a finite float is read as this float.** -/
theorem parse_floatText : parse (floatText x) = .ok (.float x) :=
  parse_of_written (.number (numberText_floatText hn hi))

end Finite

end SuiteEngine.Json
