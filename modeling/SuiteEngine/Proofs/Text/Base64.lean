import SuiteEngine.Text.Base64

/-!
# What is written in letters is read back

Bytes are written in groups: three bytes as four letters of six bits each, and one or two bytes at
the end as two or three letters and as many equals signs as make four characters. The reader puts the
bits of one letter after the other together again, and stops at the equals signs that complete a
group.

Headlines:
* `base64Value?_letter`: a letter has the value it was written for.
* `fromBase64From_group`: a whole group, with whatever follows it.
* **`fromBase64?_base64`**: all bytes.
-/

namespace SuiteEngine.Text

theorem letters_indexed : ∀ n < 64, base64Letters.getD n '=' ≠ '=' ∧
    base64Value? (base64Letters.getD n '=') = some n := by decide +kernel

theorem base64Letter_ne (n : Nat) : base64Letter n ≠ '=' :=
  (letters_indexed _ (Nat.mod_lt _ (by decide))).1

/-- A letter has the value it was written for. -/
theorem base64Value?_letter (n : Nat) : base64Value? (base64Letter n) = some (n % 64) :=
  (letters_indexed _ (Nat.mod_lt _ (by decide))).2

/-! ## The letters of a group

The first letter is kept. With each of the others a byte is complete, and what is left of its six bits
is kept. -/

section Letters

variable (left pads n : Nat) (rest : List Char)

theorem fromBase64From_first : fromBase64From 0 left pads (base64Letter n :: rest) =
    fromBase64From 1 (n % 64) 0 rest := by
  simp [fromBase64From, base64Letter_ne, base64Value?_letter]

theorem fromBase64From_second : fromBase64From 1 left pads (base64Letter n :: rest) =
    (fromBase64From 2 (n % 64 % 16) 0 rest).map (UInt8.ofNat (left * 4 + n % 64 / 16) :: ·) := by
  simp [fromBase64From, base64Letter_ne, base64Value?_letter]

theorem fromBase64From_third : fromBase64From 2 left pads (base64Letter n :: rest) =
    (fromBase64From 3 (n % 64 % 4) 0 rest).map (UInt8.ofNat (left * 16 + n % 64 / 4) :: ·) := by
  simp [fromBase64From, base64Letter_ne, base64Value?_letter]

theorem fromBase64From_fourth : fromBase64From 3 left pads (base64Letter n :: rest) =
    (fromBase64From 0 0 0 rest).map (UInt8.ofNat (left * 64 + n % 64) :: ·) := by
  simp [fromBase64From, base64Letter_ne, base64Value?_letter]

end Letters

/-! ## Groups -/

theorem ofNat_eq {a : UInt8} {n : Nat} (h : n = a.toNat) : UInt8.ofNat n = a := by
  rw [h, UInt8.ofNat_toNat]

/-- A whole group is read as its three bytes, and then what follows it. -/
theorem fromBase64From_group (a b c : UInt8) (rest : List UInt8) :
    fromBase64From 0 0 0 (base64 (a :: b :: c :: rest)) =
      (fromBase64From 0 0 0 (base64 rest)).map ([a, b, c] ++ ·) := by
  have ha := a.toNat_lt
  have hb := b.toNat_lt
  have hc := c.toNat_lt
  simp only [base64, fromBase64From_first, fromBase64From_second, fromBase64From_third,
    fromBase64From_fourth, Option.map_map]
  refine congrArg (Option.map · _) (funext fun bytes => ?_)
  simp only [Function.comp, List.cons_append, List.nil_append]
  -- Each byte is the bits kept of one letter and those at the head of the next.
  rw [ofNat_eq (a := a) (by omega), ofNat_eq (a := b) (by omega), ofNat_eq (a := c) (by omega)]

/-- Two bytes at the end. -/
theorem fromBase64From_two (a b : UInt8) : fromBase64From 0 0 0 (base64 [a, b]) = some [a, b] := by
  have ha := a.toNat_lt
  have hb := b.toNat_lt
  simp only [base64, fromBase64From_first, fromBase64From_second, fromBase64From_third]
  rw [ofNat_eq (a := a) (by omega), ofNat_eq (a := b) (by omega)]
  rfl

/-- One byte at the end. -/
theorem fromBase64From_one (a : UInt8) : fromBase64From 0 0 0 (base64 [a]) = some [a] := by
  have ha := a.toNat_lt
  simp only [base64, fromBase64From_first, fromBase64From_second]
  rw [ofNat_eq (a := a) (by omega)]
  rfl

/-- **What is written in letters is read back.** -/
theorem fromBase64?_base64 (bytes : List UInt8) : fromBase64? (base64 bytes) = some bytes := by
  unfold fromBase64?
  induction bytes using base64.induct with
  | case1 => rfl
  | case2 a => exact fromBase64From_one a
  | case3 a b => exact fromBase64From_two a b
  | case4 a b c rest ih =>
    rw [fromBase64From_group, ih]
    rfl

/-- Two bytes are three letters and one equals sign. -/
example : base64 [77, 97] = ['T', 'W', 'E', '='] := by decide +kernel

end SuiteEngine.Text
