import SuiteEngine.Text.Utf8

/-!
# What is encoded is decoded

A text is encoded character by character, in one to four bytes each: the first byte holds the
highest bits of the character and says how many bytes there are, and each of the others holds six bits.
The decoder reads such a row of bytes as the character again, so it reads back every text.

Headlines:
* `encode_eq`: the bytes of a text are those of its characters.
* `utf8Step_encodeChar`: the bytes of one character are read as this character.
* **`decode_encode`**: what is encoded is decoded.
* `decodeLossy_encode`: nothing in it is replaced.
* `encode_ascii_head`: the bytes of a text that begins in ASCII begin so.
-/

namespace SuiteEngine.Text

open String (utf8EncodeChar)

/-! ## The bytes of a text -/

theorem byteArray_toList_loop (b : ByteArray) (i : Nat) (seen : List UInt8) :
    ByteArray.toList.loop b i seen = seen.reverse ++ b.data.toList.drop i := by
  induction hn : b.size - i generalizing i seen with
  | zero =>
    have hi : b.size ≤ i := by omega
    rw [ByteArray.toList.loop, if_neg (by omega), List.drop_eq_nil_of_le, List.append_nil]
    simpa using hi
  | succ n ih =>
    have hi : i < b.size := by omega
    rw [ByteArray.toList.loop, if_pos hi, ih (i + 1) _ (by omega)]
    have hd : i < b.data.toList.length := by simpa using hi
    rw [List.drop_eq_getElem_cons hd, List.reverse_cons, List.append_assoc]
    have hg : b.get! i = b.data.toList[i] := getElem!_pos b.data i (by simpa using hi)
    rw [hg]
    rfl

/-- The bytes of a text are those of its characters. -/
theorem encode_eq (s : String) : encode s = s.toList.flatMap utf8EncodeChar := by
  change ByteArray.toList.loop s.toByteArray 0 [] = _
  rw [byteArray_toList_loop, ← String.utf8Encode_toList, List.utf8Encode]
  simp

/-! ## The bits in a byte -/

theorem continuation_bits : ∀ n < 64, isContinuation (UInt8.ofNat (n + 128)) = true ∧
    (UInt8.ofNat (n + 128) &&& 0x3F).toNat = n := by decide

theorem lead_two : ∀ n < 32, 2 ≤ n →
    ¬ UInt8.ofNat (n + 192) < 0x80 ∧ ¬ UInt8.ofNat (n + 192) < 0xC2 ∧
      UInt8.ofNat (n + 192) < 0xE0 ∧ (UInt8.ofNat (n + 192) &&& 0x1F).toNat = n := by
  decide

theorem lead_three : ∀ n < 16,
    ¬ UInt8.ofNat (n + 224) < 0x80 ∧ ¬ UInt8.ofNat (n + 224) < 0xC2 ∧
      ¬ UInt8.ofNat (n + 224) < 0xE0 ∧ UInt8.ofNat (n + 224) < 0xF0 ∧
      (UInt8.ofNat (n + 224) &&& 0x0F).toNat = n := by
  decide

theorem lead_four : ∀ n < 5,
    ¬ UInt8.ofNat (n + 240) < 0x80 ∧ ¬ UInt8.ofNat (n + 240) < 0xC2 ∧
      ¬ UInt8.ofNat (n + 240) < 0xE0 ∧ ¬ UInt8.ofNat (n + 240) < 0xF0 ∧
      UInt8.ofNat (n + 240) < 0xF5 ∧ (UInt8.ofNat (n + 240) &&& 0x07).toNat = n := by
  decide

theorem mayFollow_two : ∀ n < 32, ∀ k < 64,
    mayFollow (UInt8.ofNat (n + 192)) (UInt8.ofNat (k + 128)) = true := by decide

theorem mayFollow_three : ∀ n < 16, ∀ k < 64, (n = 0 → 32 ≤ k) → (n = 13 → k < 32) →
    mayFollow (UInt8.ofNat (n + 224)) (UInt8.ofNat (k + 128)) = true := by decide

theorem mayFollow_four : ∀ n < 5, ∀ k < 64, (n = 0 → 16 ≤ k) → (n = 4 → k < 16) →
    mayFollow (UInt8.ofNat (n + 240)) (UInt8.ofNat (k + 128)) = true := by decide

theorem lead_one : ∀ n < 128, UInt8.ofNat n < 0x80 ∧ (UInt8.ofNat n).toNat = n := by decide

/-! ## One character -/

/-- The continuations that are still missing complete the character. -/
theorem continuations_of_bits {first : Nat} {seen : List UInt8} (bits : List Nat)
    (hb : ∀ n ∈ bits, n < 64) (rest : List UInt8) :
    continuations first seen bits.length (bits.map (fun n => UInt8.ofNat (n + 128)) ++ rest) =
      .char (assemble first (seen.reverse ++ bits.map fun n => UInt8.ofNat (n + 128)))
        (seen.length + bits.length + 1) := by
  induction bits generalizing seen with
  | nil => simp [continuations]
  | cons n bits ih =>
    have hn := (continuation_bits n (hb n List.mem_cons_self)).1
    rw [List.length_cons, List.map_cons, List.cons_append, continuations, if_pos hn,
      ih fun m hm => hb m (List.mem_cons_of_mem n hm)]
    rw [List.reverse_cons, List.append_assoc, List.length_cons]
    congr 1
    omega

theorem assemble_of_bits (first : Nat) (bits : List Nat) (hb : ∀ n ∈ bits, n < 64) :
    assemble first (bits.map fun n => UInt8.ofNat (n + 128)) =
      Char.ofNat (bits.foldl (fun n b => n * 64 + b) first) := by
  unfold assemble
  congr 1
  induction bits generalizing first with
  | nil => rfl
  | cons n bits ih =>
    have hn := (continuation_bits n (hb n List.mem_cons_self)).2
    rw [List.map_cons, List.foldl_cons, List.foldl_cons, hn,
      ih _ fun m hm => hb m (List.mem_cons_of_mem n hm)]

/-- A first byte, a second one that may follow it and further ones are one character. -/
theorem multibyte_of_bits {lead : UInt8} (first : Nat) {k : Nat} (hk : k < 64)
    (hf : mayFollow lead (UInt8.ofNat (k + 128)) = true) (bits : List Nat)
    (hb : ∀ n ∈ bits, n < 64) (rest : List UInt8) :
    multibyte lead first bits.length
        (UInt8.ofNat (k + 128) :: (bits.map (fun n => UInt8.ofNat (n + 128)) ++ rest)) =
      .char (Char.ofNat ((k :: bits).foldl (fun n b => n * 64 + b) first)) (bits.length + 2) := by
  have hall : ∀ n ∈ k :: bits, n < 64 := by
    intro n hn
    rcases List.mem_cons.mp hn with rfl | hn
    · exact hk
    · exact hb n hn
  rw [multibyte, if_pos hf, continuations_of_bits bits hb, ← assemble_of_bits first (k :: bits) hall]
  rw [List.reverse_singleton, List.singleton_append, List.map_cons, List.length_singleton,
    Nat.add_comm 1]

/-- **The bytes of a character are read as this character**, whatever follows them. -/
theorem utf8Step_encodeChar (c : Char) (rest : List UInt8) :
    ∃ lead more, utf8EncodeChar c = lead :: more ∧
      utf8Step lead (more ++ rest) = .char c (more.length + 1) := by
  have hc : Char.ofNat c.val.toNat = c := Char.ofNat_toNat c
  have hv : c.val.toNat < 0xD800 ∨ 0xDFFF < c.val.toNat ∧ c.val.toNat < 0x110000 := c.valid
  unfold utf8EncodeChar
  generalize c.val.toNat = v at hc hv ⊢
  dsimp only
  -- One case for each number of bytes; the bits put together are the character again.
  by_cases h₁ : v ≤ 127
  · rw [if_pos h₁]
    obtain ⟨hl, hn⟩ := lead_one v (by omega)
    refine ⟨_, [], rfl, ?_⟩
    rw [utf8Step, if_pos hl, hn, hc]
    rfl
  rw [if_neg h₁]
  by_cases h₂ : v ≤ 2047
  · rw [if_pos h₂]
    obtain ⟨ha, hb, hd, hn⟩ := lead_two (v / 64 % 32) (by omega) (by omega)
    refine ⟨_, _, rfl, ?_⟩
    rw [utf8Step, if_neg ha, if_neg hb, if_pos hd, hn]
    have hm := multibyte_of_bits (v / 64 % 32) (k := v % 64) (by omega)
      (mayFollow_two (v / 64 % 32) (by omega) (v % 64) (by omega)) [] (by simp) rest
    have he : v / 64 % 32 * 64 + v % 64 = v := by omega
    simpa [he, hc] using hm
  rw [if_neg h₂]
  by_cases h₃ : v ≤ 65535
  · rw [if_pos h₃]
    obtain ⟨ha, hb, hd, he, hn⟩ := lead_three (v / 4096 % 16) (by omega)
    refine ⟨_, _, rfl, ?_⟩
    rw [utf8Step, if_neg ha, if_neg hb, if_neg hd, if_pos he, hn]
    have hm := multibyte_of_bits (v / 4096 % 16) (k := v / 64 % 64) (by omega)
      (mayFollow_three (v / 4096 % 16) (by omega) (v / 64 % 64) (by omega) (by omega) (by omega))
      [v % 64] (by simp; omega) rest
    have he : (v / 4096 % 16 * 64 + v / 64 % 64) * 64 + v % 64 = v := by omega
    simpa [he, hc] using hm
  · rw [if_neg h₃]
    obtain ⟨ha, hb, hd, he, hf, hn⟩ := lead_four (v / 262144 % 8) (by omega)
    refine ⟨_, _, rfl, ?_⟩
    rw [utf8Step, if_neg ha, if_neg hb, if_neg hd, if_neg he, if_pos hf, hn]
    have hm := multibyte_of_bits (v / 262144 % 8) (k := v / 4096 % 64) (by omega)
      (mayFollow_four (v / 262144 % 8) (by omega) (v / 4096 % 64) (by omega) (by omega) (by omega))
      [v / 64 % 64, v % 64] (by simp; omega) rest
    have he : ((v / 262144 % 8 * 64 + v / 4096 % 64) * 64 + v / 64 % 64) * 64 + v % 64 = v := by
      omega
    simpa [he, hc] using hm

/-! ## A text -/

/-- The rest of a character that was read is passed over. -/
theorem decodeFrom_skip (seen : List Char) (position : Nat) (more rest : List UInt8) :
    ∃ position', decodeFrom seen position more.length (more ++ rest) =
      decodeFrom seen position' 0 rest := by
  induction more generalizing position with
  | nil => exact ⟨position, rfl⟩
  | cons b more ih =>
    rw [List.length_cons, List.cons_append, decodeFrom]
    exact ih (position + 1)

theorem decodeFrom_encode (cs seen : List Char) (position : Nat) :
    decodeFrom seen position 0 (cs.flatMap utf8EncodeChar) =
      .ok (String.ofList (seen.reverse ++ cs)) := by
  induction cs generalizing seen position with
  | nil => rw [List.append_nil]; rfl
  | cons c cs ih =>
    obtain ⟨lead, more, he, hs⟩ := utf8Step_encodeChar c (cs.flatMap utf8EncodeChar)
    rw [List.flatMap_cons, he, List.cons_append, decodeFrom, hs]
    obtain ⟨position', hp⟩ :=
      decodeFrom_skip (c :: seen) (position + 1) more (cs.flatMap utf8EncodeChar)
    dsimp only
    rw [Nat.add_sub_cancel, hp, ih, List.reverse_cons, List.append_assoc, List.singleton_append]

/-- **What is encoded is decoded.** -/
theorem decode_encode (s : String) : decode (encode s) = .ok s := by
  rw [decode, encode_eq, decodeFrom_encode, List.reverse_nil, List.nil_append, String.ofList_toList]

/-- Where nothing is ill-formed, nothing is replaced. -/
theorem decodeLossyFrom_of_decodeFrom {seen : List Char} {position skip : Nat} {bytes : List UInt8}
    {s : String} (h : decodeFrom seen position skip bytes = .ok s) :
    decodeLossyFrom seen skip bytes = s := by
  induction bytes generalizing seen position skip with
  | nil =>
    rw [decodeFrom] at h
    rw [decodeLossyFrom]
    exact Except.ok.inj h
  | cons lead rest ih =>
    cases skip with
    | succ skip => exact ih h
    | zero =>
      rw [decodeFrom] at h
      rw [decodeLossyFrom]
      cases hs : utf8Step lead rest with
      | char c length =>
        rw [hs] at h
        exact ih h
      | bad fault length =>
        rw [hs] at h
        cases h

/-- Nothing in what is encoded is replaced. -/
theorem decodeLossy_encode (s : String) : decodeLossy (encode s) = s :=
  decodeLossyFrom_of_decodeFrom (decode_encode s)

theorem encode_append (s t : String) : encode (s ++ t) = encode s ++ encode t := by
  rw [encode_eq, encode_eq, encode_eq, String.toList_append, List.flatMap_append]

theorem ofNat_ne_zero {n : Nat} (h : 0 < n) (hn : n < 256) : UInt8.ofNat n ≠ 0 := by
  intro h0
  have h1 : (UInt8.ofNat n).toNat = 0 := by rw [h0]; rfl
  rw [UInt8.toNat_ofNat', Nat.mod_eq_of_lt hn] at h1
  omega

/-- Only the zero character has a zero byte. -/
theorem encodeChar_ne_zero {c : Char} (hc : c.val.toNat ≠ 0) {b : UInt8}
    (hb : b ∈ utf8EncodeChar c) : b ≠ 0 := by
  obtain ⟨n, hpos, hlt, rfl⟩ : ∃ n, 0 < n ∧ n < 256 ∧ b = UInt8.ofNat n := by
    unfold utf8EncodeChar at hb
    generalize c.val.toNat = v at hc hb
    dsimp only at hb
    split at hb
    · exact ⟨v, by omega, by omega, List.mem_singleton.mp hb⟩
    split at hb
    · simp only [List.mem_cons, List.not_mem_nil, or_false] at hb
      rcases hb with rfl | rfl
      · exact ⟨_, by omega, by omega, rfl⟩
      · exact ⟨_, by omega, by omega, rfl⟩
    split at hb
    · simp only [List.mem_cons, List.not_mem_nil, or_false] at hb
      rcases hb with rfl | rfl | rfl
      · exact ⟨_, by omega, by omega, rfl⟩
      · exact ⟨_, by omega, by omega, rfl⟩
      · exact ⟨_, by omega, by omega, rfl⟩
    · simp only [List.mem_cons, List.not_mem_nil, or_false] at hb
      rcases hb with rfl | rfl | rfl | rfl
      · exact ⟨_, by omega, by omega, rfl⟩
      · exact ⟨_, by omega, by omega, rfl⟩
      · exact ⟨_, by omega, by omega, rfl⟩
      · exact ⟨_, by omega, by omega, rfl⟩
  exact ofNat_ne_zero hpos hlt

/-- The bytes of a text that begins in ASCII and holds no zero character begin so and hold no zero.
-/
theorem encode_ascii_head {s : String} {c : Char} {cs : List Char} (h : s.toList = c :: cs)
    (hc : c.val.toNat < 128) (hz : ∀ d ∈ s.toList, d.val.toNat ≠ 0) :
    ∃ first rest, encode s = first :: rest ∧ first < 0x80 ∧ ∀ b ∈ first :: rest, b ≠ 0 := by
  have he : utf8EncodeChar c = [UInt8.ofNat c.val.toNat] := by
    unfold utf8EncodeChar
    exact if_pos (by omega)
  refine ⟨UInt8.ofNat c.val.toNat, cs.flatMap utf8EncodeChar, ?_, (lead_one _ hc).1, ?_⟩
  · rw [encode_eq, h, List.flatMap_cons, he, List.singleton_append]
  · intro b hb h0
    have hm : b ∈ (c :: cs).flatMap utf8EncodeChar := by
      rw [List.flatMap_cons, he]
      exact hb
    obtain ⟨d, hd, hb'⟩ := List.mem_flatMap.mp hm
    exact encodeChar_ne_zero (hz d (h ▸ hd)) hb' h0

end SuiteEngine.Text
