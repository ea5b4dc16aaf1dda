import SuiteEngine.Proofs.Json.Printed

/-!
# Text in ASCII is read back

What is beyond ASCII stands in a text by its number, or by two numbers for its halves; in strings the
reader puts the character back, and outside of strings there is none of them. So a value that is printed on
one line and put into ASCII is read back. Beside what JSON has a form for, the names of the infinities and
of what is no number are read.

Headlines:
* `hexValue_hex`: four hexadecimal digits are read as their number.
* `readsChar_ascii`: a character of a string is read back from what stands for it in ASCII.
* **`reads_ascii`**, **`parse_ascii`**: so is a value.
-/

namespace SuiteEngine.Json

/-! ## Hexadecimal digits -/

theorem digitChar_decimal : ∀ d < 10, d.digitChar.isDigit = true ∧ d.digitChar.toNat - 48 = d := by
  decide

theorem digitChar_letter : ∀ d < 16, 10 ≤ d → d.digitChar.isDigit = false ∧
    (decide ('a' ≤ d.digitChar) && decide (d.digitChar ≤ 'f')) = true ∧ d.digitChar.toNat - 87 = d := by
  decide

/-- One more digit at the end. -/
theorem hexValue_append (cs : List Char) {d : Nat} (hd : d < 16) :
    hexValue? (cs ++ [d.digitChar]) = (hexValue? cs).map (· * 16 + d) := by
  unfold hexValue?
  rw [List.foldl_append, List.foldl_cons, List.foldl_nil]
  generalize List.foldl _ (some 0) cs = found
  cases found with
  | none => rfl
  | some n =>
    dsimp only [Option.bind_eq_bind, Option.bind_some]
    by_cases h : d < 10
    · obtain ⟨hdigit, hvalue⟩ := digitChar_decimal d h
      rw [if_pos hdigit, hvalue]
      rfl
    · obtain ⟨hdigit, hletter, hvalue⟩ := digitChar_letter d hd (by omega)
      rw [if_neg (Bool.eq_false_iff.mp hdigit), if_pos hletter, hvalue]
      rfl

theorem hexValue_zeros (k : Nat) (cs : List Char) :
    hexValue? (List.replicate k '0' ++ cs) = hexValue? cs := by
  induction k with
  | zero => rfl
  | succ k ih => exact ih

theorem hexValue_toDigits (n : Nat) : hexValue? (Nat.toDigits 16 n) = some n := by
  induction n using Nat.strongRecOn with
  | ind n ih =>
    by_cases h : n < 16
    · rw [Nat.toDigits_of_lt_base h]
      exact (hexValue_append [] h).trans (congrArg some (show 0 * 16 + n = n by omega))
    · rw [Nat.toDigits_of_base_le (by decide) (by omega), hexValue_append _ (Nat.mod_lt n (by decide)),
        ih (n / 16) (by omega)]
      exact congrArg some (show n / 16 * 16 + n % 16 = n by omega)

/-- Four digits are read as the number that they were written for. -/
theorem hexValue_hex {n : Nat} (hn : n < 0x10000) :
    ∃ a b c d, (Text.hex 4 n).toList = [a, b, c, d] ∧ hexValue? [a, b, c, d] = some n := by
  have hlength : (Nat.toDigits 16 n).length ≤ 4 := (Nat.length_toDigits_le_iff (by decide) (by decide)).mpr hn
  have hvalue : hexValue? (Text.hex 4 n).toList = some n := by
    unfold Text.hex
    rw [String.toList_ofList, hexValue_zeros, hexValue_toDigits]
  have hfour : (Text.hex 4 n).toList.length = 4 := by
    unfold Text.hex
    rw [String.toList_ofList, List.length_append, List.length_replicate]
    omega
  generalize (Text.hex 4 n).toList = digits at hvalue hfour
  match digits, hfour with
  | [a, b, c, d], _ => exact ⟨a, b, c, d, rfl, hvalue⟩

/-! ## Characters -/

theorem unicodeEscapeOf_eq {n : Nat} {a b c d : Char} (h : (Text.hex 4 n).toList = [a, b, c, d]) :
    unicodeEscapeOf n = ['\\', 'u', a, b, c, d] := by
  unfold unicodeEscapeOf
  rw [h]

/-- The two halves of a character are read as one. -/
theorem unicodeChar_halves {a b c d a' b' c' d' : Char} {high low : Nat}
    (h : hexValue? [a, b, c, d] = some high) (h' : hexValue? [a', b', c', d'] = some low)
    (hhigh : 0xD800 ≤ high ∧ high < 0xDC00) (hlow : 0xDC00 ≤ low ∧ low < 0xE000)
    {rest : List Char} (hr : rest ≠ []) (position : Nat) :
    unicodeChar ⟨'u' :: a :: b :: c :: d :: '\\' :: 'u' :: a' :: b' :: c' :: d' :: rest, position⟩ =
      .ok (charOf (0x10000 + (high - 0xD800) * 1024 + (low - 0xDC00)), 11) := by
  have hl : 0 < rest.length := List.length_pos_iff.mpr hr
  have hs : (decide (0xD800 ≤ high) && decide (high < 0xDC00)) = true := by simp [hhigh]
  have hs' : (decide (0xDC00 ≤ low) && decide (low < 0xE000)) = true := by simp [hlow]
  unfold unicodeChar
  rw [unicodeEscape_digits position h (List.cons_ne_nil _ _)]
  change (if (decide (0xD800 ≤ high) && decide (high < 0xDC00)) = true then _ else _) = _
  rw [if_pos hs]
  dsimp only [List.drop]
  rw [if_neg (by simp only [List.length_cons]; omega)]
  change (do
    let low ← unicodeEscape ⟨'u' :: a' :: b' :: c' :: d' :: rest, position + 6⟩
    _) = _
  rw [unicodeEscape_digits (position + 6) h' hr]
  change (if (decide (0xDC00 ≤ low) && decide (low < 0xE000)) = true then _ else _) = _
  rw [if_pos hs']
  rfl

/-! ## What is in ASCII already -/

theorem asciiChar_self {c : Char} (h : c.toNat < 127) : asciiChar c = [c] := if_pos h

theorem flatMap_asciiChar {cs : List Char} (h : ∀ c ∈ cs, c.toNat < 127) :
    cs.flatMap asciiChar = cs := by
  induction cs with
  | nil => rfl
  | cons c cs ih =>
    obtain ⟨hc, hcs⟩ := List.forall_mem_cons.mp h
    rw [List.flatMap_cons, asciiChar_self hc, ih hcs, List.singleton_append]

theorem hex_ascii : ∀ n < 32, (Text.hex 4 n).toList.all fun d => d.toNat < 127 := by decide

/-- What stands for a character of ASCII in a string is in ASCII. -/
theorem stringChar_ascii {c : Char} (h : c.toNat < 127) :
    ∀ d ∈ (stringChar c).toList, d.toNat < 127 := by
  unfold stringChar
  split
  · simp
  split
  · simp
  split
  · simp
  split
  · simp
  split
  · simp
  split
  · simp
  split
  · simp
  split
  · rename_i hc
    have hhex := hex_ascii _ hc
    simp only [List.all_eq_true, decide_eq_true_eq] at hhex
    rw [String.toList_append]
    exact List.forall_mem_append.mpr ⟨by simp, hhex⟩
  · rw [String.toList_ofList]
    exact List.forall_mem_singleton.mpr h

/-- A character beyond ASCII stands for itself in a string. -/
theorem stringChar_beyond {c : Char} (h : 127 ≤ c.toNat) : stringChar c = String.ofList [c] := by
  have hne : ∀ d : Char, d.toNat < 127 → ¬ (c == d) = true := by
    intro d hd hc
    rw [eq_of_beq hc] at h
    omega
  unfold stringChar
  rw [if_neg (hne _ (by decide)), if_neg (hne _ (by decide)), if_neg (hne _ (by decide)),
    if_neg (hne _ (by decide)), if_neg (hne _ (by decide)), if_neg (hne _ (by decide)),
    if_neg (hne _ (by decide)), if_neg (by omega)]

/-! ## Strings -/

/-- **A character of a string is read back from what stands for it in ASCII.** -/
theorem readsChar_ascii (c : Char) : ReadsChar ((stringChar c).toList.flatMap asciiChar) c := by
  intro start seen position rest hr
  have hvalid : c.toNat < 0xD800 ∨ 0xDFFF < c.toNat ∧ c.toNat < 0x110000 := c.valid
  by_cases h : c.toNat < 127
  · rw [flatMap_asciiChar (stringChar_ascii h)]
    exact stringFrom_charText start seen position (charText_stringChar c) hr
  rw [stringChar_beyond (by omega), String.toList_ofList, List.flatMap_singleton]
  unfold asciiChar
  dsimp only
  rw [if_neg h]
  by_cases hbasic : c.toNat < 0x10000
  · rw [if_pos hbasic]
    obtain ⟨a, b, d, e, hdigits, hvalue⟩ := hexValue_hex hbasic
    have htext := CharText.unicode hvalue (by omega)
    rw [charOf_toNat] at htext
    rw [unicodeEscapeOf_eq hdigits]
    exact stringFrom_charText start seen position htext hr
  · -- The halves of a character are passed over together.
    rw [if_neg hbasic]
    obtain ⟨a, b, d, e, hdigits, hvalue⟩ :=
      hexValue_hex (n := 0xD800 + (c.toNat - 0x10000) / 0x400) (by omega)
    obtain ⟨a', b', d', e', hdigits', hvalue'⟩ :=
      hexValue_hex (n := 0xDC00 + (c.toNat - 0x10000) % 0x400) (by omega)
    have hc := unicodeChar_halves hvalue hvalue' (by omega) (by omega) hr (position + 1)
    have hsum : 0x10000 + (0xD800 + (c.toNat - 0x10000) / 0x400 - 0xD800) * 1024 +
        (0xDC00 + (c.toNat - 0x10000) % 0x400 - 0xDC00) = c.toNat := by omega
    rw [hsum, charOf_toNat] at hc
    rw [unicodeEscapeOf_eq hdigits, unicodeEscapeOf_eq hdigits']
    obtain ⟨position', hp⟩ := stringFrom_skip start (c :: seen) (position + 1)
      ['u', a, b, d, e, '\\', 'u', a', b', d', e'] rest
    refine ⟨position', ?_⟩
    rw [← hp]
    conv => lhs; unfold stringFrom
    simp only [List.cons_append, List.nil_append] at hc ⊢
    rw [if_neg (by decide), if_pos (by decide), hc]
    rfl

theorem readsText_join (cs : List Char) :
    ReadsText ((String.join (cs.map stringChar)).toList.flatMap asciiChar) cs := by
  induction cs with
  | nil => exact ReadsText.nil
  | cons c cs ih =>
    rw [List.map_cons, String.join_cons, String.toList_append, List.flatMap_append]
    exact ReadsText.cons (readsChar_ascii c) ih

theorem readsString_ascii (s : String) : ReadsString ((string s).toList.flatMap asciiChar) s := by
  refine ⟨_, s.toList, ?_, String.ofList_toList.symm, readsText_join s.toList⟩
  unfold string
  rw [String.toList_append, String.toList_append, List.flatMap_append, List.flatMap_append]
  rfl

/-! ## Entries -/

theorem flatMap_separated (ts : List (List Char)) :
    (separated ts).flatMap asciiChar = separated (ts.map fun t => t.flatMap asciiChar) := by
  induction ts with
  | nil => rfl
  | cons t ts ih =>
    cases ts with
    | nil => rfl
    | cons u us =>
      rw [separated, List.flatMap_append, List.flatMap_cons, asciiChar_self (by decide), ih]
      rfl

theorem flatMap_spaced (ts : List (List Char)) :
    (spaced ts).map (fun t => t.flatMap asciiChar) = spaced (ts.map fun t => t.flatMap asciiChar) := by
  cases ts with
  | nil => rfl
  | cons t ts =>
    simp only [spaced, List.map_cons, List.map_map, Function.comp_def, List.flatMap_cons,
      asciiChar_self (c := ' ') (by decide), List.singleton_append]

/-- A line of entries in ASCII. -/
theorem flatMap_line {a b : Char} (ha : a.toNat < 127) (hb : b.toNat < 127) (ts : List (List Char)) :
    (a :: (separated (spaced ts) ++ [b])).flatMap asciiChar =
      a :: (separated (spaced (ts.map fun t => t.flatMap asciiChar)) ++ [b]) := by
  rw [List.flatMap_cons, List.flatMap_append, flatMap_separated, flatMap_spaced,
    List.flatMap_singleton, asciiChar_self ha, asciiChar_self hb]
  rfl

/-! ## Values -/

section Writable

variable {xs : List Value} {fs : List (String × Value)}

theorem writable_list : writable (.list xs) = true ↔ ∀ x ∈ xs, writable x = true :=
  Value.holdsOfItems_iff

theorem writable_obj : writable (.obj fs) = true ↔ ∀ f ∈ fs, writable f.2 = true :=
  Value.holdsOfFields_iff

end Writable

theorem Reads.spaced {cs : List Char} {v : Value} (h : Reads cs v) : Reads (' ' :: cs) v := by
  have hp := Reads.padded blanks_space h Blanks.nil
  rw [List.append_nil] at hp
  exact hp

/-- There are three floats that are not finite. -/
theorem float_not_finite {x : Float} (h : x.isNaN = true ∨ x.isInf = true) :
    x = 0.0 / 0.0 ∨ x = 1.0 / 0.0 ∨ x = -1.0 / 0.0 := by
  change x.toModel.unpack.isNaN = true ∨ x.toModel.unpack.isInf = true at h
  cases hx : x.toModel.unpack with
  | notANumber => exact .inl (eq_ofModel_pack hx)
  | infinity s =>
    cases s with
    | positive => exact .inr (.inl (eq_ofModel_pack hx))
    | negative => exact .inr (.inr (eq_ofModel_pack hx))
  | zero s =>
    rw [hx] at h
    exact absurd h (by simp [Float.Model.UnpackedFloat.isNaN, Float.Model.UnpackedFloat.isInf])
  | finite s m e hm =>
    rw [hx] at h
    exact absurd h (by simp [Float.Model.UnpackedFloat.isNaN, Float.Model.UnpackedFloat.isInf])

/-- A float is read back, by its name if it is not finite. -/
theorem reads_float (x : Float) : Reads ((number x).toList.flatMap asciiChar) (.float x) := by
  by_cases h : x.isNaN = true ∨ x.isInf = true
  · obtain rfl | rfl | rfl := float_not_finite h
    · exact Reads.word rfl (by decide) (by decide) (by decide) fun _ p => ⟨p + 3, rfl⟩
    · exact Reads.word rfl (by decide) (by decide) (by decide) fun _ p => ⟨p + 8, rfl⟩
    · exact Reads.word rfl (by decide) (by decide) (by decide) fun _ p => ⟨p + 9, rfl⟩
  · obtain ⟨hn, hi⟩ := not_or.mp h
    have hx := numberText_floatText (Bool.eq_false_iff.mpr hn) (Bool.eq_false_iff.mpr hi)
    unfold number
    rw [if_neg hn, if_neg hi, flatMap_asciiChar fun c hc => (hx.visible c hc).2]
    exact Reads.of_number hx

theorem reads_list {xs : List Value} (text : Value → List Char) (h : ∀ x ∈ xs, Reads (text x) x) :
    Reads ('[' :: (separated (spaced (xs.map text)) ++ [']'])) (.list xs) := by
  have harray := Reads.of_array _ (spacedItems_forall text xs (fun _ _ => Reads.spaced) h)
  rw [spacedItems_texts, spacedItems_values] at harray
  exact harray

theorem reads_obj {fs : List (String × Value)} {key : String → List Char}
    (hkey : ∀ k, ReadsString (key k) k) (text : Value → List Char)
    (hd : (fs.map Prod.fst).Nodup) (h : ∀ f ∈ fs, Reads (text f.2) f.2) :
    Reads ('\x7b' :: (separated (spaced (fs.map fun f => key f.1 ++ ':' :: ' ' :: text f.2)) ++
      ['\x7d'])) (.obj fs) := by
  have hobject := Reads.of_object (spacedMembers key text fs)
    (fun m hm => by
      obtain ⟨before, f, hb, hf, rfl⟩ := mem_spacedMembers hm
      exact ⟨⟨before, _, hb, rfl, hkey f.1⟩, (h f hf).spaced⟩)
    ((spacedMembers_keys key text fs).symm ▸ hd)
  rw [spacedMembers_texts, spacedMembers_fields] at hobject
  exact hobject

/-- **A value that is printed and put into ASCII is read back.** -/
theorem reads_ascii {v : Value} (h : v.IsPlain) (hw : writable v = true) (depth : Nat) :
    Reads ((renderAt .line depth v).toList.flatMap asciiChar) v := by
  induction h generalizing depth with
  | @intro v here _ _ ihi ihf =>
    cases v with
    | missing => exact absurd here id
    | bytes b => exact absurd here id
    | tuple xs => exact absurd here id
    | null =>
      rw [renderAt]
      exact reads_of_written Written.null
    | bool b =>
      rw [renderAt]
      cases b with
      | true => exact reads_of_written Written.true
      | false => exact reads_of_written Written.false
    | int n =>
      have hn := numberText_int hw
      rw [renderAt, flatMap_asciiChar fun c hc => (hn.visible c hc).2]
      exact Reads.of_number hn
    | float x => exact reads_float x
    | str s => exact Reads.of_string (readsString_ascii s)
    | list xs =>
      rw [renderAt_list, flatMap_line (by decide) (by decide), List.map_map]
      exact reads_list _ fun x hx => ihi xs rfl x hx (writable_list.mp hw x hx) (depth + 1)
    | obj fs =>
      have hentry : ∀ f : String × Value,
          ((string f.1).toList ++ ':' :: ' ' :: (renderAt .line (depth + 1) f.2).toList).flatMap
              asciiChar =
            (string f.1).toList.flatMap asciiChar ++
              ':' :: ' ' :: (renderAt .line (depth + 1) f.2).toList.flatMap asciiChar :=
        fun _ => List.flatMap_append
      rw [renderAt_obj, flatMap_line (by decide) (by decide), List.map_map]
      simp only [Function.comp_def, hentry]
      exact reads_obj readsString_ascii
        (fun w => (renderAt .line (depth + 1) w).toList.flatMap asciiChar) here
        fun f hf => ihf f hf (writable_obj.mp hw f hf) (depth + 1)

/-- **So it is read from the whole text.** -/
theorem parse_ascii {v : Value} (h : v.IsPlain) (hw : writable v = true) :
    parse (ascii (render .line v)) = .ok v := by
  refine parse_of_reads ?_
  unfold ascii render
  rw [String.toList_ofList]
  exact reads_ascii h hw 0

end SuiteEngine.Json
