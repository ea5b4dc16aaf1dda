import SuiteEngine.Json.Parse

/-!
# What JSON text is

`Written cs v` says that the characters `cs` are JSON text for the value `v`, by the grammar of the
standard: no names of the infinities and of what is no number, no control characters in strings, no
zeros before a number, and no key twice. A whole number has a limit on its digits. Left out are two
escapes for one character, and blanks after a key and between brackets with nothing else in them.

Headlines:
* **`Written`**: the grammar.
* `NumberText.visible`: numbers are in ASCII, without blanks.
* `Written.ne_zero`, `Written.head_lt`: JSON text has no zero character and begins in ASCII.
-/

namespace SuiteEngine.Json

/-! ## The grammar -/

/-- A character that may stand between tokens. -/
def isBlank (c : Char) : Bool := c == ' ' || c == '\t' || c == '\n' || c == '\r'

/-- Blanks only. -/
def Blanks (cs : List Char) : Prop := ∀ c ∈ cs, isBlank c = true

/-- What stands for one character in a string: itself, or an escape. -/
inductive CharText : List Char → Char → Prop
  | plain {c : Char} (hq : c ≠ '"') (hb : c ≠ '\\') (hc : 32 ≤ c.toNat) : CharText [c] c
  | escape {e c : Char} (h : escapeChar? e = some c) : CharText ['\\', e] c
  | unicode {a b c d : Char} {n : Nat} (h : hexValue? [a, b, c, d] = some n)
      (hn : n < 0xD800 ∨ 0xE000 ≤ n) : CharText ['\\', 'u', a, b, c, d] (charOf n)

/-- What stands for some characters in a string. -/
inductive CharsText : List Char → List Char → Prop
  | nil : CharsText [] []
  | cons {t ts cs : List Char} {c : Char} (h : CharText t c) (hs : CharsText ts cs) :
      CharsText (t ++ ts) (c :: cs)

/-- A string between its quotes. -/
inductive StringText : List Char → String → Prop
  | quoted {ts cs : List Char} (h : CharsText ts cs) :
      StringText ('"' :: (ts ++ ['"'])) (String.ofList cs)

/-- Decimal digits only. -/
def AllDigits (ds : List Char) : Prop := ∀ d ∈ ds, d.isDigit = true

/-- A zero, or digits that do not start with one. -/
inductive WholeText : List Char → Prop
  | zero : WholeText ['0']
  | digits {d : Char} {ds : List Char} (hd : d.isDigit = true) (hz : d ≠ '0') (hs : AllDigits ds) :
      WholeText (d :: ds)

/-- The fraction with these digits; none when there are none. -/
def fractionText : List Char → List Char
  | [] => []
  | d :: ds => '.' :: d :: ds

/-- An exponent's sign, and whether it is negative. -/
inductive SignText : List Char → Bool → Prop
  | none : SignText [] false
  | plus : SignText ['+'] false
  | minus : SignText ['-'] true

/-- An exponent, if there is one. -/
inductive ExponentText : List Char → Option (Bool × List Char) → Prop
  | none : ExponentText [] none
  | some {e d : Char} {sign ds : List Char} {neg : Bool} (he : e = 'e' ∨ e = 'E')
      (hs : SignText sign neg) (hd : AllDigits (d :: ds)) :
      ExponentText (e :: (sign ++ d :: ds)) (some (neg, d :: ds))

/-- The power of ten that an exponent is. -/
def powerOf : Option (Bool × List Char) → Int
  | none => 0
  | some (neg, ds) => if neg then -(digitsValue ds : Int) else digitsValue ds

/-- The number that its parts denote: an integer if there is neither a fraction nor an exponent. -/
def numeral (neg : Bool) (whole frac : List Char) (exponent : Option (Bool × List Char)) : Value :=
  if frac.isEmpty && exponent.isNone then
    .int (if neg then -(digitsValue whole : Int) else digitsValue whole)
  else .float (Decimal.toFloat neg (digitsValue (whole ++ frac)) (powerOf exponent - frac.length))

/-- A number; an integer is no longer than may be. -/
inductive NumberText : List Char → Value → Prop
  | parts (neg : Bool) {whole frac etext : List Char} {exponent : Option (Bool × List Char)}
      (hw : WholeText whole) (hf : AllDigits frac) (he : ExponentText etext exponent)
      (hl : (frac.isEmpty && exponent.isNone) = true → whole.length ≤ Text.digitLimit) :
      NumberText ((if neg then ['-'] else []) ++ (whole ++ (fractionText frac ++ etext)))
        (numeral neg whole frac exponent)

/-- Texts with commas between them. -/
def separated : List (List Char) → List Char
  | [] => []
  | [t] => t
  | t :: u :: us => t ++ ',' :: separated (u :: us)

/-- What a field is written with: its key with its text, and its value with its text. -/
structure Member where
  keyText : List Char
  key : String
  valueText : List Char
  value : Value

/-- The text of a field. -/
def Member.text (m : Member) : List Char := m.keyText ++ ':' :: m.valueText

/-- The name and the value that a field is read as. -/
def Member.field (m : Member) : String × Value := (m.key, m.value)

/-- The characters are JSON text for the value. -/
inductive Written : List Char → Value → Prop
  | null : Written ['n', 'u', 'l', 'l'] .null
  | true : Written ['t', 'r', 'u', 'e'] (.bool true)
  | false : Written ['f', 'a', 'l', 's', 'e'] (.bool false)
  | number {cs : List Char} {v : Value} (h : NumberText cs v) : Written cs v
  | string {cs : List Char} {s : String} (h : StringText cs s) : Written cs (.str s)
  | array (parts : List (List Char × Value)) (h : ∀ p ∈ parts, Written p.1 p.2) :
      Written ('[' :: (separated (parts.map Prod.fst) ++ [']'])) (.list (parts.map Prod.snd))
  | object (members : List Member) (hk : ∀ m ∈ members, ∃ before cs, Blanks before ∧
        m.keyText = before ++ cs ∧ StringText cs m.key)
      (hd : (members.map Member.key).Nodup) (h : ∀ m ∈ members, Written m.valueText m.value) :
      Written ('\x7b' :: (separated (members.map Member.text) ++ ['\x7d']))
        (.obj (members.map Member.field))
  | padded {before cs after : List Char} {v : Value} (hb : Blanks before) (h : Written cs v)
      (ha : Blanks after) : Written (before ++ (cs ++ after)) v

/-! ## First characters -/

theorem Blanks.nil : Blanks [] := List.forall_mem_nil _

theorem AllDigits.nil : AllDigits [] := List.forall_mem_nil _

theorem digit_ne {d c : Char} (hd : d.isDigit = true) (hc : c.isDigit = false) : c ≠ d := by
  rintro rfl
  rw [hc] at hd
  cases hd

/-- A character that is neither blank nor beyond ASCII. -/
def IsVisible (c : Char) : Prop := 32 < c.toNat ∧ c.toNat < 127

instance : DecidablePred IsVisible := fun c =>
  inferInstanceAs (Decidable (32 < c.toNat ∧ c.toNat < 127))

theorem IsVisible.ne_zero {c : Char} (h : IsVisible c) : c ≠ '\x00' := by
  rintro rfl
  exact absurd h.1 (by decide)

theorem digit_visible {d : Char} (hd : d.isDigit = true) : IsVisible d := by
  unfold Char.isDigit at hd
  simp only [Bool.and_eq_true, decide_eq_true_eq] at hd
  have h0 : '0'.toNat ≤ d.toNat := hd.1
  have h9 : d.toNat ≤ '9'.toNat := hd.2
  exact ⟨Nat.lt_of_lt_of_le (by decide) h0, Nat.lt_of_le_of_lt h9 (by decide)⟩

theorem digit_not_blank {d : Char} (hd : d.isDigit = true) : isBlank d = false := by
  cases hb : isBlank d with
  | false => rfl
  | true =>
    unfold isBlank at hb
    simp only [Bool.or_eq_true, beq_iff_eq] at hb
    rcases hb with ((rfl | rfl) | rfl) | rfl
    · cases hd
    · cases hd
    · cases hd
    · cases hd

theorem blank_lt {b : Char} (hb : isBlank b = true) : b.toNat < 128 := by
  unfold isBlank at hb
  simp only [Bool.or_eq_true, beq_iff_eq] at hb
  rcases hb with ((rfl | rfl) | rfl) | rfl
  · decide
  · decide
  · decide
  · decide

theorem WholeText.head {whole : List Char} (h : WholeText whole) :
    ∃ d ds, whole = d :: ds ∧ d.isDigit = true := by
  cases h with
  | zero => exact ⟨'0', [], rfl, rfl⟩
  | digits hd _ _ => exact ⟨_, _, rfl, hd⟩

/-- A number begins with its sign or with a digit. -/
theorem NumberText.head {cs : List Char} {v : Value} (h : NumberText cs v) :
    ∃ d ds, cs = d :: ds ∧ (d = '-' ∨ d.isDigit = true) := by
  cases h with
  | @parts neg whole frac etext exponent hw hf he hl =>
    obtain ⟨d, ds, rfl, hd⟩ := hw.head
    cases neg with
    | true => exact ⟨'-', _, rfl, .inl rfl⟩
    | false => exact ⟨d, _, rfl, .inr hd⟩

/-! ## The characters of JSON text -/

theorem hexValue_ne_zero {a b c d : Char} {n : Nat} (h : hexValue? [a, b, c, d] = some n) :
    ∀ e ∈ [a, b, c, d], e ≠ '\x00' := by
  rintro e he rfl
  simp only [List.mem_cons, List.not_mem_nil, or_false] at he
  rcases he with rfl | rfl | rfl | rfl
  · simp [hexValue?] at h
  · simp [hexValue?] at h
  · simp [hexValue?] at h
  · simp [hexValue?] at h

theorem CharText.ne_zero {t : List Char} {c : Char} (h : CharText t c) : ∀ d ∈ t, d ≠ '\x00' := by
  cases h with
  | plain _ _ hc =>
    rintro d hd rfl
    rw [← List.mem_singleton.mp hd] at hc
    cases hc
  | @escape e c h =>
    rintro d hd rfl
    simp only [List.mem_cons, List.not_mem_nil, or_false] at hd
    rcases hd with hd | rfl
    · cases hd
    · cases h
  | unicode h _ =>
    intro d hd
    rcases List.mem_cons.mp hd with rfl | hd
    · decide
    rcases List.mem_cons.mp hd with rfl | hd
    · decide
    exact hexValue_ne_zero h d hd

theorem CharsText.ne_zero {ts cs : List Char} (h : CharsText ts cs) : ∀ d ∈ ts, d ≠ '\x00' := by
  induction h with
  | nil => exact List.forall_mem_nil _
  | cons h _ ih =>
    intro d hd
    rcases List.mem_append.mp hd with hd | hd
    · exact h.ne_zero d hd
    · exact ih d hd

theorem StringText.ne_zero {cs : List Char} {s : String} (h : StringText cs s) :
    ∀ d ∈ cs, d ≠ '\x00' := by
  cases h with
  | quoted h =>
    intro d hd
    rcases List.mem_cons.mp hd with rfl | hd
    · decide
    rcases List.mem_append.mp hd with hd | hd
    · exact h.ne_zero d hd
    · rw [List.mem_singleton.mp hd]
      decide

theorem WholeText.allDigits {ds : List Char} (h : WholeText ds) : AllDigits ds := by
  cases h with
  | zero => exact List.forall_mem_singleton.mpr rfl
  | digits hd _ hs => exact List.forall_mem_cons.mpr ⟨hd, hs⟩

theorem AllDigits.visible {ds : List Char} (h : AllDigits ds) : ∀ d ∈ ds, IsVisible d :=
  fun d hd => digit_visible (h d hd)

theorem ExponentText.visible {etext : List Char} {exponent : Option (Bool × List Char)}
    (h : ExponentText etext exponent) : ∀ d ∈ etext, IsVisible d := by
  cases h with
  | none => exact List.forall_mem_nil _
  | @some e d sign ds neg he hs hd =>
    have hsign : ∀ c ∈ sign, IsVisible c := by
      cases hs with
      | none => exact List.forall_mem_nil _
      | plus => exact List.forall_mem_singleton.mpr (by decide)
      | minus => exact List.forall_mem_singleton.mpr (by decide)
    refine List.forall_mem_cons.mpr ⟨?_, List.forall_mem_append.mpr ⟨hsign, hd.visible⟩⟩
    rcases he with rfl | rfl
    · decide
    · decide

/-- A number is written with digits and a few other characters of ASCII. -/
theorem NumberText.visible {cs : List Char} {v : Value} (h : NumberText cs v) :
    ∀ d ∈ cs, IsVisible d := by
  cases h with
  | @parts neg whole frac etext exponent hw hf he hl =>
    have hsign : ∀ c ∈ (if neg then ['-'] else []), IsVisible c := by
      cases neg with
      | true => exact List.forall_mem_singleton.mpr (by decide)
      | false => exact List.forall_mem_nil _
    have hfrac : ∀ c ∈ fractionText frac, IsVisible c := by
      cases frac with
      | nil => exact List.forall_mem_nil _
      | cons d ds => exact List.forall_mem_cons.mpr ⟨by decide, hf.visible⟩
    exact List.forall_mem_append.mpr ⟨hsign, List.forall_mem_append.mpr ⟨hw.allDigits.visible,
      List.forall_mem_append.mpr ⟨hfrac, he.visible⟩⟩⟩

theorem Blanks.ne_zero {bs : List Char} (h : Blanks bs) : ∀ d ∈ bs, d ≠ '\x00' := by
  rintro d hd rfl
  cases h _ hd

theorem separated_ne_zero {ts : List (List Char)} (h : ∀ t ∈ ts, ∀ d ∈ t, d ≠ '\x00') :
    ∀ d ∈ separated ts, d ≠ '\x00' := by
  induction ts with
  | nil => exact List.forall_mem_nil _
  | cons t ts ih =>
    obtain ⟨ht, hts⟩ := List.forall_mem_cons.mp h
    cases ts with
    | nil => exact ht
    | cons u us =>
      exact List.forall_mem_append.mpr ⟨ht, List.forall_mem_cons.mpr ⟨by decide, ih hts⟩⟩

/-- What stands between brackets has no zero character if its entries have none. -/
theorem enclosed_ne_zero {a b : Char} (ha : a ≠ '\x00') (hb : b ≠ '\x00') {ts : List (List Char)}
    (h : ∀ t ∈ ts, ∀ d ∈ t, d ≠ '\x00') : ∀ d ∈ a :: (separated ts ++ [b]), d ≠ '\x00' :=
  List.forall_mem_cons.mpr ⟨ha, List.forall_mem_append.mpr
    ⟨separated_ne_zero h, List.forall_mem_singleton.mpr hb⟩⟩

/-- There is no zero character in JSON text. -/
theorem Written.ne_zero {cs : List Char} {v : Value} (h : Written cs v) : ∀ d ∈ cs, d ≠ '\x00' := by
  induction h with
  | null => simp
  | true => simp
  | false => simp
  | number h => exact fun d hd => (h.visible d hd).ne_zero
  | string h => exact h.ne_zero
  | array parts _ ih =>
    refine enclosed_ne_zero (by decide) (by decide) fun t ht => ?_
    obtain ⟨p, hp, rfl⟩ := List.mem_map.mp ht
    exact ih p hp
  | object members hk _ _ ih =>
    refine enclosed_ne_zero (by decide) (by decide) fun t ht => ?_
    obtain ⟨m, hm, rfl⟩ := List.mem_map.mp ht
    obtain ⟨before, cs, hb, hkey, hs⟩ := hk m hm
    unfold Member.text
    rw [hkey]
    exact List.forall_mem_append.mpr ⟨List.forall_mem_append.mpr ⟨hb.ne_zero, hs.ne_zero⟩,
      List.forall_mem_cons.mpr ⟨by decide, ih m hm⟩⟩
  | padded hb _ ha ih =>
    exact List.forall_mem_append.mpr ⟨hb.ne_zero, List.forall_mem_append.mpr ⟨ih, ha.ne_zero⟩⟩

/-- JSON text begins in ASCII. -/
theorem Written.head_lt {cs : List Char} {v : Value} (h : Written cs v) :
    ∃ d ds, cs = d :: ds ∧ d.toNat < 128 := by
  induction h with
  | null => exact ⟨_, _, rfl, by decide⟩
  | true => exact ⟨_, _, rfl, by decide⟩
  | false => exact ⟨_, _, rfl, by decide⟩
  | number h =>
    obtain ⟨d, ds, hcs, rfl | hd⟩ := h.head
    · exact ⟨_, ds, hcs, by decide⟩
    · exact ⟨d, ds, hcs, Nat.lt_trans (digit_visible hd).2 (by decide)⟩
  | string h =>
    cases h with
    | quoted _ => exact ⟨_, _, rfl, by decide⟩
  | array parts _ _ => exact ⟨_, _, rfl, by decide⟩
  | object members _ _ _ _ => exact ⟨_, _, rfl, by decide⟩
  | @padded before cs after v hb _ _ ih =>
    cases before with
    | nil =>
      obtain ⟨d, ds, rfl, hd⟩ := ih
      exact ⟨d, ds ++ after, rfl, hd⟩
    | cons b bs => exact ⟨b, _, rfl, blank_lt (hb b List.mem_cons_self)⟩

end SuiteEngine.Json
