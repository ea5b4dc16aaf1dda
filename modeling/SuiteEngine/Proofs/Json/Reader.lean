import SuiteEngine.Proofs.Document.Json
import SuiteEngine.Proofs.Json.Grammar

/-!
# The reader is held to the grammar

What is JSON text for a value is read as this value. The reader goes on at the character that an entry
ends with, so the induction over the grammar is about a text and whatever stands behind it, as long as
no number goes on there: `Reads`.

Headlines:
* `CharsText.reads`, `atom_number`: strings and numbers are read to their ends.
* `items_separated`, `members_separated`: so are the entries of arrays and objects, in their order.
* **`reads_of_written`**: JSON text is read as its value, whatever follows it.
* **`parse_of_written`**: a whole text that is JSON is read as its value.
-/

namespace SuiteEngine.Json

/-! ## Blanks -/

theorem skipBlanks_blanks {bs : List Char} (hb : Blanks bs) (cs : List Char) (position : Nat) :
    skipBlanks (bs ++ cs) position = skipBlanks cs (position + bs.length) := by
  induction bs generalizing position with
  | nil => rfl
  | cons b bs ih =>
    have hbl : isBlank b = true := hb b List.mem_cons_self
    rw [List.cons_append, skipBlanks]
    unfold isBlank at hbl
    rw [if_pos hbl, ih fun c hc => hb c (List.mem_cons_of_mem b hc), List.length_cons]
    congr 1
    omega

theorem skipBlanks_of_not_blank {c : Char} (hc : isBlank c = false) (cs : List Char)
    (position : Nat) : skipBlanks (c :: cs) position = ⟨c :: cs, position⟩ := by
  unfold isBlank at hc
  rw [skipBlanks, if_neg (by simp [hc])]

/-! ## Strings -/

section Strings

variable (start : Nat) (seen : List Char) (position : Nat)

theorem stringFrom_quote (rest : List Char) :
    stringFrom start seen position 0 ('"' :: rest) =
      .ok (String.ofList seen.reverse, ⟨rest, position + 1⟩) := by
  cases rest <;> rfl

theorem stringFrom_plain {c : Char} (hq : c ≠ '"') (hb : c ≠ '\\') (hc : 32 ≤ c.toNat)
    (rest : List Char) :
    stringFrom start seen position 0 (c :: rest) =
      stringFrom start (c :: seen) (position + 1) 0 rest := by
  conv => lhs; unfold stringFrom
  rw [if_neg (by simpa using hq), if_neg (by simpa using hb), if_neg (by omega)]

theorem stringFrom_escape {e c : Char} (h : escapeChar? e = some c) (rest : List Char) :
    stringFrom start seen position 0 ('\\' :: e :: rest) =
      stringFrom start (c :: seen) (position + 1 + 1) 0 rest := by
  have hu : e ≠ 'u' := by
    rintro rfl
    cases h
  conv => lhs; unfold stringFrom
  rw [if_neg (by decide), if_pos (by decide)]
  split
  · rename_i hr
    cases hr
  · rename_i hr
    exact absurd (List.cons.inj hr).1 hu
  · rename_i hr
    obtain ⟨rfl, rfl⟩ := List.cons.inj hr
    rw [h]
    exact stringFrom.eq_2 _ _ _ _ _ _

/-- Characters that were looked at already are passed over. -/
theorem stringFrom_skip (t rest : List Char) :
    ∃ position', stringFrom start seen position t.length (t ++ rest) =
      stringFrom start seen position' 0 rest := by
  induction t generalizing position with
  | nil => exact ⟨position, rfl⟩
  | cons c t ih =>
    rw [List.length_cons, List.cons_append, stringFrom]
    exact ih (position + 1)

/-- Four digits with something behind them are a number. -/
theorem unicodeEscape_digits {a b c d : Char} {n : Nat} (h : hexValue? [a, b, c, d] = some n)
    {rest : List Char} (hr : rest ≠ []) :
    unicodeEscape ⟨'u' :: a :: b :: c :: d :: rest, position⟩ = .ok n := by
  have hl : 0 < rest.length := List.length_pos_iff.mpr hr
  have ht : (List.drop 1 ('u' :: a :: b :: c :: d :: rest)).take 4 = [a, b, c, d] := rfl
  unfold unicodeEscape
  dsimp only
  rw [if_neg (by simp only [List.length_cons]; omega), ht, h]

theorem unicodeChar_digits {a b c d : Char} {n : Nat} (h : hexValue? [a, b, c, d] = some n)
    (hn : n < 0xD800 ∨ 0xE000 ≤ n) {rest : List Char} (hr : rest ≠ []) :
    unicodeChar ⟨'u' :: a :: b :: c :: d :: rest, position⟩ = .ok (charOf n, 5) := by
  have hs : ¬ (decide (0xD800 ≤ n) && decide (n < 0xDC00)) = true := by
    simp only [Bool.and_eq_true, decide_eq_true_eq]
    omega
  unfold unicodeChar
  rw [unicodeEscape_digits position h hr]
  change (if (decide (0xD800 ≤ n) && decide (n < 0xDC00)) = true then _ else _) = _
  rw [if_neg hs]
  rfl

/-- What stands for a character is read as this character. -/
theorem stringFrom_charText {t : List Char} {c : Char} (h : CharText t c) {rest : List Char}
    (hr : rest ≠ []) :
    ∃ position', stringFrom start seen position 0 (t ++ rest) =
      stringFrom start (c :: seen) position' 0 rest := by
  cases h with
  | plain hq hb hc => exact ⟨position + 1, stringFrom_plain start seen position hq hb hc rest⟩
  | escape h => exact ⟨position + 1 + 1, stringFrom_escape start seen position h rest⟩
  | @unicode a b c d n h hn =>
    obtain ⟨position', hp⟩ :=
      stringFrom_skip start (charOf n :: seen) (position + 1) ['u', a, b, c, d] rest
    refine ⟨position', ?_⟩
    rw [← hp]
    conv => lhs; unfold stringFrom
    have hu := unicodeChar_digits (position + 1) h hn hr
    simp only [List.cons_append, List.nil_append] at hu ⊢
    rw [if_neg (by decide), if_pos (by decide), hu]
    rfl

end Strings

/-- The characters are read as those of a string, up to the quote behind them. -/
def ReadsText (ts cs : List Char) : Prop :=
  ∀ (start : Nat) (seen : List Char) (position : Nat) (rest : List Char),
    ∃ position', stringFrom start seen position 0 (ts ++ '"' :: rest) =
      .ok (String.ofList (seen.reverse ++ cs), ⟨rest, position'⟩)

/-- What stands for one character in a string is read as this character. -/
def ReadsChar (t : List Char) (c : Char) : Prop :=
  ∀ (start : Nat) (seen : List Char) (position : Nat) (rest : List Char), rest ≠ [] →
    ∃ position', stringFrom start seen position 0 (t ++ rest) =
      stringFrom start (c :: seen) position' 0 rest

theorem ReadsText.nil : ReadsText [] [] := fun start seen position rest => by
  rw [List.append_nil]
  exact ⟨position + 1, stringFrom_quote start seen position rest⟩

theorem ReadsText.cons {t ts cs : List Char} {c : Char} (h : ReadsChar t c) (hs : ReadsText ts cs) :
    ReadsText (t ++ ts) (c :: cs) := fun start seen position rest => by
  obtain ⟨p₁, h₁⟩ := h start seen position (ts ++ '"' :: rest) (by simp)
  obtain ⟨p₂, h₂⟩ := hs start (c :: seen) p₁ rest
  refine ⟨p₂, ?_⟩
  rw [List.append_assoc, h₁, h₂, List.reverse_cons, List.append_assoc, List.singleton_append]

/-- **A string is read to its closing quote.** -/
theorem CharsText.reads {ts cs : List Char} (h : CharsText ts cs) : ReadsText ts cs := by
  induction h with
  | nil => exact ReadsText.nil
  | cons h _ ih => exact ih.cons fun start seen position _ hr => stringFrom_charText start seen position h hr

/-- The characters are read as a string between its quotes. -/
def ReadsString (cs : List Char) (s : String) : Prop :=
  ∃ ts chars, cs = '"' :: (ts ++ ['"']) ∧ s = String.ofList chars ∧ ReadsText ts chars

theorem StringText.reads {cs : List Char} {s : String} (h : StringText cs s) : ReadsString cs s := by
  cases h with
  | quoted h => exact ⟨_, _, rfl, rfl, h.reads⟩

/-! ## Numbers -/

/-- No number goes on here. -/
def Stops (rest : List Char) : Prop :=
  ∀ c ∈ rest.head?, c.isDigit = false ∧ c ≠ '.' ∧ c ≠ 'e' ∧ c ≠ 'E'

theorem Stops.nil : Stops [] := by
  rintro c ⟨⟩

theorem stops_cons {c : Char} {cs : List Char} (hd : c.isDigit = false) (hp : c ≠ '.')
    (he : c ≠ 'e') (hE : c ≠ 'E') : Stops (c :: cs) := by
  intro d h
  obtain rfl := Option.some.inj h
  exact ⟨hd, hp, he, hE⟩

theorem Stops.of_blank {c : Char} (hc : isBlank c = true) (cs : List Char) : Stops (c :: cs) := by
  unfold isBlank at hc
  simp only [Bool.or_eq_true, beq_iff_eq] at hc
  rcases hc with ((rfl | rfl) | rfl) | rfl
  · exact stops_cons (by decide) (by decide) (by decide) (by decide)
  · exact stops_cons (by decide) (by decide) (by decide) (by decide)
  · exact stops_cons (by decide) (by decide) (by decide) (by decide)
  · exact stops_cons (by decide) (by decide) (by decide) (by decide)

theorem spanDigits_append {ds rest : List Char} (hd : AllDigits ds)
    (hr : ∀ c ∈ rest.head?, c.isDigit = false) : spanDigits (ds ++ rest) = (ds, rest) := by
  have ht : rest.takeWhile Char.isDigit = [] ∧ rest.dropWhile Char.isDigit = rest := by
    cases rest with
    | nil => exact ⟨rfl, rfl⟩
    | cons c cs =>
      have hc : c.isDigit = false := hr c rfl
      exact ⟨by simp [List.takeWhile, hc], by simp [List.dropWhile, hc]⟩
  unfold spanDigits
  rw [List.takeWhile_append_of_pos hd, List.dropWhile_append_of_pos hd, ht.1, ht.2, List.append_nil]

theorem wholePart_append {whole rest : List Char} (hw : WholeText whole)
    (hr : ∀ c ∈ rest.head?, c.isDigit = false) : wholePart? (whole ++ rest) = some (whole, rest) := by
  cases hw with
  | zero => rfl
  | @digits d ds hd hz hs =>
    have hall : AllDigits (d :: ds) := by
      intro c hc
      rcases List.mem_cons.mp hc with rfl | hc
      · exact hd
      · exact hs c hc
    have hsp := spanDigits_append hall hr
    unfold wholePart?
    split
    · rename_i he
      exact absurd (List.cons.inj he).1 hz
    · rename_i he
      obtain ⟨rfl, rfl⟩ := List.cons.inj he
      rw [if_pos hd]
      exact congrArg some hsp
    · rename_i he
      cases he

theorem fractionPart_append {frac rest : List Char} (hf : AllDigits frac)
    (hr : ∀ c ∈ rest.head?, c.isDigit = false ∧ c ≠ '.') :
    fractionPart (fractionText frac ++ rest) = (frac, rest) := by
  cases frac with
  | nil =>
    cases rest with
    | nil => rfl
    | cons c cs =>
      have hc : c ≠ '.' := (hr c rfl).2
      unfold fractionPart fractionText
      split
      · rename_i he
        exact absurd (List.cons.inj he).1 hc
      · rfl
  | cons d ds =>
    have hs := spanDigits_append hf fun c hc => (hr c hc).1
    have htext : fractionText (d :: ds) ++ rest = '.' :: (d :: ds ++ rest) := rfl
    rw [htext]
    unfold fractionPart
    split
    · rename_i he
      rw [← (List.cons.inj he).2, hs]
    · rename_i hne
      exact absurd rfl (hne _)

theorem splitSign_append {sign : List Char} {neg : Bool} (hs : SignText sign neg) {d : Char}
    (hd : d.isDigit = true) (rest : List Char) :
    Text.splitSign (sign ++ d :: rest) = (neg, d :: rest) := by
  cases hs with
  | plus => rfl
  | minus => rfl
  | none =>
    unfold Text.splitSign
    split
    · rename_i he
      obtain ⟨rfl, -⟩ := List.cons.inj he
      cases hd
    · rename_i he
      obtain ⟨rfl, -⟩ := List.cons.inj he
      cases hd
    · rfl

theorem exponentPart_append {etext : List Char} {exponent : Option (Bool × List Char)}
    (he : ExponentText etext exponent) {rest : List Char} (hr : Stops rest) :
    exponentPart (etext ++ rest) = (exponent, rest) := by
  cases he with
  | none =>
    cases rest with
    | nil => rfl
    | cons c cs =>
      obtain ⟨-, -, he, hE⟩ := hr c rfl
      unfold exponentPart
      exact if_neg (by simp [he, hE])
  | @some e d sign ds neg he hs hd =>
    have hsp := spanDigits_append hd fun c hc => (hr c hc).1
    have hsign := splitSign_append hs (hd d List.mem_cons_self) (ds ++ rest)
    have hmark : (e == 'e' || e == 'E') = true := by
      rcases he with rfl | rfl
      · rfl
      · rfl
    unfold exponentPart
    rw [List.cons_append, List.append_assoc, List.cons_append]
    dsimp only
    rw [if_pos hmark, hsign, ← List.cons_append, hsp]

/-- What follows the fraction of a number belongs to no fraction. -/
theorem exponent_head {etext rest : List Char} {exponent : Option (Bool × List Char)}
    (he : ExponentText etext exponent) (hr : Stops rest) :
    ∀ c ∈ (etext ++ rest).head?, c.isDigit = false ∧ c ≠ '.' := by
  intro c hc
  cases he with
  | none => exact ⟨(hr c hc).1, (hr c hc).2.1⟩
  | some he =>
    obtain rfl := Option.some.inj hc
    rcases he with rfl | rfl
    · exact ⟨rfl, by decide⟩
    · exact ⟨rfl, by decide⟩

/-- What follows the whole part of a number is no digit. -/
theorem fraction_head {frac rest : List Char}
    (hr : ∀ c ∈ rest.head?, c.isDigit = false ∧ c ≠ '.') :
    ∀ c ∈ (fractionText frac ++ rest).head?, c.isDigit = false := by
  intro c hc
  cases frac with
  | nil => exact (hr c hc).1
  | cons d ds =>
    obtain rfl := Option.some.inj hc
    rfl

/-- **A number is read to its end.** -/
theorem number_append (neg : Bool) {whole frac etext : List Char}
    {exponent : Option (Bool × List Char)} (hw : WholeText whole) (hf : AllDigits frac)
    (he : ExponentText etext exponent)
    (hl : (frac.isEmpty && exponent.isNone) = true → whole.length ≤ Text.digitLimit)
    {rest : List Char} (hr : Stops rest) (position : Nat) :
    ∃ position', number? neg (whole ++ (fractionText frac ++ (etext ++ rest))) position =
      some (.ok (numeral neg whole frac exponent, ⟨rest, position'⟩)) := by
  have hhead := exponent_head he hr
  unfold number? numeral
  rw [wholePart_append hw (fraction_head hhead)]
  dsimp only
  rw [fractionPart_append hf hhead]
  dsimp only
  rw [exponentPart_append he hr]
  dsimp only
  by_cases hint : (frac.isEmpty && exponent.isNone) = true
  · rw [if_pos hint, if_pos hint, if_neg (Nat.not_lt.mpr (hl hint))]
    exact ⟨_, rfl⟩
  · rw [if_neg hint, if_neg hint]
    cases exponent with
    | none => exact ⟨_, rfl⟩
    | some e => exact ⟨_, rfl⟩

/-- No word stands where a digit does. -/
theorem no_word_digit {d : Char} (hd : d.isDigit = true) (cs : List Char) :
    words.find? (fun w => w.1.toList.isPrefixOf (d :: cs)) = none := by
  have hn : ('n' == d) = false := beq_eq_false_iff_ne.mpr (digit_ne hd rfl)
  have ht : ('t' == d) = false := beq_eq_false_iff_ne.mpr (digit_ne hd rfl)
  have hf : ('f' == d) = false := beq_eq_false_iff_ne.mpr (digit_ne hd rfl)
  have hN : ('N' == d) = false := beq_eq_false_iff_ne.mpr (digit_ne hd rfl)
  have hI : ('I' == d) = false := beq_eq_false_iff_ne.mpr (digit_ne hd rfl)
  have hm : ('-' == d) = false := beq_eq_false_iff_ne.mpr (digit_ne hd rfl)
  simp [words, List.isPrefixOf, hn, ht, hf, hN, hI, hm]

/-- Nor where a sign and a digit do. -/
theorem no_word_sign {d : Char} (hd : d.isDigit = true) (cs : List Char) :
    words.find? (fun w => w.1.toList.isPrefixOf ('-' :: d :: cs)) = none := by
  have hI : ('I' == d) = false := beq_eq_false_iff_ne.mpr (digit_ne hd rfl)
  simp [words, List.isPrefixOf, hI]

/-- **So it is where a value is expected.** -/
theorem atom_number {cs : List Char} {v : Value} (h : NumberText cs v) {rest : List Char}
    (hr : Stops rest) (position : Nat) :
    ∃ position', atom ⟨cs ++ rest, position⟩ = .ok (v, ⟨rest, position'⟩) := by
  cases h with
  | @parts neg whole frac etext exponent hw hf he hl =>
    obtain ⟨d, ds, rfl, hd⟩ := hw.head
    cases neg with
    | true =>
      obtain ⟨position', hp⟩ := number_append true hw hf he hl hr (position + 1)
      refine ⟨position', ?_⟩
      simp only [if_true, List.append_assoc, List.cons_append, List.nil_append] at hp ⊢
      unfold atom
      rw [no_word_sign hd]
      simp only [hp]
    | false =>
      obtain ⟨position', hp⟩ := number_append false hw hf he hl hr position
      refine ⟨position', ?_⟩
      simp only [Bool.false_eq_true, if_false, List.append_assoc, List.cons_append,
        List.nil_append] at hp ⊢
      unfold atom
      rw [no_word_digit hd]
      have hsign : ∀ cs, d :: (ds ++ (fractionText frac ++ (etext ++ rest))) ≠ '-' :: cs :=
        fun cs hs => absurd (List.cons.inj hs).1.symm (digit_ne hd rfl)
      dsimp only
      split
      · rename_i hs
        split at hs
        · rename_i hm
          exact absurd hm (hsign _)
        · rw [hp] at hs
          exact (Option.some.inj hs).symm
      · rename_i hs
        split at hs
        · rename_i hm
          exact absurd hm (hsign _)
        · rw [hp] at hs
          cases hs

/-! ## Values -/

theorem skip_blanks {bs : List Char} (hb : Blanks bs) {c : Char} (hc : isBlank c = false)
    (cs : List Char) (position : Nat) :
    Cursor.skip ⟨bs ++ c :: cs, position⟩ = ⟨c :: cs, position + bs.length⟩ := by
  unfold Cursor.skip
  rw [skipBlanks_blanks hb, skipBlanks_of_not_blank hc]

/-- Where no string, no array and no object begins, a word or a number has to. -/
theorem value_atom (fuel : Nat) {c : Char} (hq : c ≠ '"') (ha : c ≠ '[') (ho : c ≠ '\x7b')
    (cs : List Char) (position : Nat) :
    value (fuel + 1) ⟨c :: cs, position⟩ = atom ⟨c :: cs, position⟩ := by
  rw [value]
  split
  · rename_i h
    exact absurd (List.cons.inj h).1 hq
  · rename_i h
    exact absurd (List.cons.inj h).1 ha
  · rename_i h
    exact absurd (List.cons.inj h).1 ho
  · rfl

/-- The characters are read as the value, up to some blanks, whatever follows that no number goes on
with. -/
def Reads (cs : List Char) (v : Value) : Prop :=
  ∀ (rest : List Char) (position fuel : Nat), Stops rest → 2 * cs.length ≤ fuel →
    ∃ bs position', Blanks bs ∧
      value fuel (skipBlanks (cs ++ rest) position) = .ok (v, ⟨bs ++ rest, position'⟩)

/-- What is read in one go, from its first character on. -/
theorem Reads.of_head {c : Char} {cs : List Char} {v : Value} (hc : isBlank c = false)
    (h : ∀ (rest : List Char) (position fuel : Nat), Stops rest → 2 * cs.length ≤ fuel →
      ∃ position', value (fuel + 1) ⟨c :: (cs ++ rest), position⟩ = .ok (v, ⟨rest, position'⟩)) :
    Reads (c :: cs) v := by
  intro rest position fuel hr hf
  rw [List.length_cons] at hf
  obtain ⟨fuel, rfl⟩ : ∃ k, fuel = k + 1 := ⟨fuel - 1, by omega⟩
  obtain ⟨position', hv⟩ := h rest position fuel hr (by omega)
  refine ⟨[], position', Blanks.nil, ?_⟩
  rw [List.cons_append, skipBlanks_of_not_blank hc, hv, List.nil_append]

theorem Reads.word {c : Char} {cs : List Char} {v : Value} (hb : isBlank c = false) (hq : c ≠ '"')
    (ha : c ≠ '[') (ho : c ≠ '\x7b')
    (h : ∀ rest position, ∃ position', atom ⟨c :: (cs ++ rest), position⟩ = .ok (v, ⟨rest, position'⟩)) :
    Reads (c :: cs) v := by
  refine Reads.of_head hb fun rest position fuel _ _ => ?_
  obtain ⟨position', hv⟩ := h rest position
  exact ⟨position', (value_atom fuel hq ha ho _ position).trans hv⟩

theorem Reads.of_number {cs : List Char} {v : Value} (h : NumberText cs v) : Reads cs v := by
  obtain ⟨d, ds, rfl, hd⟩ := h.head
  have hb : isBlank d = false ∧ d ≠ '"' ∧ d ≠ '[' ∧ d ≠ '\x7b' := by
    rcases hd with rfl | hd
    · exact ⟨rfl, by decide, by decide, by decide⟩
    · exact ⟨digit_not_blank hd, (digit_ne hd rfl).symm, (digit_ne hd rfl).symm,
        (digit_ne hd rfl).symm⟩
  refine Reads.of_head hb.1 fun rest position fuel hr _ => ?_
  obtain ⟨position', hv⟩ := atom_number h hr position
  exact ⟨position', (value_atom fuel hb.2.1 hb.2.2.1 hb.2.2.2 _ position).trans hv⟩

theorem value_quote (fuel : Nat) (cs : List Char) (position : Nat) :
    value (fuel + 1) ⟨'"' :: cs, position⟩ =
      match stringFrom position [] (position + 1) 0 cs with
      | .ok (s, c) => .ok (.str s, c)
      | .error e => .error e := rfl

theorem Reads.of_string {cs : List Char} {s : String} (h : ReadsString cs s) :
    Reads cs (.str s) := by
  obtain ⟨ts, chars, rfl, rfl, h⟩ := h
  refine Reads.of_head rfl fun rest position fuel _ _ => ?_
  rw [List.append_assoc, List.singleton_append, value_quote]
  obtain ⟨position', hs⟩ := h position [] (position + 1) rest
  rw [hs]
  exact ⟨position', rfl⟩

theorem Reads.padded {before cs after : List Char} {v : Value} (hb : Blanks before)
    (h : Reads cs v) (ha : Blanks after) : Reads (before ++ (cs ++ after)) v := by
  intro rest position fuel hr hf
  have hstops : Stops (after ++ rest) := by
    cases after with
    | nil => exact hr
    | cons a as => exact Stops.of_blank (ha a List.mem_cons_self) _
  have hlen : 2 * cs.length ≤ fuel := by
    simp only [List.length_append] at hf
    omega
  obtain ⟨bs, position', hbs, hv⟩ := h (after ++ rest) (position + before.length) fuel hstops hlen
  refine ⟨bs ++ after, position', ?_, ?_⟩
  · intro c hc
    rcases List.mem_append.mp hc with hc | hc
    · exact hbs c hc
    · exact ha c hc
  · rw [List.append_assoc, List.append_assoc, skipBlanks_blanks hb, hv, List.append_assoc]

/-! ## Arrays -/

theorem value_array (fuel : Nat) (cs : List Char) (position : Nat)
    (h : ∀ tail, (skipBlanks cs (position + 1)).rest ≠ ']' :: tail) :
    value (fuel + 1) ⟨'[' :: cs, position⟩ = items fuel [] (skipBlanks cs (position + 1)) := by
  rw [value]
  split
  · rename_i he
    exact absurd (List.cons.inj he).1 (by decide)
  · dsimp only
    split
    · rename_i ht
      exact absurd ht (h _)
    · rfl
  · rename_i he
    exact absurd (List.cons.inj he).1 (by decide)
  · rename_i hne _
    exact absurd rfl (hne _)

/-- No value begins with the bracket that closes an array. -/
theorem Reads.not_bracket {cs : List Char} {v : Value} (h : Reads cs v) {rest : List Char}
    (hr : Stops rest) (position : Nat) (tail : List Char) :
    (skipBlanks (cs ++ rest) position).rest ≠ ']' :: tail := by
  intro ht
  obtain ⟨bs, position', -, hv⟩ := h rest position (2 * cs.length + 1) hr (by omega)
  cases hc : skipBlanks (cs ++ rest) position with
  | mk found start =>
    rw [hc] at ht hv
    change found = ']' :: tail at ht
    rw [ht, value_atom _ (by decide) (by decide) (by decide)] at hv
    cases hv

section Items

variable {fuel : Nat} {c : Cursor} {v : Value} {bs rest : List Char} {position : Nat}

theorem items_last (h : value fuel c = .ok (v, ⟨bs ++ ']' :: rest, position⟩)) (hb : Blanks bs)
    (seen : List Value) :
    items (fuel + 1) seen c =
      .ok (.list (v :: seen).reverse, ⟨rest, position + bs.length + 1⟩) := by
  rw [items, h]
  dsimp only
  rw [skip_blanks hb rfl]
  rfl

theorem items_more (h : value fuel c = .ok (v, ⟨bs ++ ',' :: rest, position⟩)) (hb : Blanks bs)
    (seen : List Value) :
    items (fuel + 1) seen c =
      items fuel (v :: seen) (skipBlanks rest (position + bs.length + 1)) := by
  rw [items, h]
  dsimp only
  rw [skip_blanks hb rfl]
  rfl

end Items

theorem stops_bracket (rest : List Char) : Stops (']' :: rest) :=
  stops_cons (by decide) (by decide) (by decide) (by decide)

theorem stops_brace (rest : List Char) : Stops ('\x7d' :: rest) :=
  stops_cons (by decide) (by decide) (by decide) (by decide)

theorem stops_comma (rest : List Char) : Stops (',' :: rest) :=
  stops_cons (by decide) (by decide) (by decide) (by decide)

/-- **The items of an array are read in their order.** -/
theorem items_separated (p : List Char × Value) (parts : List (List Char × Value))
    (h : ∀ q ∈ p :: parts, Reads q.1 q.2) (rest : List Char) (seen : List Value)
    (position fuel : Nat)
    (hf : 2 * (separated ((p :: parts).map Prod.fst)).length + 1 ≤ fuel) :
    ∃ position', items fuel seen
        (skipBlanks (separated ((p :: parts).map Prod.fst) ++ ']' :: rest) position) =
      .ok (.list (seen.reverse ++ (p :: parts).map Prod.snd), ⟨rest, position'⟩) := by
  induction parts generalizing p seen position fuel with
  | nil =>
    obtain ⟨fuel, rfl⟩ : ∃ k, fuel = k + 1 := ⟨fuel - 1, by omega⟩
    change 2 * p.1.length + 1 ≤ fuel + 1 at hf
    obtain ⟨bs, position', hb, hv⟩ :=
      h p List.mem_cons_self (']' :: rest) position fuel (stops_bracket rest) (by omega)
    refine ⟨position' + bs.length + 1, (items_last hv hb seen).trans ?_⟩
    rw [List.reverse_cons]
    rfl
  | cons q parts ih =>
    obtain ⟨fuel, rfl⟩ : ∃ k, fuel = k + 1 := ⟨fuel - 1, by omega⟩
    have hsep : separated ((p :: q :: parts).map Prod.fst) =
        p.1 ++ ',' :: separated ((q :: parts).map Prod.fst) := rfl
    rw [hsep, List.length_append, List.length_cons] at hf
    rw [hsep, List.append_assoc, List.cons_append]
    obtain ⟨bs, position', hb, hv⟩ :=
      h p List.mem_cons_self _ position fuel (stops_comma _) (by omega)
    obtain ⟨position'', hrest⟩ := ih q (fun r hr => h r (List.mem_cons_of_mem p hr)) (p.2 :: seen)
      (position' + bs.length + 1) fuel (by omega)
    refine ⟨position'', (items_more hv hb seen).trans (hrest.trans ?_)⟩
    rw [List.reverse_cons, List.append_assoc]
    rfl

theorem Reads.of_array (parts : List (List Char × Value)) (h : ∀ p ∈ parts, Reads p.1 p.2) :
    Reads ('[' :: (separated (parts.map Prod.fst) ++ [']'])) (.list (parts.map Prod.snd)) := by
  refine Reads.of_head rfl fun rest position fuel _ hf => ?_
  rw [List.append_assoc, List.singleton_append]
  rw [List.length_append, List.length_singleton] at hf
  cases parts with
  | nil => exact ⟨position + 1 + 1, rfl⟩
  | cons p parts =>
    obtain ⟨position', hitems⟩ := items_separated p parts h rest [] (position + 1) fuel (by omega)
    refine ⟨position', (value_array fuel _ position ?_).trans hitems⟩
    have hp : Reads p.1 p.2 := h p List.mem_cons_self
    cases parts with
    | nil => exact hp.not_bracket (stops_bracket rest) (position + 1)
    | cons q parts =>
      have hsep : separated ((p :: q :: parts).map Prod.fst) ++ ']' :: rest =
          p.1 ++ ',' :: (separated ((q :: parts).map Prod.fst) ++ ']' :: rest) :=
        List.append_assoc p.1 _ _
      rw [hsep]
      exact hp.not_bracket (stops_comma _) (position + 1)

/-! ## Objects -/

/-- What a field is written with is right: its key is a string, and its value reads as it. -/
structure Member.Reads (m : Member) : Prop where
  key : ∃ before cs, Blanks before ∧ m.keyText = before ++ cs ∧ ReadsString cs m.key
  value : Json.Reads m.valueText m.value

/-- A field begins with a quote. -/
theorem Member.Reads.head {m : Member} (h : m.Reads) :
    ∃ before ts cs, Blanks before ∧ ReadsText ts cs ∧ m.key = String.ofList cs ∧
      ∀ rest, m.text ++ rest =
        before ++ '"' :: (ts ++ '"' :: ':' :: (m.valueText ++ rest)) := by
  obtain ⟨before, _, hb, hk, ts, cs, rfl, hkey, hs⟩ := h.key
  refine ⟨before, ts, cs, hb, hs, hkey, fun rest => ?_⟩
  unfold Member.text
  rw [hk]
  simp only [List.append_assoc, List.cons_append, List.nil_append]

/-- A field is read to the end of its value. -/
theorem members_step {ts cs : List Char} (hs : ReadsText ts cs) (tail : List Char)
    (position : Nat) :
    ∃ p, ∀ fuel seen, members (fuel + 1) seen ⟨'"' :: (ts ++ '"' :: ':' :: tail), position⟩ =
      match value fuel (skipBlanks tail p) with
      | .error e => .error e
      | .ok (v, c) =>
        match c.skip.rest with
        | '\x7d' :: _ => .ok (.obj (Value.insert (String.ofList cs) v seen), c.skip.advance)
        | ',' :: _ => members fuel (Value.insert (String.ofList cs) v seen) c.skip.advance.skip
        | _ => c.skip.fail .expectingComma := by
  obtain ⟨p, hp⟩ := hs position [] (position + 1) (':' :: tail)
  refine ⟨p + 1, fun fuel seen => ?_⟩
  simp only [members, hp]
  rfl

section Members

variable {m : Member} (hm : m.Reads) {fuel : Nat} (hf : 2 * m.valueText.length ≤ fuel)
  (seen : List (String × Value)) (rest : List Char) (position : Nat)

include hm hf

theorem members_last :
    ∃ position', members (fuel + 1) seen (skipBlanks (m.text ++ '\x7d' :: rest) position) =
      .ok (.obj (Value.insert m.key m.value seen), ⟨rest, position'⟩) := by
  obtain ⟨before, ts, cs, hb, hs, hkey, htext⟩ := hm.head
  rw [htext, skipBlanks_blanks hb, skipBlanks_of_not_blank rfl, hkey]
  obtain ⟨p, hp⟩ :=
    members_step hs (m.valueText ++ '\x7d' :: rest) (position + before.length)
  obtain ⟨bs, p', hbs, hv⟩ := hm.value ('\x7d' :: rest) p fuel (stops_brace rest) hf
  refine ⟨p' + bs.length + 1, ?_⟩
  rw [hp, hv]
  dsimp only
  rw [skip_blanks hbs rfl]
  rfl

theorem members_more :
    ∃ position', members (fuel + 1) seen (skipBlanks (m.text ++ ',' :: rest) position) =
      members fuel (Value.insert m.key m.value seen) (skipBlanks rest position') := by
  obtain ⟨before, ts, cs, hb, hs, hkey, htext⟩ := hm.head
  rw [htext, skipBlanks_blanks hb, skipBlanks_of_not_blank rfl, hkey]
  obtain ⟨p, hp⟩ := members_step hs (m.valueText ++ ',' :: rest) (position + before.length)
  obtain ⟨bs, p', hbs, hv⟩ := hm.value (',' :: rest) p fuel (stops_comma rest) hf
  refine ⟨p' + bs.length + 1, ?_⟩
  rw [hp, hv]
  dsimp only
  rw [skip_blanks hbs rfl]
  rfl

end Members

theorem Member.valueText_length (m : Member) : m.valueText.length < m.text.length := by
  unfold Member.text
  rw [List.length_append, List.length_cons]
  omega

/-- **The fields of an object are read in their order.** -/
theorem members_separated (m : Member) (ms : List Member) (h : ∀ k ∈ m :: ms, k.Reads)
    (rest : List Char) (seen : List (String × Value)) (position fuel : Nat)
    (hd : (seen.map Prod.fst ++ (m :: ms).map Member.key).Nodup)
    (hf : 2 * (separated ((m :: ms).map Member.text)).length + 1 ≤ fuel) :
    ∃ position', members fuel seen
        (skipBlanks (separated ((m :: ms).map Member.text) ++ '\x7d' :: rest) position) =
      .ok (.obj (seen ++ (m :: ms).map Member.field), ⟨rest, position'⟩) := by
  induction ms generalizing m seen position fuel with
  | nil =>
    obtain ⟨fuel, rfl⟩ : ∃ k, fuel = k + 1 := ⟨fuel - 1, by omega⟩
    have hnew : m.key ∉ seen.map Prod.fst := fun hmem =>
      (List.nodup_append.mp hd).2.2 _ hmem _ List.mem_cons_self rfl
    have hlen : 2 * m.valueText.length ≤ fuel := by
      have := m.valueText_length
      change 2 * m.text.length + 1 ≤ fuel + 1 at hf
      omega
    obtain ⟨position', hv⟩ := members_last (h m List.mem_cons_self) hlen seen rest position
    refine ⟨position', hv.trans ?_⟩
    rw [Value.insert_new hnew]
    rfl
  | cons k ms ih =>
    obtain ⟨fuel, rfl⟩ : ∃ k, fuel = k + 1 := ⟨fuel - 1, by omega⟩
    have hnew : m.key ∉ seen.map Prod.fst := fun hmem =>
      (List.nodup_append.mp hd).2.2 _ hmem _ List.mem_cons_self rfl
    have hsep : separated ((m :: k :: ms).map Member.text) =
        m.text ++ ',' :: separated ((k :: ms).map Member.text) := rfl
    rw [hsep, List.length_append, List.length_cons] at hf
    rw [hsep, List.append_assoc, List.cons_append]
    have hlen : 2 * m.valueText.length ≤ fuel := by
      have := m.valueText_length
      omega
    obtain ⟨position', hv⟩ := members_more (h m List.mem_cons_self) hlen seen
      (separated ((k :: ms).map Member.text) ++ '\x7d' :: rest) position
    have hd' : ((seen ++ [(m.key, m.value)]).map Prod.fst ++ (k :: ms).map Member.key).Nodup := by
      rw [List.map_append, List.append_assoc]
      exact hd
    -- The key is new, so its field comes last of those that were seen.
    obtain ⟨position'', hrest⟩ := ih k (fun r hr => h r (List.mem_cons_of_mem m hr))
      (seen ++ [(m.key, m.value)]) position' fuel hd' (by omega)
    refine ⟨position'', hv.trans ?_⟩
    rw [Value.insert_new hnew, hrest, List.append_assoc]
    rfl

theorem value_object (fuel : Nat) (cs : List Char) (position : Nat)
    (h : ∀ tail, (skipBlanks cs (position + 1)).rest ≠ '\x7d' :: tail) :
    value (fuel + 1) ⟨'\x7b' :: cs, position⟩ = members fuel [] (skipBlanks cs (position + 1)) := by
  rw [value]
  split
  · rename_i he
    exact absurd (List.cons.inj he).1 (by decide)
  · rename_i he
    exact absurd (List.cons.inj he).1 (by decide)
  · dsimp only
    split
    · rename_i ht
      exact absurd ht (h _)
    · rfl
  · rename_i hne
    exact absurd rfl (hne _)

/-- No field begins with the bracket that closes an object. -/
theorem Member.Reads.not_brace {m : Member} (h : m.Reads) (rest : List Char) (position : Nat)
    (tail : List Char) : (skipBlanks (m.text ++ rest) position).rest ≠ '\x7d' :: tail := by
  obtain ⟨before, ts, cs, hb, -, -, htext⟩ := h.head
  rw [htext, skipBlanks_blanks hb, skipBlanks_of_not_blank rfl]
  intro ht
  exact absurd (List.cons.inj ht).1 (by decide)

theorem Reads.of_object (ms : List Member) (h : ∀ m ∈ ms, m.Reads)
    (hd : (ms.map Member.key).Nodup) :
    Reads ('\x7b' :: (separated (ms.map Member.text) ++ ['\x7d'])) (.obj (ms.map Member.field)) := by
  refine Reads.of_head rfl fun rest position fuel _ hf => ?_
  rw [List.append_assoc, List.singleton_append]
  rw [List.length_append, List.length_singleton] at hf
  cases ms with
  | nil => exact ⟨position + 1 + 1, rfl⟩
  | cons m ms =>
    obtain ⟨position', hfields⟩ :=
      members_separated m ms h rest [] (position + 1) fuel hd (by omega)
    refine ⟨position', (value_object fuel _ position ?_).trans hfields⟩
    have hm : m.Reads := h m List.mem_cons_self
    cases ms with
    | nil => exact hm.not_brace ('\x7d' :: rest) (position + 1)
    | cons k ms =>
      have hsep : separated ((m :: k :: ms).map Member.text) ++ '\x7d' :: rest =
          m.text ++ ',' :: (separated ((k :: ms).map Member.text) ++ '\x7d' :: rest) :=
        List.append_assoc m.text _ _
      rw [hsep]
      exact hm.not_brace _ (position + 1)

/-! ## Whole texts -/

/-- **JSON text is read as its value, whatever follows it.** -/
theorem reads_of_written {cs : List Char} {v : Value} (h : Written cs v) : Reads cs v := by
  induction h with
  | null => exact Reads.word rfl (by decide) (by decide) (by decide) fun _ p => ⟨p + 4, rfl⟩
  | true => exact Reads.word rfl (by decide) (by decide) (by decide) fun _ p => ⟨p + 4, rfl⟩
  | false => exact Reads.word rfl (by decide) (by decide) (by decide) fun _ p => ⟨p + 5, rfl⟩
  | number h => exact Reads.of_number h
  | string h => exact Reads.of_string h.reads
  | array parts _ ih => exact Reads.of_array parts ih
  | object ms hk hd _ ih =>
    refine Reads.of_object ms (fun m hm => ⟨?_, ih m hm⟩) hd
    obtain ⟨before, cs, hb, hkey, hs⟩ := hk m hm
    exact ⟨before, cs, hb, hkey, hs.reads⟩
  | padded hb _ ha ih => exact Reads.padded hb ih ha

/-- A text that begins with a byte order mark is not JSON. -/
theorem Reads.not_mark {cs : List Char} {v : Value} (h : Reads cs v) (tail : List Char) :
    cs ≠ '\uFEFF' :: tail := by
  rintro rfl
  obtain ⟨bs, position', -, hv⟩ :=
    h [] 0 (2 * ('\uFEFF' :: tail).length + 1) Stops.nil (by omega)
  rw [List.append_nil, skipBlanks_of_not_blank rfl,
    value_atom _ (by decide) (by decide) (by decide)] at hv
  cases hv

/-- A whole text is read to its end. -/
theorem parse_of_reads {s : String} {v : Value} (hreads : Reads s.toList v) : parse s = .ok v := by
  obtain ⟨bs, position', hb, hv⟩ :=
    hreads [] 0 (2 * s.toList.length + 2) Stops.nil (by omega)
  rw [List.append_nil, List.append_nil] at hv
  have hend : (Cursor.skip ⟨bs, position'⟩).rest = [] := by
    unfold Cursor.skip
    rw [← List.append_nil bs, skipBlanks_blanks hb]
    rfl
  unfold parse
  dsimp only
  split
  · rename_i ht
    exact absurd ht (hreads.not_mark _)
  · rw [hv]
    dsimp only
    rw [hend]
    rfl

/-- **A whole text that is JSON is read as its value.** -/
theorem parse_of_written {s : String} {v : Value} (h : Written s.toList v) : parse s = .ok v :=
  parse_of_reads (reads_of_written h)

end SuiteEngine.Json
