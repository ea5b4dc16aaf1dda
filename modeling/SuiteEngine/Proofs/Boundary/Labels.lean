import SuiteEngine.Proofs.Boundary.Payloads
import SuiteEngine.Proofs.Document.Json

/-!
# Whether boundary cases are labelled right

A case says of its value whether the field may have it. Here that is held against the range of the
field: an integer is allowed from the one bound to the other, and a text of filler characters is when
its length is. Two probes are labelled by a condition of their own that is not the range: minus one,
which is held against the lower bound only, and the text that is one shorter than the shortest, which
counts as allowed when it is empty. Each of them is labelled wrong for some ranges, and no other case
ever is.

Headlines:
* `Field.Ranges.integer_of_mem`: the cases with an integer, one by one.
* **`numericCases_fit_iff`**: integers are labelled by the range, all of them if and only if minus one
  does not lie above it.
* `Field.Lengths.valid_eq`: the label of a text depends on the text only, but for one case.
* **`stringCases_fit_iff`**: texts are labelled by their lengths and never in two ways, unless the
  shortest text has one character.
-/

namespace SuiteEngine.Boundary

variable {f : Field} {c c' : Case}

/-! ## Integers -/

section Integers

variable {lo hi : ℤ}

theorem Bound.le_int (m n : ℤ) : (Bound.int m).le (.int n) = decide (m ≤ n) :=
  Exact.le_int m n

/-- The field is a number from `lo` to `hi`, two integers, which are its bounds; the bounds that it does
not have are `2 ^ 53 - 1` away from zero. -/
structure Field.Ranges (f : Field) (lo hi : ℤ) : Prop where
  kind : f.type = .number ∨ f.type = .integer
  least : f.min.getD (.int (-9007199254740991)) = .int lo
  greatest : f.max.getD (.int 9007199254740991) = .int hi
  ordered : lo ≤ hi

/-- The case of minus one, which is held against the lower bound. -/
def Field.minusOne (f : Field) (lo : ℤ) : Case :=
  f.case "negative" (.int (-1)) (decide (lo ≤ -1))

/-- If the case is about an integer, it says that the field may have it if and only if it is in the
range. -/
def Case.FitsRange (lo hi : ℤ) (c : Case) : Prop :=
  ∀ v, c.value = .int v → (c.valid = true ↔ lo ≤ v ∧ v ≤ hi)

/-- The integers with their labels, but for minus one. -/
def integerLabels (lo hi : ℤ) : List (ℤ × Bool) :=
  [(0, decide (lo ≤ 0) && decide (0 ≤ hi)), (lo, true), (lo - 1, false), (hi, true),
    (hi + 1, false)]

theorem integerLabels_fit (h : lo ≤ hi) : ∀ e ∈ integerLabels lo hi,
    (e.2 = true ↔ lo ≤ e.1 ∧ e.1 ≤ hi) := by
  have hfalse : ∀ v, v < lo ∨ hi < v → (false = true ↔ lo ≤ v ∧ v ≤ hi) := fun v hv =>
    iff_of_false Bool.false_ne_true fun hr => by omega
  intro e he
  simp only [integerLabels, List.mem_cons, List.not_mem_nil, or_false] at he
  rcases he with rfl | rfl | rfl | rfl | rfl
  · rw [Bool.and_eq_true, decide_eq_true_eq, decide_eq_true_eq]
  · exact iff_of_true rfl ⟨Int.le_refl lo, h⟩
  · exact hfalse _ (.inl (by omega))
  · exact iff_of_true rfl ⟨h, Int.le_refl hi⟩
  · exact hfalse _ (.inr (by omega))

theorem Field.Ranges.numericCases (h : f.Ranges lo hi) (hc : c ∈ f.cases) :
    c.value = .missing ∨ c.value = .null ∨ ∃ integral, c ∈ f.numericCases integral := by
  rcases mem_cases.mp hc with ⟨-, rfl | rfl⟩ | hc
  · exact .inl rfl
  · exact .inr (.inl rfl)
  · rcases h.kind with hk | hk <;> rw [Field.typeCases, hk] at hc <;> exact .inr (.inr ⟨_, hc⟩)

/-- **The cases with an integer.** -/
theorem Field.Ranges.integer_of_mem (h : f.Ranges lo hi) (hc : c ∈ f.cases) {v : ℤ}
    (hv : c.value = .int v) : c = f.minusOne lo ∨ (v, c.valid) ∈ integerLabels lo hi := by
  have hlo : f.min.getD (.int (-maxSafeInteger)) = .int lo := h.least
  have hhi : f.max.getD (.int maxSafeInteger) = .int hi := h.greatest
  rcases h.numericCases hc with hm | hm | ⟨integral, hc⟩
  · cases hv.symm.trans hm
  · cases hv.symm.trans hm
  simp only [Field.numericCases, hlo, hhi, Bound.le_int, Bound.value, Bound.shift] at hc
  rw [List.mem_append] at hc
  -- The probes of every number, and after them the fraction for an integer field, which is no integer.
  rcases hc with hc | hc
  · simp only [List.mem_cons, List.not_mem_nil, or_false] at hc
    rcases hc with rfl | rfl | rfl | rfl | rfl | rfl | rfl | rfl <;> cases hv
    all_goals simp [integerLabels, Field.case, Field.minusOne, Int.sub_eq_add_neg]
  · split at hc
    · obtain rfl := List.mem_singleton.mp hc
      cases hv
    · cases hc

/-- Every case but that of minus one is labelled right. -/
theorem Field.Ranges.fitsRange (h : f.Ranges lo hi) (hc : c ∈ f.cases)
    (hne : c ≠ f.minusOne lo) : c.FitsRange lo hi := fun _ hv =>
  integerLabels_fit h.ordered _ ((h.integer_of_mem hc hv).resolve_left hne)

/-- The case of minus one is labelled right unless minus one lies above the range. -/
theorem minusOne_fitsRange_iff (h : lo ≤ hi) : (f.minusOne lo).FitsRange lo hi ↔ -1 ≤ hi := by
  have hvalid : (f.minusOne lo).valid = true ↔ lo ≤ -1 := decide_eq_true_iff
  constructor
  · intro hf
    by_contra hlt
    have hr := (hf (-1) rfl).mp (hvalid.mpr (by omega))
    exact hlt hr.2
  · rintro hle v hv
    obtain rfl : -1 = v := by injection hv
    rw [hvalid]
    exact (and_iff_left hle).symm

theorem Field.Ranges.minusOne_mem (h : f.Ranges lo hi) : f.minusOne lo ∈ f.cases := by
  have hlo : f.min.getD (.int (-maxSafeInteger)) = .int lo := h.least
  have hmem : ∀ integral, f.minusOne lo ∈ f.numericCases integral := by
    intro integral
    simp [Field.numericCases, hlo, Bound.le_int, Field.minusOne]
  refine mem_cases.mpr (.inr ?_)
  rcases h.kind with hk | hk <;> rw [Field.typeCases, hk] <;> exact hmem _

/-- **Integers are labelled by the range**, in every case but that of minus one, and there if and only
if minus one does not lie above the range. -/
theorem numericCases_fit_iff (h : f.Ranges lo hi) :
    (∀ c ∈ f.cases, c ≠ f.minusOne lo → c.FitsRange lo hi) ∧
      ((∀ c ∈ f.cases, c.FitsRange lo hi) ↔ -1 ≤ hi) := by
  refine ⟨fun c hc hne => h.fitsRange hc hne, fun hall => ?_, fun hle c hc => ?_⟩
  · exact (minusOne_fitsRange_iff h.ordered).mp (hall _ h.minusOne_mem)
  · by_cases hne : c = f.minusOne lo
    · exact hne ▸ (minusOne_fitsRange_iff h.ordered).mpr hle
    · exact h.fitsRange hc hne

/-- A field of integers below zero. -/
def debts : Field :=
  { name := "debt", type := .integer, minLength := none, maxLength := none
    min := some (.int (-20)), max := some (.int (-10)), required := true }

/-- Minus one is said to be among the numbers from -20 to -10. -/
theorem numericCases_fit_iff_debts : debts.Ranges (-20) (-10) ∧
    debts.minusOne (-20) ∈ debts.cases ∧ (debts.minusOne (-20)).valid = true ∧
    ¬ ∀ c ∈ debts.cases, c.FitsRange (-20) (-10) := by
  have h : debts.Ranges (-20) (-10) := ⟨.inr rfl, rfl, rfl, by decide⟩
  exact ⟨h, h.minusOne_mem, rfl,
    fun hall => absurd ((numericCases_fit_iff h).2.mp hall) (by decide)⟩

end Integers

/-! ## Texts -/

section Texts

variable {lo hi : ℕ}

/-- The field is a text with `lo` to `hi` characters, as it says or as it has where it says nothing. -/
structure Field.Lengths (f : Field) (lo hi : ℕ) : Prop where
  kind : f.type = .string
  least : f.minLength.getD 0 = lo
  greatest : f.maxLength.getD 255 = hi
  ordered : lo ≤ hi

/-- The text is empty or made of filler characters. -/
def IsFiller (s : String) : Prop := ∀ c ∈ s.toList, c = 'a'

instance (s : String) : Decidable (IsFiller s) :=
  decidable_of_iff (s.toList.all (· == 'a') = true) (by simp [IsFiller])

theorem not_isFiller {s : String} {c : Char} (hc : c ∈ s.toList) (hne : c ≠ 'a') : ¬ IsFiller s :=
  fun h => hne (h c hc)

theorem toList_filler (n : ℕ) : (filler n).toList = List.replicate n 'a' := by
  induction n with
  | zero => rfl
  | succ n ih =>
    change ((filler n).push 'a').toList = _
    rw [String.toList_push, ih, List.replicate_succ']

theorem isFiller_filler (n : ℕ) : IsFiller (filler n) := by
  intro c hc
  rw [toList_filler] at hc
  exact List.eq_of_mem_replicate hc

theorem length_filler (n : ℕ) : (filler n).length = n := by
  rw [← String.length_toList, toList_filler, List.length_replicate]

/-- The case of the text that is one shorter than the shortest, or empty. -/
def Field.shorter (f : Field) (lo : ℕ) : Case :=
  f.case "below minLength" (.str (filler (lo - 1))) (decide (lo ≤ 1))

/-- If the case is about a filler text, it says that the field may have it if and only if it is neither
too short nor too long. -/
def Case.FitsLengths (lo hi : ℕ) (c : Case) : Prop :=
  ∀ s, c.value = .str s → IsFiller s → (c.valid = true ↔ lo ≤ s.length ∧ s.length ≤ hi)

/-- The cases say the same of the same value. -/
def Case.Agrees (c c' : Case) : Prop := c.value = c'.value → c.valid = c'.valid

/-- What the cases say of a value: of a filler text what its length says, of the text in another
script that it is allowed, and of everything else that it is not. -/
def textLabel (lo hi : ℕ) : Value → Bool
  | .str s => if IsFiller s then decide (lo ≤ s.length ∧ s.length ≤ hi) else s == unicodeSample
  | _ => false

theorem textLabel_filler (n : ℕ) :
    textLabel lo hi (.str (filler n)) = decide (lo ≤ n ∧ n ≤ hi) := by
  rw [textLabel, if_pos (isFiller_filler n), length_filler]

/-- **The label of a text depends on the text only**, but in the case of the shorter one. -/
theorem Field.Lengths.valid_eq (h : f.Lengths lo hi) (hc : c ∈ f.cases)
    (hne : c ≠ f.shorter lo) : c.valid = textLabel lo hi c.value := by
  have hempty : textLabel lo hi (.str "") = decide (lo ≤ 0 ∧ 0 ≤ hi) := textLabel_filler 0
  have hscript : ¬ IsFiller unicodeSample := not_isFiller (c := '日') (by decide) (by decide)
  have hmarkup : ¬ IsFiller markupSample := not_isFiller (c := '<') (by decide) (by decide)
  have hquery : ¬ IsFiller querySample := not_isFiller (c := ';') (by decide) (by decide)
  have ho := h.ordered
  rcases mem_cases.mp hc with ⟨-, rfl | rfl⟩ | hc
  · rfl
  · rfl
  rw [Field.typeCases, h.kind] at hc
  simp only [Field.stringCases, defaultMaxLength, h.least, h.greatest, List.mem_cons,
    List.not_mem_nil, or_false] at hc
  -- The eight cases of a text in their order; the third is the shorter one.
  rcases hc with rfl | rfl | rfl | rfl | rfl | rfl | rfl | rfl
  · rw [Field.case, hempty]
    exact Bool.eq_iff_iff.mpr (by simp)
  · rw [Field.case, textLabel_filler]
    simpa using ho
  · exact absurd rfl hne
  · rw [Field.case, textLabel_filler]
    simpa using ho
  · rw [Field.case, textLabel_filler]
    simp
  · rw [Field.case, textLabel, if_neg hscript, beq_self_eq_true]
  · rw [Field.case, textLabel, if_neg hmarkup]
    exact (beq_false_of_ne (by decide)).symm
  · rw [Field.case, textLabel, if_neg hquery]
    exact (beq_false_of_ne (by decide)).symm

/-- The case of the shorter text is labelled like its text unless one character is enough. -/
theorem shorter_valid_iff (h : lo ≤ hi) :
    (f.shorter lo).valid = textLabel lo hi (f.shorter lo).value ↔ lo ≠ 1 := by
  rw [Field.shorter, Field.case, textLabel_filler, decide_eq_decide]
  omega

theorem Field.Lengths.empty_mem (h : f.Lengths lo hi) :
    f.case "empty string" (.str (filler 0)) (lo == 0) ∈ f.cases := by
  refine mem_cases.mpr (.inr ?_)
  rw [Field.typeCases, h.kind, ← h.least]
  exact List.mem_cons_self

theorem Field.Lengths.shorter_mem (h : f.Lengths lo hi) : f.shorter lo ∈ f.cases := by
  refine mem_cases.mpr (.inr ?_)
  rw [Field.typeCases, h.kind, ← h.least]
  exact List.mem_cons_of_mem _ (List.mem_cons_of_mem _ List.mem_cons_self)

/-- A case that is labelled like its text is labelled by the length of a filler text. -/
theorem Case.fitsLengths_of_valid (h : c.valid = textLabel lo hi c.value) : c.FitsLengths lo hi := by
  intro s hs hf
  rw [h, hs, textLabel, if_pos hf, decide_eq_true_eq]

theorem Case.agrees_of_valid (h : c.valid = textLabel lo hi c.value)
    (h' : c'.valid = textLabel lo hi c'.value) : c.Agrees c' := fun hv => by rw [h, h', hv]

/-- **Texts are labelled by their lengths, and never in two ways**, leaving the case of the shorter
text aside; and together with it if and only if the shortest text does not have one character. -/
theorem stringCases_fit_iff (h : f.Lengths lo hi) :
    (∀ c ∈ f.cases, c ≠ f.shorter lo → c.FitsLengths lo hi) ∧
      (∀ c ∈ f.cases, ∀ c' ∈ f.cases, c ≠ f.shorter lo → c' ≠ f.shorter lo → c.Agrees c') ∧
      ((∀ c ∈ f.cases, c.FitsLengths lo hi) ↔ lo ≠ 1) ∧
      ((∀ c ∈ f.cases, ∀ c' ∈ f.cases, c.Agrees c') ↔ lo ≠ 1) := by
  have hall : lo ≠ 1 → ∀ c ∈ f.cases, c.valid = textLabel lo hi c.value := by
    intro hlo c hc
    by_cases hne : c = f.shorter lo
    · exact hne ▸ (shorter_valid_iff h.ordered).mpr hlo
    · exact h.valid_eq hc hne
  refine ⟨fun c hc hne => c.fitsLengths_of_valid (h.valid_eq hc hne),
    fun c hc c' hc' hne hne' => c.agrees_of_valid (h.valid_eq hc hne) (h.valid_eq hc' hne'),
    ⟨?_, fun hlo c hc => c.fitsLengths_of_valid (hall hlo c hc)⟩,
    ⟨?_, fun hlo c hc c' hc' => c.agrees_of_valid (hall hlo c hc) (hall hlo c' hc')⟩⟩
  · rintro hf rfl
    have hr := (hf _ h.shorter_mem _ rfl (isFiller_filler _)).mp rfl
    rw [length_filler] at hr
    exact absurd hr.1 (by decide)
  · rintro ha rfl
    have he := ha _ h.shorter_mem _ h.empty_mem rfl
    cases he

/-- A field of one to five characters. -/
def initials : Field :=
  { name := "initials", type := .string, minLength := some 1, maxLength := some 5
    min := none, max := none, required := true }

/-- The empty text is said to be one of one to five characters, and in another case not to be. -/
theorem stringCases_fit_iff_initials : initials.Lengths 1 5 ∧
    initials.shorter 1 ∈ initials.cases ∧ (initials.shorter 1).value = .str "" ∧
    (initials.shorter 1).valid = true ∧ (¬ ∀ c ∈ initials.cases, c.FitsLengths 1 5) ∧
    ¬ ∀ c ∈ initials.cases, ∀ c' ∈ initials.cases, c.Agrees c' := by
  have h : initials.Lengths 1 5 := ⟨rfl, rfl, rfl, by decide⟩
  obtain ⟨-, -, hf, ha⟩ := stringCases_fit_iff h
  exact ⟨h, h.shorter_mem, rfl, rfl, fun hall => hf.mp hall rfl, fun hall => ha.mp hall rfl⟩

end Texts

end SuiteEngine.Boundary
