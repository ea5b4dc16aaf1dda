import Mathlib.Data.List.Infix
import Mathlib.Data.List.TakeWhile
import SuiteEngine.Json.Parse
import SuiteEngine.Proofs.Except

/-!
# The one limit of the reader

The reader refuses a well-formed text for one reason only: a whole number with more digits than it reads
at once. Whatever the reader goes on with is an end of the text, so when it refuses such a number, its
digits stand in the text one after the other.

Headlines:
* `reader_stays`: the reader goes on with an end of what it was given.
* **`digitRun_of_parse`**: a text is refused for its digits only when it has too many in a row.
-/

namespace SuiteEngine.Json

variable {α β : Type} {cs cs' : List Char} {n : Nat}

/-- More digits in a row than are read at once. -/
def DigitRun (n : Nat) (cs : List Char) : Prop :=
  Text.digitLimit < n ∧ ∃ ds, ds <:+: cs ∧ ds.length = n ∧ ∀ d ∈ ds, d.isDigit = true

/-- What was read leaves an end of the text, or it was refused for digits of the text only. -/
def Stays (cs : List Char) : Except ParseError (α × Cursor) → Prop
  | .ok (_, c) => c.rest <:+ cs
  | .error e => ∀ n, e.fault = .tooManyDigits n → DigitRun n cs

theorem DigitRun.mono (h : DigitRun n cs) (hs : cs <:+ cs') : DigitRun n cs' := by
  obtain ⟨hn, ds, hds, hl, hd⟩ := h
  exact ⟨hn, ds, hds.trans hs.isInfix, hl, hd⟩

theorem Stays.mono {r : Except ParseError (α × Cursor)} (h : Stays cs r) (hs : cs <:+ cs') :
    Stays cs' r := by
  cases r with
  | ok r => exact List.IsSuffix.trans h hs
  | error e => exact fun n hn => (h n hn).mono hs

/-- What was read leaves an end of the text. -/
theorem Stays.suffix {r : Except ParseError (α × Cursor)} (h : Stays cs r) {a : α} {c : Cursor}
    (hr : r = .ok (a, c)) : c.rest <:+ cs := by
  rw [hr] at h
  exact h

/-- A refusal stays one in whatever place it is passed on. -/
theorem Stays.refused {r : Except ParseError (α × Cursor)} (h : Stays cs r) {e : ParseError}
    (hr : r = .error e) : Stays cs (.error e : Except ParseError (β × Cursor)) := by
  rw [hr] at h
  exact h

/-! ## Between the tokens -/

theorem skipBlanks_suffix (cs : List Char) (position : Nat) : (skipBlanks cs position).rest <:+ cs := by
  induction cs generalizing position with
  | nil => exact List.suffix_refl []
  | cons c cs ih =>
    rw [skipBlanks]
    split
    · exact (ih _).trans (List.suffix_cons c cs)
    · exact List.suffix_refl _

theorem Cursor.skip_suffix (c : Cursor) : c.skip.rest <:+ c.rest := skipBlanks_suffix _ _

theorem Cursor.advance_suffix (c : Cursor) : c.advance.rest <:+ c.rest := List.drop_suffix 1 _

/-! ## Strings -/

theorem unicodeEscape_error {u : Cursor} {e : ParseError} (h : unicodeEscape u = .error e) :
    e.fault = .invalidUnicodeEscape := by
  unfold unicodeEscape at h
  dsimp only at h
  split at h
  · obtain rfl := Except.error.inj h
    rfl
  · split at h
    · cases h
    · obtain rfl := Except.error.inj h
      rfl

theorem unicodeChar_error {u : Cursor} {e : ParseError} (h : unicodeChar u = .error e) :
    e.fault = .invalidUnicodeEscape := by
  rcases bind_eq_error.mp h with h | ⟨high, -, h⟩
  · exact unicodeEscape_error h
  split at h
  · split at h
    · split at h
      · cases h
      · rcases bind_eq_error.mp h with h | ⟨low, -, h⟩
        · exact unicodeEscape_error h
        · split at h <;> cases h
    · cases h
  · cases h

theorem stringFrom_stays (start : Nat) (seen : List Char) (position skip : Nat) (cs : List Char) :
    Stays cs (stringFrom start seen position skip cs) := by
  fun_induction stringFrom start seen position skip cs with
  | case1 => nofun
  | case2 seen position skip c cs ih => exact ih.mono (List.suffix_cons c cs)
  | case3 seen position c cs => exact List.suffix_cons c cs
  | case4 => nofun
  | case5 seen position c _ _ tail ch length h ih =>
    rw [h]
    exact ih.mono (List.suffix_cons c _)
  | case6 seen position c _ _ tail e h =>
    rw [h]
    intro n hn
    cases (unicodeChar_error h).symm.trans hn
  | case7 seen position c _ _ e tail _ ch _ ih => exact ih.mono (List.suffix_cons c _)
  | case8 => nofun
  | case9 => nofun
  | case10 seen position c cs _ _ _ ih => exact ih.mono (List.suffix_cons c cs)

/-! ## Numbers -/

theorem spanDigits_suffix (cs : List Char) : (spanDigits cs).2 <:+ cs := List.dropWhile_suffix _

theorem wholePart?_spec {whole tail : List Char} (h : wholePart? cs = some (whole, tail)) :
    cs = whole ++ tail ∧ ∀ d ∈ whole, d.isDigit = true := by
  unfold wholePart? at h
  split at h
  · obtain ⟨rfl, rfl⟩ := Prod.mk.inj (Option.some.inj h)
    exact ⟨rfl, List.forall_mem_singleton.mpr rfl⟩
  · split at h
    · obtain ⟨rfl, rfl⟩ := Prod.mk.inj (Option.some.inj h)
      exact ⟨List.takeWhile_append_dropWhile.symm, fun d hd => List.mem_takeWhile_imp hd⟩
    · cases h
  · cases h

theorem fractionPart_suffix (cs : List Char) : (fractionPart cs).2 <:+ cs := by
  unfold fractionPart
  split
  · rename_i cs
    split
    · exact List.suffix_refl _
    · exact (spanDigits_suffix cs).trans (List.suffix_cons _ cs)
  · exact List.suffix_refl _

theorem splitSign_suffix (cs : List Char) : (Text.splitSign cs).2 <:+ cs := by
  unfold Text.splitSign
  split
  · exact List.suffix_cons _ _
  · exact List.suffix_cons _ _
  · exact List.suffix_refl _

theorem exponentPart_suffix (cs : List Char) : (exponentPart cs).2 <:+ cs := by
  unfold exponentPart
  split
  · rename_i e tail
    split
    · have hsign := (spanDigits_suffix _).trans (splitSign_suffix tail)
      dsimp only
      split
      · exact List.suffix_refl _
      · rename_i ds rest _ hspan
        rw [hspan] at hsign
        exact hsign.trans (List.suffix_cons e tail)
    · exact List.suffix_refl _
  · exact List.suffix_refl _

/-- A number is refused for its digits, which all stand in front of it. -/
theorem number?_stays {neg : Bool} {position : Nat} {r : Except ParseError (Value × Cursor)}
    (h : number? neg cs position = some r) : Stays cs r := by
  unfold number? at h
  split at h
  · cases h
  · rename_i whole tail hwhole
    obtain ⟨rfl, hdigits⟩ := wholePart?_spec hwhole
    have hrest : (exponentPart (fractionPart tail).2).2 <:+ whole ++ tail :=
      (exponentPart_suffix _).trans ((fractionPart_suffix _).trans (List.suffix_append whole tail))
    dsimp only at h
    split at h
    · split at h
      · rename_i hlong
        obtain rfl := Option.some.inj h
        rintro n hn
        obtain rfl := Fault.tooManyDigits.inj hn
        exact ⟨hlong, whole, (List.prefix_append whole tail).isInfix, rfl, hdigits⟩
      · obtain rfl := Option.some.inj h
        exact hrest
    · obtain rfl := Option.some.inj h
      exact hrest

theorem atom_stays (c : Cursor) : Stays c.rest (atom c) := by
  unfold atom
  split
  · exact List.drop_suffix _ _
  · dsimp only
    split
    · rename_i r hr
      split at hr
      · rename_i cs hrest
        rw [hrest]
        exact (number?_stays hr).mono (List.suffix_cons _ cs)
      · exact number?_stays hr
    · nofun

/-! ## Values -/

theorem Cursor.advance_skip_suffix (c : Cursor) : c.advance.skip.rest <:+ c.rest :=
  c.advance.skip_suffix.trans c.advance_suffix

theorem Cursor.skip_advance_suffix (c : Cursor) : c.skip.advance.rest <:+ c.rest :=
  c.skip.advance_suffix.trans c.skip_suffix

section Readers

variable {fuel : Nat}

theorem value_stays (hitems : ∀ seen c, Stays c.rest (items fuel seen c))
    (hmembers : ∀ seen c, Stays c.rest (members fuel seen c)) (c : Cursor) :
    Stays c.rest (value (fuel + 1) c) := by
  have hskip := c.advance_skip_suffix
  unfold value
  split
  · rename_i cs hrest
    rw [hrest]
    refine Stays.mono ?_ (List.suffix_cons '"' cs)
    have h := stringFrom_stays c.position [] (c.position + 1) 0 cs
    split
    · rename_i hs
      exact h.suffix hs
    · rename_i hs
      exact h.refused hs
  · dsimp only
    split
    · exact (Cursor.advance_suffix _).trans hskip
    · exact (hitems [] _).mono hskip
  · dsimp only
    split
    · exact (Cursor.advance_suffix _).trans hskip
    · exact (hmembers [] _).mono hskip
  · exact atom_stays c

theorem items_stays (hvalue : ∀ c, Stays c.rest (value fuel c))
    (hitems : ∀ seen c, Stays c.rest (items fuel seen c)) (seen : List Value) (c : Cursor) :
    Stays c.rest (items (fuel + 1) seen c) := by
  unfold items
  split
  · rename_i hv
    exact (hvalue c).refused hv
  · rename_i v c' hv
    have hc' := (hvalue c).suffix hv
    dsimp only
    split
    · exact c'.skip_advance_suffix.trans hc'
    · refine (hitems _ _).mono ?_
      exact (Cursor.skip_suffix _).trans (c'.skip_advance_suffix.trans hc')
    · nofun

theorem members_stays (hvalue : ∀ c, Stays c.rest (value fuel c))
    (hmembers : ∀ seen c, Stays c.rest (members fuel seen c)) (seen : List (String × Value))
    (c : Cursor) : Stays c.rest (members (fuel + 1) seen c) := by
  unfold members
  split
  · rename_i cs hrest
    rw [hrest]
    refine Stays.mono ?_ (List.suffix_cons '"' cs)
    have h := stringFrom_stays c.position [] (c.position + 1) 0 cs
    split
    · rename_i hs
      exact h.refused hs
    · rename_i key c' hs
      dsimp only
      split
      · -- The value of the member begins behind its key, the colon and the blanks around it.
        have hc' : c'.skip.advance.skip.rest <:+ cs :=
          (Cursor.skip_suffix _).trans (c'.skip_advance_suffix.trans (h.suffix hs))
        have hv := (hvalue c'.skip.advance.skip).mono hc'
        split
        · rename_i hval
          exact hv.refused hval
        · rename_i v c'' hval
          have hc'' := hv.suffix hval
          split
          · exact c''.skip_advance_suffix.trans hc''
          · refine (hmembers _ _).mono ?_
            exact (Cursor.skip_suffix _).trans (c''.skip_advance_suffix.trans hc'')
          · nofun
      · nofun
  · nofun

end Readers

/-- **The reader goes on with an end of what it was given.** -/
theorem reader_stays (fuel : Nat) : (∀ c, Stays c.rest (value fuel c)) ∧
    (∀ seen c, Stays c.rest (items fuel seen c)) ∧ ∀ seen c, Stays c.rest (members fuel seen c) := by
  induction fuel with
  | zero => exact ⟨fun _ => nofun, fun _ _ => nofun, fun _ _ => nofun⟩
  | succ fuel ih =>
    obtain ⟨hvalue, hitems, hmembers⟩ := ih
    exact ⟨value_stays hitems hmembers, items_stays hvalue hitems, members_stays hvalue hmembers⟩

/-- **A text is refused for its digits only when it has too many in a row.** -/
theorem digitRun_of_parse {s : String} {e : ParseError} (h : parse s = .error e)
    (hn : e.fault = .tooManyDigits n) : DigitRun n s.toList := by
  have hvalue := ((reader_stays (2 * s.toList.length + 2)).1 (skipBlanks s.toList 0)).mono
    (skipBlanks_suffix s.toList 0)
  unfold parse at h
  dsimp only at h
  split at h
  · obtain rfl := Except.error.inj h
    cases hn
  · split at h
    · rename_i e' hv
      obtain rfl := Except.error.inj h
      rw [hv] at hvalue
      exact hvalue n hn
    · split at h
      · cases h
      · obtain rfl := Except.error.inj h
        cases hn

end SuiteEngine.Json
