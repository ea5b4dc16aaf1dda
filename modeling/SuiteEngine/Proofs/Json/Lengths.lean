import SuiteEngine.Proofs.Document.Nearest
import SuiteEngine.Proofs.Json.Digits
import SuiteEngine.Proofs.Json.Numbers

/-!
# What is read can be written

The reader takes no integer with more digits than one may be written with. So no integer in a value that
was read is too long to be written.

Headlines:
* `digitsValue_lt`: a number lies below the power of ten of its digits.
* `reader_short`: what is read at any place of a text.
* **`isShort_of_parse`**: what is read from a text.
-/

namespace SuiteEngine.Json

variable {cs : List Char} {fuel : Nat}

/-- If a value was read, its integers can be written. -/
def GivesShort (r : Except ParseError (Value × Cursor)) : Prop := ∀ v c, r = .ok (v, c) → v.IsShort

theorem GivesShort.ok {v : Value} {c : Cursor} (h : v.IsShort) : GivesShort (.ok (v, c)) := by
  rintro _ _ hr
  cases hr
  exact h

theorem GivesShort.error (e : ParseError) : GivesShort (.error e) := fun _ _ hr => nomatch hr

/-! ## Numbers -/

/-- A number lies below the power of ten of its digits. -/
theorem digitsValue_lt {ds : List Char} (h : ∀ d ∈ ds, d.isDigit = true) :
    digitsValue ds < 10 ^ ds.length := by
  induction ds using List.reverseRecOn with
  | nil => decide
  | append_singleton ds d ih =>
    -- The last digit adds less than ten to ten times the number before it.
    have hlt := ih fun c hc => h c (List.mem_append_left _ hc)
    have hd : digitsValue [d] < 10 := by
      have hnine : d.toNat ≤ 57 := (Char.isDigit_iff_toNat.mp (h d (by simp))).2
      change 0 * 10 + (d.toNat - 48) < 10
      omega
    rw [digitsValue_append, List.length_append, List.length_singleton, pow_succ]
    omega

theorem number?_short {neg : Bool} {position : Nat} {r : Except ParseError (Value × Cursor)}
    (h : number? neg cs position = some r) : GivesShort r := by
  unfold number? at h
  split at h
  · cases h
  · rename_i whole tail hwhole
    obtain ⟨-, hdigits⟩ := wholePart?_spec hwhole
    dsimp only at h
    split at h
    · split at h
      · obtain rfl := Option.some.inj h
        exact .error _
      · rename_i hlong
        obtain rfl := Option.some.inj h
        have hlt : digitsValue whole < 10 ^ Text.digitLimit :=
          lt_of_lt_of_le (digitsValue_lt hdigits)
            (Nat.pow_le_pow_right (by decide) (Nat.le_of_not_lt hlong))
        refine .ok (Value.isShort_int.mpr ?_)
        cases neg with
        | false => exact hlt
        | true =>
          rw [if_pos rfl, Int.natAbs_neg]
          exact hlt
    · obtain rfl := Option.some.inj h
      exact .ok (.leaf trivial rfl rfl)

theorem words_short : ∀ w ∈ words, w.2.IsShort := by decide

theorem atom_short (c : Cursor) : GivesShort (atom c) := by
  unfold atom
  split
  · rename_i w v hw
    exact .ok (words_short _ (List.mem_of_find?_eq_some hw))
  · dsimp only
    split
    · rename_i r hr
      split at hr
      · exact number?_short hr
      · exact number?_short hr
    · exact .error _

/-! ## Values -/

theorem isShort_insert (key : String) {v : Value} {fs : List (String × Value)} (hv : v.IsShort)
    (h : ∀ f ∈ fs, f.2.IsShort) : ∀ f ∈ Value.insert key v fs, f.2.IsShort := by
  induction fs with
  | nil => exact List.forall_mem_singleton.mpr hv
  | cons f fs ih =>
    obtain ⟨hf, hfs⟩ := List.forall_mem_cons.mp h
    rw [Value.insert]
    split
    · exact List.forall_mem_cons.mpr ⟨hv, hfs⟩
    · exact List.forall_mem_cons.mpr ⟨hf, ih hfs⟩

theorem value_short (hitems : ∀ c, GivesShort (items fuel [] c))
    (hmembers : ∀ c, GivesShort (members fuel [] c)) (c : Cursor) :
    GivesShort (value (fuel + 1) c) := by
  unfold value
  split
  · split
    · exact .ok (.leaf trivial rfl rfl)
    · exact .error _
  · dsimp only
    split
    · exact .ok ((Value.isShort_array rfl).mpr (List.forall_mem_nil _))
    · exact hitems _
  · dsimp only
    split
    · exact .ok (Value.isShort_obj.mpr (List.forall_mem_nil _))
    · exact hmembers _
  · exact atom_short c

theorem items_short (hvalue : ∀ c, GivesShort (value fuel c))
    (hitems : ∀ seen c, (∀ x ∈ seen, x.IsShort) → GivesShort (items fuel seen c))
    (seen : List Value) (c : Cursor) (hs : ∀ x ∈ seen, x.IsShort) :
    GivesShort (items (fuel + 1) seen c) := by
  unfold items
  split
  · exact .error _
  · rename_i v c' hv
    have hseen : ∀ x ∈ v :: seen, x.IsShort := List.forall_mem_cons.mpr ⟨hvalue c v c' hv, hs⟩
    dsimp only
    split
    · exact .ok ((Value.isShort_array rfl).mpr fun x hx => hseen x (List.mem_reverse.mp hx))
    · exact hitems _ _ hseen
    · exact .error _

theorem members_short (hvalue : ∀ c, GivesShort (value fuel c))
    (hmembers : ∀ seen c, (∀ f ∈ seen, f.2.IsShort) → GivesShort (members fuel seen c))
    (seen : List (String × Value)) (c : Cursor) (hs : ∀ f ∈ seen, f.2.IsShort) :
    GivesShort (members (fuel + 1) seen c) := by
  unfold members
  split
  · split
    · exact .error _
    · dsimp only
      split
      · split
        · exact .error _
        · rename_i v c' hv
          -- A key that comes again takes the place of what was read for it before.
          have hseen := fun key => isShort_insert key (hvalue _ v c' hv) hs
          split
          · exact .ok (Value.isShort_obj.mpr (hseen _))
          · exact hmembers _ _ (hseen _)
          · exact .error _
      · exact .error _
  · exact .error _

/-- **What is read at any place of a text.** -/
theorem reader_short (fuel : Nat) : (∀ c, GivesShort (value fuel c)) ∧
    (∀ seen c, (∀ x ∈ seen, x.IsShort) → GivesShort (items fuel seen c)) ∧
      ∀ seen c, (∀ f ∈ seen, f.2.IsShort) → GivesShort (members fuel seen c) := by
  induction fuel with
  | zero => exact ⟨fun _ => .error _, fun _ _ _ => .error _, fun _ _ _ => .error _⟩
  | succ fuel ih =>
    obtain ⟨hvalue, hitems, hmembers⟩ := ih
    have hfirst : ∀ c, GivesShort (value (fuel + 1) c) :=
      value_short (fun c => hitems [] c (List.forall_mem_nil _))
        fun c => hmembers [] c (List.forall_mem_nil _)
    exact ⟨hfirst, items_short hvalue hitems, members_short hvalue hmembers⟩

/-- **What is read from a text has no integer that is too long to be written.** -/
theorem isShort_of_parse {s : String} {v : Value} (h : parse s = .ok v) : v.IsShort := by
  unfold parse at h
  dsimp only at h
  split at h
  · cases h
  · split at h
    · cases h
    · rename_i w c hw
      split at h
      · obtain rfl := Except.ok.inj h
        exact (reader_short _).1 _ _ _ hw
      · cases h

end SuiteEngine.Json
