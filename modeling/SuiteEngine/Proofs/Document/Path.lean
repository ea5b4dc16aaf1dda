import Mathlib.Algebra.Group.Nat.Defs
import Mathlib.Data.List.Forall2
import SuiteEngine.Document.Path
import SuiteEngine.Proofs.Document.Json
import SuiteEngine.Proofs.Text.Trimmed
import SuiteEngine.Schema.Finding

/-!
# Where a path leads

A path is looked up piece by piece: a piece names a key of an object, or an index of an array as a whole
number. `Leads` says without paths which part of a value a chain of keys and indexes leads to; `Misses`
says of which pieces there is no such part. Every path either goes along a chain to its end or comes to a
piece that misses, and from then on nothing is found.

Headlines:
* `split_append`, `split_written`: the pieces of two paths, and of the path that is written for a chain.
* `parseInt?_toString`: an index in decimal is read as the index.
* `exists_leadsTo_or_misses`, `step_of_leadsTo`, `step_of_misses`: one piece.
* **`deepGet_leads`**: whole paths.
-/

namespace SuiteEngine

open Schema (Step)

/-! ## Pieces -/

namespace Text

theorem splitList_eq_splitOn (sep : Char) (cs : List Char) : splitList sep cs = cs.splitOn sep := by
  induction cs with
  | nil => rfl
  | cons c cs ih =>
    rw [List.splitOn_eq_splitOnP] at ih ⊢
    rw [splitList, List.splitOnP_cons_eq_if_modifyHead, ih]
    obtain ⟨piece, pieces, h⟩ := List.exists_cons_of_ne_nil (List.splitOnP_ne_nil (· == sep) cs)
    rw [h]
    simp only [beq_iff_eq, List.modifyHead_cons]

/-- The pieces of two texts with the separator between them. -/
theorem split_append (sep : Char) (s t : String) :
    split sep (s ++ String.singleton sep ++ t) = split sep s ++ split sep t := by
  have hl : (s ++ String.singleton sep ++ t).toList = s.toList ++ sep :: t.toList := by simp
  simp only [split, hl, splitList_eq_splitOn, List.splitOn_append_cons_self, List.map_append]

/-- The pieces of texts that were joined, where the separator stands in none of them. -/
theorem split_intercalate {sep : Char} {pieces : List String} (hne : pieces ≠ [])
    (h : ∀ s ∈ pieces, sep ∉ s.toList) :
    split sep ((String.singleton sep).intercalate pieces) = pieces := by
  have hsep : (String.singleton sep).toList = [sep] := by simp
  rw [split, splitList_eq_splitOn, String.toList_intercalate, hsep, List.splitOn_intercalate,
    List.map_map]
  · exact (List.map_congr_left fun s _ => String.ofList_toList).trans (List.map_id pieces)
  · exact fun l hl => by
      obtain ⟨s, hs, rfl⟩ := List.mem_map.mp hl
      exact h s hs
  · simpa using hne

/-! ## Whole numbers in decimal -/

theorem isDigit_bounds {c : Char} (h : c.isDigit = true) : 48 ≤ c.toNat ∧ c.toNat ≤ 57 := by
  rw [Char.isDigit, Bool.and_eq_true, decide_eq_true_eq, decide_eq_true_eq] at h
  exact ⟨UInt32.le_iff_toNat_le.mp h.1, UInt32.le_iff_toNat_le.mp h.2⟩

theorem digitValue?_digit {c : Char} (h : c.isDigit = true) :
    digitValue? c = some (c.toNat - 48) := by
  have hb := isDigit_bounds h
  rw [digitValue?, if_pos (by omega), if_pos h]

theorem isNumberBlank_digit {c : Char} (h : c.isDigit = true) : isNumberBlank c = false := by
  have hb := isDigit_bounds h
  simp [isNumberBlank, isBlank]
  omega

/-- Digits alone are the digits of a number. -/
theorem groupedDigits_digits {cs : List Char} (hne : cs ≠ []) (h : ∀ c ∈ cs, c.isDigit = true) :
    groupedDigits cs = some (cs.map fun c => c.toNat - 48) := by
  induction cs with
  | nil => exact absurd rfl hne
  | cons c cs ih =>
    obtain ⟨hc, hcs⟩ := List.forall_mem_cons.mp h
    cases cs with
    | nil => rw [groupedDigits, digitValue?_digit hc]; rfl
    | cons d cs =>
      have hd : d ≠ '_' := by
        rintro rfl
        exact absurd (hcs _ List.mem_cons_self) (by decide)
      rw [groupedDigits, digitValue?_digit hc, ih (List.cons_ne_nil _ _) hcs]
      · rfl
      · intro h
        cases h
      · intro rest h
        exact hd (List.cons.inj h).1

theorem ofDigits_eq (cs : List Char) :
    ofDigits (cs.map fun c => c.toNat - 48) = Nat.ofDigitChars 10 cs 0 := by
  rw [ofDigits, List.foldl_map, Nat.ofDigitChars]
  exact congrFun (congrFun (congrArg List.foldl
    (funext fun n => funext fun c => by rw [Nat.mul_comm]; rfl)) 0) cs

/-- **A whole number in decimal is read as itself**, unless it has too many digits. -/
theorem parseInt?_toString (n : Nat) :
    parseInt? (toString n) = if n < 10 ^ digitLimit then some (n : Int) else none := by
  have hdigit : ∀ c ∈ Nat.toDigits 10 n, c.isDigit = true := fun c hc =>
    Nat.isDigit_of_mem_toDigits (by decide) (by decide) hc
  have htrim : trimList isNumberBlank (Nat.toDigits 10 n) = Nat.toDigits 10 n :=
    trimList_of_ends (fun c hc => isNumberBlank_digit (hdigit c (List.mem_of_mem_head? hc)))
      fun c hc => isNumberBlank_digit (hdigit c (List.mem_of_getLast? hc))
  have hsign : splitSign (Nat.toDigits 10 n) = (false, Nat.toDigits 10 n) := by
    unfold splitSign
    split
    · rename_i hd
      exact absurd (hdigit '-' (hd ▸ List.mem_cons_self)) (by decide)
    · rename_i hd
      exact absurd (hdigit '+' (hd ▸ List.mem_cons_self)) (by decide)
    · rfl
  have hlimit : (Nat.toDigits 10 n).length ≤ digitLimit ↔ n < 10 ^ digitLimit :=
    Nat.length_toDigits_le_iff (by decide) (by decide)
  rw [Nat.toString_eq_ofList_toDigits, parseInt?, String.toList_ofList, htrim, hsign]
  simp only [groupedDigits_digits Nat.toDigits_ne_nil hdigit, List.length_map, hlimit, ofDigits_eq,
    Nat.ofDigitChars_ten_toDigits, Option.bind_eq_bind, Option.bind_some, guard]
  by_cases hn : n < 10 ^ digitLimit
  · rw [if_pos hn, if_pos hn]
    rfl
  · rw [if_neg hn, if_neg hn]
    rfl

end Text

namespace Value

/-! ## One step -/

/-- The step leads from a value to one of its parts. -/
inductive LeadsTo : Value → Step → Value → Prop
  | field {fs : List (String × Value)} {key : String} {v : Value} (h : lookup key fs = some v) :
      LeadsTo (obj fs) (.key key) v
  | item {v x : Value} {xs : List Value} {i : Nat} (hv : v.items? = some xs) (h : xs[i]? = some x) :
      LeadsTo v (.index i) x

/-- The piece of a path stands for the step: a key for itself, and a whole number for an index. -/
def Names (piece : String) : Step → Prop
  | .key key => piece = key
  | .index i => Text.parseInt? piece = some (i : Int)

/-- The value has no part that the piece of a path could stand for. -/
inductive Misses : Value → String → Prop
  /-- An object does not have the key. -/
  | absent {fs : List (String × Value)} {key : String} (h : key ∉ fs.map Prod.fst) :
      Misses (obj fs) key
  /-- An array is not entered by something that is no whole number. -/
  | noIndex {v : Value} {xs : List Value} {piece : String} (hv : v.items? = some xs)
      (h : Text.parseInt? piece = none) : Misses v piece
  | negative {v : Value} {xs : List Value} {piece : String} {i : Int} (hv : v.items? = some xs)
      (h : Text.parseInt? piece = some i) (hi : i < 0) : Misses v piece
  | beyond {v : Value} {xs : List Value} {piece : String} {i : Int} (hv : v.items? = some xs)
      (h : Text.parseInt? piece = some i) (hi : xs.length ≤ i) : Misses v piece
  /-- Null, scalars and what is absent have no parts. -/
  | leaf {v : Value} {piece : String} (hi : v.items? = none) (hf : ∀ fs, v ≠ obj fs) :
      Misses v piece

variable {v w s : Value} {piece : String} {step : Step}

theorem step_array {xs : List Value} (hv : v.items? = some xs) (piece : String) :
    v.step piece = itemAt xs piece := by
  cases v with
  | list ys => obtain rfl := Option.some.inj hv; rfl
  | tuple ys => obtain rfl := Option.some.inj hv; rfl
  | _ => cases hv

theorem step_of_leadsTo (hn : Names piece step) (h : LeadsTo v step w) : v.step piece = w := by
  cases h with
  | field h =>
    obtain rfl := hn
    rw [Value.step, h, Option.getD_some]
  | item hv h =>
    have hn : Text.parseInt? piece = some (Int.ofNat _) := hn
    rw [step_array hv, itemAt, hn]
    dsimp only
    rw [List.getD_eq_getElem?_getD, h, Option.getD_some]

theorem step_of_misses (h : Misses v piece) : v.step piece = missing := by
  cases h with
  | absent h =>
    rw [Value.step, Option.eq_none_iff_forall_ne_some.mpr fun w hw => h (exists_lookup_iff.mp ⟨w, hw⟩)]
    rfl
  | noIndex hv h => rw [step_array hv, itemAt, h]
  | negative hv h hi =>
    obtain ⟨n, rfl⟩ := Int.eq_negSucc_of_lt_zero hi
    rw [step_array hv, itemAt, h]
  | beyond hv h hi =>
    obtain ⟨n, rfl⟩ := Int.eq_ofNat_of_zero_le (Int.le_trans (Int.natCast_nonneg _) hi)
    rw [step_array hv, itemAt, h]
    dsimp only
    rw [List.getD_eq_getElem?_getD, List.getElem?_eq_none (Int.ofNat_le.mp hi), Option.getD_none]
  | leaf hi hf =>
    cases v with
    | list xs => cases hi
    | tuple xs => cases hi
    | obj fs => exact absurd rfl (hf fs)
    | _ => rfl

/-- **A piece stands for a part of the value, or it misses.** -/
theorem exists_leadsTo_or_misses (v : Value) (piece : String) :
    (∃ step w, Names piece step ∧ LeadsTo v step w) ∨ Misses v piece := by
  cases hv : v.items? with
  | some xs =>
    cases h : Text.parseInt? piece with
    | none => exact .inr (.noIndex hv h)
    | some i =>
      by_cases hn : i < 0
      · exact .inr (.negative hv h hn)
      by_cases hb : xs.length ≤ i
      · exact .inr (.beyond hv h hb)
      obtain ⟨n, rfl⟩ := Int.eq_ofNat_of_zero_le (Int.not_lt.mp hn)
      have hlt : n < xs.length := Int.ofNat_lt.mp (Int.not_le.mp hb)
      exact .inl ⟨.index n, xs[n], h, .item hv (List.getElem?_eq_getElem hlt)⟩
  | none =>
    cases v with
    | obj fs =>
      by_cases hk : piece ∈ fs.map Prod.fst
      · obtain ⟨w, hw⟩ := exists_lookup_iff.mpr hk
        exact .inl ⟨.key piece, w, rfl, .field hw⟩
      · exact .inr (.absent hk)
    | list xs => cases hv
    | tuple xs => cases hv
    | _ => exact .inr (.leaf rfl fun _ => nofun)

/-! ## Chains -/

/-- The chain of steps leads from a value to the value itself or a part inside it. -/
inductive Leads : Value → List Step → Value → Prop
  | here {v : Value} : Leads v [] v
  | step {v w u : Value} {step : Step} {chain : List Step} (h : LeadsTo v step w)
      (rest : Leads w chain u) : Leads v (step :: chain) u

/-- The path that is written for a chain: its keys, and its indexes in decimal, with dots between. -/
def written (chain : List Step) : String := ".".intercalate (chain.map Step.text)

/-- A step that can be written in a path: a key has no dot in it, and an index not more digits than a
whole number can be read with, which are enough for the longest arrays that fit in a memory. -/
def IsWritable : Step → Prop
  | .key key => '.' ∉ key.toList
  | .index i => i < 10 ^ Text.digitLimit

theorem names_text (h : IsWritable step) : Names step.text step := by
  cases step with
  | key key => rfl
  | index i => exact (Text.parseInt?_toString i).trans (if_pos h)

theorem dot_not_mem_text (h : IsWritable step) : '.' ∉ step.text.toList := by
  cases step with
  | key key => exact h
  | index i =>
    intro hm
    rw [Step.text, Nat.toString_eq_ofList_toDigits, String.toList_ofList] at hm
    exact absurd (Nat.isDigit_of_mem_toDigits (by decide) (by decide) hm) (by decide)

variable {chain : List Step} {pieces : List String}

/-- **The pieces of the path that is written for a chain.** -/
theorem split_written (hne : chain ≠ []) (h : ∀ step ∈ chain, IsWritable step) :
    Text.split '.' (written chain) = chain.map Step.text := by
  refine Text.split_intercalate (by simpa using hne) fun s hs => ?_
  obtain ⟨step, hstep, rfl⟩ := List.mem_map.mp hs
  exact dot_not_mem_text (h step hstep)

theorem foldl_missing (pieces : List String) : pieces.foldl Value.step missing = missing := by
  induction pieces with
  | nil => rfl
  | cons piece pieces ih => exact ih

theorem foldl_of_leads (hn : List.Forall₂ Names pieces chain) (h : Leads v chain s) :
    pieces.foldl Value.step v = s := by
  induction h generalizing pieces with
  | here =>
    cases hn
    rfl
  | step h _ ih =>
    cases hn with
    | cons hp hps => rw [List.foldl_cons, step_of_leadsTo hp h, ih hps]

/-- What is found is nothing, or what a chain with a step for each piece leads to. -/
theorem leads_or_missing (v : Value) (pieces : List String) :
    pieces.foldl Value.step v = missing ∨
      ∃ chain, List.Forall₂ Names pieces chain ∧ Leads v chain (pieces.foldl Value.step v) := by
  induction pieces generalizing v with
  | nil => exact .inr ⟨[], .nil, .here⟩
  | cons piece pieces ih =>
    rw [List.foldl_cons]
    rcases exists_leadsTo_or_misses v piece with ⟨step, w, hn, h⟩ | h
    · rw [step_of_leadsTo hn h]
      refine (ih w).imp_right ?_
      rintro ⟨chain, hns, hl⟩
      exact ⟨step :: chain, .cons hn hns, .step h hl⟩
    · rw [step_of_misses h]
      exact .inl (foldl_missing pieces)

/-! ## Paths -/

/-- **Where a path leads.** A path that continues another one is looked up in what the other one leads to.
What is found is nothing, or what a chain with a step for each piece of the path leads to. What a chain of
keys and indexes leads to is found under the path that is written for it, be it null. And where a path
comes to a piece that misses, nothing is found, whatever follows. -/
theorem deepGet_leads (v : Value) :
    (∀ p q, v.deepGet (p ++ "." ++ q) = (v.deepGet p).deepGet q) ∧
    (∀ path, v.deepGet path = missing ∨
      ∃ chain, List.Forall₂ Names (Text.split '.' path) chain ∧ Leads v chain (v.deepGet path)) ∧
    (∀ chain s, chain ≠ [] → (∀ step ∈ chain, IsWritable step) → Leads v chain s →
      v.deepGet (written chain) = s) ∧
    ∀ path pieces chain w piece after, Text.split '.' path = pieces ++ piece :: after →
      List.Forall₂ Names pieces chain → Leads v chain w → Misses w piece →
      v.deepGet path = missing := by
  refine ⟨fun p q => ?_, fun path => leads_or_missing v _, fun chain s hne hw h => ?_, ?_⟩
  · have hsplit : Text.split '.' (p ++ "." ++ q) = Text.split '.' p ++ Text.split '.' q :=
      Text.split_append '.' p q
    rw [deepGet, hsplit, List.foldl_append]
    rfl
  · rw [deepGet, split_written hne hw]
    exact foldl_of_leads (List.forall₂_map_left_iff.mpr (List.forall₂_same.mpr fun step hm =>
      names_text (hw step hm))) h
  · intro path pieces chain w piece after hsplit hn hl hm
    rw [deepGet, hsplit, List.foldl_append, foldl_of_leads hn hl, List.foldl_cons,
      step_of_misses hm, foldl_missing]

/-- A body with items, and with a field that is null. -/
def listing : Value :=
  .obj [("data", .obj [("items", .list [.obj [("id", .int 7)]]), ("empty", .null)])]

/-- The items of the body by their place, its null, and steps behind the last item and behind null. -/
theorem deepGet_leads_listing :
    Leads listing [.key "data", .key "items", .index 0, .key "id"] (.int 7) ∧
      listing.deepGet "data.items.0.id" = .int 7 ∧ listing.deepGet "data.empty" = .null ∧
      listing.deepGet "data.items.5.id" = .missing ∧ listing.deepGet "data.empty.id" = .missing := by
  obtain ⟨-, -, hfound, hmissed⟩ := deepGet_leads listing
  have hdata : LeadsTo listing (.key "data") _ := .field rfl
  have hitems : Leads listing [.key "data", .key "items"] (.list [.obj [("id", .int 7)]]) :=
    .step hdata (.step (.field rfl) .here)
  have hid : Leads listing [.key "data", .key "items", .index 0, .key "id"] (.int 7) :=
    .step hdata (.step (.field rfl) (.step (.item rfl rfl) (.step (.field rfl) .here)))
  have hnull : Leads listing [.key "data", .key "empty"] .null :=
    .step hdata (.step (.field rfl) .here)
  refine ⟨hid, hfound _ _ (by decide) ?_ hid, hfound _ _ (by decide) ?_ hnull, ?_, ?_⟩
  · simp [IsWritable, Nat.pow_pos]
  · simp [IsWritable]
  · have hfive : Text.parseInt? "5" = some 5 := by decide +kernel
    exact hmissed _ ["data", "items"] [.key "data", .key "items"] _ "5" ["id"] (by decide +kernel)
      (.cons rfl (.cons rfl .nil)) hitems (.beyond rfl hfive (by decide))
  · exact hmissed _ ["data", "empty"] [.key "data", .key "empty"] _ "id" [] (by decide +kernel)
      (.cons rfl (.cons rfl .nil)) hnull (.leaf rfl fun _ => nofun)

end Value

end SuiteEngine
