import Mathlib.Data.List.Infix
import Mathlib.Data.List.TakeWhile
import SuiteEngine.Document.Interpolate

/-!
# Placeholders in a text

A text is read in pieces, from left to right: where a placeholder begins it is one piece, anywhere else
a single character is. `Reads` says so, without a word on how the scan is done. It decides the pieces of
every text, and filling in a text shows each of them in turn. Since no placeholder can overlap another
one, the placeholders among the pieces are all that occur in the text.

Headlines:
* `placeholder?_eq_some_iff`: when a placeholder begins a text.
* `exists_reads`, `Reads.unique`: a text is read in one way.
* **`Reads.interpolateFrom`**: filling in shows piece after piece.
* **`Reads.mem_iff`**: the placeholders among the pieces are those that occur.
* **`pass_iff`**: the same as a pass that goes from the leftmost placeholder to the next.
-/

namespace SuiteEngine.Placeholder

/-- What stands between the braces: word characters, at least one. -/
structure IsName (name : List Char) : Prop where
  ne_nil : name ≠ []
  isWord : ∀ c ∈ name, Text.isWord c = true

/-- A placeholder as it is written. -/
def written (name : List Char) : List Char := '\x7b' :: '\x7b' :: (name ++ ['\x7d', '\x7d'])

/-- A placeholder stands at the start of the text. -/
def Begins (s : List Char) : Prop := ∃ name rest, IsName name ∧ s = written name ++ rest

/-- What a placeholder is filled in with: itself where its name is unbound. -/
def shown (vars : Variables) (name : List Char) : List Char :=
  match vars.text? (String.ofList name) with
  | some t => t.toList
  | none => written name

variable {vars : Variables} {name other s t rest : List Char} {c : Char}

/-! ## Braces -/

theorem length_written (name : List Char) : (written name).length = name.length + 4 := by
  simp [written]

theorem isWord_open : Text.isWord '\x7b' = false := by decide +kernel

theorem isWord_close : Text.isWord '\x7d' = false := by decide +kernel

theorem IsName.open_not_mem (h : IsName name) : '\x7b' ∉ name := fun hm =>
  Bool.noConfusion (isWord_open.symm.trans (h.isWord _ hm))

theorem takeWhile_name (h : IsName name) (rest : List Char) :
    (name ++ '\x7d' :: rest).takeWhile Text.isWord = name := by
  rw [List.takeWhile_append_of_pos h.isWord, List.takeWhile_cons_of_neg (by simp [isWord_close]),
    List.append_nil]

theorem dropWhile_name (h : IsName name) (rest : List Char) :
    (name ++ '\x7d' :: rest).dropWhile Text.isWord = '\x7d' :: rest := by
  rw [List.dropWhile_append_of_pos h.isWord, List.dropWhile_cons_of_neg (by simp [isWord_close])]

/-- **When a placeholder begins a text.** The characters after the opening braces are taken as far as
they are word characters, so a name never stops short of the closing braces. -/
theorem placeholder?_eq_some_iff :
    placeholder? s = some (name, rest) ↔ IsName name ∧ s = written name ++ rest := by
  constructor
  · intro h
    unfold placeholder? at h
    split at h
    · rename_i tail
      dsimp only at h
      split at h
      · cases h
      · rename_i hafter hne
        obtain ⟨rfl, rfl⟩ := Prod.mk.inj (Option.some.inj h)
        refine ⟨⟨hne, fun c hc => List.mem_takeWhile_imp hc⟩, ?_⟩
        have htail := tail.takeWhile_append_dropWhile (p := Text.isWord)
        rw [hafter] at htail
        simp only [written, List.cons_append, List.append_assoc, List.nil_append]
        rw [htail]
      · cases h
    · cases h
  · rintro ⟨hn, rfl⟩
    simp only [written, List.cons_append, List.append_assoc, List.nil_append, placeholder?,
      takeWhile_name hn, dropWhile_name hn]
    cases name with
    | nil => exact absurd rfl hn.ne_nil
    | cons c name => rfl

theorem begins_iff : Begins s ↔ ∃ p, placeholder? s = some p := by
  constructor
  · rintro ⟨name, rest, h⟩
    exact ⟨_, placeholder?_eq_some_iff.mpr h⟩
  · rintro ⟨⟨name, rest⟩, h⟩
    exact ⟨name, rest, placeholder?_eq_some_iff.mp h⟩

theorem placeholder?_eq_none (h : ¬ Begins s) : placeholder? s = none :=
  Option.eq_none_iff_forall_ne_some.mpr fun p hp => h (begins_iff.mpr ⟨p, hp⟩)

theorem written_append_inj (hn : IsName name) (ho : IsName other)
    (h : written name ++ s = written other ++ t) : name = other ∧ s = t := by
  have hp := placeholder?_eq_some_iff.mpr ⟨hn, h.symm⟩
  rw [placeholder?_eq_some_iff.mpr ⟨ho, rfl⟩] at hp
  obtain ⟨hname, hrest⟩ := Prod.mk.inj (Option.some.inj hp)
  exact ⟨hname.symm, hrest.symm⟩

/-! ## Filling in, step by step -/

theorem interpolateFrom_skip (n : Nat) (s : List Char) :
    interpolateFrom vars n s = interpolateFrom vars 0 (s.drop n) := by
  induction s generalizing n with
  | nil => cases n <;> rfl
  | cons c s ih =>
    cases n with
    | zero => rfl
    | succ n => exact ih n

/-- A character that no placeholder begins at is copied. -/
theorem interpolateFrom_copied (h : ¬ Begins (c :: s)) :
    interpolateFrom vars 0 (c :: s) = c :: interpolateFrom vars 0 s := by
  rw [interpolateFrom, placeholder?_eq_none h]

/-- A placeholder gives way to what is shown for it, which is not read again. -/
theorem interpolateFrom_replaced (hn : IsName name) (rest : List Char) :
    interpolateFrom vars 0 (written name ++ rest) =
      shown vars name ++ interpolateFrom vars 0 rest := by
  have hp : placeholder? (written name ++ rest) = some (name, rest) :=
    placeholder?_eq_some_iff.mpr ⟨hn, rfl⟩
  have htake : (written name ++ rest).take (name.length + 4) = written name := by
    rw [← length_written, List.take_left]
  have hdrop : (written name ++ rest).drop (name.length + 4) = rest := by
    rw [← length_written, List.drop_left]
  obtain ⟨cs, hcs⟩ : ∃ cs, written name ++ rest = '\x7b' :: cs := ⟨_, rfl⟩
  rw [hcs] at hp htake hdrop ⊢
  rw [interpolateFrom, hp]
  dsimp only
  rw [htake, interpolateFrom_skip]
  exact congrArg (_ ++ interpolateFrom vars 0 ·) hdrop

/-! ## Pieces -/

/-- A piece of a text. -/
inductive Piece where
  | char (c : Char)
  | placeholder (name : List Char)

namespace Piece

/-- The piece as it stands in the text. -/
def written : Piece → List Char
  | char c => [c]
  | placeholder name => Placeholder.written name

/-- The piece filled in. -/
def shown (vars : Variables) : Piece → List Char
  | char c => [c]
  | placeholder name => Placeholder.shown vars name

end Piece

/-- The text is read as these pieces, from left to right. -/
inductive Reads : List Char → List Piece → Prop
  | nil : Reads [] []
  | char {c : Char} {s : List Char} {ps : List Piece} (hc : ¬ Begins (c :: s)) (h : Reads s ps) :
      Reads (c :: s) (.char c :: ps)
  | placeholder {name s : List Char} {ps : List Piece} (hn : IsName name) (h : Reads s ps) :
      Reads (written name ++ s) (.placeholder name :: ps)

variable {ps qs : List Piece}

theorem exists_reads (s : List Char) : ∃ ps, Reads s ps := by
  by_cases hb : Begins s
  · obtain ⟨name, rest, hn, rfl⟩ := hb
    obtain ⟨ps, h⟩ := exists_reads rest
    exact ⟨_, .placeholder hn h⟩
  · cases s with
    | nil => exact ⟨[], .nil⟩
    | cons c s =>
      obtain ⟨ps, h⟩ := exists_reads s
      exact ⟨_, .char hb h⟩
termination_by s.length
decreasing_by
  · rw [‹s = written name ++ rest›, List.length_append, length_written]
    omega
  · simp

theorem Reads.of_char (hc : ¬ Begins (c :: s)) (h : Reads (c :: s) ps) :
    ∃ qs, ps = .char c :: qs ∧ Reads s qs := by
  generalize hw : c :: s = w at h
  cases h with
  | nil => cases hw
  | char _ h =>
    cases hw
    exact ⟨_, rfl, h⟩
  | placeholder hn h => exact absurd ⟨_, _, hn, hw⟩ hc

theorem Reads.of_placeholder (hn : IsName name) (h : Reads (written name ++ s) ps) :
    ∃ qs, ps = .placeholder name :: qs ∧ Reads s qs := by
  generalize hw : written name ++ s = w at h
  cases h with
  | nil => cases hw
  | char hc h => exact absurd ⟨_, _, hn, hw.symm⟩ hc
  | placeholder ho h =>
    obtain ⟨rfl, rfl⟩ := written_append_inj hn ho hw
    exact ⟨_, rfl, h⟩

/-- A text is read in one way. -/
theorem Reads.unique (h : Reads s ps) (h' : Reads s qs) : ps = qs := by
  induction h generalizing qs with
  | nil =>
    generalize hw : ([] : List Char) = w at h'
    cases h' with
    | nil => rfl
    | char _ _ => cases hw
    | placeholder _ _ => cases hw
  | char hc _ ih =>
    obtain ⟨rs, rfl, hr⟩ := h'.of_char hc
    rw [ih hr]
  | placeholder hn _ ih =>
    obtain ⟨rs, rfl, hr⟩ := h'.of_placeholder hn
    rw [ih hr]

/-- The pieces make up the text. -/
theorem Reads.flatMap_written (h : Reads s ps) : ps.flatMap Piece.written = s := by
  induction h with
  | nil => rfl
  | char _ _ ih => rw [List.flatMap_cons, ih]; rfl
  | placeholder _ _ ih => rw [List.flatMap_cons, ih]; rfl

theorem Reads.isName (h : Reads s ps) (hm : .placeholder name ∈ ps) : IsName name := by
  induction h with
  | nil => cases hm
  | char _ _ ih =>
    rcases List.mem_cons.mp hm with hm | hm
    · cases hm
    · exact ih hm
  | placeholder hn _ ih =>
    rcases List.mem_cons.mp hm with hm | hm
    · cases hm
      exact hn
    · exact ih hm

/-- What follows some pieces is read as the pieces that follow. -/
theorem Reads.suffix (h : Reads s (ps ++ qs)) : Reads (qs.flatMap Piece.written) qs := by
  induction ps generalizing s with
  | nil => exact h.flatMap_written.symm ▸ h
  | cons p ps ih =>
    cases h with
    | char _ h => exact ih h
    | placeholder _ h => exact ih h

/-- **Filling in shows piece after piece.** -/
theorem Reads.interpolateFrom (h : Reads s ps) :
    interpolateFrom vars 0 s = ps.flatMap (Piece.shown vars) := by
  induction h with
  | nil => rfl
  | char hc _ ih => rw [interpolateFrom_copied hc, ih, List.flatMap_cons]; rfl
  | placeholder hn _ ih => rw [interpolateFrom_replaced hn, ih, List.flatMap_cons]; rfl

/-- Where no name of a placeholder is bound, filling in changes nothing. -/
theorem shown_of_unbound (h : ∀ name, .placeholder name ∈ ps → vars.text? (String.ofList name) = none) :
    ps.flatMap (Piece.shown vars) = ps.flatMap Piece.written := by
  refine List.flatMap_congr fun p hp => ?_
  cases p with
  | char c => rfl
  | placeholder name => simp only [Piece.shown, shown, h name hp, Piece.written]

/-! ## Occurrences -/

/-- Behind a stretch that a character does not stand in comes the rest of what is before it. -/
theorem append_of_not_mem {x a z : List Char} (hx : c ∉ x) (h : x ++ s = a ++ c :: z) :
    ∃ b, a = x ++ b ∧ s = b ++ c :: z := by
  rcases List.append_eq_append_iff.mp h with ⟨b, rfl, hs⟩ | ⟨b, rfl, hz⟩
  · exact ⟨b, rfl, hs⟩
  · cases b with
    | nil => exact ⟨[], by simp, hz.symm⟩
    | cons d b =>
      obtain ⟨rfl, -⟩ := List.cons.inj hz
      exact absurd (by simp) hx

/-- Placeholders do not overlap: where one comes first, another one is the same or comes behind it. -/
theorem written_separate {a z : List Char} (hn : IsName name)
    (h : written name ++ s = a ++ (written other ++ z)) :
    a = [] ∨ ∃ b, s = b ++ (written other ++ z) := by
  match a with
  | [] => exact .inl rfl
  | [d] =>
    -- The first brace of the other one would stand in the name, which has a first character.
    obtain ⟨e, tail, rfl⟩ := List.exists_cons_of_ne_nil hn.ne_nil
    simp only [written, List.cons_append, List.nil_append, List.cons.injEq] at h
    exact absurd (h.2.2.1 ▸ List.mem_cons_self) hn.open_not_mem
  | d :: e :: a =>
    have hbehind : (name ++ ['\x7d', '\x7d']) ++ s = a ++ (written other ++ z) := by
      simp only [written, List.cons_append, List.cons.injEq] at h ⊢
      exact h.2.2
    have hopen : '\x7b' ∉ name ++ ['\x7d', '\x7d'] := by
      simp [hn.open_not_mem]
    obtain ⟨b, -, hs⟩ := append_of_not_mem hopen hbehind
    exact .inr ⟨b, hs⟩

/-- **The placeholders among the pieces are those that occur in the text.** -/
theorem Reads.mem_iff (h : Reads s ps) (hn : IsName name) :
    .placeholder name ∈ ps ↔ written name <:+: s := by
  constructor
  · intro hm
    rw [← h.flatMap_written]
    exact List.infix_of_mem_flatten (List.mem_map.mpr ⟨_, hm, rfl⟩)
  · rintro ⟨a, z, hs⟩
    rw [List.append_assoc] at hs
    induction h generalizing a with
    | nil => cases (List.append_eq_nil_iff.mp (List.append_eq_nil_iff.mp hs).2).1
    | @char c w ps hc _ ih =>
      cases a with
      | nil => exact absurd ⟨_, _, hn, hs.symm⟩ hc
      | cons d a => exact List.mem_cons_of_mem _ (ih a (List.cons.inj hs).2)
    | @placeholder other w ps ho _ ih =>
      rcases written_separate ho hs.symm with rfl | ⟨b, hw⟩
      · obtain ⟨rfl, -⟩ := written_append_inj ho hn hs.symm
        exact List.mem_cons_self
      · exact List.mem_cons_of_mem _ (ih b hw.symm)

/-! ## From placeholder to placeholder -/

/-- One pass over a text: what is before the leftmost placeholder is copied, what is shown for it takes
its place, and the pass goes on behind it. A text without placeholders is copied. -/
inductive Pass (vars : Variables) : List Char → List Char → Prop
  | copied {s : List Char} (h : ∀ name, IsName name → ¬ written name <:+: s) : Pass vars s s
  | replaced {before name after filled : List Char} (hn : IsName name)
      (leftmost : ∀ pre post, before ++ (written name ++ after) = pre ++ post → Begins post →
        before.length ≤ pre.length)
      (h : Pass vars after filled) :
      Pass vars (before ++ (written name ++ after)) (before ++ (shown vars name ++ filled))

theorem Pass.cons (hc : ¬ Begins (c :: s)) (h : Pass vars s t) : Pass vars (c :: s) (c :: t) := by
  cases h with
  | copied h =>
    refine .copied fun name hn hi => ?_
    rcases List.infix_cons_iff.mp hi with ⟨rest, hr⟩ | hi
    · exact hc ⟨name, rest, hn, hr.symm⟩
    · exact h name hn hi
  | @replaced before name after filled hn leftmost h =>
    refine @Pass.replaced _ (c :: before) _ _ _ hn (fun pre post he hb => ?_) h
    cases pre with
    | nil =>
      have hpost : post = c :: (before ++ (written name ++ after)) := he.symm
      exact absurd (hpost ▸ hb) hc
    | cons d pre => exact Nat.succ_le_succ (leftmost pre post (List.cons.inj he).2 hb)

theorem interpolateFrom_before {before : List Char}
    (leftmost : ∀ pre post, before ++ rest = pre ++ post → Begins post → before.length ≤ pre.length) :
    interpolateFrom vars 0 (before ++ rest) = before ++ interpolateFrom vars 0 rest := by
  induction before with
  | nil => rfl
  | cons c before ih =>
    have hc : ¬ Begins (c :: (before ++ rest)) := fun hb => absurd (leftmost [] _ rfl hb) (by simp)
    rw [List.cons_append, interpolateFrom_copied hc, ih fun pre post he hb =>
      Nat.le_of_succ_le_succ (leftmost (c :: pre) post (congrArg (c :: ·) he) hb), List.cons_append]

/-- **Filling in is a pass from the leftmost placeholder to the next.** -/
theorem pass_iff : Pass vars s t ↔ t = interpolateFrom vars 0 s := by
  constructor
  · intro h
    induction h with
    | @copied s h =>
      obtain ⟨ps, hps⟩ := exists_reads s
      rw [hps.interpolateFrom, shown_of_unbound, hps.flatMap_written]
      exact fun name hm => absurd ((hps.mem_iff (hps.isName hm)).mp hm) (h name (hps.isName hm))
    | replaced hn leftmost _ ih =>
      rw [interpolateFrom_before leftmost, interpolateFrom_replaced hn, ih]
  · rintro rfl
    obtain ⟨ps, h⟩ := exists_reads s
    rw [h.interpolateFrom]
    induction h with
    | nil => exact .copied fun name _ h => nomatch List.infix_nil.mp h
    | char hc _ ih => exact ih.cons hc
    | placeholder hn _ ih => exact @Pass.replaced _ [] _ _ _ hn (fun _ _ _ _ => Nat.zero_le _) ih

end SuiteEngine.Placeholder
