import Mathlib.Data.List.Basic
import SuiteEngine.Proofs.Files.Path
import SuiteEngine.Proofs.Text.Trimmed
import SuiteEngine.Report.Summary

/-!
# The names of the files of attachments

A cleaned name holds safe characters only and is never empty, so it is one step below a directory, unless
it is a single dot or two dots. The name of a file starts with a number, and so is never either of these.

Headlines:
* `isName_safeName`: the names that are one step below a directory.
* `plainName_iff`: which names these are.
* **`isName_fileName`**: the file of an attachment always is.
-/

namespace SuiteEngine.Report

open Files (IsName)

variable {c : Char} {name : String} {a : Attachment} {number : Nat}

theorem isSafe_replaceUnsafe {l : List Char} {inStretch : Bool} (h : c ∈ replaceUnsafe inStretch l) :
    isSafe c = true := by
  induction l generalizing inStretch with
  | nil => cases h
  | cons d l ih =>
    rw [replaceUnsafe] at h
    split at h
    · rename_i hd
      rcases List.mem_cons.mp h with rfl | h
      · exact hd
      · exact ih h
    · split at h
      · exact ih h
      · rcases List.mem_cons.mp h with rfl | h
        · decide
        · exact ih h

/-- **A cleaned name holds safe characters only.** -/
theorem isSafe_safeName (h : c ∈ (safeName name).toList) : isSafe c = true := by
  unfold safeName at h
  dsimp only at h
  split at h
  · have hall : "unnamed".toList.all isSafe = true := by decide
    exact List.all_eq_true.mp hall c h
  · rw [String.toList_ofList] at h
    exact isSafe_replaceUnsafe (Text.mem_of_mem_trimList h)

theorem slash_not_mem_safeName : '/' ∉ (safeName name).toList := fun h =>
  absurd (isSafe_safeName h) (by decide)

theorem safeName_ne_empty : safeName name ≠ "" := by
  unfold safeName
  dsimp only
  split
  · decide
  · rename_i h
    simpa using h

/-- A name that is cleaned to neither a single dot nor two dots. -/
def PlainName (name : String) : Prop := safeName name ≠ "." ∧ safeName name ≠ ".."

instance (name : String) : Decidable (PlainName name) := inferInstanceAs (Decidable (_ ∧ _))

theorem isName_safeName (h : PlainName name) : IsName (safeName name) :=
  ⟨slash_not_mem_safeName, safeName_ne_empty, h.1, h.2⟩

theorem isName_safeName_iff : IsName (safeName name) ↔ PlainName name :=
  ⟨fun h => ⟨h.dot, h.up⟩, isName_safeName⟩

/-! ## What is left of a name -/

section

variable {l m : List Char} {inStretch : Bool}

/-- Whether nothing is left of a character at the ends of a name. -/
def isDropped (c : Char) : Bool := c == '_' || !isSafe c

theorem isSafe_of_not_dropped (h : isDropped c = false) : isSafe c = true := by
  simpa using (Bool.or_eq_false_iff.mp h).2

theorem replaceUnsafe_cons (h : isSafe c = true) (inStretch : Bool) (l : List Char) :
    replaceUnsafe inStretch (c :: l) = c :: replaceUnsafe false l := by
  rw [replaceUnsafe, if_pos h]

theorem exists_replaceUnsafe_append (inStretch : Bool) (l : List Char) :
    ∃ flag, ∀ l', replaceUnsafe inStretch (l ++ l') =
      replaceUnsafe inStretch l ++ replaceUnsafe flag l' := by
  induction l generalizing inStretch with
  | nil => exact ⟨inStretch, fun l' => rfl⟩
  | cons c l ih =>
    obtain ⟨flag, hflag⟩ := ih (!isSafe c)
    refine ⟨flag, fun l' => ?_⟩
    rw [List.cons_append, replaceUnsafe, replaceUnsafe]
    cases hs : isSafe c with
    | true =>
      rw [hs] at hflag
      rw [if_pos rfl, if_pos rfl, List.cons_append]
      exact congrArg (c :: ·) (hflag l')
    | false =>
      rw [hs] at hflag
      rw [if_neg Bool.false_ne_true, if_neg Bool.false_ne_true]
      split
      · exact hflag l'
      · exact congrArg ('_' :: ·) (hflag l')

/-- Of characters that are dropped only underscores are left. -/
theorem eq_underscore_of_dropped (h : ∀ c ∈ l, isDropped c = true)
    (hc : c ∈ replaceUnsafe inStretch l) : c = '_' := by
  induction l generalizing inStretch with
  | nil => cases hc
  | cons d l ih =>
    have hrest : ∀ c ∈ l, isDropped c = true := fun c hc => h c (List.mem_cons_of_mem d hc)
    rw [replaceUnsafe] at hc
    split at hc
    · rename_i hs
      have hd : d = '_' := by simpa [isDropped, hs] using h d List.mem_cons_self
      exact (List.mem_cons.mp hc).elim (·.trans hd) (ih hrest)
    · split at hc
      · exact ih hrest hc
      · exact (List.mem_cons.mp hc).elim id (ih hrest)

theorem ne_underscore_of_not_dropped (h : isDropped c = false) : (c == '_') = false :=
  (Bool.or_eq_false_iff.mp h).1

/-- **What stands around the rest of a name leaves nothing**, and the rest is cleaned for itself. -/
theorem trimList_replaceUnsafe (l : List Char) :
    Text.trimList (· == '_') (replaceUnsafe false l) =
      replaceUnsafe false (Text.trimList isDropped l) := by
  obtain ⟨u, v, hl, hu, hv, hhead, hlast⟩ := Text.exists_trimList isDropped l
  generalize Text.trimList isDropped l = m at hl hhead hlast
  obtain ⟨flag, hfront⟩ := exists_replaceUnsafe_append false u
  obtain ⟨flag', hback⟩ := exists_replaceUnsafe_append flag m
  have hm : replaceUnsafe flag m = replaceUnsafe false m := by
    cases m with
    | nil => rfl
    | cons c m =>
      have hc := isSafe_of_not_dropped (hhead c rfl)
      rw [replaceUnsafe_cons hc, replaceUnsafe_cons hc]
  rw [hl, hfront, hback, hm]
  refine Text.trimList_surrounded (fun c hc => beq_iff_eq.mpr (eq_underscore_of_dropped hu hc))
    (fun c hc => beq_iff_eq.mpr (eq_underscore_of_dropped hv hc)) (fun c hc => ?_) fun c hc => ?_
  · cases m with
    | nil => cases hc
    | cons d m =>
      rw [replaceUnsafe_cons (isSafe_of_not_dropped (hhead d rfl)), List.head?_cons] at hc
      obtain rfl := Option.some.inj hc
      exact ne_underscore_of_not_dropped (hhead _ rfl)
  · obtain rfl | ⟨m, d, rfl⟩ := List.eq_nil_or_concat' m
    · cases hc
    · have hd := hlast d List.getLast?_concat
      obtain ⟨flag'', hlast'⟩ := exists_replaceUnsafe_append false m
      rw [hlast', replaceUnsafe_cons (isSafe_of_not_dropped hd), replaceUnsafe,
        List.getLast?_concat] at hc
      obtain rfl := Option.some.inj hc
      exact ne_underscore_of_not_dropped hd

/-- Where nothing comes out that stands for something else, nothing was replaced. -/
theorem replaceUnsafe_eq_iff (hm : ∀ c ∈ m, isDropped c = false) :
    replaceUnsafe false l = m ↔ l = m := by
  induction l generalizing m with
  | nil => rfl
  | cons c l ih =>
    cases hs : isSafe c with
    | true =>
      rw [replaceUnsafe_cons hs]
      cases m with
      | nil => exact iff_of_false (List.cons_ne_nil _ _) (List.cons_ne_nil _ _)
      | cons d m =>
        rw [List.cons.injEq, List.cons.injEq, ih fun d' hd' => hm d' (List.mem_cons_of_mem d hd')]
    | false =>
      have hc : isDropped c = true := by rw [isDropped, hs, Bool.not_false, Bool.or_true]
      rw [replaceUnsafe, if_neg (by rw [hs]; exact Bool.false_ne_true), if_neg Bool.false_ne_true]
      refine iff_of_false ?_ ?_
      · rintro rfl
        exact absurd (hm '_' List.mem_cons_self) (by decide)
      · rintro rfl
        exact Bool.false_ne_true ((hm c List.mem_cons_self).symm.trans hc)

end

/-- What a name is cleaned to says what is left of it, where that needs no cleaning. -/
theorem safeName_eq_iff {s : String} (hs : ∀ c ∈ s.toList, isDropped c = false) (hne : s ≠ "")
    (hunnamed : s ≠ "unnamed") :
    safeName name = s ↔ Text.trimList isDropped name.toList = s.toList := by
  have hcleaned (s : String) (hs : ∀ c ∈ s.toList, isDropped c = false) :
      String.ofList (Text.trimList (· == '_') (replaceUnsafe false name.toList)) = s ↔
        Text.trimList isDropped name.toList = s.toList := by
    rw [← String.toList_inj, String.toList_ofList, trimList_replaceUnsafe, replaceUnsafe_eq_iff hs]
  unfold safeName
  dsimp only
  split
  · rename_i h
    rw [(hcleaned "" fun c hc => absurd hc List.not_mem_nil).mp (eq_of_beq h)]
    exact iff_of_false (Ne.symm hunnamed) fun he => hne (String.toList_inj.mp he).symm
  · exact hcleaned s hs

/-- **A name is plain unless one dot or two dots are all that is left of it.** -/
theorem plainName_iff : PlainName name ↔
    Text.trimList isDropped name.toList ≠ ['.'] ∧
      Text.trimList isDropped name.toList ≠ ['.', '.'] := by
  have hdot : isDropped '.' = false := by decide
  have hdots {s : String} {n : ℕ} (hs : s.toList = List.replicate n '.') :
      ∀ c ∈ s.toList, isDropped c = false := fun c hc =>
    (congrArg isDropped (List.eq_of_mem_replicate (hs ▸ hc))).trans hdot
  have hone : safeName name = "." ↔ Text.trimList isDropped name.toList = ['.'] :=
    safeName_eq_iff (hdots (n := 1) rfl) (by decide) (by decide)
  have htwo : safeName name = ".." ↔ Text.trimList isDropped name.toList = ['.', '.'] :=
    safeName_eq_iff (hdots (n := 2) rfl) (by decide) (by decide)
  exact and_congr hone.not htwo.not

theorem isDigit_twoDigits (h : c ∈ (twoDigits number).toList) : c.isDigit = true := by
  have hn : c ∈ (toString number).toList → c.isDigit = true := by
    rw [Nat.toString_eq_ofList_toDigits, String.toList_ofList]
    exact Nat.isDigit_of_mem_toDigits (by decide) (by decide)
  unfold twoDigits at h
  split at h
  · rw [String.toList_append] at h
    rcases List.mem_append.mp h with h | h
    · obtain rfl := List.mem_singleton.mp h
      rfl
    · exact hn h
  · exact hn h

/-! ## Files -/

theorem toList_fileName : (a.fileName number).toList =
    (twoDigits number).toList ++ '-' :: ((safeName a.name).toList ++ a.extension.toList) := by
  simp [Attachment.fileName, String.toList_append, List.append_assoc]

theorem slash_not_mem_extension : '/' ∉ a.extension.toList := by
  unfold Attachment.extension
  repeat' split
  all_goals decide

theorem hyphen_mem_fileName (a : Attachment) (number : Nat) :
    '-' ∈ (a.fileName number).toList := by
  rw [toList_fileName]
  exact List.mem_append_right _ List.mem_cons_self

/-- **The file of an attachment is one step below a directory.** -/
theorem isName_fileName : IsName (a.fileName number) where
  slash h := by
    rw [toList_fileName, List.mem_append, List.mem_cons, List.mem_append] at h
    rcases h with h | h | h | h
    · exact absurd (isDigit_twoDigits h) (by decide)
    · cases h
    · exact slash_not_mem_safeName h
    · exact slash_not_mem_extension h
  empty h := absurd (h ▸ hyphen_mem_fileName a number) (by decide)
  dot h := absurd (h ▸ hyphen_mem_fileName a number) (by decide)
  up h := absurd (h ▸ hyphen_mem_fileName a number) (by decide)

/-- The digits that a file name starts with. -/
theorem takeWhile_fileName :
    (a.fileName number).toList.takeWhile Char.isDigit = (twoDigits number).toList := by
  rw [toList_fileName, List.takeWhile_append_of_pos fun c => isDigit_twoDigits]
  simp

theorem ofDigitChars_twoDigits (number : Nat) :
    Nat.ofDigitChars 10 (twoDigits number).toList 0 = number := by
  have h : Nat.ofDigitChars 10 (toString number).toList 0 = number := by
    rw [Nat.toString_eq_ofList_toDigits, String.toList_ofList]
    exact Nat.ofDigitChars_ten_toDigits
  unfold twoDigits
  split
  · rw [String.toList_append]
    exact h
  · exact h

/-- **Files of attachments with different numbers have different names.** -/
theorem number_of_fileName {b : Attachment} {n : Nat} (h : a.fileName number = b.fileName n) :
    number = n := by
  have h := congrArg (fun s => Nat.ofDigitChars 10 (s.toList.takeWhile Char.isDigit) 0) h
  simpa only [takeWhile_fileName, ofDigitChars_twoDigits] using h

/-- A name that starts with no digit is not that of an attachment's file. -/
theorem fileName_ne {s : String} (h : s.toList.takeWhile Char.isDigit = []) :
    a.fileName number ≠ s := by
  rintro rfl
  rw [takeWhile_fileName] at h
  have hn := ofDigitChars_twoDigits number
  unfold twoDigits at h
  split at h
  · simp at h
  · rename_i hlt
    rw [twoDigits, if_neg hlt, h] at hn
    exact hlt (by rw [← hn]; decide)

end SuiteEngine.Report
