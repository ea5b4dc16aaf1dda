import Mathlib.Data.List.Dedup
import SuiteEngine.Browser.Session
import SuiteEngine.Proofs.Document.Filled

/-!
# Options under the browser's names

A suite names options in camel case, the browser in small letters with underscores between the words.
The change of names can be undone: an underscore stands where a capital letter was, as long as the name
had no underscore of its own. So names in camel case stay apart, and options under such names reach the
browser one for one, in their order and with their values. A name that is the browser's already stays as
it is.

Options whose names come to the same one are a single option for the browser, with the value of the last
of them. There is no other way in which an option gets lost.

Headlines:
* `optionName_idempotent`, `browserOptions_idempotent`: the browser's names stay as they are.
* `joinedWords_spelled`, `optionName_inj`: names in camel case can be told from the browser's.
* `OptionWords.optionName_camelCase`, `OptionWords.optionName_snakeCase`: both spellings of some
  words lead to the browser's.
* `lookup_browserOptions`, `length_browserOptions_eq_iff`: what the browser is given in general.
* **`options_kept`**: no option under a name in camel case is lost.
-/

namespace SuiteEngine

/-! ## Small letters in ASCII -/

namespace Text

variable {c : Char} {cs : List Char} {s : String}

/-- What holds of the first 128 characters holds of all of ASCII. -/
theorem of_isAscii (p : Char → Prop) (h : ∀ n < 128, p (Char.ofNat n)) (hc : isAscii c = true) :
    p c := by
  have hp := h c.toNat (of_decide_eq_true hc)
  rwa [Char.ofNat_toNat] at hp

theorem isAscii_toLower (h : isAscii c = true) : isAscii c.toLower = true :=
  of_isAscii (fun c => isAscii c.toLower = true) (by decide) h

/-- In ASCII each character has its small letter, whatever stands around it. -/
theorem lowerList_ascii (before : List Char) (h : ∀ c ∈ cs, isAscii c = true) :
    lowerList before cs = cs.map Char.toLower := by
  induction cs generalizing before with
  | nil => rfl
  | cons c cs ih =>
    obtain ⟨hc, hcs⟩ := List.forall_mem_cons.mp h
    have hsigma : c ≠ 'Σ' := by rintro rfl; exact absurd hc (by decide)
    have hdotted : c ≠ 'İ' := by rintro rfl; exact absurd hc (by decide)
    have hlower : lowerChar c = c.toLower := if_pos (of_decide_eq_true hc)
    simp [lowerList, hsigma, hdotted, hlower, ih (c :: before) hcs]

theorem toList_lower (h : ∀ c ∈ s.toList, isAscii c = true) :
    (lower s).toList = s.toList.map Char.toLower := by
  rw [lower, String.toList_ofList, lowerList_ascii [] h]

end Text

namespace Browser

open Host (Options)

variable {c : Char} {cs : List Char} {name a b : String} {o : Options}

/-! ## The browser's name -/

/-- What the browser's name has for a character of a name, the first one apart. -/
def spelled (c : Char) : List Char := if isCapital c then ['_', c.toLower] else [c]

theorem spelled_of_capital (h : isCapital c = true) : spelled c = ['_', c.toLower] := if_pos h

theorem spelled_of_not_capital (h : isCapital c = false) : spelled c = [c] :=
  if_neg (by rw [h]; exact Bool.false_ne_true)

theorem flatMap_spelled_self (h : ∀ c ∈ cs, isCapital c = false) : cs.flatMap spelled = cs := by
  rw [List.flatMap_congr fun c hc => spelled_of_not_capital (h c hc), List.flatMap_singleton']

theorem toLower_of_not_capital (ha : Text.isAscii c = true) : isCapital c = false → c.toLower = c :=
  Text.of_isAscii (fun c => isCapital c = false → c.toLower = c) (by decide) ha

theorem not_capital_toLower (ha : Text.isAscii c = true) : isCapital c.toLower = false :=
  Text.of_isAscii (fun c => isCapital c.toLower = false) (by decide) ha

theorem toUpper_toLower (ha : Text.isAscii c = true) : isCapital c = true → c.toLower.toUpper = c :=
  Text.of_isAscii (fun c => isCapital c = true → c.toLower.toUpper = c) (by decide) ha

/-- The name consists of ASCII characters. -/
def IsAsciiName (name : String) : Prop := ∀ c ∈ name.toList, Text.isAscii c = true

instance : DecidablePred IsAsciiName := fun name =>
  List.decidableBAll (fun c => Text.isAscii c = true) name.toList

theorem isAscii_splitWords (h : ∀ c ∈ cs, Text.isAscii c = true) :
    ∀ c ∈ splitWords cs, Text.isAscii c = true := by
  induction cs with
  | nil => exact h
  | cons c cs ih =>
    obtain ⟨hc, hcs⟩ := List.forall_mem_cons.mp h
    unfold splitWords
    split
    · simpa [hc] using ⟨by decide, ih hcs⟩
    · simpa [hc] using ih hcs

theorem splitWords_toLower (h : ∀ c ∈ cs, Text.isAscii c = true) :
    (splitWords cs).map Char.toLower = cs.flatMap spelled := by
  induction cs with
  | nil => rfl
  | cons c cs ih =>
    obtain ⟨hc, hcs⟩ := List.forall_mem_cons.mp h
    cases hcap : isCapital c with
    | true => simp [splitWords, hcap, spelled_of_capital hcap, ih hcs]
    | false =>
      simp [splitWords, hcap, spelled_of_not_capital hcap, toLower_of_not_capital hc hcap, ih hcs]

/-- The browser's name, character by character. -/
theorem toList_optionName (hn : name.toList = c :: cs) (ha : IsAsciiName name) :
    (optionName name).toList = c.toLower :: cs.flatMap spelled := by
  unfold IsAsciiName at ha
  rw [hn] at ha
  obtain ⟨hc, hcs⟩ := List.forall_mem_cons.mp ha
  have hsplit : ∀ d ∈ (String.ofList (c :: splitWords cs)).toList, Text.isAscii d = true := by
    rw [String.toList_ofList]
    exact List.forall_mem_cons.mpr ⟨hc, isAscii_splitWords hcs⟩
  unfold optionName
  rw [hn]
  dsimp only
  rw [Text.toList_lower hsplit, String.toList_ofList, List.map_cons, splitWords_toLower hcs]

theorem optionName_of_nil (hn : name.toList = []) : optionName name = name := by
  unfold optionName
  rw [hn]
  exact (String.toList_eq_nil_iff.mp hn).symm

/-- A name without capital letters is the browser's. -/
theorem optionName_eq_self (ha : IsAsciiName name) (h : ∀ c ∈ name.toList, isCapital c = false) :
    optionName name = name := by
  cases hn : name.toList with
  | nil => exact optionName_of_nil hn
  | cons c cs =>
    have hc : c ∈ name.toList := hn ▸ List.mem_cons_self
    have hcs : cs.flatMap spelled = cs :=
      flatMap_spelled_self fun d hd => h d (hn ▸ List.mem_cons_of_mem c hd)
    rw [← String.toList_inj, toList_optionName hn ha, hcs, hn, toLower_of_not_capital (ha c hc) (h c hc)]

/-- The browser's name of a name in ASCII is in ASCII and has no capital letters. -/
theorem mem_optionName (ha : IsAsciiName name) :
    ∀ c ∈ (optionName name).toList, Text.isAscii c = true ∧ isCapital c = false := by
  cases hn : name.toList with
  | nil =>
    rw [optionName_of_nil hn, hn]
    exact fun c hc => absurd hc List.not_mem_nil
  | cons c cs =>
    have hlower : ∀ d ∈ c :: cs, Text.isAscii d.toLower = true ∧ isCapital d.toLower = false :=
      fun d hd => ⟨Text.isAscii_toLower (ha d (hn ▸ hd)), not_capital_toLower (ha d (hn ▸ hd))⟩
    rw [toList_optionName hn ha]
    refine List.forall_mem_cons.mpr ⟨hlower c List.mem_cons_self, fun e he => ?_⟩
    obtain ⟨d, hd, he⟩ := List.mem_flatMap.mp he
    have hd : d ∈ c :: cs := List.mem_cons_of_mem c hd
    cases hcap : isCapital d with
    | true =>
      rw [spelled_of_capital hcap] at he
      rcases List.mem_pair.mp he with rfl | rfl
      · decide
      · exact hlower d hd
    | false =>
      rw [spelled_of_not_capital hcap, List.mem_singleton] at he
      exact he ▸ ⟨ha d (hn ▸ hd), hcap⟩

theorem isAsciiName_optionName (ha : IsAsciiName name) : IsAsciiName (optionName name) :=
  fun c hc => (mem_optionName ha c hc).1

/-- **The browser's names stay as they are.** -/
theorem optionName_idempotent (ha : IsAsciiName name) :
    optionName (optionName name) = optionName name :=
  optionName_eq_self (isAsciiName_optionName ha) fun c hc => (mem_optionName ha c hc).2

/-! ## Names in camel case -/

/-- Whether a character is a small letter or a digit. -/
def isPlain (c : Char) : Bool := c.isLower || c.isDigit

theorem isAscii_of_isPlain (h : isPlain c = true) : Text.isAscii c = true := by
  have hbelow : ∀ d : Char, Text.isAscii d = true → c.val ≤ d.val → Text.isAscii c = true :=
    fun d hd hle =>
      decide_eq_true (Nat.lt_of_le_of_lt (UInt32.le_iff_toNat_le.mp hle) (of_decide_eq_true hd))
  rcases (Bool.or_eq_true _ _).mp h with hlower | hdigit
  · exact hbelow 'z' rfl (of_decide_eq_true (Bool.and_eq_true_iff.mp hlower).2)
  · exact hbelow '9' rfl (of_decide_eq_true (Bool.and_eq_true_iff.mp hdigit).2)

theorem isPlain_spec (h : isPlain c = true) : isCapital c = false ∧ c ≠ '_' :=
  Text.of_isAscii (fun c => isPlain c = true → isCapital c = false ∧ c ≠ '_') (by decide)
    (isAscii_of_isPlain h) h

theorem isPlain_of_isLower (h : c.isLower = true) : isPlain c = true := by
  rw [isPlain, h, Bool.true_or]

/-- A name in camel case: in ASCII, from a small letter on, without underscores. -/
structure IsCamelName (name : String) : Prop where
  isAsciiName : IsAsciiName name
  begins : name.toList.head?.any Char.isLower = true
  undivided : '_' ∉ name.toList

instance : DecidablePred IsCamelName := fun name =>
  decidable_of_iff (IsAsciiName name ∧ name.toList.head?.any Char.isLower = true ∧ '_' ∉ name.toList)
    ⟨fun ⟨ha, hb, hu⟩ => ⟨ha, hb, hu⟩, fun ⟨ha, hb, hu⟩ => ⟨ha, hb, hu⟩⟩

/-- The first character of a name in camel case stays as it is. -/
theorem IsCamelName.exists_optionName (h : IsCamelName name) : ∃ c cs, name.toList = c :: cs ∧
    (optionName name).toList = c :: cs.flatMap spelled := by
  have hbegins := h.begins
  cases hn : name.toList with
  | nil =>
    rw [hn] at hbegins
    cases hbegins
  | cons c cs =>
    rw [hn] at hbegins
    have hplain : isPlain c = true := isPlain_of_isLower hbegins
    have hlower : c.toLower = c :=
      toLower_of_not_capital (isAscii_of_isPlain hplain) (isPlain_spec hplain).1
    exact ⟨c, cs, rfl, hlower ▸ toList_optionName hn h.isAsciiName⟩

/-- Puts a capital letter for each underscore and the letter after it. -/
def joinedWords : List Char → List Char
  | [] => []
  | '_' :: c :: rest => c.toUpper :: joinedWords rest
  | c :: rest => c :: joinedWords rest

/-- **The words of a name can be told from the browser's**, if it has no underscores of its own. -/
theorem joinedWords_spelled (ha : ∀ c ∈ cs, Text.isAscii c = true) (hu : '_' ∉ cs) :
    joinedWords (cs.flatMap spelled) = cs := by
  induction cs with
  | nil => rfl
  | cons c cs ih =>
    obtain ⟨hc, hcs⟩ := List.forall_mem_cons.mp ha
    obtain ⟨hne, hu⟩ := not_or.mp (mt List.mem_cons.mpr hu)
    rw [List.flatMap_cons]
    -- `c` is no underscore itself, so that one in its place comes from a capital letter.
    cases hcap : isCapital c with
    | true =>
      rw [spelled_of_capital hcap]
      simp [joinedWords, toUpper_toLower hc hcap, ih hcs hu]
    | false =>
      rw [spelled_of_not_capital hcap]
      simp [joinedWords, Ne.symm hne, ih hcs hu]

theorem IsCamelName.joinedWords_tail (h : IsCamelName name) (hn : name.toList = c :: cs) :
    joinedWords (cs.flatMap spelled) = cs :=
  joinedWords_spelled (fun d hd => h.isAsciiName d (hn ▸ List.mem_cons_of_mem c hd))
    fun hm => h.undivided (hn ▸ List.mem_cons_of_mem c hm)

/-- **Names in camel case stay apart.** -/
theorem optionName_inj (ha : IsCamelName a) (hb : IsCamelName b) (h : optionName a = optionName b) :
    a = b := by
  obtain ⟨c, cs, hac, hname⟩ := ha.exists_optionName
  obtain ⟨d, ds, hbd, hname'⟩ := hb.exists_optionName
  rw [h, hname'] at hname
  obtain ⟨rfl, htail⟩ := List.cons.inj hname
  have htails : cs = ds := by rw [← ha.joinedWords_tail hac, ← hb.joinedWords_tail hbd, htail]
  rw [← String.toList_inj, hac, hbd, htails]

/-! ## Names made of words -/

/-- A word of an option's name: a small letter, then small letters and digits. -/
structure OptionWord where
  letter : Char
  rest : List Char
  isLower_letter : letter.isLower = true
  isPlain_rest : rest.all isPlain = true

namespace OptionWord

/-- The word in small letters. -/
def small (w : OptionWord) : List Char := w.letter :: w.rest

/-- The word with a capital letter. -/
def capitalised (w : OptionWord) : List Char := w.letter.toUpper :: w.rest

theorem isPlain_of_mem_rest (w : OptionWord) : ∀ c ∈ w.rest, isPlain c = true :=
  List.all_eq_true.mp w.isPlain_rest

theorem isPlain_small (w : OptionWord) : ∀ c ∈ w.small, isPlain c = true :=
  List.forall_mem_cons.mpr ⟨isPlain_of_isLower w.isLower_letter, w.isPlain_of_mem_rest⟩

theorem toUpper_letter (w : OptionWord) : Text.isAscii w.letter.toUpper = true ∧
    isCapital w.letter.toUpper = true ∧ w.letter.toUpper ≠ '_' ∧ w.letter.toUpper.toLower = w.letter :=
  Text.of_isAscii (fun c => c.isLower = true → Text.isAscii c.toUpper = true ∧
      isCapital c.toUpper = true ∧ c.toUpper ≠ '_' ∧ c.toUpper.toLower = c) (by decide)
    (isAscii_of_isPlain (isPlain_of_isLower w.isLower_letter)) w.isLower_letter

theorem mem_capitalised (w : OptionWord) :
    ∀ c ∈ w.capitalised, Text.isAscii c = true ∧ c ≠ '_' := by
  obtain ⟨ha, -, hu, -⟩ := w.toUpper_letter
  exact List.forall_mem_cons.mpr ⟨⟨ha, hu⟩, fun c hc =>
    ⟨isAscii_of_isPlain (w.isPlain_of_mem_rest c hc), (isPlain_spec (w.isPlain_of_mem_rest c hc)).2⟩⟩

theorem spelled_rest (w : OptionWord) : w.rest.flatMap spelled = w.rest :=
  flatMap_spelled_self fun c hc => (isPlain_spec (w.isPlain_of_mem_rest c hc)).1

/-- A word with a capital letter is set off by an underscore. -/
theorem spelled_capitalised (w : OptionWord) : w.capitalised.flatMap spelled = '_' :: w.small := by
  obtain ⟨-, hcap, -, hlower⟩ := w.toUpper_letter
  unfold capitalised small
  rw [List.flatMap_cons, spelled_of_capital hcap, hlower, w.spelled_rest]
  rfl

end OptionWord

/-- The words of an option's name. -/
structure OptionWords where
  first : OptionWord
  others : List OptionWord

namespace OptionWords

/-- The words in small letters, with single underscores between them. -/
def snakeCase (n : OptionWords) : String :=
  String.ofList (['_'].intercalate ((n.first :: n.others).map OptionWord.small))

/-- The words in a row, each after the first with a capital letter. -/
def camelCase (n : OptionWords) : String :=
  String.ofList (n.first.small ++ n.others.flatMap OptionWord.capitalised)

theorem intercalate_small (w : OptionWord) (ws : List OptionWord) :
    ['_'].intercalate ((w :: ws).map OptionWord.small) =
      w.small ++ ws.flatMap fun v => '_' :: v.small := by
  induction ws generalizing w with
  | nil => simp
  | cons v ws ih =>
    rw [List.map_cons, List.map_cons, List.intercalate_cons_cons, ← List.map_cons, ih v]
    simp

theorem toList_snakeCase (n : OptionWords) :
    n.snakeCase.toList = n.first.small ++ n.others.flatMap fun w => '_' :: w.small := by
  rw [snakeCase, String.toList_ofList, intercalate_small]

theorem toList_camelCase (n : OptionWords) :
    n.camelCase.toList = n.first.small ++ n.others.flatMap OptionWord.capitalised :=
  String.toList_ofList

theorem mem_snakeCase (n : OptionWords) : ∀ c ∈ n.snakeCase.toList, c = '_' ∨ isPlain c = true := by
  rw [toList_snakeCase]
  refine List.forall_mem_append.mpr ⟨fun c hc => .inr (n.first.isPlain_small c hc), fun c hc => ?_⟩
  obtain ⟨w, -, hw⟩ := List.mem_flatMap.mp hc
  exact (List.mem_cons.mp hw).imp_right (w.isPlain_small c)

theorem isCamelName_camelCase (n : OptionWords) : IsCamelName n.camelCase := by
  have hmem : ∀ c ∈ n.camelCase.toList, Text.isAscii c = true ∧ c ≠ '_' := by
    rw [toList_camelCase]
    refine List.forall_mem_append.mpr ⟨fun c hc => ?_, fun c hc => ?_⟩
    · have hplain := n.first.isPlain_small c hc
      exact ⟨isAscii_of_isPlain hplain, (isPlain_spec hplain).2⟩
    · obtain ⟨w, -, hw⟩ := List.mem_flatMap.mp hc
      exact w.mem_capitalised c hw
  refine ⟨fun c hc => (hmem c hc).1, ?_, fun hu => (hmem '_' hu).2 rfl⟩
  rw [toList_camelCase]
  exact n.first.isLower_letter

/-- **The camel case of words** leads to the browser's spelling of them. -/
theorem optionName_camelCase (n : OptionWords) : optionName n.camelCase = n.snakeCase := by
  obtain ⟨c, cs, hn, hname⟩ := n.isCamelName_camelCase.exists_optionName
  obtain ⟨rfl, rfl⟩ := List.cons.inj (n.toList_camelCase.symm.trans hn)
  rw [← String.toList_inj, hname, toList_snakeCase]
  change n.first.letter :: (n.first.rest ++ n.others.flatMap OptionWord.capitalised).flatMap spelled = _
  rw [List.flatMap_append, n.first.spelled_rest, List.flatMap_assoc,
    List.flatMap_congr fun w _ => w.spelled_capitalised]
  rfl

/-- **The browser's spelling of words** leads to itself. -/
theorem optionName_snakeCase (n : OptionWords) : optionName n.snakeCase = n.snakeCase := by
  refine optionName_eq_self (fun c hc => ?_) fun c hc => ?_
  · rcases n.mem_snakeCase c hc with rfl | h
    · rfl
    · exact isAscii_of_isPlain h
  · rcases n.mem_snakeCase c hc with rfl | h
    · rfl
    · exact (isPlain_spec h).1

end OptionWords

/-! ## Options -/

theorem setOption_eq_insert (o : Options) (k : String) (v : Value) :
    setOption o k v = Value.insert k v o := by
  induction o with
  | nil => rfl
  | cons e o ih =>
    obtain ⟨k', v'⟩ := e
    rw [setOption, Value.insert, ih]
    split
    · rename_i hk
      rw [hk]
    · rfl

/-- One more option is bound under the browser's name. -/
theorem browserOptions_append (o : Options) (e : String × Value) :
    browserOptions (o ++ [e]) = Value.insert (optionName e.1) e.2 (browserOptions o) := by
  unfold browserOptions
  rw [List.foldl_append, List.foldl_cons, List.foldl_nil]
  exact setOption_eq_insert _ _ _

theorem nodup_browserOptions (o : Options) : ((browserOptions o).map Prod.fst).Nodup := by
  -- Options are bound one after the other: the induction takes off the last.
  induction o using List.reverseRecOn with
  | nil => exact List.nodup_nil
  | append_singleton o e ih =>
    rw [browserOptions_append]
    exact Value.nodup_keys_insert ih

theorem mem_keys_browserOptions :
    name ∈ (browserOptions o).map Prod.fst ↔ name ∈ o.map fun e => optionName e.1 := by
  induction o using List.reverseRecOn with
  | nil => rfl
  | append_singleton o e ih =>
    rw [browserOptions_append, Value.keys_insert, List.map_append, List.mem_append, ← ih]
    by_cases hk : optionName e.1 ∈ (browserOptions o).map Prod.fst
    · rw [if_pos hk]
      constructor
      · exact .inl
      · rintro (h | h)
        · exact h
        · rwa [List.mem_singleton.mp h]
    · rw [if_neg hk, List.mem_append]
      rfl

/-- The value of a name is that of the last option that comes to it. -/
theorem lookup_browserOptions (o : Options) (name : String) :
    Value.lookup name (browserOptions o) =
      Value.lookup name (o.reverse.map fun e => (optionName e.1, e.2)) := by
  induction o using List.reverseRecOn with
  | nil => rfl
  | append_singleton o e ih =>
    rw [browserOptions_append, Value.lookup_insert, ih, List.reverse_append]
    rfl

/-- Options whose names stay apart are passed on one for one. -/
theorem browserOptions_eq_map (h : (o.map fun e => optionName e.1).Nodup) :
    browserOptions o = o.map fun e => (optionName e.1, e.2) := by
  induction o using List.reverseRecOn with
  | nil => rfl
  | append_singleton o e ih =>
    rw [List.map_append, List.nodup_append] at h
    obtain ⟨ho, -, hnew⟩ := h
    have hkey : optionName e.1 ∉ (browserOptions o).map Prod.fst := fun hm =>
      hnew _ (mem_keys_browserOptions.mp hm) _ List.mem_cons_self rfl
    rw [browserOptions_append, Value.insert_new hkey, ih ho, List.map_append]
    rfl

/-- **An option is lost only where two names come to one.** -/
theorem length_browserOptions_eq_iff :
    (browserOptions o).length = o.length ↔ (o.map fun e => optionName e.1).Nodup := by
  have hperm : ((browserOptions o).map Prod.fst).Perm (o.map fun e => optionName e.1).dedup :=
    (List.perm_ext_iff_of_nodup (nodup_browserOptions o) (List.nodup_dedup _)).mpr fun name => by
      rw [mem_keys_browserOptions, List.mem_dedup]
  have hlength : (browserOptions o).length = (o.map fun e => optionName e.1).dedup.length := by
    rw [← hperm.length_eq, List.length_map]
  rw [hlength]
  constructor
  · intro h
    have hsame := (List.dedup_sublist (o.map fun e => optionName e.1)).eq_of_length
      (by rw [h, List.length_map])
    exact List.dedup_eq_self.mp hsame
  · intro h
    rw [h.dedup, List.length_map]

/-- Both spellings of a name are one option. -/
example : browserOptions [("waitUntil", .str "load"), ("wait_until", .str "commit")] =
    [("wait_until", .str "commit")] := rfl

/-- **Options under the browser's names stay as they are.** -/
theorem browserOptions_idempotent (h : ∀ e ∈ o, IsAsciiName e.1) :
    browserOptions (browserOptions o) = browserOptions o := by
  have hself : ∀ e ∈ browserOptions o, optionName e.1 = e.1 := by
    intro e he
    obtain ⟨d, hd, hde⟩ := List.mem_map.mp (mem_keys_browserOptions.mp (List.mem_map_of_mem he))
    rw [← hde, optionName_idempotent (h d hd)]
  have hnodup : ((browserOptions o).map fun e => optionName e.1).Nodup := by
    rw [List.map_congr_left hself]
    exact nodup_browserOptions o
  calc browserOptions (browserOptions o)
      = (browserOptions o).map fun e => (optionName e.1, e.2) := browserOptions_eq_map hnodup
    _ = (browserOptions o).map id := List.map_congr_left fun e he => Prod.ext (hself e he) rfl
    _ = browserOptions o := List.map_id _

theorem nodup_optionName (h : (o.map Prod.fst).Nodup) (hc : ∀ e ∈ o, IsCamelName e.1) :
    (o.map fun e => optionName e.1).Nodup := by
  have hcamel : ∀ k ∈ o.map Prod.fst, IsCamelName k := List.forall_mem_map.mpr hc
  have hnames : o.map (fun e => optionName e.1) = (o.map Prod.fst).map optionName := by
    rw [List.map_map]
    rfl
  rw [hnames]
  exact h.map_on fun k hk k' hk' he => optionName_inj (hcamel k hk) (hcamel k' hk') he

/-- **No option under a name in camel case is lost.** Both spellings of a name lead to the browser's, and
the browser's names stay as they are. Options under distinct names in camel case keep distinct names
and are passed on one for one, in their order and with their values. -/
theorem options_kept :
    (∀ n : OptionWords, optionName n.camelCase = n.snakeCase ∧ optionName n.snakeCase = n.snakeCase ∧
      ∀ v, browserOptions [(n.camelCase, v)] = [(n.snakeCase, v)] ∧
        browserOptions [(n.snakeCase, v)] = [(n.snakeCase, v)]) ∧
    (∀ name, IsAsciiName name → optionName (optionName name) = optionName name) ∧
    (∀ o : Options, (∀ e ∈ o, IsAsciiName e.1) →
      browserOptions (browserOptions o) = browserOptions o) ∧
    ∀ o : Options, (o.map Prod.fst).Nodup → (∀ e ∈ o, IsCamelName e.1) →
      (o.map fun e => optionName e.1).Nodup ∧
        browserOptions o = o.map fun e => (optionName e.1, e.2) := by
  refine ⟨fun n => ⟨n.optionName_camelCase, n.optionName_snakeCase, fun v => ⟨?_, ?_⟩⟩,
    fun name => optionName_idempotent, fun o => browserOptions_idempotent, fun o hd hc => ?_⟩
  · rw [← n.optionName_camelCase]
    rfl
  · exact congrArg (fun name => [(name, v)]) n.optionName_snakeCase
  · have hnodup := nodup_optionName hd hc
    exact ⟨hnodup, browserOptions_eq_map hnodup⟩

/-- Words with a digit and of a single letter. -/
def spread : OptionWords :=
  { first := ⟨'m', "ax".toList, by decide, by decide⟩
    others := [⟨'x', "2".toList, by decide, by decide⟩, ⟨'y', [], by decide, by decide⟩,
      ⟨'z', [], by decide, by decide⟩] }

/-- Capital letters in a row begin a word each, so that names which differ in the case of one letter
stay apart. -/
theorem options_kept_spread :
    optionName "maxX2YZ" = "max_x2_y_z" ∧
      (IsAsciiName "HTTPVersion_2" ∧
        optionName (optionName "HTTPVersion_2") = optionName "HTTPVersion_2") ∧
      browserOptions (browserOptions [("aB", .int 1), ("a_b", .int 2)]) =
        browserOptions [("aB", .int 1), ("a_b", .int 2)] ∧
      IsCamelName "aBC" ∧
      browserOptions [("waitUntil", .str "load"), ("timeout", .int 500), ("aBC", .int 1), ("aBc", .int 2)] =
        [("wait_until", .str "load"), ("timeout", .int 500), ("a_b_c", .int 1), ("a_bc", .int 2)] := by
  obtain ⟨hnames, hagain, hoptions, hkept⟩ := options_kept
  have hascii : ∀ k ∈ ["HTTPVersion_2", "aB", "a_b"], IsAsciiName k := by decide
  have hcamel : ∀ k ∈ ["waitUntil", "timeout", "aBC", "aBc"], IsCamelName k := by decide
  refine ⟨(hnames spread).1, ⟨hascii _ (by decide), hagain _ (hascii _ (by decide))⟩,
    hoptions _ fun e he => ?_, hcamel _ (by decide), ?_⟩
  · exact hascii e.1 (List.mem_cons_of_mem _ (List.mem_map_of_mem he))
  · exact (hkept _ (by decide) fun e he => hcamel e.1 (List.mem_map_of_mem he)).2

end Browser

end SuiteEngine
