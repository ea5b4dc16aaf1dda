import SuiteEngine.Proofs.Json.Numbers

/-!
# Printed values are JSON text

What is printed on one line is JSON text for the value, so the reader gets the value back. The value
has to be one that JSON has a form for: its parts are `IsPrintablePart`. Entries after the first stand
behind a blank; what holds of the text of every entry holds of it with the blank too.

Headlines:
* `stringText_string`: strings.
* `spacedItems`, `spacedMembers`: the entries of a line with their texts.
* **`written_render`**: printed values are JSON text, **`parse_render`**: and are read back.
-/

namespace SuiteEngine.Json

/-! ## Strings -/

theorem hex_control : ∀ n < 32, hexValue? (Text.hex 4 n).toList = some n ∧
    (Text.hex 4 n).toList.length = 4 := by
  decide

theorem charOf_toNat (c : Char) : charOf c.toNat = c := by
  have hv : c.toNat.isValidChar := c.valid
  unfold charOf
  rw [if_pos hv, Char.ofNat_toNat]

/-- A control character has an escape by its number. -/
theorem charText_control {c : Char} (hc : c.toNat < 32) :
    CharText ("\\u" ++ Text.hex 4 c.toNat).toList c := by
  obtain ⟨hv, hl⟩ := hex_control c.toNat hc
  have hn : c.toNat < 0xD800 ∨ 0xE000 ≤ c.toNat := .inl (by omega)
  rw [String.toList_append]
  generalize (Text.hex 4 c.toNat).toList = digits at hv hl
  match digits, hv, hl with
  | [a, b, d, e], hv, _ =>
    have h := CharText.unicode hv hn
    rw [charOf_toNat] at h
    exact h

theorem charText_of_beq {c d e : Char} (h : (c == d) = true) (he : escapeChar? e = some d) :
    CharText ['\\', e] c := by
  rw [eq_of_beq h]
  exact CharText.escape he

/-- What is printed for a character stands for it. -/
theorem charText_stringChar (c : Char) : CharText (stringChar c).toList c := by
  unfold stringChar
  split
  · rename_i h
    exact charText_of_beq h rfl
  rename_i hq
  split
  · rename_i h
    exact charText_of_beq h rfl
  rename_i hb
  split
  · rename_i h
    exact charText_of_beq h rfl
  split
  · rename_i h
    exact charText_of_beq h rfl
  split
  · rename_i h
    exact charText_of_beq h rfl
  split
  · rename_i h
    exact charText_of_beq h rfl
  split
  · rename_i h
    exact charText_of_beq h rfl
  split
  · rename_i h
    exact charText_control h
  · rename_i h
    rw [String.toList_ofList]
    exact CharText.plain (by simpa using hq) (by simpa using hb) (by omega)

theorem charsText_join (cs : List Char) :
    CharsText (String.join (cs.map stringChar)).toList cs := by
  induction cs with
  | nil => exact CharsText.nil
  | cons c cs ih =>
    have hj : String.join ((c :: cs).map stringChar) =
        stringChar c ++ String.join (cs.map stringChar) := by
      simp [String.join_cons]
    rw [hj, String.toList_append]
    exact CharsText.cons (charText_stringChar c) ih

/-- A printed string is a string. -/
theorem stringText_string (s : String) : StringText (string s).toList s := by
  have h := StringText.quoted (charsText_join s.toList)
  rw [String.ofList_toList] at h
  unfold string
  rw [String.toList_append, String.toList_append]
  exact h

/-! ## Values -/

/-- What the parts of a value have to be for it to be printed as JSON. -/
def IsPrintablePart : Value → Prop
  | .missing => False
  | .bytes _ => False
  | .tuple _ => False
  | .int n => intFits n = true
  | .float x => x.isNaN = false ∧ x.isInf = false ∧ parse (floatText x) = .ok (.float x)
  | .obj fs => (fs.map Prod.fst).Nodup
  | _ => True

/-- The entries of a line after the first stand after a blank. -/
def spaced : List (List Char) → List (List Char)
  | [] => []
  | t :: ts => t :: ts.map (' ' :: ·)

theorem separated_head (c : Char) (t : List Char) (ts : List (List Char)) :
    separated ((c :: t) :: ts) = c :: separated (t :: ts) := by
  cases ts with
  | nil => rfl
  | cons u us => rfl

theorem intercalate_spaced (ts : List (List Char)) :
    [',', ' '].intercalate ts = separated (spaced ts) := by
  induction ts with
  | nil => rfl
  | cons t ts ih =>
    cases ts with
    | nil =>
      rw [List.intercalate_singleton]
      rfl
    | cons u us =>
      have hs : separated (spaced (t :: u :: us)) =
          t ++ ',' :: separated ((' ' :: u) :: us.map (' ' :: ·)) := rfl
      rw [List.intercalate_cons_cons, ih, hs, separated_head, List.append_assoc]
      rfl

/-- A line of entries: a comma and a blank between every two of them. -/
theorem enclose_line (depth : Nat) (opening closing : String) (entries : List String) :
    (Layout.line.enclose depth opening closing entries).toList =
      opening.toList ++ (separated (spaced (entries.map String.toList)) ++ closing.toList) := by
  unfold Layout.enclose
  by_cases he : entries.isEmpty = true
  · rw [if_pos he, String.toList_append, List.isEmpty_iff.mp he]
    rfl
  · have hs : ", ".toList = [',', ' '] := rfl
    rw [if_neg he, ← intercalate_spaced, ← hs, ← String.toList_intercalate]
    simp only [Layout.break, Layout.line, Option.isSome_none, Bool.false_eq_true, if_false,
      String.toList_append, String.append_empty, List.append_assoc]

theorem renderItems_eq (layout : Layout) (depth : Nat) (xs : List Value) :
    renderItems layout depth xs = xs.map (renderAt layout depth) := by
  induction xs with
  | nil => rfl
  | cons x xs ih => rw [renderItems, ih, List.map_cons]

theorem renderFields_eq (layout : Layout) (depth : Nat) (fs : List (String × Value)) :
    renderFields layout depth fs = fs.map fun f => (f.1, renderAt layout depth f.2) := by
  induction fs with
  | nil => rfl
  | cons f fs ih =>
    obtain ⟨k, v⟩ := f
    rw [renderFields, ih, List.map_cons]

/-- The text of an array on a line. -/
theorem renderAt_list (depth : Nat) (xs : List Value) :
    (renderAt .line depth (.list xs)).toList =
      '[' :: (separated (spaced (xs.map fun x => (renderAt .line (depth + 1) x).toList)) ++ [']']) := by
  rw [renderAt, renderItems_eq, enclose_line, List.map_map]
  rfl

/-- The text of an object on a line. -/
theorem renderAt_obj (depth : Nat) (fs : List (String × Value)) :
    (renderAt .line depth (.obj fs)).toList =
      '\x7b' :: (separated (spaced (fs.map fun f =>
        (string f.1).toList ++ ':' :: ' ' :: (renderAt .line (depth + 1) f.2).toList)) ++ ['\x7d']) := by
  have hentry : ∀ f : String × Value,
      (string f.1 ++ ": " ++ renderAt .line (depth + 1) f.2).toList =
        (string f.1).toList ++ ':' :: ' ' :: (renderAt .line (depth + 1) f.2).toList := by
    intro f
    rw [String.toList_append, String.toList_append, List.append_assoc]
    rfl
  have hsort : Layout.line.sortKeys = false := rfl
  rw [renderAt, renderFields_eq, enclose_line, hsort, if_neg Bool.false_ne_true, List.map_map,
    List.map_map]
  simp only [Function.comp_def, hentry]
  rfl

theorem blanks_space : Blanks [' '] := by
  intro c hc
  rw [List.mem_singleton.mp hc]
  rfl

/-- An entry after the first is JSON text as the first one is. -/
theorem Written.spaced {cs : List Char} {v : Value} (h : Written cs v) : Written (' ' :: cs) v := by
  have hp := Written.padded blanks_space h Blanks.nil
  rw [List.append_nil] at hp
  exact hp

/-- The items of a line with their texts. -/
def spacedItems (text : Value → List Char) : List Value → List (List Char × Value)
  | [] => []
  | x :: xs => (text x, x) :: xs.map fun y => (' ' :: text y, y)

section SpacedItems

variable (text : Value → List Char) (xs : List Value)

theorem spacedItems_texts : (spacedItems text xs).map Prod.fst = spaced (xs.map text) := by
  cases xs with
  | nil => rfl
  | cons x xs => simp [spacedItems, spaced, Function.comp_def]

theorem spacedItems_values : (spacedItems text xs).map Prod.snd = xs := by
  cases xs with
  | nil => rfl
  | cons x xs => simp [spacedItems, Function.comp_def]

/-- What holds of the text of each item holds of each entry, if a blank does not matter to it. -/
theorem spacedItems_forall {T : List Char → Value → Prop} (hblank : ∀ t v, T t v → T (' ' :: t) v)
    (h : ∀ x ∈ xs, T (text x) x) : ∀ p ∈ spacedItems text xs, T p.1 p.2 := by
  cases xs with
  | nil => exact List.forall_mem_nil _
  | cons x xs =>
    obtain ⟨hx, hxs⟩ := List.forall_mem_cons.mp h
    refine List.forall_mem_cons.mpr ⟨hx, fun p hp => ?_⟩
    obtain ⟨y, hy, rfl⟩ := List.mem_map.mp hp
    exact hblank _ _ (hxs y hy)

end SpacedItems

/-- A field with its text, given those of keys and values. -/
def memberOf (before : List Char) (key : String → List Char) (text : Value → List Char)
    (f : String × Value) : Member :=
  ⟨before ++ key f.1, f.1, ' ' :: text f.2, f.2⟩

/-- The fields of a line with their texts. -/
def spacedMembers (key : String → List Char) (text : Value → List Char) :
    List (String × Value) → List Member
  | [] => []
  | f :: fs => memberOf [] key text f :: fs.map (memberOf [' '] key text)

section SpacedMembers

variable (key : String → List Char) (text : Value → List Char) (fs : List (String × Value))

theorem spacedMembers_texts : (spacedMembers key text fs).map Member.text =
    spaced (fs.map fun f => key f.1 ++ ':' :: ' ' :: text f.2) := by
  cases fs with
  | nil => rfl
  | cons f fs => simp [spacedMembers, spaced, memberOf, Member.text, Function.comp_def]

theorem spacedMembers_keys : (spacedMembers key text fs).map Member.key = fs.map Prod.fst := by
  cases fs with
  | nil => rfl
  | cons f fs => simp [spacedMembers, memberOf, Function.comp_def]

theorem spacedMembers_fields : (spacedMembers key text fs).map Member.field = fs := by
  cases fs with
  | nil => rfl
  | cons f fs => simp [spacedMembers, memberOf, Member.field, Function.comp_def]

variable {key text fs}

theorem mem_spacedMembers {m : Member} (hm : m ∈ spacedMembers key text fs) :
    ∃ before f, Blanks before ∧ f ∈ fs ∧ m = memberOf before key text f := by
  cases fs with
  | nil => cases hm
  | cons f fs =>
    rcases List.mem_cons.mp hm with rfl | hm
    · exact ⟨[], f, Blanks.nil, List.mem_cons_self, rfl⟩
    · obtain ⟨g, hg, rfl⟩ := List.mem_map.mp hm
      exact ⟨[' '], g, blanks_space, List.mem_cons_of_mem f hg, rfl⟩

end SpacedMembers

/-- Printed items make a JSON array. -/
theorem written_items (text : Value → List Char) {xs : List Value}
    (h : ∀ x ∈ xs, Written (text x) x) :
    Written ('[' :: (separated (spaced (xs.map text)) ++ [']'])) (.list xs) := by
  have harray := Written.array _ (spacedItems_forall text xs (fun _ _ => Written.spaced) h)
  rw [spacedItems_texts, spacedItems_values] at harray
  exact harray

/-- Printed fields make a JSON object. -/
theorem written_fields (text : Value → List Char) {fs : List (String × Value)}
    (hd : (fs.map Prod.fst).Nodup) (h : ∀ f ∈ fs, Written (text f.2) f.2) :
    Written ('\x7b' :: (separated (spaced (fs.map fun f =>
      (string f.1).toList ++ ':' :: ' ' :: text f.2)) ++ ['\x7d'])) (.obj fs) := by
  have hobject := Written.object (spacedMembers (fun k => (string k).toList) text fs)
    (fun m hm => by
      obtain ⟨before, g, hb, -, rfl⟩ := mem_spacedMembers hm
      exact ⟨before, _, hb, rfl, stringText_string g.1⟩)
    ((spacedMembers_keys _ text fs).symm ▸ hd)
    (fun m hm => by
      obtain ⟨before, g, -, hg, rfl⟩ := mem_spacedMembers hm
      exact (h g hg).spaced)
  rw [spacedMembers_texts, spacedMembers_fields] at hobject
  exact hobject

/-- **A printed value is JSON text.** -/
theorem written_render {v : Value} (h : Value.Everywhere IsPrintablePart v) (depth : Nat) :
    Written (renderAt .line depth v).toList v := by
  induction h generalizing depth with
  | @intro v here _ _ ihi ihf =>
    cases v with
    | missing => exact absurd here id
    | bytes b => exact absurd here id
    | tuple xs => exact absurd here id
    | null =>
      rw [renderAt]
      exact Written.null
    | bool b =>
      rw [renderAt]
      cases b with
      | true => exact Written.true
      | false => exact Written.false
    | int n => exact Written.number (numberText_int here)
    | float x =>
      obtain ⟨hn, hi, -⟩ := here
      have hx : renderAt .line depth (.float x) = floatText x := by
        rw [renderAt, number, if_neg (Bool.eq_false_iff.mp hn), if_neg (Bool.eq_false_iff.mp hi)]
      rw [hx]
      exact Written.number (numberText_floatText hn hi)
    | str s => exact Written.string (stringText_string s)
    | list xs =>
      rw [renderAt_list]
      exact written_items _ fun x hx => ihi xs rfl x hx (depth + 1)
    | obj fs =>
      rw [renderAt_obj]
      exact written_fields (fun w => (renderAt .line (depth + 1) w).toList) here
        fun f hf => ihf f hf (depth + 1)

/-- **A printed value is read back.** -/
theorem parse_render {v : Value} (h : Value.Everywhere IsPrintablePart v) :
    parse (render .line v) = .ok v :=
  parse_of_written (written_render h 0)

end SuiteEngine.Json
