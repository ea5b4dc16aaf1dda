import Mathlib.Data.List.Induction
import Mathlib.Data.List.TakeDrop
import Mathlib.Data.List.TakeWhile
import SuiteEngine.Http.Address
import SuiteEngine.Proofs.Text.Utf8

/-!
# Parameters of addresses

Parameters are names and texts, written with unreserved characters and escapes only, an equals sign within
each pair and an ampersand between pairs. A form reads them the other way round: it splits at the
ampersands and at the first equals sign, takes a plus for a blank, and puts the escaped bytes back. It
reads back what was written, since neither of the two signs is left in a name or a text.

In an address the parameters stand behind the first question mark. A second question mark does not begin
others: it belongs to the pair that it stands in. So parameters that are put behind an endpoint
arrive only where the endpoint has none of its own.

Headlines:
* `formText_encodeText`: a text is read back.
* **`formPairs_encodeQuery`**: all names and texts are read back, in their order.
* `formPairs_marked_ne`: they are not where a question mark is in front of them.
* `joined_joinUrl`: base and endpoint with one slash between them.
* **`buildUrl_decodes`**: what is put behind an address, and what a form reads there.
* `buildUrl_arrives_iff`, `buildUrl_read_iff`: when the parameters arrive.
-/

namespace SuiteEngine.Http

open String (utf8EncodeChar)

variable {cs own : List Char} {mark : Char} {name text : String} {query : List (String × Value)}

/-! ## What a form reads -/

/-- The character that is meant: a plus is a blank. -/
def blankOf (c : Char) : Char := if c == '+' then ' ' else c

/-- The text that a part of parameters stands for. -/
def formText (cs : List Char) : String := Text.unescape (String.ofList (cs.map blankOf))

/-- The name and the text that a pair stands for; a text that is wanting is empty. -/
def formPair (cs : List Char) : String × String :=
  let (name, text) := cutAt '=' cs
  (formText name, formText (text.getD []))

/-- The names and texts that parameters stand for; what is empty between ampersands is no pair. -/
def formPairs (cs : List Char) : List (String × String) :=
  ((cs.splitOn '&').filter fun part => !part.isEmpty).map formPair

/-- Whether a character may stand for itself anywhere in an address. -/
def isPlainMark (c : Char) : Bool := c.isAlphanum || c == '-' || c == '.' || c == '_' || c == '~'

/-- Whether a character is one that a text in parameters is written with. -/
def inText (c : Char) : Bool := isPlainMark c || c == '%' || c == '+'

/-- Whether a character is one that parameters are written with. -/
def inParameters (c : Char) : Bool := inText c || c == '=' || c == '&'

/-! ## A text -/

/-- Whether a byte is read from these characters: one for itself, or an escape. -/
def readsByte (b : UInt8) : List Char → Bool
  | [c] => blankOf c != '%' && utf8EncodeChar (blankOf c) == [b]
  | [mark, c, d] =>
    mark == '%' && c != '+' && d != '+' &&
      match Text.hexValue? c, Text.hexValue? d with
      | some x, some y => UInt8.ofNat (x * 16 + y) == b
      | _, _ => false
  | _ => false

theorem readsByte_encodeByte (b : UInt8) :
    readsByte b (encodeByte b).toList = true ∧ (encodeByte b).toList.all inText = true := by
  have hall : (List.range 256).all (fun n => readsByte (.ofNat n) (encodeByte (.ofNat n)).toList &&
      (encodeByte (.ofNat n)).toList.all inText) = true := by decide +kernel
  have hb := List.all_eq_true.mp hall b.toNat (List.mem_range.mpr b.toNat_lt)
  rwa [UInt8.ofNat_toNat, Bool.and_eq_true] at hb

theorem unescapeBytes_cons {c : Char} (h : c ≠ '%') (rest : List Char) :
    Text.unescapeBytes (c :: rest) = utf8EncodeChar c ++ Text.unescapeBytes rest := by
  rw [Text.unescapeBytes]
  · rw [Text.encode_eq, String.toList_ofList, List.flatMap_singleton]
  · rintro a b rest rfl
    exact absurd rfl h

/-- A byte is read from what is written for it. -/
theorem unescapeBytes_of_readsByte {b : UInt8} (h : readsByte b cs = true) (rest : List Char) :
    Text.unescapeBytes (cs.map blankOf ++ rest) = b :: Text.unescapeBytes rest := by
  unfold readsByte at h
  split at h
  · rename_i c
    simp only [Bool.and_eq_true, bne_iff_ne, beq_iff_eq] at h
    rw [List.map_singleton, List.singleton_append, unescapeBytes_cons h.1, h.2]
    rfl
  · rename_i mark c d
    simp only [Bool.and_eq_true, bne_iff_ne, beq_iff_eq] at h
    obtain ⟨⟨⟨rfl, hc⟩, hd⟩, hxy⟩ := h
    have hmap : ['%', c, d].map blankOf = ['%', c, d] := by
      simp [blankOf, hc, hd]
    split at hxy
    · rename_i x y hx hy
      rw [hmap, List.cons_append, List.cons_append, List.singleton_append, Text.unescapeBytes, hx, hy]
      dsimp only
      rw [eq_of_beq hxy]
    · cases hxy
  · cases h

theorem toList_encodeText (s : String) :
    (encodeText s).toList = (Text.encode s).flatMap fun b => (encodeByte b).toList := by
  rw [encodeText, String.toList_join, List.flatMap_map]

/-- The bytes of a text are read from what is written for it. -/
theorem unescapeBytes_encodeText (s : String) :
    Text.unescapeBytes ((encodeText s).toList.map blankOf) = Text.encode s := by
  rw [toList_encodeText]
  induction Text.encode s with
  | nil => rfl
  | cons b bytes ih =>
    rw [List.flatMap_cons, List.map_append, unescapeBytes_of_readsByte (readsByte_encodeByte b).1, ih]

/-- **A text is read back.** -/
theorem formText_encodeText (s : String) : formText (encodeText s).toList = s := by
  rw [formText, Text.unescape, String.toList_ofList, unescapeBytes_encodeText, Text.decodeLossy_encode]

/-- A question mark in front of it is read with it. -/
theorem formText_marked (s : String) : formText ('?' :: (encodeText s).toList) = "?" ++ s := by
  rw [formText, Text.unescape, String.toList_ofList, List.map_cons,
    show blankOf '?' = '?' from rfl, unescapeBytes_cons (by decide), unescapeBytes_encodeText]
  have hmark : utf8EncodeChar '?' = Text.encode "?" := (Text.encode_eq "?").symm
  rw [hmark, ← Text.encode_append, Text.decodeLossy_encode]

/-- What a text is written with. -/
theorem mem_encodeText {c : Char} (h : c ∈ (encodeText text).toList) : inText c = true := by
  rw [toList_encodeText] at h
  obtain ⟨b, -, hc⟩ := List.mem_flatMap.mp h
  exact List.all_eq_true.mp (readsByte_encodeByte b).2 c hc

/-- No sign that parts parameters is left in a text. -/
theorem not_mem_encodeText (h : inText mark = false) : mark ∉ (encodeText text).toList := fun hc =>
  Bool.false_ne_true (h.symm.trans (mem_encodeText hc))

/-! ## What stands before a mark -/

theorem cutAt_append (h : mark ∉ cs) (after : List Char) :
    cutAt mark (cs ++ mark :: after) = (cs, some after) := by
  have hcs : ∀ c ∈ cs, (c != mark) = true := fun c hc => bne_iff_ne.mpr fun heq => h (heq ▸ hc)
  rw [cutAt, List.span_eq_takeWhile_dropWhile, List.takeWhile_append_of_pos hcs,
    List.dropWhile_append_of_pos hcs, List.takeWhile_cons_of_neg (by simp),
    List.dropWhile_cons_of_neg (by simp), List.append_nil]

theorem cutAt_of_not_mem (h : mark ∉ cs) : cutAt mark cs = (cs, none) := by
  have hcs : ∀ c ∈ cs, (c != mark) = true := fun c hc => bne_iff_ne.mpr fun heq => h (heq ▸ hc)
  rw [cutAt, List.span_eq_takeWhile_dropWhile, List.takeWhile_eq_self_iff.mpr hcs,
    List.dropWhile_eq_nil_iff.mpr hcs]

/-! ## Names and texts -/

/-- A name and its text as parameters hold them. -/
def writtenPair (field : String × Value) : List Char :=
  (encodeText field.1).toList ++ '=' :: (encodeText field.2.display).toList

/-- The names and texts that parameters are written for. -/
def declared (query : List (String × Value)) : List (String × String) :=
  query.map fun field => (field.1, field.2.display)

variable {field : String × Value}

theorem toList_encodeQuery (query : List (String × Value)) :
    (encodeQuery query).toList = ['&'].intercalate (query.map writtenPair) := by
  rw [encodeQuery, String.toList_intercalate, List.map_map]
  congr 2
  funext field
  simp [writtenPair]

theorem formPair_writtenPair (field : String × Value) :
    formPair (writtenPair field) = (field.1, field.2.display) := by
  rw [formPair, writtenPair, cutAt_append (not_mem_encodeText (by decide))]
  dsimp only [Option.getD_some]
  rw [formText_encodeText, formText_encodeText]

/-- With a question mark in front it is another pair. -/
theorem formPair_marked (field : String × Value) :
    formPair ('?' :: writtenPair field) = ("?" ++ field.1, field.2.display) := by
  have hcut : '=' ∉ '?' :: (encodeText field.1).toList := by
    rw [List.mem_cons]
    rintro (h | h)
    · exact absurd h (by decide)
    · exact not_mem_encodeText (by decide) h
  rw [formPair, writtenPair, ← List.cons_append, cutAt_append hcut]
  dsimp only [Option.getD_some]
  rw [formText_marked, formText_encodeText]

/-- What a pair is written with. -/
theorem mem_writtenPair {c : Char} (h : c ∈ writtenPair field) : inText c = true ∨ c = '=' := by
  rw [writtenPair, List.mem_append, List.mem_cons] at h
  obtain h | h | h := h
  · exact .inl (mem_encodeText h)
  · exact .inr h
  · exact .inl (mem_encodeText h)

theorem ampersand_not_mem : '&' ∉ writtenPair field := by
  intro h
  obtain h | h := mem_writtenPair h
  · exact absurd h (by decide)
  · exact absurd h (by decide)

theorem mem_encodeQuery {c : Char} (h : c ∈ (encodeQuery query).toList) :
    c = '&' ∨ ∃ field ∈ query, c ∈ writtenPair field := by
  rw [toList_encodeQuery] at h
  induction query with
  | nil => exact absurd h List.not_mem_nil
  | cons field rest ih =>
    cases rest with
    | nil =>
      rw [List.map_singleton, List.intercalate_singleton] at h
      exact .inr ⟨field, List.mem_cons_self, h⟩
    | cons next rest =>
      rw [List.map_cons, List.map_cons, List.intercalate_cons_cons, List.mem_append, List.mem_append,
        List.mem_singleton] at h
      obtain (h | h) | h := h
      · exact .inr ⟨field, List.mem_cons_self, h⟩
      · exact .inl h
      · exact (ih h).imp_right fun ⟨f, hf, hc⟩ => ⟨f, List.mem_cons_of_mem _ hf, hc⟩

/-- Parameters are written with few characters. -/
theorem inParameters_of_mem {c : Char} (h : c ∈ (encodeQuery query).toList) :
    inParameters c = true := by
  obtain rfl | ⟨field, -, hc⟩ := mem_encodeQuery h
  · decide
  · obtain hc | rfl := mem_writtenPair hc
    · rw [inParameters, hc, Bool.true_or, Bool.true_or]
    · decide

/-- No sign that parts an address is left in them. -/
theorem not_mem_encodeQuery (h : inParameters mark = false) : mark ∉ (encodeQuery query).toList :=
  fun hc => Bool.false_ne_true (h.symm.trans (inParameters_of_mem hc))

/-! ## All of them -/

theorem formPairs_append_cons (as bs : List Char) :
    formPairs (as ++ '&' :: bs) = formPairs as ++ formPairs bs := by
  rw [formPairs, List.splitOn_append_cons_self, List.filter_append, List.map_append]
  rfl

theorem formPairs_single (h : '&' ∉ cs) (hne : cs ≠ []) : formPairs cs = [formPair cs] := by
  rw [formPairs, List.splitOn_eq_singleton h, List.filter_cons_of_pos, List.filter_nil]
  · rfl
  · rwa [Bool.not_eq_true', List.isEmpty_eq_false_iff]

/-- What stands in front of the first pair is read with it; the others are read as they were
written. -/
theorem formPairs_front (h : '&' ∉ cs) (field : String × Value) (query : List (String × Value)) :
    formPairs (cs ++ (encodeQuery (field :: query)).toList) =
      formPair (cs ++ writtenPair field) :: declared query := by
  have hfirst : '&' ∉ cs ++ writtenPair field := by
    rw [List.mem_append]
    exact not_or.mpr ⟨h, ampersand_not_mem⟩
  have hne : cs ++ writtenPair field ≠ [] := by simp [writtenPair]
  rw [toList_encodeQuery, List.map_cons]
  induction query generalizing cs field with
  | nil =>
    rw [List.map_nil, List.intercalate_singleton, formPairs_single hfirst hne]
    rfl
  | cons next rest ih =>
    have hnext : '&' ∉ [] ++ writtenPair next := ampersand_not_mem
    rw [List.map_cons, List.intercalate_cons_cons, List.append_assoc, ← List.append_assoc,
      List.singleton_append, formPairs_append_cons, formPairs_single hfirst hne]
    have hrest := @ih [] List.not_mem_nil next hnext (by simp [writtenPair])
    rw [List.nil_append, List.nil_append, formPair_writtenPair] at hrest
    rw [hrest]
    rfl

/-- **All names and texts are read back, in their order.** -/
theorem formPairs_encodeQuery (query : List (String × Value)) :
    formPairs (encodeQuery query).toList = declared query := by
  cases query with
  | nil => rfl
  | cons field rest =>
    have hnone : '&' ∉ ([] : List Char) := List.not_mem_nil
    have h := formPairs_front hnone field rest
    rwa [List.nil_append, List.nil_append, formPair_writtenPair] at h

/-- What stands behind the last ampersand is read by itself. -/
theorem exists_last_part (own : List Char) : ∃ last before, '&' ∉ last ∧
    ∀ more, formPairs (own ++ more) = before ++ formPairs (last ++ more) := by
  induction own using List.reverseRecOn with
  | nil => exact ⟨[], [], List.not_mem_nil, fun more => rfl⟩
  | append_singleton cs c ih =>
    by_cases hc : c = '&'
    · refine ⟨[], formPairs cs, List.not_mem_nil, fun more => ?_⟩
      rw [hc, List.append_assoc, List.singleton_append, formPairs_append_cons, List.nil_append]
    · obtain ⟨last, before, hlast, h⟩ := ih
      refine ⟨last ++ [c], before, ?_, fun more => ?_⟩
      · rw [List.mem_append, List.mem_singleton]
        exact not_or.mpr ⟨hlast, fun h => hc h.symm⟩
      · rw [List.append_assoc, h, List.append_assoc]

/-- Behind a second question mark the first pair is lost: it is read with what stands in front of the
mark, or under another name. -/
theorem formPairs_marked_ne (own : List Char) (h : query ≠ []) :
    formPairs (own ++ '?' :: (encodeQuery query).toList) ≠ formPairs own ++ declared query := by
  obtain ⟨field, rest, rfl⟩ := List.exists_cons_of_ne_nil h
  obtain ⟨last, before, hlast, hsplit⟩ := exists_last_part own
  have hfront : '&' ∉ last ++ ['?'] := by
    rw [List.mem_append]
    exact not_or.mpr ⟨hlast, by decide⟩
  have hown := hsplit []
  rw [List.append_nil, List.append_nil] at hown
  intro heq
  rw [hsplit, hown, ← List.singleton_append, ← List.append_assoc last, formPairs_front hfront,
    List.append_assoc before] at heq
  have heq := List.append_cancel_left heq
  cases last with
  | nil =>
    rw [List.nil_append, List.singleton_append, formPair_marked] at heq
    have hname := congrArg (fun pairs => pairs.head?.map fun p => p.1.length) heq
    simp [declared, formPairs] at hname
  | cons c cs =>
    rw [formPairs_single hlast (List.cons_ne_nil c cs)] at heq
    have hlen := congrArg List.length heq
    simp [declared] at hlen

/-! ## Base and endpoint -/

/-- The address is the base and the endpoint with one slash between them, whatever slashes the one
ends and the other begins with. -/
def Joined (base endpoint url : String) : Prop :=
  ∃ front back : String, ∃ m n : ℕ,
    base.toList = front.toList ++ List.replicate m '/' ∧ front.toList.getLast? ≠ some '/' ∧
    endpoint.toList = List.replicate n '/' ++ back.toList ∧ back.toList.head? ≠ some '/' ∧
    url = front ++ "/" ++ back

theorem slashes_before (cs : List Char) :
    cs = List.replicate (cs.takeWhile isSlash).length '/' ++ cs.dropWhile isSlash ∧
      (cs.dropWhile isSlash).head? ≠ some '/' := by
  have htake : cs.takeWhile isSlash = List.replicate (cs.takeWhile isSlash).length '/' :=
    List.eq_replicate_of_mem fun c hc => by
      have hs : isSlash c = true := List.mem_takeWhile_imp hc
      exact eq_of_beq hs
  refine ⟨by rw [← htake, List.takeWhile_append_dropWhile], fun h => ?_⟩
  have hnot := List.head?_dropWhile_not isSlash cs
  rw [h] at hnot
  exact absurd hnot (by decide)

theorem joined_joinUrl (base endpoint : String) : Joined base endpoint (joinUrl base endpoint) := by
  obtain ⟨hb, hb'⟩ := slashes_before base.toList.reverse
  obtain ⟨he, he'⟩ := slashes_before endpoint.toList
  refine ⟨_, _, (base.toList.reverse.takeWhile isSlash).length,
    (endpoint.toList.takeWhile isSlash).length, ?_, ?_, ?_, ?_, rfl⟩
  · have hr := congrArg List.reverse hb
    rwa [List.reverse_reverse, List.reverse_append, List.reverse_replicate,
      ← String.toList_ofList (l := (List.dropWhile _ _).reverse)] at hr
  · rwa [Text.trimRightBy, String.toList_ofList, List.getLast?_reverse]
  · rwa [Text.trimLeftBy, String.toList_ofList]
  · rwa [Text.trimLeftBy, String.toList_ofList]

theorem toList_joinUrl (endpoint : String) :
    (joinUrl "" endpoint).toList = '/' :: endpoint.toList.dropWhile isSlash := by
  simp [joinUrl, Text.trimRightBy, Text.trimLeftBy]

theorem mem_joinUrl_iff {c : Char} (hc : c ≠ '/') (endpoint : String) :
    c ∈ (joinUrl "" endpoint).toList ↔ c ∈ endpoint.toList := by
  have hsplit := (slashes_before endpoint.toList).1
  rw [toList_joinUrl, List.mem_cons, or_iff_right hc]
  constructor
  · exact fun h => (List.dropWhile_suffix isSlash).mem h
  · intro h
    rw [hsplit, List.mem_append] at h
    exact h.resolve_left fun h => hc (List.eq_of_mem_replicate h)

/-! ## Parameters behind an address -/

theorem buildUrl_append (base endpoint : String) (h : query ≠ []) :
    buildUrl base endpoint query = buildUrl base endpoint [] ++ "?" ++ encodeQuery query := by
  rw [buildUrl, buildUrl, if_neg (by rwa [List.isEmpty_iff]), if_pos List.isEmpty_nil]

theorem toList_buildUrl (base endpoint : String) (h : query ≠ []) :
    (buildUrl base endpoint query).toList =
      (joinUrl base endpoint).toList ++ '?' :: (encodeQuery query).toList := by
  rw [buildUrl_append _ _ h, String.toList_append, String.toList_append, List.append_assoc, buildUrl,
    if_pos List.isEmpty_nil]
  rfl

/-- Without a base an address begins with exactly one slash. -/
theorem buildUrl_head (endpoint : String) (query : List (String × Value)) :
    ∃ rest, (buildUrl "" endpoint query).toList = '/' :: rest ∧ rest.head? ≠ some '/' := by
  have hrest := (slashes_before endpoint.toList).2
  cases query with
  | nil => exact ⟨_, toList_joinUrl endpoint, hrest⟩
  | cons field rest =>
    refine ⟨endpoint.toList.dropWhile isSlash ++ '?' :: (encodeQuery (field :: rest)).toList, ?_, ?_⟩
    · rw [toList_buildUrl _ _ (List.cons_ne_nil _ _), toList_joinUrl, List.cons_append]
    · rw [List.head?_append]
      cases hd : (endpoint.toList.dropWhile isSlash).head? with
      | none => simp
      | some c => rwa [hd] at hrest

/-- **What is put behind an address, and what a form reads there.** Base and endpoint are joined with one
slash. Behind a question mark stand parameters that hold few characters and are read as the names and
texts that they were written for. -/
theorem buildUrl_decodes (base endpoint : String) :
    Joined base endpoint (buildUrl base endpoint []) ∧
      (∀ query, ∃ rest, (buildUrl "" endpoint query).toList = '/' :: rest ∧ rest.head? ≠ some '/') ∧
      ∀ query, query ≠ [] → ∃ parameters : String,
        buildUrl base endpoint query = buildUrl base endpoint [] ++ "?" ++ parameters ∧
        (∀ c ∈ parameters.toList, inParameters c = true) ∧
        formPairs parameters.toList = declared query := by
  refine ⟨joined_joinUrl base endpoint, buildUrl_head endpoint, fun query hquery => ?_⟩
  exact ⟨encodeQuery query, buildUrl_append base endpoint hquery, fun c => inParameters_of_mem,
    formPairs_encodeQuery query⟩

theorem buildUrl_decodes_signs :
    [("a b&", Value.str "é=?"), ("", .null)] ≠ [] ∧
      buildUrl "http://h//" "//find" [("a b&", .str "é=?"), ("", .null)] =
        "http://h/find?a+b%26=%C3%A9%3D%3F&=null" ∧
      ∃ parameters : String,
        "http://h/find?a+b%26=%C3%A9%3D%3F&=null" =
          buildUrl "http://h//" "//find" [] ++ "?" ++ parameters ∧
        (∀ c ∈ parameters.toList, inParameters c = true) ∧
        formPairs parameters.toList = [("a b&", "é=?"), ("", "null")] := by
  have hne : [("a b&", Value.str "é=?"), ("", .null)] ≠ [] := List.cons_ne_nil _ _
  have hurl : buildUrl "http://h//" "//find" [("a b&", .str "é=?"), ("", .null)] =
      "http://h/find?a+b%26=%C3%A9%3D%3F&=null" := by decide +kernel
  have h := (buildUrl_decodes "http://h//" "//find").2.2 _ hne
  rw [hurl] at h
  exact ⟨hne, hurl, h⟩

/-- The text between the first question mark and the first number sign behind it. -/
def queryPart (url : List Char) : List Char :=
  match (cutAt '?' url).2 with
  | some behind => (cutAt '#' behind).1
  | none => []

/-- The parameters that a client finds in an address; it looks for the fragment first. -/
def readQuery (url : List Char) : List Char := (Parts.ofList url).query.getD []

theorem queryPart_of_not_mem (h : '?' ∉ cs) : queryPart cs = [] := by
  rw [queryPart, cutAt_of_not_mem h]

theorem queryPart_append (h : '?' ∉ cs) (more : List Char) :
    queryPart (cs ++ '?' :: more) = (cutAt '#' more).1 := by
  rw [queryPart, cutAt_append h]

theorem cutAt_encodeQuery (query : List (String × Value)) :
    (cutAt '#' (encodeQuery query).toList).1 = (encodeQuery query).toList := by
  rw [cutAt_of_not_mem (not_mem_encodeQuery (by decide))]

/-- What has no question mark in it can be left out in front. -/
theorem queryPart_front {front : List Char} (h : '?' ∉ front) (cs : List Char) :
    queryPart (front ++ cs) = queryPart cs := by
  by_cases hcs : '?' ∈ cs
  · obtain ⟨before, behind, rfl, hbefore⟩ := List.eq_append_cons_of_mem hcs
    have hboth : '?' ∉ front ++ before := by
      rw [List.mem_append]
      exact not_or.mpr ⟨h, hbefore⟩
    rw [← List.append_assoc, queryPart_append hboth, queryPart_append hbefore]
  · have hboth : '?' ∉ front ++ cs := by
      rw [List.mem_append]
      exact not_or.mpr ⟨h, hcs⟩
    rw [queryPart_of_not_mem hboth, queryPart_of_not_mem hcs]

theorem number_not_mem (h : '#' ∉ own) : '#' ∉ own ++ '?' :: (encodeQuery query).toList := by
  rw [List.mem_append, List.mem_cons]
  rintro (hown | hmark | hquery)
  · exact h hown
  · exact absurd hmark (by decide)
  · exact not_mem_encodeQuery (by decide) hquery

/-- Where something is declared, it adds to what is there. -/
theorem append_declared_ne (pairs : List (String × String)) (h : query ≠ []) :
    pairs ≠ pairs ++ declared query := by
  intro heq
  have hnil := List.append_right_eq_self.mp heq.symm
  exact h (List.map_eq_nil_iff.mp hnil)

/-- Parameters arrive behind an address if and only if there is no question mark in it. -/
theorem queryPart_arrives_iff (own : List Char) (h : query ≠ []) :
    formPairs (queryPart (own ++ '?' :: (encodeQuery query).toList)) =
      formPairs (queryPart own) ++ declared query ↔ '?' ∉ own := by
  constructor
  · intro heq hown
    obtain ⟨front, behind, rfl, hfront⟩ := List.eq_append_cons_of_mem hown
    rw [List.append_assoc, List.cons_append, queryPart_append hfront, queryPart_append hfront] at heq
    by_cases hbehind : '#' ∈ behind
    · -- The parameters stand in the fragment.
      obtain ⟨before, fragment, rfl, hbefore⟩ := List.eq_append_cons_of_mem hbehind
      rw [List.append_assoc, List.cons_append, cutAt_append hbefore, cutAt_append hbefore] at heq
      exact append_declared_ne _ h heq
    · -- The second question mark is read with the first pair.
      rw [cutAt_of_not_mem (number_not_mem hbehind), cutAt_of_not_mem hbehind] at heq
      exact formPairs_marked_ne behind h heq
  · intro hown
    rw [queryPart_append hown, queryPart_of_not_mem hown, cutAt_encodeQuery, formPairs_encodeQuery]
    rfl

/-- What begins with a slash has no scheme. -/
theorem splitScheme_slash (rest : List Char) : splitScheme ('/' :: rest) = ([], '/' :: rest) := by
  rw [splitScheme, List.span_eq_takeWhile_dropWhile, List.takeWhile_cons_of_pos (by decide)]
  split
  · rename_i heq
    exact absurd (congrArg Prod.fst heq) (List.cons_ne_nil _ _)
  · rename_i c more _ heq
    have hc : '/' = c := (List.cons.inj (congrArg Prod.fst heq)).1
    rw [← hc, show Char.isAlpha '/' = false from by decide, Bool.false_and, if_neg Bool.false_ne_true]
  · rfl

theorem readQuery_of_head (hs : cs.head? = some '/') :
    readQuery cs = (cutAt '?' (cutAt '#' cs).1).2.getD [] := by
  obtain ⟨rest, rfl⟩ := List.head?_eq_some_iff.mp hs
  rw [readQuery, Parts.ofList, splitScheme_slash]
  dsimp only
  split <;> rfl

/-- Without a number sign a client finds the same parameters. -/
theorem readQuery_eq_queryPart (hs : cs.head? = some '/') (h : '#' ∉ cs) :
    readQuery cs = queryPart cs := by
  rw [readQuery_of_head hs, cutAt_of_not_mem h]
  by_cases hmark : '?' ∈ cs
  · obtain ⟨front, behind, rfl, hfront⟩ := List.eq_append_cons_of_mem hmark
    rw [List.mem_append, List.mem_cons] at h
    rw [cutAt_append hfront, Option.getD_some, queryPart_append hfront,
      cutAt_of_not_mem fun hb => h (.inr (.inr hb))]
  · rw [cutAt_of_not_mem hmark, queryPart_of_not_mem hmark]
    rfl

/-- A client finds them if and only if there is no question mark and no number sign in it. -/
theorem readQuery_arrives_iff (hs : own.head? = some '/') (h : query ≠ []) :
    formPairs (readQuery (own ++ '?' :: (encodeQuery query).toList)) =
      formPairs (readQuery own) ++ declared query ↔ '?' ∉ own ∧ '#' ∉ own := by
  have hfull : (own ++ '?' :: (encodeQuery query).toList).head? = some '/' := by
    rw [List.head?_append, hs]
    rfl
  by_cases hnumber : '#' ∈ own
  · -- All that a client looks at stands before the first number sign.
    refine iff_of_false (fun heq => ?_) fun hno => hno.2 hnumber
    rw [readQuery_of_head hfull, readQuery_of_head hs] at heq
    obtain ⟨front, fragment, rfl, hfront⟩ := List.eq_append_cons_of_mem hnumber
    rw [List.append_assoc, List.cons_append, cutAt_append hfront, cutAt_append hfront] at heq
    exact append_declared_ne _ h heq
  · rw [readQuery_eq_queryPart hfull (number_not_mem hnumber), readQuery_eq_queryPart hs hnumber,
      queryPart_arrives_iff _ h, and_iff_left hnumber]

/-- **Declared parameters arrive as parameters, after those that the endpoint has, if and only if it has
no question mark.** -/
theorem buildUrl_arrives_iff (endpoint : String) (h : query ≠ []) :
    formPairs (queryPart (buildUrl "" endpoint query).toList) =
      formPairs (queryPart endpoint.toList) ++ declared query ↔ '?' ∉ endpoint.toList := by
  have hslashes : '?' ∉ List.replicate (endpoint.toList.takeWhile isSlash).length '/' := fun hmem =>
    absurd (List.eq_of_mem_replicate hmem) (by decide)
  have hone : '?' ∉ ['/'] := by decide
  have hown : queryPart (joinUrl "" endpoint).toList = queryPart endpoint.toList := by
    rw [toList_joinUrl, ← List.singleton_append, queryPart_front hone, ← queryPart_front hslashes,
      ← (slashes_before endpoint.toList).1]
  rw [toList_buildUrl _ _ h, ← hown, ← mem_joinUrl_iff (by decide) endpoint]
  exact queryPart_arrives_iff _ h

/-- A client finds them there if and only if it has no number sign either. -/
theorem buildUrl_read_iff (endpoint : String) (h : query ≠ []) :
    formPairs (readQuery (buildUrl "" endpoint query).toList) =
      formPairs (readQuery (buildUrl "" endpoint []).toList) ++ declared query ↔
    '?' ∉ endpoint.toList ∧ '#' ∉ endpoint.toList := by
  rw [toList_buildUrl _ _ h, buildUrl, if_pos List.isEmpty_nil,
    ← mem_joinUrl_iff (by decide) endpoint, ← mem_joinUrl_iff (c := '#') (by decide) endpoint]
  refine readQuery_arrives_iff ?_ h
  rw [toList_joinUrl]
  rfl

end SuiteEngine.Http
