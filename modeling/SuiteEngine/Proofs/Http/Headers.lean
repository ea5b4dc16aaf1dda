import Mathlib.Data.List.TakeDrop
import SuiteEngine.Http.Client
import SuiteEngine.Proofs.Document.Filled

/-!
# Headers of one name

Names of headers are the same whatever their case, yet a request keeps its headers under their spelling:
what is put over others replaces a header of the same spelling only, and another spelling of the name
stays beside it. A client compares names as they are meant, so its headers of a name give way to all those
that the request has of it. What goes over the wire under a name is therefore what the request has
under it in any spelling, and only where there is none of them what the client has.

Headlines:
* `named_supersede`: headers that are put over others give all of a name, if they have any of it.
* **`length_named_le_one_iff`**: there is one header of a name at most if and only if it is spelled in one
  way.
* `mem_names_overlay`, `nodup_overlay`: what headers that are put over others are called.
* `named_supersede_overlay_iff`: when a header that is added is the only one of its name.
* **`named_transmission`**: what goes over the wire under a name.
-/

namespace SuiteEngine.Http

theorem sameName_iff {a b : String} : sameName a b = true ↔ Text.lower a = Text.lower b := beq_iff_eq

theorem sameName_congr {a b : String} (h : sameName a b = true) (c : String) :
    sameName a c = sameName b c := by
  rw [sameName, sameName, sameName_iff.mp h]

theorem sameName_comm (a b : String) : sameName a b = sameName b a := by
  rw [Bool.eq_iff_iff, sameName_iff, sameName_iff, eq_comm]

namespace Headers

variable {hs own above : Headers} {name other text k v : String}

/-! ## Headers of a name -/

/-- The headers with this name, however it is spelled. -/
def named (hs : Headers) (name : String) : Headers := hs.filter fun h => sameName h.1 name

theorem mem_named {h : String × String} :
    h ∈ named hs name ↔ h ∈ hs ∧ sameName h.1 name = true := List.mem_filter

theorem has_iff : has hs name = true ↔ ∃ h ∈ hs, sameName h.1 name = true := List.any_eq_true

theorem has_congr (h : sameName name other = true) : has hs name = has hs other := by
  rw [Bool.eq_iff_iff, has_iff, has_iff]
  simp only [sameName_comm _ name, sameName_comm _ other, sameName_congr h]

theorem named_eq_nil (h : has hs name = false) : named hs name = [] := by
  refine List.filter_eq_nil_iff.mpr fun f hf hn => ?_
  rw [has_iff.mpr ⟨f, hf, hn⟩] at h
  cases h

theorem has_eq_named (hs : Headers) (name : String) : has hs name = !(named hs name).isEmpty := by
  cases h : has hs name with
  | true =>
    obtain ⟨f, hf, hn⟩ := has_iff.mp h
    rw [List.isEmpty_eq_false_iff.mpr (List.ne_nil_of_mem (mem_named.mpr ⟨hf, hn⟩)), Bool.not_false]
  | false => rw [named_eq_nil h, List.isEmpty_nil, Bool.not_true]

theorem named_append (hs own : Headers) (name : String) :
    named (hs ++ own) name = named hs name ++ named own name := List.filter_append hs own

/-- A header of another name is no matter. -/
theorem named_singleton (hn : sameName other name = false) (text : String) :
    named [(other, text)] name = [] := by
  unfold named
  rw [List.filter_cons, hn]
  rfl

theorem named_orElse (hn : sameName other name = false) (hs : Headers) (text : String) :
    named (hs.orElse other text) name = named hs name := by
  unfold orElse
  by_cases h : has hs other = true
  · rw [if_pos h]
  · rw [if_neg h, named_append, named_singleton hn, List.append_nil]

theorem named_orElse? (hn : sameName other name = false) (hs : Headers) (text? : Option String) :
    named (hs.orElse? other text?) name = named hs name := by
  cases text? with
  | none => rfl
  | some text => exact named_orElse hn hs text

/-- **Headers that are put over others give all of a name**, if they have any of it. -/
theorem named_supersede (hs own : Headers) (name : String) :
    named (hs.supersede own) name =
      if own.has name then named own name else named hs name := by
  have hleft : named (hs.filter fun f => !has own f.1) name =
      (named hs name).filter fun _ => !has own name := by
    unfold named
    rw [List.filter_filter, List.filter_filter]
    refine List.filter_congr fun f _ => ?_
    cases hf : sameName f.1 name with
    | false => rw [Bool.false_and, Bool.and_false]
    | true => rw [Bool.true_and, Bool.and_true, has_congr hf]
  rw [supersede, named_append, hleft]
  cases ho : has own name with
  | true => rw [if_pos rfl, Bool.not_true, List.filter_false, List.nil_append]
  | false =>
    rw [if_neg Bool.false_ne_true, named_eq_nil ho, Bool.not_false, List.filter_true, List.append_nil]

/-- A header of another name can take the place of others. -/
theorem named_assign (hn : sameName other name = false) (hs : Headers) (text : String) :
    named (hs.assign other text) name = named hs name := by
  have hother {k : String} (hk : sameName k other = true) : sameName k name = false :=
    (sameName_congr hk name).trans hn
  have hsplit : hs.takeWhile (fun h => !sameName h.1 other) ++
      hs.dropWhile (fun h => !sameName h.1 other) = hs := List.takeWhile_append_dropWhile
  have hhead := List.head?_dropWhile_not (fun h : String × String => !sameName h.1 other) hs
  unfold assign
  rw [List.span_eq_takeWhile_dropWhile]
  generalize hs.takeWhile (fun h => !sameName h.1 other) = before at hsplit
  generalize hs.dropWhile (fun h => !sameName h.1 other) = after at hsplit hhead
  subst hsplit
  cases after with
  | nil =>
    dsimp only
    rw [named_append, named_append, named_singleton hn]
    rfl
  | cons f after =>
    obtain ⟨k, v⟩ := f
    have hk : sameName k name = false := hother (by simpa using hhead)
    have hkept : named (after.filter fun h => !sameName h.1 other) name = named after name := by
      unfold named
      rw [List.filter_filter]
      refine List.filter_congr fun g _ => ?_
      cases hg : sameName g.1 other with
      | false => simp
      | true => simp [hother hg]
    dsimp only
    rw [named_append, named_append, ← List.singleton_append, named_append, named_singleton hk,
      ← List.singleton_append (x := (k, v)), named_append, named_singleton hk, hkept]

theorem named_assign? (hn : sameName other name = false) (hs : Headers) (text? : Option String) :
    named (hs.assign? other text?) name = named hs name := by
  cases text? with
  | none => rfl
  | some text => exact named_assign hn hs text

theorem named_automatic (hhost : sameName "Host" name = false)
    (hlength : sameName "Content-Length" name = false) (method : String) (a : Address)
    (hs : Headers) : named (automaticHeaders method a hs) name = [] := by
  have hh : named [("Host", a.netloc)] name = [] := named_singleton hhost a.netloc
  have hl : named [("Content-Length", "0")] name = [] := named_singleton hlength "0"
  unfold automaticHeaders
  rw [named_append]
  split
  · split
    · rfl
    · exact hl
  · rw [hh]
    split
    · rfl
    · exact hl

/-! ## Spellings -/

/-- What headers are called, as it is spelled. -/
def names (hs : Headers) : List String := hs.map Prod.fst

/-- All headers with this name spell it alike. -/
def SpelledOnce (hs : Headers) (name : String) : Prop :=
  ∀ a ∈ hs.names, ∀ b ∈ hs.names, sameName a name = true → sameName b name = true → a = b

theorem SpelledOnce.congr (h : ∀ k, k ∈ hs.names ↔ k ∈ own.names) :
    SpelledOnce hs name ↔ SpelledOnce own name := by
  simp only [SpelledOnce, h]

/-- **There is one header of a name at most if and only if it is spelled in one way**, where each spelling
stands once. -/
theorem length_named_le_one_iff (hn : hs.names.Nodup) :
    (named hs name).length ≤ 1 ↔ SpelledOnce hs name := by
  constructor
  · intro hlen a ha b hb hna hnb
    obtain ⟨g, hg, rfl⟩ := List.mem_map.mp ha
    obtain ⟨h, hh, rfl⟩ := List.mem_map.mp hb
    have hg' : g ∈ named hs name := mem_named.mpr ⟨hg, hna⟩
    have hh' : h ∈ named hs name := mem_named.mpr ⟨hh, hnb⟩
    obtain ⟨only, honly⟩ :=
      List.length_eq_one_iff.mp (Nat.le_antisymm hlen (List.length_pos_of_mem hg'))
    rw [honly] at hg' hh'
    rw [List.mem_singleton.mp hg', List.mem_singleton.mp hh']
  · intro honce
    have hnodup : ((named hs name).map Prod.fst).Nodup := (List.filter_sublist.map Prod.fst).nodup hn
    match hl : named hs name with
    | [] => exact Nat.zero_le 1
    | [_] => exact Nat.le_refl 1
    | g :: h :: rest =>
      have hg : g ∈ hs ∧ sameName g.1 name = true := mem_named.mp (hl ▸ List.mem_cons_self)
      have hh : h ∈ hs ∧ sameName h.1 name = true :=
        mem_named.mp (hl ▸ List.mem_cons_of_mem g List.mem_cons_self)
      have heq : g.1 = h.1 :=
        honce _ (List.mem_map_of_mem hg.1) _ (List.mem_map_of_mem hh.1) hg.2 hh.2
      rw [hl, List.map_cons, List.map_cons, heq, List.nodup_cons] at hnodup
      exact absurd List.mem_cons_self hnodup.1

/-! ## Headers over others -/

/-- A header as a field. -/
def toField (h : String × String) : String × Value := (h.1, .str h.2)

/-- A header is put over others as a field is bound. -/
theorem map_toField_set (hs : Headers) (k v : String) :
    (overlay.set hs k v).map toField = Value.insert k (.str v) (hs.map toField) := by
  induction hs with
  | nil => rfl
  | cons h hs ih =>
    obtain ⟨k', v'⟩ := h
    rw [overlay.set, List.map_cons, toField, Value.insert]
    by_cases hk : k' = k
    · subst hk
      rw [if_pos rfl, if_pos rfl]
      rfl
    · rw [if_neg hk, if_neg hk, List.map_cons, ih]
      rfl

theorem names_eq (hs : Headers) : hs.names = (hs.map toField).map Prod.fst := by
  rw [names, List.map_map]
  rfl

theorem mem_names_set : other ∈ names (overlay.set hs k v) ↔ other ∈ hs.names ∨ other = k := by
  rw [names_eq, map_toField_set, Value.keys_insert, ← names_eq]
  split
  · rename_i hk
    refine ⟨Or.inl, fun h => h.elim id ?_⟩
    rintro rfl
    exact hk
  · rw [List.mem_append, List.mem_singleton]

theorem nodup_set (h : hs.names.Nodup) (k v : String) : (names (overlay.set hs k v)).Nodup := by
  rw [names_eq] at h ⊢
  rw [map_toField_set]
  exact Value.nodup_keys_insert h

theorem mem_set_self (hs : Headers) (k v : String) : (k, v) ∈ overlay.set hs k v := by
  induction hs with
  | nil => exact List.mem_singleton_self _
  | cons h hs ih =>
    rw [overlay.set]
    split
    · exact List.mem_cons_self
    · exact List.mem_cons_of_mem _ ih

/-- Headers that are put over others have the names of both. -/
theorem mem_names_overlay :
    name ∈ names (overlay hs above) ↔ name ∈ hs.names ∨ name ∈ above.names := by
  induction above generalizing hs with
  | nil => exact (or_iff_left List.not_mem_nil).symm
  | cons h above ih =>
    have hstep : overlay hs (h :: above) = overlay (overlay.set hs h.1 h.2) above := rfl
    rw [hstep, ih, mem_names_set, or_assoc]
    exact or_congr_right List.mem_cons.symm

theorem nodup_overlay (h : hs.names.Nodup) (above : Headers) : (names (overlay hs above)).Nodup := by
  induction above generalizing hs with
  | nil => exact h
  | cons g above ih => exact ih (nodup_set h g.1 g.2)

/-- Over others stands one header of a name at most if and only if it is spelled in one way there
where it is taken from. -/
theorem length_named_supersede_le_one_iff (hn : hs.names.Nodup) (ho : own.names.Nodup) :
    (named (hs.supersede own) name).length ≤ 1 ↔
      SpelledOnce (if own.has name then own else hs) name := by
  rw [named_supersede]
  split
  · exact length_named_le_one_iff ho
  · exact length_named_le_one_iff hn

/-- **A header that is added to some is the only one of its name** if and only if these do not spell the
name in another way. -/
theorem named_supersede_overlay_iff (ho : own.names.Nodup) (hs : Headers) (name text : String) :
    (named (hs.supersede (overlay own [(name, text)])) name).map Prod.snd = [text] ↔
      ∀ other ∈ own.names, sameName other name = true → other = name := by
  have hadded : (name, text) ∈ named (overlay own [(name, text)]) name :=
    mem_named.mpr ⟨mem_set_self own name text, sameName_iff.mpr rfl⟩
  have hhas : has (overlay own [(name, text)]) name = true := has_iff.mpr ⟨_, mem_named.mp hadded⟩
  rw [named_supersede, if_pos hhas]
  have hnames (other : String) : other ∈ names (overlay own [(name, text)]) ↔
      other ∈ own.names ∨ other = name := by
    rw [mem_names_overlay]
    exact or_congr_right List.mem_singleton
  have honce : (named (overlay own [(name, text)]) name).length ≤ 1 ↔
      SpelledOnce (overlay own [(name, text)]) name := length_named_le_one_iff (nodup_overlay ho _)
  constructor
  · intro heq other hother hsame
    have hlen := congrArg List.length heq
    rw [List.length_map, List.length_singleton] at hlen
    exact honce.mp (Nat.le_of_eq hlen) other ((hnames other).mpr (.inl hother)) name
      ((hnames name).mpr (.inr rfl)) hsame (sameName_iff.mpr rfl)
  · intro hspelled
    have hname : ∀ other ∈ names (overlay own [(name, text)]), sameName other name = true →
        other = name := fun other hother hsame =>
      ((hnames other).mp hother).elim (fun h => hspelled other h hsame) id
    have hlen := honce.mpr fun a ha b hb hna hnb => (hname a ha hna).trans (hname b hb hnb).symm
    obtain ⟨only, honly⟩ :=
      List.length_eq_one_iff.mp (Nat.le_antisymm hlen (List.length_pos_of_mem hadded))
    rw [honly] at hadded ⊢
    rw [← List.mem_singleton.mp hadded]
    rfl

end Headers

/-! ## Transmissions -/

/-- What is added for a body is of other names than this one. -/
theorem named_encodeBody {body : Value} {hs own : Headers} {content : Option (List UInt8)}
    {name : String} (hn : sameName contentTypeName name = false)
    (h : encodeBody body hs = .ok (content, own)) : own.named name = hs.named name := by
  unfold encodeBody at h
  split at h
  · cases h
    rfl
  · cases h
    rfl
  · cases h
    rfl
  · split at h
    · cases h
      exact Headers.named_orElse hn hs jsonContent
    · cases h

namespace Client

variable (c : Client) {name : String} {r : Request} {t : Transmission} {content : List UInt8}
  {own : Headers}

/-- What is added on the way is of other names than this one. -/
theorem named_headersFor (hhost : sameName "Host" name = false)
    (hlength : sameName "Content-Length" name = false) (hcookie : sameName "Cookie" name = false)
    {address : Address} (method : String) (own : Headers) (content : List UInt8)
    (hcredentials : sameName "Authorization" name = true → address.authorization? = none) :
    (c.headersFor method address own content).named name = (c.headers.supersede own).named name := by
  have hadded (hs : Headers) : (hs.assign? "Authorization" address.authorization?).named name =
      hs.named name := by
    cases hn : sameName "Authorization" name with
    | false => exact Headers.named_assign? hn hs _
    | true => rw [hcredentials hn, Headers.assign?]
  unfold headersFor
  dsimp only
  rw [hadded, Headers.named_append, Headers.named_automatic hhost hlength, List.nil_append,
    Headers.named_orElse? hlength, Headers.named_orElse? hcookie]

/-- The method as it goes over the wire. -/
def wireMethod (r : Request) : String := String.ofList (r.method.toList.map Char.toUpper)

theorem dispatch_eq {timeout : Float} {address : Address} (hr : c.route r = .ok (timeout, address))
    (ha : own.checkAscii = .ok ()) (content : List UInt8) :
    c.dispatch r content own = .ok { method := wireMethod r, address
                                     headers := c.headersFor (wireMethod r) address own content
                                     content, timeout } := by
  unfold dispatch
  rw [hr, ha]
  rfl

/-- What is dispatched has the content, and the headers that go with it. -/
theorem dispatch_ok {t : Transmission} (h : c.dispatch r content own = .ok t) :
    t.content = content ∧ ∃ method, t.headers = c.headersFor method t.address own content := by
  cases hr : c.route r with
  | error e =>
    unfold dispatch at h
    rw [hr] at h
    cases h
  | ok found =>
    cases ha : own.checkAscii with
    | error e =>
      unfold dispatch at h
      rw [hr, ha] at h
      cases h
    | ok _ =>
      rw [c.dispatch_eq hr ha content] at h
      obtain rfl := Except.ok.inj h
      refine ⟨rfl, wireMethod r, ?_⟩
      dsimp only

/-- **What goes over the wire under a name** is what the request has under it, or else what the client
has, unless it is added on the way. -/
theorem named_transmission (htype : sameName contentTypeName name = false)
    (hhost : sameName "Host" name = false) (hlength : sameName "Content-Length" name = false)
    (hcookie : sameName "Cookie" name = false) (h : c.transmission r = .ok t)
    (hcredentials : sameName "Authorization" name = true → t.address.authorization? = none) :
    t.headers.named name = (c.headers.supersede r.headers).named name := by
  cases hb : encodeBody r.body r.headers with
  | error e =>
    unfold transmission at h
    rw [hb] at h
    cases h
  | ok encoded =>
    obtain ⟨content, own⟩ := encoded
    have hdispatch : c.dispatch r (content.getD []) own = .ok t := by
      unfold transmission at h
      rwa [hb] at h
    obtain ⟨-, method, hheaders⟩ := c.dispatch_ok hdispatch
    have hown := named_encodeBody htype hb
    rw [hheaders, c.named_headersFor hhost hlength hcookie method own _ hcredentials,
      Headers.named_supersede, Headers.named_supersede, Headers.has_eq_named own, hown,
      ← Headers.has_eq_named]

end Client

end SuiteEngine.Http
