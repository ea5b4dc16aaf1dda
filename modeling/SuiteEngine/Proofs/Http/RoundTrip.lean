import SuiteEngine.Http.Client
import SuiteEngine.Proofs.Document.Nearest
import SuiteEngine.Proofs.Http.Headers
import SuiteEngine.Proofs.Json.Printed
import SuiteEngine.Proofs.Text.Utf8

/-!
# Bodies that come back as they were sent

A body that is neither absent nor a text nor bytes is sent as JSON. A reply with the very bytes of a
request, said to be JSON, has as its body the nearest value that JSON has a form for: the text is JSON,
the decoder reads the bytes as this text, and the reader reads the text as this value.

Headlines:
* `printable_jsonable`: the nearest value can be printed, if its integers are not too long.
* `jsonText?_encode`: the bytes of JSON text are taken for UTF-8.
* `Reply.body_of_written`: the body of a reply that is JSON.
* `typed_headersFor`: which kind of content is named on the wire.
* **`transmission_roundTrip`**: what is sent for such a body, and what comes back.
-/

namespace SuiteEngine

/-! ## The nearest value of JSON -/

namespace Value

/-- What values in memory are: an object binds each key once. Of floats it is asked that what is
printed for them reads back. -/
def IsFaithfulPart : Value → Prop
  | obj fs => (fs.map Prod.fst).Nodup
  | float x => x.isNaN = false → x.isInf = false → Json.parse (floatText x) = .ok (.float x)
  | _ => True

theorem writable_item {xs : List Value} (h : Json.writable (list xs) = true) {x : Value}
    (hx : x ∈ xs) : Json.writable x = true :=
  (holdsEverywhere_iff.mp h).2.1 xs rfl x hx

theorem writable_field {fs : List (String × Value)} (h : Json.writable (obj fs) = true)
    {f : String × Value} (hf : f ∈ fs) : Json.writable f.2 = true :=
  (holdsEverywhere_iff.mp h).2.2 f hf

/-- The items of an array can be printed if the array can. -/
theorem printable_items {xs : List Value} (hw : Json.writable (list (jsonableItems xs)) = true)
    (h : ∀ x ∈ xs, Json.writable x.jsonable = true →
      Everywhere Json.IsPrintablePart x.jsonable) :
    Everywhere Json.IsPrintablePart (list (jsonableItems xs)) := by
  rw [jsonableItems_eq] at hw ⊢
  refine Everywhere.ofList trivial fun y hy => ?_
  obtain ⟨x, hx, rfl⟩ := List.mem_map.mp hy
  exact h x hx (writable_item hw hy)

/-- **The nearest value can be printed**, if its integers are not too long. -/
theorem printable_jsonable {v : Value} (h : Everywhere IsFaithfulPart v)
    (hw : Json.writable v.jsonable = true) : Everywhere Json.IsPrintablePart v.jsonable := by
  induction h with
  | @intro v here _ _ ihi ihf =>
    cases v with
    | missing => exact Everywhere.leaf trivial rfl rfl
    | null => exact Everywhere.leaf trivial rfl rfl
    | bool b => exact Everywhere.leaf trivial rfl rfl
    | int n => exact Everywhere.leaf hw rfl rfl
    | str s => exact Everywhere.leaf trivial rfl rfl
    | bytes b => exact Everywhere.leaf trivial rfl rfl
    | float x =>
      rw [jsonable]
      by_cases hx : (x.isNaN || x.isInf) = true
      · rw [if_pos hx]
        exact Everywhere.leaf trivial rfl rfl
      · rw [if_neg hx]
        have hfin : x.isNaN = false ∧ x.isInf = false := by simpa using hx
        exact Everywhere.leaf ⟨hfin.1, hfin.2, here hfin.1 hfin.2⟩ rfl rfl
    | list xs => exact printable_items hw fun x hx => ihi xs rfl x hx
    | tuple xs => exact printable_items hw fun x hx => ihi xs rfl x hx
    | obj fs =>
      rw [jsonable, jsonableFields_eq] at hw ⊢
      have hnodup : ((fs.filter fun f => !f.2.isMissing).map Prod.fst).Nodup :=
        (List.filter_sublist.map Prod.fst).nodup here
      refine Everywhere.ofFields ?_ fun g hg => ?_
      · simpa only [Json.IsPrintablePart, List.map_map, Function.comp_def] using hnodup
      · obtain ⟨f, hf, rfl⟩ := List.mem_map.mp hg
        exact ihf f (List.mem_filter.mp hf).1 (writable_field hw hg)

/-- What can be printed is a JSON value. -/
theorem isJson_of_printable {v : Value} (h : Everywhere Json.IsPrintablePart v) : v.IsJson := by
  refine h.imp fun w hw => ?_
  cases w with
  | missing => exact hw
  | bytes b => exact hw
  | tuple xs => exact hw
  | float x => exact hw.1
  | obj fs => exact hw
  | _ => trivial

end Value

namespace Http

/-! ## Replies in JSON -/

theorem Charset.jsonMarks_head : ∀ m ∈ jsonMarks, ∃ b ∈ m.1.head?, b = 0 ∨ 0x80 ≤ b := by
  decide

/-- Where no byte is zero, the zeros show nothing. -/
theorem Charset.ofZeros_utf8 {bytes : List UInt8} (hz : ∀ b ∈ bytes, b ≠ 0) :
    ofZeros bytes = .utf8 := by
  unfold ofZeros
  split
  · rename_i a b c d rest
    have ha : a ≠ 0 := hz a (by simp)
    have hb : b ≠ 0 := hz b (by simp)
    rw [if_neg (by simpa using ha), if_neg (by simpa using hb)]
  · rename_i a b
    have ha : a ≠ 0 := hz a (by simp)
    have hb : b ≠ 0 := hz b (by simp)
    rw [if_neg (by simpa using ha), if_neg (by simpa using hb)]
  · rfl

/-- Bytes that begin in ASCII and have no zero among them are taken for UTF-8. -/
theorem Charset.ofJson_utf8 {bytes : List UInt8} (hf : ∀ b ∈ bytes.head?, b < 0x80)
    (hz : ∀ b ∈ bytes, b ≠ 0) : Charset.ofJson bytes = .utf8 := by
  have hnone : (jsonMarks.find? fun m => m.1.isPrefixOf bytes) = none := by
    refine List.find?_eq_none.mpr fun m hm hp => ?_
    obtain ⟨b, hb, hlead⟩ := jsonMarks_head m hm
    obtain ⟨rest, hrest⟩ := List.isPrefixOf_iff_prefix.mp hp
    have hhead : b ∈ bytes.head? := by
      rw [← hrest, List.head?_append, Option.mem_def.mp hb]
      exact Option.mem_some_self b
    rcases hlead with h0 | hhigh
    · exact hz b (List.mem_of_mem_head? hhead) h0
    · exact absurd (hf b hhead) (UInt8.not_lt.mpr hhigh)
  unfold ofJson
  rw [hnone]
  exact ofZeros_utf8 hz

/-- JSON text begins with a byte of ASCII, and no byte of it is zero. -/
theorem encode_written {s : String} {v : Value} (h : Json.Written s.toList v) :
    ∃ first rest, Text.encode s = first :: rest ∧ first < 0x80 ∧ ∀ b ∈ first :: rest, b ≠ 0 := by
  obtain ⟨d, ds, hs, hd⟩ := h.head_lt
  have hz : ∀ c ∈ s.toList, c.val.toNat ≠ 0 := fun c hc h0 =>
    h.ne_zero c hc (Char.ext (UInt32.toNat_inj.mp h0))
  exact Text.encode_ascii_head hs hd hz

/-- The bytes of JSON text are read as this text. -/
theorem jsonText?_encode {s : String} {v : Value} (h : Json.Written s.toList v) :
    jsonText? (Text.encode s) = some s := by
  obtain ⟨first, rest, he, hfirst, hne⟩ := encode_written h
  have hutf : Charset.ofJson (Text.encode s) = .utf8 := by
    rw [he]
    exact Charset.ofJson_utf8 (fun b hb => Option.some.inj hb ▸ hfirst) hne
  unfold jsonText?
  rw [hutf]
  unfold Charset.decode?
  rw [Text.decode_encode]
  rfl

/-- **The body of a reply that is JSON.** -/
theorem Reply.body_of_written {p : Reply} {s : String} {v : Value} (h : Json.Written s.toList v)
    (hc : p.content = Text.encode s)
    (hm : mentions jsonContent ((p.headers.joined.find? contentTypeName).getD "") = true) :
    p.body = .ok v := by
  have hne : p.content.isEmpty = false := by
    obtain ⟨first, rest, he, -, -⟩ := encode_written h
    rw [hc, he]
    rfl
  have hj : p.json? (p.headers.joined.find? contentTypeName) = some v := by
    unfold Reply.json?
    rw [hm, hne, hc, jsonText?_encode h]
    simp [Json.parse_of_written h, guard, Except.toOption]
  unfold Reply.body
  dsimp only
  rw [hj]

/-! ## The kind of content on the wire -/

namespace Headers

/-- The headers that name the kind of content. -/
def typed (hs : Headers) : Headers := hs.filter fun h => sameName h.1 contentTypeName

theorem typed_eq_named (hs : Headers) : typed hs = hs.named contentTypeName := rfl

/-- The kind of content that a request names, else that of JSON. -/
theorem typed_encoded (hs : Headers) :
    typed (hs.orElse contentTypeName jsonContent) =
      if has hs contentTypeName then typed hs else [(contentTypeName, jsonContent)] := by
  unfold orElse
  by_cases h : has hs contentTypeName = true
  · rw [if_pos h, if_pos h]
  · rw [if_neg h, if_neg h, typed_eq_named, named_append, named_eq_nil (by simpa using h),
      List.nil_append]
    rfl

theorem has_encoded (hs : Headers) :
    has (hs.orElse contentTypeName jsonContent) contentTypeName = true := by
  unfold orElse
  by_cases h : has hs contentTypeName = true
  · rw [if_pos h, h]
  · rw [if_neg h]
    exact has_iff.mpr ⟨(contentTypeName, jsonContent), by simp, sameName_iff.mpr rfl⟩

/-- A header in ASCII does not change whether all are. -/
theorem checkAscii_encoded (hs : Headers) :
    checkAscii (hs.orElse contentTypeName jsonContent) = checkAscii hs := by
  unfold orElse
  by_cases h : has hs contentTypeName = true
  · rw [if_pos h]
  · rw [if_neg h]
    unfold checkAscii
    have hnone : ((Text.asciiFault? contentTypeName).or (Text.asciiFault? jsonContent)) = none := by
      decide
    rw [List.findSome?_append]
    simp [hnone]

end Headers

/-! ## Transmissions -/

/-- Whether a body is sent as JSON: objects, arrays, numbers and truth values are. -/
def isDocument : Value → Bool
  | .obj _ => true
  | .list _ => true
  | .tuple _ => true
  | .int _ => true
  | .float _ => true
  | .bool _ => true
  | _ => false

theorem encodeBody_document {body : Value} (h : isDocument body = true) (hs : Headers) :
    encodeBody body hs =
      if Json.writable body.jsonable then
        .ok (some (Text.encode (Json.render .line body.jsonable)),
          hs.orElse contentTypeName jsonContent)
      else .error longInteger := by
  cases body with
  | missing => cases h
  | null => cases h
  | str s => cases h
  | bytes b => cases h
  | _ => rfl

/-- What is sent is the nearest value of JSON, written strictly. -/
theorem encodeBody_dump {body : Value} (h : isDocument body = true) (hs : Headers) :
    encodeBody body hs = (Json.dump none body.jsonable).map fun text =>
      (some (Text.encode text), hs.orElse contentTypeName jsonContent) := by
  rw [encodeBody_document h, Json.dump_jsonable]
  simp only [Value.writable_iff, Value.isShort_jsonable]
  split
  · rfl
  · rfl

/-- Any other body can be sent. -/
theorem encodeBody_other {body : Value} (h : isDocument body = false) (hs : Headers) :
    ∃ sent, encodeBody body hs = .ok sent := by
  cases body with
  | missing | null | str s | bytes b => exact ⟨_, rfl⟩
  | _ => cases h

namespace Client

variable (c : Client) {r r' : Request} {content content' : List UInt8} {own own' : Headers}

/-- On the wire stands the kind of content that the request names, if it names one. -/
theorem typed_headersFor (h : own.has contentTypeName = true) (method : String) (address : Address)
    (content : List UInt8) :
    Headers.typed (c.headersFor method address own content) = Headers.typed own := by
  have hother : sameName "Authorization" contentTypeName = true → address.authorization? = none :=
    fun hs => absurd hs (by decide)
  rw [Headers.typed_eq_named, c.named_headersFor (by decide) (by decide) (by decide) method own content
    hother, Headers.named_supersede, if_pos h]
  rfl

/-- What goes wrong is not due to the content. -/
theorem dispatch_error_iff (hr : c.route r = c.route r') (ha : own.checkAscii = own'.checkAscii)
    (f : Failure) :
    c.dispatch r content own = .error f ↔ c.dispatch r' content' own' = .error f := by
  cases hr' : c.route r' with
  | error e =>
    unfold dispatch
    rw [hr, hr', ha]
    exact Iff.rfl
  | ok found =>
    cases ha' : own'.checkAscii with
    | error e =>
      unfold dispatch
      rw [hr, hr', ha, ha']
      exact Iff.rfl
    | ok _ =>
      rw [c.dispatch_eq (hr.trans hr') (ha.trans ha') content, c.dispatch_eq hr' ha' content']
      constructor
      · intro h
        cases h
      · intro h
        cases h

/-- The response that a reply is, unless the reply itself is at fault. -/
theorem receive_ok {t : Transmission} {p : Reply} {v : Value} (hb : p.body = .ok v)
    (ha : p.headers.checkAscii = .ok ()) (hs : t.address.scheme ≠ "")
    (hl : p.badLocation? = none) (milliseconds : Float) :
    ∃ response, receive r t p milliseconds = .ok response ∧ response.body = v := by
  have hscheme : (t.address.scheme == "") = false := beq_eq_false_iff_ne.mpr hs
  unfold receive
  rw [ha, hl, hb, hscheme]
  exact ⟨_, rfl, rfl⟩

/-- **Bodies come back as they were sent.** An object, an array, a number or a truth value cannot be
sent if one of its integers is too long, and otherwise is sent as what has no body is. What is sent
is JSON text for the nearest value of JSON; the headers name the kind of content that the request names,
or JSON if it names none. A reply that has these bytes and is said to be JSON has this value as its
body, so the response to the request has it. -/
theorem transmission_roundTrip (hd : isDocument r.body = true)
    (hb : r.body.Everywhere Value.IsFaithfulPart) :
    (Json.writable r.body.jsonable = false → c.transmission r = .error longInteger) ∧
    (Json.writable r.body.jsonable = true → ∀ f, c.transmission r = .error f ↔
      c.transmission { r with body := .null } = .error f) ∧
    ∀ t, c.transmission r = .ok t →
      (∃ text, t.content = Text.encode text ∧ Json.Written text.toList r.body.jsonable) ∧
      Headers.typed t.headers = (if r.headers.has contentTypeName then Headers.typed r.headers
        else [(contentTypeName, jsonContent)]) ∧
      ∀ p : Reply, p.content = t.content →
        mentions jsonContent ((p.headers.joined.find? contentTypeName).getD "") = true →
        p.body = .ok r.body.jsonable ∧
        (p.headers.checkAscii = .ok () → t.address.scheme ≠ "" → p.badLocation? = none →
          ∀ milliseconds, ∃ response, receive r t p milliseconds = .ok response ∧
            response.body.deepEqual r.body.jsonable = true) := by
  have hsend : c.transmission r = (encodeBody r.body r.headers).bind fun e =>
    c.dispatch r (e.1.getD []) e.2 := rfl
  have hnone : c.transmission { r with body := .null } =
    c.dispatch { r with body := .null } [] r.headers := rfl
  rw [encodeBody_document hd] at hsend
  cases hw : Json.writable r.body.jsonable with
  | false =>
    rw [hw] at hsend
    have hfail : c.transmission r = .error longInteger := hsend
    refine ⟨fun _ => hfail, fun h => Bool.noConfusion h, fun t ht => ?_⟩
    rw [hfail] at ht
    cases ht
  | true =>
    rw [hw] at hsend
    have hdispatch : c.transmission r =
        c.dispatch r (Text.encode (Json.render .line r.body.jsonable))
          (r.headers.orElse contentTypeName jsonContent) := hsend
    have hprint := Value.printable_jsonable hb hw
    have hwritten : Json.Written (Json.render .line r.body.jsonable).toList r.body.jsonable :=
      Json.written_render hprint 0
    refine ⟨fun h => Bool.noConfusion h, fun _ f => ?_, fun t ht => ?_⟩
    · rw [hdispatch, hnone]
      exact c.dispatch_error_iff rfl (Headers.checkAscii_encoded r.headers) f
    · rw [hdispatch] at ht
      obtain ⟨hcontent, method, hheaders⟩ := c.dispatch_ok ht
      refine ⟨⟨_, hcontent, hwritten⟩, ?_, fun p hp hm => ?_⟩
      · rw [hheaders, c.typed_headersFor (Headers.has_encoded r.headers), Headers.typed_encoded]
      · have hbody : p.body = .ok r.body.jsonable :=
          p.body_of_written hwritten (hp.trans hcontent) hm
        refine ⟨hbody, fun ha hs hl milliseconds => ?_⟩
        obtain ⟨response, hr, hv⟩ := receive_ok (r := r) hbody ha hs hl milliseconds
        refine ⟨response, hr, ?_⟩
        rw [hv]
        exact Value.deepEqual_refl (Value.isJson_of_printable hprint)

/-- A shop's orders, with what JSON has no form for. -/
def orderBody : Value :=
  .obj [("lines", .tuple [.missing, .float 1.5, .bytes [104, 105]]), ("gone", .missing),
    ("limit", .float (0.0 / 0.0)), ("total", .int (-30))]

/-- A client of the shop. -/
def shop : Client :=
  { base := { scheme := "http", user := "", host := "shop", port := none, path := "/", query := none
              fragment := none }
    headers := [("Accept", "text/plain")], timeout := 5.0, jar := [] }

/-- The request that places the orders. -/
def orderRequest : Request :=
  { method := "post", url := "/orders", headers := [("X-Trace", "1")], body := orderBody
    timeout := none }

theorem orderBody_faithful : orderBody.Everywhere Value.IsFaithfulPart := by
  have hfloat : Value.Everywhere Value.IsFaithfulPart (.float 1.5) :=
    .leaf (fun _ _ => rfl) rfl rfl
  have hnan : Value.Everywhere Value.IsFaithfulPart (.float (0.0 / 0.0)) :=
    .leaf (fun h => absurd h (by decide)) rfl rfl
  have hlines : Value.Everywhere Value.IsFaithfulPart
      (.tuple [.missing, .float 1.5, .bytes [104, 105]]) := by
    refine .intro trivial (fun xs hxs x hx => ?_) fun f hf => absurd hf List.not_mem_nil
    obtain rfl := Option.some.inj hxs
    simp only [List.mem_cons, List.not_mem_nil, or_false] at hx
    rcases hx with rfl | rfl | rfl
    · exact .leaf trivial rfl rfl
    · exact hfloat
    · exact .leaf trivial rfl rfl
  have hkeys : ["lines", "gone", "limit", "total"].Nodup := by decide
  refine .ofFields hkeys fun f hf => ?_
  simp only [List.mem_cons, List.not_mem_nil, or_false] at hf
  rcases hf with rfl | rfl | rfl | rfl
  · exact hlines
  · exact .leaf trivial rfl rfl
  · exact hnan
  · exact .leaf trivial rfl rfl

/-- The orders as they come back: as they were sent, to the client that sent them. -/
theorem transmission_roundTrip_order :
    isDocument orderRequest.body = true ∧
      orderRequest.body.Everywhere Value.IsFaithfulPart ∧
      ∃ t response, shop.transmission orderRequest = .ok t ∧
        Headers.typed t.headers = [(contentTypeName, jsonContent)] ∧
        receive orderRequest t ⟨200, [("content-type", "application/json")], t.content⟩ 1.0 =
          .ok response ∧
        response.body.deepEqual orderRequest.body.jsonable = true := by
  have hb : orderRequest.body.Everywhere Value.IsFaithfulPart := orderBody_faithful
  obtain ⟨-, -, hsent⟩ := transmission_roundTrip shop rfl hb
  have hscheme : (shop.transmission orderRequest).toOption.map (·.address.scheme) = some "http" :=
    rfl
  cases ht : shop.transmission orderRequest with
  | error e =>
    rw [ht] at hscheme
    cases hscheme
  | ok t =>
    rw [ht] at hscheme
    obtain ⟨-, hkind, hreply⟩ := hsent t ht
    have hs : t.address.scheme ≠ "" := by
      have hhttp : t.address.scheme = "http" := Option.some.inj hscheme
      rw [hhttp]
      decide
    have hmentions : mentions jsonContent
        (((Headers.joined [("content-type", "application/json")]).find? contentTypeName).getD "")
          = true := by
      decide
    obtain ⟨-, hreceive⟩ :=
      hreply ⟨200, [("content-type", "application/json")], t.content⟩ rfl hmentions
    obtain ⟨response, hr, hv⟩ := hreceive (by rfl) hs rfl 1.0
    exact ⟨rfl, hb, t, response, rfl, hkind, hr, hv⟩

end Client

end Http

end SuiteEngine
