import SuiteEngine.Proofs.Document.Filled
import SuiteEngine.Proofs.Run.ApiSuite
import SuiteEngine.Proofs.Suite.Accepted

/-!
# Variables that a suite declares

A suite declares the variable that its setup request leaves a token in, and each of its tests those that
are injected into it. A placeholder has to have a name of word characters. Where the name of a variable
is one, its placeholder gives way to the value wherever it stands in a test; where it is not, nothing
ever looks at the value.

The schema lets through both kinds. What the setup leaves a token in is a name, but for a line break
that may stand behind it; what is injected can have any name.

Headlines:
* `Placeholder.interpolateFrom_surrounded`: a placeholder is filled in wherever it stands.
* `extracted_name`: the names that the schema lets through for a token.
* `tryApiCase_request`: the request of an attempt, whoever answers.
* **`declared_usable`**: a variable that is declared can be used if and only if it has a name.
-/

namespace SuiteEngine

/-! ## A placeholder among other text -/

namespace Placeholder

variable {vars : Variables} {name a b : List Char} {ps qs : List Piece}

/-- A text with a placeholder in it is read as what is before it, the placeholder, and what is behind. -/
theorem Reads.surround (h : Reads a ps) (hn : IsName name) (h' : Reads b qs) :
    Reads (a ++ (written name ++ b)) (ps ++ .placeholder name :: qs) := by
  induction h with
  | nil => exact .placeholder hn h'
  | @char c s ps hc _ ih =>
    refine .char ?_ ih
    rintro ⟨other, rest, ho, he⟩
    have he : written other ++ rest = (c :: s) ++ (written name ++ b) := he.symm
    rcases written_separate ho he with h | ⟨between, rfl⟩
    · cases h
    · rw [← List.append_assoc] at he
      exact hc ⟨other, between, ho, (List.append_cancel_right he).symm⟩
  | @placeholder other s ps ho _ ih =>
    rw [List.append_assoc]
    exact .placeholder ho ih

/-- **A placeholder is filled in wherever it stands**, and what is around it as if it were not there. -/
theorem interpolateFrom_surrounded (hn : IsName name) :
    interpolateFrom vars 0 (a ++ (written name ++ b)) =
      interpolateFrom vars 0 a ++ (shown vars name ++ interpolateFrom vars 0 b) := by
  obtain ⟨ps, hps⟩ := exists_reads a
  obtain ⟨qs, hqs⟩ := exists_reads b
  rw [(hps.surround hn hqs).interpolateFrom, hps.interpolateFrom, hqs.interpolateFrom,
    List.flatMap_append, List.flatMap_cons]
  rfl

end Placeholder

/-- The placeholder of a variable. -/
def placeholderOf (name : String) : String := "\x7b\x7b" ++ name ++ "\x7d\x7d"

/-- The placeholder gives way to the value, whatever stands around it. -/
def Replaced (vars : Variables) (name value : String) : Prop :=
  ∀ before after : String,
    interpolateText vars (before ++ placeholderOf name ++ after) =
      interpolateText vars before ++ value ++ interpolateText vars after

/-- Nothing is filled in otherwise, whatever the variable is bound to. -/
def Ignored (vars : Variables) (name : String) : Prop :=
  ∀ vars' : Variables, (∀ other ≠ name, vars'.text? other = vars.text? other) →
    (∀ s, interpolateText vars' s = interpolateText vars s) ∧
      ∀ v : Value, v.interpolate vars' = v.interpolate vars

theorem replaced_of_isName {vars : Variables} {name value : String}
    (hn : Placeholder.IsName name.toList) (hv : vars.text? name = some value) :
    Replaced vars name value := by
  intro before after
  have hwritten : (before ++ placeholderOf name ++ after).toList =
      before.toList ++ (Placeholder.written name.toList ++ after.toList) := by
    simp [placeholderOf, Placeholder.written]
  have hshown : Placeholder.shown vars name.toList = value.toList := by
    rw [Placeholder.shown, String.ofList_toList, hv]
  rw [interpolateText, hwritten, Placeholder.interpolateFrom_surrounded hn, hshown, interpolateText,
    interpolateText, String.ofList_append, String.ofList_append, String.ofList_toList,
    String.append_assoc]

theorem ignored_of_not_isName {vars : Variables} {name : String}
    (hn : ¬ Placeholder.IsName name.toList) : Ignored vars name := by
  intro vars' h
  have hvalue (v : Value) : v.interpolate vars' = v.interpolate vars :=
    Value.interpolate_congr fun other hm => h other fun he => hn (he ▸ hm.1)
  exact ⟨fun s => Value.str.inj (hvalue (.str s)), hvalue⟩

/-! ## Names that the schema lets through -/

namespace Suite

open Schema (Accepted)

variable {document v : Value} {suite : ApiSuite}

/-- What a token can be left in: a name, or a name with a line break behind it. -/
def IsTokenName (s : String) : Prop :=
  ∃ name, Placeholder.IsName name ∧ (s.toList = name ∨ s.toList = name ++ ['\n'])

/-- Whether the pattern is one stretch of word characters. -/
def isWordStretch (p : Pattern) : Bool :=
  match p.nodes with
  | [.anchor .lineStart, .repetition .greedy 1 none [.set false [.category false .word]],
      .anchor .lineEnd] => p.flags == .none
  | _ => false

/-- The pattern for variables is read as one stretch of word characters. -/
theorem wordPattern_parse {p : Pattern} (h : Pattern.parse "^\\w+$" = .ok p) :
    p.nodes = Pattern.wholeLine false [.category false .word] ∧ p.flags = .none := by
  have hc : (Pattern.parse "^\\w+$").toOption.any isWordStretch = true := by decide +kernel
  rw [h] at hc
  change isWordStretch p = true at hc
  unfold isWordStretch at hc
  split at hc
  · rename_i hn
    exact ⟨hn, by simpa using hc⟩
  · cases hc

theorem takes_word (c : Char) :
    (Pattern.Node.set false [.category false .word]).takes .none c = Text.isWord c := by
  simp [Pattern.Node.takes, Pattern.SetItem.holds, Pattern.Category.holds, Pattern.Flags.none,
    Pattern.Flags.wide]

theorem isTokenName_of_accepted
    (h : Accepted .api (.obj [("type", .str "string"), ("pattern", .str "^\\w+$")]) v) :
    ∃ s, v = .str s ∧ IsTokenName s := by
  obtain ⟨s, rfl⟩ := isText_of_accepted h rfl rfl
  obtain ⟨p, hparse, hs⟩ := h.pattern rfl rfl
  obtain ⟨hn, hf⟩ := wordPattern_parse hparse
  obtain ⟨name, hne, hword, hname⟩ := Pattern.search_wholeLine hn (by rw [hf]; rfl) hs
  exact ⟨s, rfl, name, ⟨hne, fun c hc => by rw [← takes_word, ← hf]; exact hword c hc⟩, hname⟩

/-- What the schema of API documents says of the variable that a token is left in. -/
theorem tokenName_of_accepted (h : Accepted .api ApiSchema.document document) :
    Optional (fun call => Optional (fun extraction =>
      Optional (fun v => ∃ s, v = .str s ∧ IsTokenName s) extraction "as") call "extractToken")
      document "setup" :=
  optional_of_accepted h rfl fun _ hcall =>
    optional_of_accepted (api_definition "setupCall" hcall (by decide +kernel) rfl ⟨rfl, rfl⟩) rfl
      fun _ hextraction => optional_of_accepted hextraction rfl fun _ => isTokenName_of_accepted

/-- What is read from a part that may be left out is read from a part that is there. -/
theorem mapM_eq_ok_some {ε α β : Type} {f : α → Except ε β} {o : Option α} {b : β}
    (h : o.mapM f = .ok (some b)) : ∃ a, o = some a ∧ f a = .ok b := by
  cases o with
  | none => cases h
  | some a =>
    rw [Option.mapM_some] at h
    cases ha : f a with
    | error e =>
      rw [ha] at h
      cases h
    | ok b' =>
      rw [ha] at h
      cases h
      exact ⟨a, rfl, ha⟩

theorem setup_of_ofDocument {call : SideCall} (h : ApiSuite.ofDocument document = .ok suite)
    (hs : suite.setup = some call) :
    ∃ v, document.get? "setup" = some v ∧ SideCall.ofDocument v = .ok call := by
  simp only [ApiSuite.ofDocument, bind_eq_ok] at h
  obtain ⟨_, -, _, -, _, -, _, -, _, -, _, -, setup, hsetup, _, -, h⟩ := h
  cases h
  obtain rfl : setup = some call := hs
  obtain ⟨v, hv, hcall⟩ := mapM_eq_ok_some hsetup
  exact ⟨v, filled?_eq_some hv, hcall⟩

theorem extraction_of_ofDocument {call : SideCall} {e : TokenExtraction}
    (h : SideCall.ofDocument v = .ok call) (he : call.extractToken = some e) :
    ∃ w, v.get? "extractToken" = some w ∧ TokenExtraction.ofDocument w = .ok e := by
  simp only [SideCall.ofDocument, bind_eq_ok] at h
  obtain ⟨_, -, _, -, _, -, _, -, extraction, hextraction, h⟩ := h
  cases h
  obtain rfl : extraction = some e := he
  obtain ⟨w, hw, hread⟩ := mapM_eq_ok_some hextraction
  exact ⟨w, filled?_eq_some hw, hread⟩

theorem injection_of_ofDocument {c : ApiCase} (h : ApiCase.ofDocument v = .ok c) :
    fields v "dataInjection" = .ok c.dataInjection := by
  simp only [ApiCase.ofDocument, bind_eq_ok] at h
  obtain ⟨_, -, _, -, _, -, _, -, _, -, _, -, _, -, injected, hinjected, h⟩ := h
  cases h
  exact hinjected

theorem needText_eq_ok {name s : String} (h : needText v name = .ok s) :
    ∃ w, v.get? name = some w ∧ w.text = s := by
  unfold needText need at h
  cases v with
  | obj fs =>
    dsimp only at h
    cases hw : Value.lookup name fs with
    | none =>
      rw [hw] at h
      cases h
    | some w =>
      rw [hw] at h
      exact ⟨w, hw, Except.ok.inj h⟩
  | _ => cases h

/-- **A token is left in a name**, but for a line break behind it. -/
theorem extracted_name {call : SideCall} {e : TokenExtraction}
    (haccepted : Kind.api.issues document = .ok []) (h : ApiSuite.ofDocument document = .ok suite)
    (hs : suite.setup = some call) (he : call.extractToken = some e) :
    IsTokenName e.variableName := by
  obtain ⟨v, hv, hcall⟩ := setup_of_ofDocument h hs
  obtain ⟨w, hw, hread⟩ := extraction_of_ofDocument hcall he
  simp only [TokenExtraction.ofDocument, bind_eq_ok] at hread
  obtain ⟨_, -, name, hname, hread⟩ := hread
  cases hread
  obtain ⟨x, hx, rfl⟩ := needText_eq_ok hname
  obtain ⟨s, rfl, hs⟩ := tokenName_of_accepted (Schema.accepted_of_issues haccepted) v hv w hw x hx
  exact hs

/-- What is injected into a test is a text under any name. -/
theorem injected_text {c : ApiCase} (haccepted : Kind.api.issues document = .ok [])
    (h : ApiSuite.ofDocument document = .ok suite) (hc : c ∈ suite.tests) :
    ∀ f ∈ c.dataInjection, IsText f.2 := by
  obtain ⟨suite', h', htests, hreads⟩ := api_accepted_reads haccepted
  obtain rfl : suite' = suite := Except.ok.inj (h'.symm.trans h)
  obtain ⟨_, hxs, xs, rfl, hshapes⟩ :=
    (ApiSuiteShape.of_accepted (Schema.accepted_of_issues haccepted)).tests
  obtain rfl := Value.list.inj (Option.some.inj (hxs.symm.trans htests))
  have hshape := hshapes c.document (List.mem_map.mpr ⟨c, hc, rfl⟩)
  obtain ⟨fs, hfs, hinjected, -⟩ := fields_reads hshape.dataInjection fun _ => IsMap.isObject
  obtain rfl := Except.ok.inj (hinjected.symm.trans (injection_of_ofDocument (hreads c hc).2.plain))
  intro f hf
  rcases hfs with hnil | ⟨gs, hgs, htexts⟩
  · rw [hnil] at hf
    cases hf
  · rw [Value.obj.inj hgs] at hf
    exact htexts f hf

end Suite

/-! ## Values -/

namespace Run

open Host (Log Trial)
open Host.Fallible (Exchange)
open Report (Attachment)
open Suite (ApiCase ApiSuite IsTokenName Kind SideCall TokenExtraction)

variable {config : Config} {suite : ApiSuite} {p : Preparation} {c : ApiCase} {auth setup log : Log}
  {headers : Http.Headers} {name value : String}

/-- The variables that are declared for a test. -/
def declaredNames (suite : ApiSuite) (c : ApiCase) : List String :=
  ((suite.setup.bind SideCall.extractToken).map TokenExtraction.variableName).toList
    ++ c.dataInjection.map Prod.fst

/-- The value of a variable that is declared for a test: what is injected comes before the token in the
answer to the setup request, which is in this log. -/
inductive HasValue (config : Config) (headers : Http.Headers) (suite : ApiSuite) (setup : Log)
    (c : ApiCase) : (name value : String) → Prop
  | injected {name value : String} (h : (name, .str value) ∈ c.dataInjection) :
      HasValue config headers suite setup c name value
  | extracted {call : SideCall} {e : TokenExtraction} {response : Http.Response} {token : String}
      (hs : suite.setup = some call) (he : call.extractToken = some e)
      (hx : Exchange (clientContext config headers none) (sideRequest config call []) setup
        (.ok response))
      (ht : (response.body.deepGet e.fromPath).str? = some token)
      (hn : e.variableName ∉ c.dataInjection.map Prod.fst) :
      HasValue config headers suite setup c e.variableName token

/-- The log of an exchange says how it went. -/
theorem exchange_unique {context : Host.ClientContext} {request : Http.Request}
    {r r' : Except Failure Http.Response} (h : Exchange context request log r)
    (h' : Exchange context request log r') : r = r' := by
  cases h with
  | refused f =>
    cases h'
    rfl
  | answered r =>
    cases h'
    rfl

/-- Where the setup succeeded, every variable that is declared has a value. -/
theorem exists_hasValue {left : Variables}
    (hs : SetUp config headers suite.setup setup (.ok left))
    (ht : ∀ f ∈ c.dataInjection, Suite.IsText f.2) (hn : name ∈ declaredNames suite c) :
    ∃ value, HasValue config headers suite setup c name value := by
  by_cases hi : name ∈ c.dataInjection.map Prod.fst
  · obtain ⟨⟨k, v⟩, hf, rfl⟩ := List.mem_map.mp hi
    obtain ⟨value, rfl⟩ : ∃ value, v = .str value := ht _ hf
    exact ⟨value, .injected hf⟩
  · rcases List.mem_append.mp hn with hn | hn
    · obtain ⟨e, he, rfl⟩ := Option.map_eq_some_iff.mp (Option.mem_toList.mp hn)
      obtain ⟨call, hcall, he⟩ := Option.bind_eq_some_iff.mp he
      generalize hsetup : suite.setup = declared at hs
      cases hs with
      | undeclared => cases hsetup.symm.trans hcall
      | token hx _ he' ht =>
        obtain rfl := Option.some.inj (hsetup.symm.trans hcall)
        obtain rfl := Option.some.inj (he'.symm.trans he)
        exact ⟨_, .extracted hsetup he' hx ht hi⟩
      | done _ _ he' =>
        obtain rfl := Option.some.inj (hsetup.symm.trans hcall)
        cases he'.symm.trans he
    · exact absurd hn hi

/-- **A variable that is declared is bound to its value.** -/
theorem HasValue.bound {left : Variables}
    (hs : SetUp config headers suite.setup setup (.ok left))
    (hd : (c.dataInjection.map Prod.fst).Nodup)
    (h : HasValue config headers suite setup c name value) :
    (left.merge c.dataInjection).text? name = some value := by
  rw [text?_merge hd]
  cases h with
  | injected h =>
    rw [if_pos (List.mem_map.mpr ⟨_, h, rfl⟩), Variables.text?, Value.lookup_of_mem hd h]
    rfl
  | @extracted call e response token hcall he hx ht hn =>
    rw [if_neg hn]
    rw [hcall] at hs
    cases hs with
    | token hx' _ he' ht' =>
      obtain rfl := Except.ok.inj (exchange_unique hx hx')
      obtain rfl := Option.some.inj (he.symm.trans he')
      obtain rfl := Option.some.inj (ht.symm.trans ht')
      rw [Variables.text?, Value.lookup, if_pos rfl]
      rfl
    | done _ _ he' => cases he.symm.trans he'

/-! ## Requests -/

/-- **An attempt at a test that can be read makes its request**, whoever answers. -/
theorem tryApiCase_request {filled : ApiCase} {before after : List Attachment}
    {r : Except Failure Unit}
    (hread : ApiCase.ofDocument (c.document.interpolate (p.bindings.merge c.dataInjection)) =
      .ok filled)
    (h : Trial.Traces (tryApiCase config suite p c) before log r after) :
    ∃ answer, Exchange (clientContext config p.headers (some (timeoutOf config filled.timeout)))
      (caseRequest suite filled (timeoutOf config filled.timeout)) log answer := by
  have hread' := mapError_eq_ok (f := Suite.ReadFault.failure).mpr hread
  rcases Trial.traces_ofExcept_bind.mp h with ⟨_, he, _⟩ | ⟨filled', hf, h₁⟩
  · cases hread'.symm.trans he
  obtain rfl := Except.ok.inj (hread'.symm.trans hf)
  rcases Trial.traces_bind.mp (Trial.traces_attach_bind.mp h₁) with
    ⟨_, hx, _⟩ | ⟨response, l₁, l₂, _, rfl, hx, h₂⟩
  · exact ⟨_, Host.Fallible.traces_exchange.mp (Trial.traces_ofFallible.mp hx).1⟩
  · obtain rfl := checkResponse_log h₂
    rw [List.append_nil]
    exact ⟨_, Host.Fallible.traces_exchange.mp (Trial.traces_ofFallible.mp hx).1⟩

/-- **What a variable that is declared can be used for.** Once a suite that meets its schema is prepared,
every attempt at one of its tests makes the request of the test, filled in; and every variable that is
declared for the test has a value. Where its name is made of word characters, its placeholder gives way
to the value wherever it stands; where it is not, nothing ever looks at the value. What a token is left
in has such a name, but for a line break behind it; what is injected need not have one. -/
theorem declared_usable {document : Value} (haccepted : Kind.api.issues document = .ok [])
    (hread : ApiSuite.ofDocument document = .ok suite) (hp : Prepared config suite auth setup p)
    (ho : p.obstacle = none) (hc : c ∈ suite.tests)
    (hd : (c.dataInjection.map Prod.fst).Nodup) :
    let vars := p.bindings.merge c.dataInjection
    (∀ log before r after, Trial.Traces (tryApiCase config suite p c) before log r after →
      ∃ answer, Exchange (clientContext config p.headers (some (timeoutOf config c.timeout)))
        (caseRequest suite (c.interpolate vars) (timeoutOf config c.timeout)) log answer) ∧
    (∀ name ∈ declaredNames suite c, ∃ value, HasValue config p.headers suite setup c name value) ∧
    (∀ name value, HasValue config p.headers suite setup c name value →
      (Placeholder.IsName name.toList → Replaced vars name value) ∧
      (¬ Placeholder.IsName name.toList → Ignored vars name)) ∧
    ∀ call e, suite.setup = some call → call.extractToken = some e → IsTokenName e.variableName := by
  intro vars
  have hs : SetUp config p.headers suite.setup setup (.ok p.bindings) := by
    cases hp with
    | unauthenticated => cases ho
    | notSetUp => cases ho
    | ready _ hs => exact hs
  obtain ⟨suite', hread', -, hreads⟩ := (Suite.accepted_reads document).1 haccepted
  obtain rfl := Except.ok.inj (hread'.symm.trans hread)
  obtain ⟨-, hfilled⟩ := hreads c hc
  refine ⟨fun log before r after h => ?_, fun name hn => ?_, fun name value hv => ?_,
    fun call e hcall he => Suite.extracted_name haccepted hread hcall he⟩
  · have hx := tryApiCase_request (hfilled vars).1 h
    rwa [(hfilled vars).2.timeout] at hx
  · exact exists_hasValue hs (Suite.injected_text haccepted hread hc) hn
  · exact ⟨fun hname => replaced_of_isName hname (hv.bound hs hd), ignored_of_not_isName⟩

/-- A document with a variable of either kind. -/
def lentDocument : Value :=
  .obj [("suite", .str "S"),
    ("setup", .obj [("method", .str "POST"), ("endpoint", .str "/login"),
      ("extractToken", .obj [("fromPath", .str "token"), ("as", .str "token")])]),
    ("tests", .list [.obj [("name", .str "n"), ("method", .str "GET"),
      ("endpoint", .str "/\x7b\x7btoken\x7d\x7d/\x7b\x7buser-id\x7d\x7d"),
      ("dataInjection", .obj [("user-id", .str "7")]), ("expect", .obj [("status", .int 200)])]])]

/-- The call that leaves the token. -/
def lendingCall : SideCall :=
  { method := "POST", endpoint := "/login", body := .null, headers := []
    extractToken := some ⟨"token", "token"⟩ }

/-- The answer to it. -/
def lendingAnswer : Http.Response := ⟨.int 200, [], .obj [("token", .str "s3cret")], .int 3⟩

theorem lentDocument_issues : Kind.api.issues lentDocument = .ok [] :=
  Suite.Kind.issues_of_accepts (by decide +kernel)

/-- The token is put into the endpoint, what is injected under another kind of name is not. -/
theorem declared_usable_lent :
    Kind.api.issues lentDocument = .ok [] ∧ ∃ suite c setup p,
      ApiSuite.ofDocument lentDocument = .ok suite ∧ suite.setup = some lendingCall ∧
      c ∈ suite.tests ∧ Prepared (bareConfig "http://api.test" "") suite [] setup p ∧
      Replaced (p.bindings.merge c.dataInjection) "token" "s3cret" ∧
      Ignored (p.bindings.merge c.dataInjection) "user-id" ∧
      (c.interpolate (p.bindings.merge c.dataInjection)).endpoint =
        "/s3cret/\x7b\x7buser-id\x7d\x7d" := by
  have hread : ∃ suite c, ApiSuite.ofDocument lentDocument = .ok suite ∧
      suite.setup = some lendingCall ∧ suite.tests = [c] ∧
      c.dataInjection = [("user-id", .str "7")] ∧
      c.endpoint = "/\x7b\x7btoken\x7d\x7d/\x7b\x7buser-id\x7d\x7d" :=
    ⟨_, _, rfl, rfl, rfl, rfl, rfl⟩
  obtain ⟨suite, c, hread, hsetup, htests, hinjected, hendpoint⟩ := hread
  have hc : c ∈ suite.tests := htests ▸ List.mem_cons_self
  have hx := @Exchange.answered (clientContext (bareConfig "http://api.test" "") [] none)
    (sideRequest (bareConfig "http://api.test" "") lendingCall []) (.ok lendingAnswer)
  have hs := SetUp.token hx (by decide +kernel) rfl rfl
  rw [← hsetup] at hs
  have hp : Prepared (bareConfig "http://api.test" "") suite [] _ _ := .ready (.unneeded rfl) hs
  obtain ⟨-, -, huse, -⟩ := declared_usable lentDocument_issues hread hp rfl hc
    (by rw [hinjected]; decide)
  have htoken := (huse "token" "s3cret" (.extracted hsetup rfl hx rfl (by rw [hinjected]; decide))).1
    ⟨by decide, List.all_eq_true.mp (by decide +kernel)⟩
  have huser := (huse "user-id" "7" (.injected (by rw [hinjected]; exact List.mem_cons_self))).2
    fun hn => absurd (hn.isWord '-' (by decide)) (by decide +kernel)
  refine ⟨lentDocument_issues, suite, c, _, _, hread, hsetup, hc, hp, htoken, huser, ?_⟩
  show interpolateText _ c.endpoint = _
  rw [hendpoint, hinjected]
  decide +kernel

end Run

end SuiteEngine
