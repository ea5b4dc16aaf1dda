import SuiteEngine.Proofs.Document.Path
import SuiteEngine.Proofs.Host.Fallible
import SuiteEngine.Proofs.Http.Parameters
import SuiteEngine.Proofs.Text.Base64
import SuiteEngine.Run.Auth

/-!
# How headers are granted

Of the strategies only one asks anything: it posts the credentials to an endpoint and looks for a
token in the answer. The others make their header of what the settings say. `Asked` lists the ways in
which asking for a token may go, with the request on the way and the failure where there is no token.
`TokenGranted`, `BasicGranted` and `KeyGranted` say for the three kinds of header when there is one
and which, and `Granted` puts them together, strategy by strategy.

Headlines:
* `isSuccess_iff`, `token?_eq_some_iff`: which answers are taken, and which token in them.
* `asked_of_traces`: there is no other way to a token.
* `Replied.granted`, `basicGrant_granted`, `keyGrant_granted`: each of the headers.
* **`authenticate_grants`**: what is sent and what is granted, whoever answers.
-/

namespace SuiteEngine

open Host (ClientContext Fallible Log Program Question)
open Schema (Step)

namespace Http

/-! ## Answers that are taken -/

/-- The status is a number that is at least 200 and below 300. -/
def Successful (status : Value) : Prop :=
  ∃ x, status.asNumber? = some x ∧ Exact.le (intExact 200) x = true ∧
    Exact.lt x (intExact 300) = true

theorem successful_int (n : ℤ) : Successful (.int n) ↔ 200 ≤ n ∧ n < 300 := by
  have hlt : Exact.lt (intExact n) (intExact 300) = true ↔ n < 300 := by
    rw [Exact.lt, Bool.and_eq_true, Exact.le_int, decide_eq_true_eq, Bool.not_eq_true',
      ← Bool.not_eq_true, Exact.eq_iff (intExact_ne_nan n), intExact_inj]
    omega
  have hge : Exact.le (intExact 200) (intExact n) = true ↔ 200 ≤ n := by
    rw [Exact.le_int, decide_eq_true_eq]
  rw [Successful, ← hlt, ← hge]
  exact ⟨fun ⟨x, hx, h⟩ => Option.some.inj hx ▸ h, fun h => ⟨_, rfl, h⟩⟩

/-- A number is below an integer if and only if it is none of those from there on. -/
theorem lt_int_iff {x : Exact} {n : ℤ} (hx : x ≠ .nan) :
    Exact.lt x (intExact n) = true ↔ Exact.le (intExact n) x = false := by
  cases x with
  | nan => exact absurd rfl hx
  | negInf => exact iff_of_true rfl rfl
  | posInf => exact iff_of_false Bool.false_ne_true nofun
  | finite d =>
    have heq : Exact.eq (.finite d) (intExact n) = true ↔ d = Dyadic.ofInt n :=
      (Exact.eq_iff hx).trans ⟨fun h => Exact.finite.inj h, fun h => congrArg Exact.finite h⟩
    have hle : Exact.le (.finite d) (intExact n) = true ↔ d ≤ Dyadic.ofInt n := decide_eq_true_iff
    have hge : Exact.le (intExact n) (.finite d) = false ↔ ¬ Dyadic.ofInt n ≤ d :=
      decide_eq_false_iff_not
    rw [Exact.lt, Bool.and_eq_true, Bool.not_eq_true', ← Bool.not_eq_true, heq, hle, hge]
    constructor
    · rintro ⟨hdn, hne⟩ hnd
      exact hne (Dyadic.le_antisymm hdn hnd)
    · intro h
      refine ⟨(Dyadic.le_total d _).resolve_right h, ?_⟩
      rintro rfl
      exact h (Dyadic.le_refl _)

theorem isSuccess_iff (r : Response) : r.isSuccess = true ↔ Successful r.status := by
  unfold Response.isSuccess Response.statusAtLeast Successful
  cases r.status.asNumber? with
  | none => simp
  | some x =>
    simp only [Option.some.injEq, exists_eq_left', Bool.and_eq_true, Bool.not_eq_true']
    refine and_congr_right fun h => ?_
    exact (lt_int_iff (by rintro rfl; cases h)).symm

end Http

/-! ## Tokens in an answer -/

namespace Run

variable {body : Value} {t : String}

/-- The keys under which a token may stand in an answer, in the order in which they are looked at.
-/
def tokenKeys : List (List String) :=
  [["token"], ["data", "token"], ["access_token"], ["data", "access_token"]]

/-- The keys lead to a text in the answer. -/
def Holds (body : Value) (keys : List String) (t : String) : Prop :=
  Value.Leads body (keys.map .key) (.str t)

/-- The text is the first one, where a token may stand, that is not empty. -/
def FirstToken (body : Value) (t : String) : Prop :=
  ∃ before keys after, tokenKeys = before ++ keys :: after ∧ Holds body keys t ∧ t ≠ "" ∧
    ∀ earlier ∈ before, ∀ u, Holds body earlier u → u = ""

/-- No key of these is an index. -/
theorem tokenKeys_spec : ∀ keys ∈ tokenKeys, Text.split '.' (".".intercalate keys) = keys ∧
    ∀ key ∈ keys, Text.parseInt? key = none := by decide +kernel

/-- Keys that are no indexes are followed as keys. -/
theorem names_keys_iff {keys : List String} (h : ∀ key ∈ keys, Text.parseInt? key = none)
    {chain : List Step} : List.Forall₂ Value.Names keys chain ↔ chain = keys.map .key := by
  induction keys generalizing chain with
  | nil => rw [List.forall₂_nil_left_iff, List.map_nil]
  | cons key keys ih =>
    obtain ⟨hkey, hkeys⟩ := List.forall_mem_cons.mp h
    constructor
    · rintro (_ | ⟨hn, hns⟩)
      rename_i step rest
      obtain rfl := (ih hkeys).mp hns
      cases step with
      | key k => exact hn ▸ rfl
      -- An index is named by a number, and the key is none.
      | index i => exact absurd (hkey.symm.trans hn) nofun
    · rintro rfl
      exact .cons rfl ((ih hkeys).mpr rfl)

/-- What such keys lead to is what is looked up. -/
theorem foldl_step_iff {keys : List String} (h : ∀ key ∈ keys, Text.parseInt? key = none) :
    keys.foldl Value.step body = .str t ↔ Holds body keys t := by
  constructor
  · intro hs
    rcases Value.leads_or_missing body keys with hm | ⟨chain, hn, hl⟩
    · exact absurd (hs.symm.trans hm) nofun
    · obtain rfl := (names_keys_iff h).mp hn
      rwa [hs] at hl
  · exact Value.foldl_of_leads ((names_keys_iff h).mpr rfl)

theorem filledText?_eq_some_iff {keys : List String} (hk : keys ∈ tokenKeys) :
    filledText? body (".".intercalate keys) = some t ↔ Holds body keys t ∧ t ≠ "" := by
  obtain ⟨hsplit, hkeys⟩ := tokenKeys_spec keys hk
  have hstr : ∀ v : Value, v.str? = some t ↔ v = .str t := fun v => by
    cases v <;> simp [Value.str?]
  rw [filledText?, Option.filter_eq_some_iff, hstr, Value.deepGet, hsplit, foldl_step_iff hkeys,
    bne_iff_ne]

theorem tokenPaths_eq : tokenPaths = tokenKeys.map (".".intercalate ·) := by decide +kernel

/-- **Which token is taken.** -/
theorem token?_eq_some_iff : token? body = some t ↔ FirstToken body t := by
  rw [token?, tokenPaths_eq, List.findSome?_map, List.findSome?_eq_some_iff]
  refine exists_congr fun before => exists_congr fun keys => exists_congr fun after =>
    and_congr_right fun hl => ?_
  have hkeys : keys ∈ tokenKeys := hl ▸ List.mem_append_right _ List.mem_cons_self
  have hbefore : ∀ earlier ∈ before, earlier ∈ tokenKeys := fun earlier he =>
    hl ▸ List.mem_append_left _ he
  rw [Function.comp, filledText?_eq_some_iff hkeys, and_assoc]
  refine and_congr_right fun _ => and_congr_right fun _ => forall₂_congr fun earlier he => ?_
  rw [Function.comp, Option.eq_none_iff_forall_ne_some]
  refine forall_congr' fun u => ?_
  rw [Ne, filledText?_eq_some_iff (hbefore earlier he), not_and, not_not]

theorem token?_eq_none_iff : token? body = none ↔ ¬ ∃ t, FirstToken body t := by
  simp only [← token?_eq_some_iff, Option.eq_none_iff_forall_ne_some, not_exists, Ne]

/-! ## What the settings say -/

variable {a : Config.Auth} {baseUrl : String} {context : ClientContext} {log : Log}
  {r : Except Failure Grant}

/-- The settings ask for a token at an endpoint, and there are credentials to send there. -/
structure AsksAt (a : Config.Auth) (endpoint : String) : Prop where
  strategy : a.strategy = .bearer
  given : a.tokenEndpoint = some endpoint
  nonempty : endpoint ≠ ""
  credentials : a.credentials ≠ []

/-- There is a credential of this name, and it is not empty. -/
def HasCredential (a : Config.Auth) (name text : String) : Prop :=
  a.credentials.lookup name = some text ∧ text ≠ ""

/-- The key is that of the settings, or else, if there is none or an empty one, that of the
credentials. -/
def HasKey (a : Config.Auth) (key : String) : Prop :=
  a.apiKey = some key ∧ key ≠ "" ∨
    (∀ k, a.apiKey = some k → k = "") ∧ HasCredential a "apiKey" key

theorem filledCredential?_eq_some_iff {name text : String} :
    filledCredential? a name = some text ↔ HasCredential a name text := by
  rw [filledCredential?, Option.filter_eq_some_iff, bne_iff_ne]
  rfl

theorem key_eq_some_iff {key : String} :
    (a.apiKey.filter (· != "")).or (filledCredential? a "apiKey") = some key ↔ HasKey a key := by
  have hown : ∀ k, a.apiKey.filter (· != "") = some k ↔ a.apiKey = some k ∧ k ≠ "" := fun k => by
    rw [Option.filter_eq_some_iff, bne_iff_ne]
  have hnone : a.apiKey.filter (· != "") = none ↔ ∀ k, a.apiKey = some k → k = "" := by
    simp only [Option.eq_none_iff_forall_ne_some, Ne, hown, not_and, not_not]
  rw [Option.or_eq_some_iff, hown, hnone, filledCredential?_eq_some_iff]
  rfl

/-! ## How each strategy may go -/

/-- What becomes of a reply to the request for a token. -/
inductive Replied (url : String) : Except Failure Http.Response → Except Failure Grant → Prop
  | unanswered {f : Failure} (hf : f.isHost = true) :
      Replied url (.error f)
        (.error (authFailure ("Auth request to " ++ url ++ " failed: " ++ f.message)))
  | raised {f : Failure} (hf : f.isHost = false) : Replied url (.error f) (.error f)
  | refused {response : Http.Response} (hs : ¬ Http.Successful response.status) :
      Replied url (.ok response)
        (.error (authFailure ("Auth request failed: " ++ response.status.text)))
  | noToken {response : Http.Response} (hs : Http.Successful response.status)
      (ht : ¬ ∃ t, FirstToken response.body t) :
      Replied url (.ok response)
        (.error (authFailure "Could not extract token from auth response"))
  | token {response : Http.Response} {t : String} (hs : Http.Successful response.status)
      (ht : FirstToken response.body t) :
      Replied url (.ok response)
        (.ok { headers := [("Authorization", "Bearer " ++ t)], token := some t })

theorem replied_grantOf (url : String) (response : Http.Response) :
    Replied url (.ok response) (grantOf response) := by
  unfold grantOf
  split
  · rename_i hs
    exact .refused (by rw [← Http.isSuccess_iff]; simpa using hs)
  · rename_i hs
    have hs : Http.Successful response.status := (Http.isSuccess_iff response).mp (by simpa using hs)
    split
    · rename_i t ht
      exact .token hs (token?_eq_some_iff.mp ht)
    · rename_i ht
      exact .noToken hs (token?_eq_none_iff.mp ht)

theorem replied_failure (url : String) (f : Failure) : Replied url (.error f) (.error (if f.isHost
    then authFailure ("Auth request to " ++ url ++ " failed: " ++ f.message) else f)) := by
  split
  · rename_i hf
    exact .unanswered hf
  · rename_i hf
    exact .raised (by simpa using hf)

/-- The credentials, posted to an endpoint. -/
def postedTo (a : Config.Auth) (url : String) : Http.Request :=
  { method := "POST", url, headers := [], timeout := none
    body := .obj (a.credentials.map fun c => (c.1, .str c.2)) }

/-- How a token may be obtained, with what is asked on the way. -/
inductive Asked (a : Config.Auth) (baseUrl : String) (context : ClientContext) :
    Log → Except Failure Grant → Prop
  | answered {endpoint : String} {reply : Except Failure Http.Response} {r : Except Failure Grant}
      (ha : AsksAt a endpoint) (hr : Replied (Http.joinUrl baseUrl endpoint) reply r) :
      Asked a baseUrl context
        [⟨.send context (postedTo a (Http.joinUrl baseUrl endpoint)), reply⟩] r
  | unasked (ha : ¬ ∃ endpoint, AsksAt a endpoint) :
      Asked a baseUrl context []
        (.error (authFailure "Bearer strategy requires token_endpoint and credentials"))

/-- **There is no other way to a token.** -/
theorem asked_of_traces (hs : a.strategy = .bearer)
    (h : Fallible.Traces (bearerGrant a baseUrl (Fallible.send context)) log r) :
    Asked a baseUrl context log r := by
  unfold bearerGrant at h
  split at h
  · rename_i endpoint c cs he hc
    have hp := Option.filter_eq_some_iff.mp he
    have ha : AsksAt a endpoint :=
      ⟨hs, hp.1, bne_iff_ne.mp hp.2, hc ▸ List.cons_ne_nil c cs⟩
    have hreq : tokenRequest (Http.buildUrl baseUrl endpoint []) (c :: cs) =
        postedTo a (Http.joinUrl baseUrl endpoint) := by rw [postedTo, hc]; rfl
    -- The client fails, and this is caught, or there is an answer, in which nothing is caught.
    rcases Fallible.traces_bind.mp h with ⟨f, ht, rfl⟩ | ⟨response, l₁, l₂, rfl, ht, hg⟩
    · rcases Fallible.traces_tryCatch.mp ht with ⟨_, _, hr⟩ | ⟨e, l₁, l₂, rfl, hf, hthrow⟩
      · cases hr
      obtain rfl := Fallible.traces_send.mp hf
      obtain ⟨rfl, hr⟩ := Fallible.traces_throw.mp hthrow
      obtain rfl := Except.error.inj hr
      rw [List.append_nil, hreq]
      exact .answered ha (replied_failure _ e)
    · rcases Fallible.traces_tryCatch.mp ht with ⟨_, hf, hr⟩ | ⟨e, m₁, m₂, rfl, _, hthrow⟩
      · obtain rfl := Except.ok.inj hr
        obtain rfl := Fallible.traces_send.mp hf
        obtain ⟨rfl, rfl⟩ := hg
        rw [List.append_nil, hreq]
        exact .answered ha (replied_grantOf _ response)
      · cases (Fallible.traces_throw.mp hthrow).2
  · rename_i hn
    obtain ⟨rfl, rfl⟩ := Fallible.traces_throw.mp h
    refine .unasked ?_
    rintro ⟨endpoint, ha⟩
    obtain ⟨c, cs, hc⟩ := List.exists_cons_of_ne_nil ha.credentials
    exact hn endpoint c cs
      (Option.filter_eq_some_iff.mpr ⟨ha.given, bne_iff_ne.mpr ha.nonempty⟩) hc

/-! ## What is granted -/

/-- There are no headers, and the failure says that it is for lack of them. -/
def Refused (r : Except Failure Grant) : Prop := ∃ message, r = .error (authFailure message)

theorem FirstToken.unique {u : String} (ht : FirstToken body t) (hu : FirstToken body u) : t = u :=
  Option.some.inj ((token?_eq_some_iff.mpr ht).symm.trans (token?_eq_some_iff.mpr hu))

theorem exists_hasKey_iff : (∃ key, HasKey a key) ↔
    (∃ key, a.apiKey = some key ∧ key ≠ "") ∨ ∃ key, HasCredential a "apiKey" key := by
  constructor
  · rintro ⟨key, h | ⟨-, h⟩⟩
    · exact .inl ⟨key, h⟩
    · exact .inr ⟨key, h⟩
  · intro h
    by_cases hown : ∃ key, a.apiKey = some key ∧ key ≠ ""
    · exact hown.imp fun _ => .inl
    · obtain ⟨key, hk⟩ := h.resolve_left hown
      exact ⟨key, .inr ⟨fun k h => by_contra fun hk => hown ⟨k, h, hk⟩, hk⟩⟩

/-- What is granted for a reply to the request for a token. -/
structure TokenGranted (reply : Except Failure Http.Response) (r : Except Failure Grant) :
    Prop where
  /-- Headers are granted if and only if there is an answer that says so and has a token, and they
  are the one header with the first token. -/
  granted : ∀ g, r = .ok g ↔ ∃ response t, reply = .ok response ∧
    Http.Successful response.status ∧ FirstToken response.body t ∧
    g = { headers := [("Authorization", "Bearer " ++ t)], token := some t }
  /-- Every other answer is refused, and so is a failure of the environment. -/
  refused : (∀ f, reply = .error f → f.isHost = true) → (¬ ∃ g, r = .ok g) → Refused r
  /-- What else a client fails with is passed on. -/
  raised : ∀ f, reply = .error f → f.isHost = false → r = .error f

theorem Replied.granted {url : String} {reply : Except Failure Http.Response}
    (h : Replied url reply r) : TokenGranted reply r := by
  cases h with
  | unanswered hf =>
    refine ⟨fun g => iff_of_false nofun ?_, fun _ _ => ⟨_, rfl⟩, fun f he hn => ?_⟩
    · rintro ⟨_, _, h, -⟩
      cases h
    · obtain rfl := Except.error.inj he
      cases hf.symm.trans hn
  | raised hf =>
    refine ⟨fun g => iff_of_false nofun ?_, fun h _ => ?_, fun f he _ => ?_⟩
    · rintro ⟨_, _, h, -⟩
      cases h
    · cases (h _ rfl).symm.trans hf
    · rw [Except.error.inj he]
  | refused hs =>
    refine ⟨fun g => iff_of_false nofun ?_, fun _ _ => ⟨_, rfl⟩, nofun⟩
    rintro ⟨_, _, h, hs', -⟩
    obtain rfl := Except.ok.inj h
    exact hs hs'
  | noToken _ ht =>
    refine ⟨fun g => iff_of_false nofun ?_, fun _ _ => ⟨_, rfl⟩, nofun⟩
    rintro ⟨_, t, h, -, ht', -⟩
    obtain rfl := Except.ok.inj h
    exact ht ⟨t, ht'⟩
  | token hs ht =>
    refine ⟨fun g => ⟨fun h => ?_, ?_⟩, fun _ h => absurd ⟨_, rfl⟩ h, nofun⟩
    · obtain rfl := Except.ok.inj h
      exact ⟨_, _, rfl, hs, ht, rfl⟩
    · rintro ⟨_, u, h, -, hu, rfl⟩
      obtain rfl := Except.ok.inj h
      rw [ht.unique hu]

/-- What is granted for a name and a password. -/
structure BasicGranted (a : Config.Auth) (r : Except Failure Grant) : Prop where
  /-- Both are needed. -/
  granted : (∃ g, r = .ok g) ↔
    ∃ name password, HasCredential a "username" name ∧ HasCredential a "password" password
  /-- The letters in the header stand for the bytes of both, with a colon between them. -/
  header : ∀ name password, HasCredential a "username" name →
    HasCredential a "password" password → ∃ letters,
      r = .ok { headers := [("Authorization", "Basic " ++ letters)], token := none } ∧
      Text.fromBase64? letters.toList = some (name ++ ":" ++ password).toUTF8.toList
  refused : (¬ ∃ g, r = .ok g) → Refused r

theorem basicGrant_of_has {name password : String} (hn : HasCredential a "username" name)
    (hp : HasCredential a "password" password) : basicGrant a = .ok {
      headers := [("Authorization", "Basic " ++
        String.ofList (Text.base64 (Text.encode (name ++ ":" ++ password))))]
      token := none } := by
  rw [basicGrant, filledCredential?_eq_some_iff.mpr hn, filledCredential?_eq_some_iff.mpr hp]
  rfl

theorem basicGrant_of_not (h : ¬ ∃ name password, HasCredential a "username" name ∧
    HasCredential a "password" password) : basicGrant a =
      .error (authFailure "Basic strategy requires username and password in credentials") := by
  unfold basicGrant
  split
  · rename_i name password hn hp
    exact absurd ⟨name, password, filledCredential?_eq_some_iff.mp hn,
      filledCredential?_eq_some_iff.mp hp⟩ h
  · rfl

theorem basicGrant_granted (a : Config.Auth) : BasicGranted a (basicGrant a) := by
  by_cases h : ∃ name password, HasCredential a "username" name ∧
    HasCredential a "password" password
  · obtain ⟨name, password, hn, hp⟩ := h
    have hr := basicGrant_of_has hn hp
    refine ⟨iff_of_true ⟨_, hr⟩ ⟨name, password, hn, hp⟩, ?_, fun hno => absurd ⟨_, hr⟩ hno⟩
    intro name' password' hn' hp'
    refine ⟨_, basicGrant_of_has hn' hp', ?_⟩
    rw [String.toList_ofList, Text.fromBase64?_base64, Text.encode]
  · have hr := basicGrant_of_not h
    have hno : ¬ ∃ g, basicGrant a = .ok g := by
      rintro ⟨g, hg⟩
      cases hr.symm.trans hg
    exact ⟨iff_of_false hno h, fun name password hn hp => absurd ⟨name, password, hn, hp⟩ h,
      fun _ => ⟨_, hr⟩⟩

/-- What is granted for a key. -/
structure KeyGranted (a : Config.Auth) (r : Except Failure Grant) : Prop where
  /-- There must be one, in the settings or among the credentials. -/
  granted : (∃ g, r = .ok g) ↔
    (∃ key, a.apiKey = some key ∧ key ≠ "") ∨ ∃ key, HasCredential a "apiKey" key
  /-- It is sent as it is, that of the settings before the other. -/
  header : ∀ key, HasKey a key → r = .ok {
    headers := [(if a.headerName = "" then "X-API-Key" else a.headerName, key)], token := none }
  refused : (¬ ∃ g, r = .ok g) → Refused r

theorem keyGrant_of_hasKey {key : String} (hk : HasKey a key) : keyGrant a = .ok {
    headers := [(if a.headerName = "" then "X-API-Key" else a.headerName, key)]
    token := none } := by
  rw [keyGrant, key_eq_some_iff.mpr hk]
  simp only [beq_iff_eq, Config.defaultKeyHeader]

theorem keyGrant_of_not (h : ¬ ∃ key, HasKey a key) : keyGrant a =
    .error (authFailure "api-key strategy requires api_key or credentials.apiKey") := by
  unfold keyGrant
  split
  · rename_i key hk
    exact absurd ⟨key, key_eq_some_iff.mp hk⟩ h
  · rfl

theorem keyGrant_granted (a : Config.Auth) : KeyGranted a (keyGrant a) := by
  by_cases h : ∃ key, HasKey a key
  · obtain ⟨key, hk⟩ := h
    have hr := keyGrant_of_hasKey hk
    exact ⟨iff_of_true ⟨_, hr⟩ (exists_hasKey_iff.mp ⟨key, hk⟩),
      fun _ hk => keyGrant_of_hasKey hk, fun hno => absurd ⟨_, hr⟩ hno⟩
  · have hr := keyGrant_of_not h
    have hno : ¬ ∃ g, keyGrant a = .ok g := by
      rintro ⟨g, hg⟩
      cases hr.symm.trans hg
    exact ⟨iff_of_false hno fun hk => h (exists_hasKey_iff.mpr hk),
      fun key hk => absurd ⟨key, hk⟩ h, fun _ => ⟨_, hr⟩⟩

/-- What is sent and what is granted, strategy by strategy. -/
structure Granted (a : Config.Auth) (baseUrl : String) (context : ClientContext) (log : Log)
    (r : Except Failure Grant) : Prop where
  /-- Where a token is asked for, nothing is asked but one request, which posts the credentials to the
  joined address. -/
  asked : ∀ endpoint, AsksAt a endpoint → ∃ url reply, Http.Joined baseUrl endpoint url ∧
    log = [⟨.send context (postedTo a url), reply⟩] ∧ TokenGranted reply r
  /-- Otherwise nothing is asked, and there is no token. -/
  silent : (¬ ∃ endpoint, AsksAt a endpoint) → log = [] ∧ (a.strategy = .bearer → Refused r)
  basic : a.strategy = .basic → BasicGranted a r
  key : a.strategy = .apiKey → KeyGranted a r
  /-- Without a strategy no headers are needed. -/
  unneeded : a.strategy = .none → r = .ok { headers := [], token := none }

theorem Asked.granted (hs : a.strategy = .bearer) (h : Asked a baseUrl context log r) :
    Granted a baseUrl context log r := by
  have hother : ∀ {s : Config.Strategy}, a.strategy = s → s ≠ .bearer → False :=
    fun h hne => hne (h.symm.trans hs)
  cases h with
  | answered ha hr =>
    exact {
      asked := fun endpoint hb => by
        obtain rfl := Option.some.inj (ha.given.symm.trans hb.given)
        exact ⟨_, _, Http.joined_joinUrl _ _, rfl, hr.granted⟩
      silent := fun hn => absurd ⟨_, ha⟩ hn
      basic := fun h => (hother h nofun).elim
      key := fun h => (hother h nofun).elim
      unneeded := fun h => (hother h nofun).elim }
  | unasked ha =>
    exact {
      asked := fun endpoint hb => absurd ⟨endpoint, hb⟩ ha
      silent := fun _ => ⟨rfl, fun _ => ⟨_, rfl⟩⟩
      basic := fun h => (hother h nofun).elim
      key := fun h => (hother h nofun).elim
      unneeded := fun h => (hother h nofun).elim }

/-- A strategy that needs no token asks nothing. -/
theorem Granted.of_silent (hs : a.strategy ≠ .bearer)
    (hb : a.strategy = .basic → BasicGranted a r) (hk : a.strategy = .apiKey → KeyGranted a r)
    (hn : a.strategy = .none → r = .ok { headers := [], token := none }) :
    Granted a baseUrl context [] r where
  asked _ ha := absurd ha.strategy hs
  silent _ := ⟨rfl, fun h => absurd h hs⟩
  basic := hb
  key := hk
  unneeded := hn

theorem granted_of_traces
    (h : Fallible.Traces (authenticate a baseUrl (Fallible.send context)) log r) :
    Granted a baseUrl context log r := by
  unfold authenticate at h
  split at h
  · rename_i hs
    exact (asked_of_traces hs h).granted hs
  · rename_i hs
    obtain ⟨rfl, rfl⟩ := h
    exact .of_silent (by simp [hs]) (fun _ => basicGrant_granted a) (by simp [hs]) (by simp [hs])
  · rename_i hs
    obtain ⟨rfl, rfl⟩ := h
    exact .of_silent (by simp [hs]) (by simp [hs]) (fun _ => keyGrant_granted a) (by simp [hs])
  · rename_i hs
    obtain ⟨rfl, rfl⟩ := h
    exact .of_silent (by simp [hs]) (by simp [hs]) (by simp [hs]) fun _ => rfl

/-- **What is sent and what is granted**, for all settings, whoever answers; an integer says that the
request for a token was successful if and only if it is from 200 to 299. -/
theorem authenticate_grants {σ : Type} (answer : (q : Question) → σ → q.Answer × σ) (s : σ)
    (a : Config.Auth) (baseUrl : String) (context : ClientContext) :
    let p := (authenticate a baseUrl (Fallible.send context)).run
    Granted a baseUrl context (p.logOf answer s) (p.run answer s).1 ∧
      ∀ n : ℤ, Http.Successful (.int n) ↔ 200 ≤ n ∧ n < 300 :=
  ⟨granted_of_traces (Program.traces_run answer _ s).1, Http.successful_int⟩

end Run

end SuiteEngine
