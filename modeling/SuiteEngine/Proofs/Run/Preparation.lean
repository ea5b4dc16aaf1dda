import SuiteEngine.Proofs.Run.Grants
import SuiteEngine.Run.Api

/-!
# How a suite is prepared

Before the cases of an API suite the headers are obtained and the setup request is sent.
`Authentication` and `SetUp` list the ways in which each of the two may go, with what was asked on
the way and the reason in case of failure; `Prepared` is both, one after the other. A failure of
another kind is raised: `AuthenticationRaises`, `CallRaises` and `PreparationRaises` say where.

Headlines:
* `traces_settle`: only failures that are foreseen become reasons.
* `traces_suiteHeaders`, `traces_runSetup`: there is no other way for each of the two to go.
* **`traces_prepare`**: a preparation comes to an end, with an obstacle or without one, or raises
  what its client failed with.
* `prepared_of_traces`: where clients fail as the environment does, it comes to an end.
* `Authentication.sent_le`, `SetUp.sent_le`: each of the two sends one request at most.
-/

namespace SuiteEngine.Run

open Host (Event Fallible Log)
open Host.Fallible (Exchange Fails Foreseen WithClient sent)
open Suite (ApiSuite SideCall TokenExtraction)

/-- **Only failures that are foreseen become reasons.** -/
theorem traces_settle {α : Type} {lead : String} {foreseen : Failure → Bool} {p : Fallible α}
    {log : Log} {r : Except Failure (Except String α)} :
    Fallible.Traces (settle lead foreseen p) log r ↔
      (∃ a, Fallible.Traces p log (.ok a) ∧ r = .ok (.ok a)) ∨
        ∃ f, Fallible.Traces p log (.error f) ∧
          r = if foreseen f then .ok (.error (lead ++ f.message)) else .error f := by
  rw [settle, Fallible.traces_tryCatch]
  simp only [Fallible.traces_map]
  constructor
  · rintro (⟨a, ⟨b, h, hb⟩, rfl⟩ | ⟨f, l₁, l₂, rfl, ⟨b, h, hb⟩, hr⟩)
    · cases b with
      | error e => cases hb
      | ok b =>
        obtain rfl := Except.ok.inj hb
        exact .inl ⟨b, h, rfl⟩
    · cases b with
      | ok b => cases hb
      | error e =>
        obtain rfl := Except.error.inj hb
        refine .inr ⟨f, ?_⟩
        split at hr <;> obtain ⟨rfl, rfl⟩ := hr
        · rename_i hf
          exact ⟨by simpa using h, (if_pos hf).symm⟩
        · rename_i hf
          exact ⟨by simpa using h, (if_neg hf).symm⟩
  · rintro (⟨a, h, rfl⟩ | ⟨f, h, rfl⟩)
    · exact .inl ⟨.ok a, ⟨.ok a, h, rfl⟩, rfl⟩
    · refine .inr ⟨f, log, [], by simp, ⟨.error f, h, rfl⟩, ?_⟩
      split
      · exact ⟨rfl, rfl⟩
      · exact ⟨rfl, rfl⟩

/-! ## Authentication -/

/-- What authenticating asks: one request at most. -/
def AsksOnce (context : Host.ClientContext) (log : Log) : Prop :=
  log = [] ∨ ∃ request answer, log = [⟨.send context request, answer⟩]

theorem AsksOnce.sent_le {context : Host.ClientContext} {log : Log} (h : AsksOnce context log) :
    (sent log).length ≤ 1 := by
  rcases h with rfl | ⟨request, answer, rfl⟩
  · exact Nat.zero_le 1
  · exact Nat.le_refl 1

theorem AsksOnce.clientsOnly {context : Host.ClientContext} {log : Log}
    (h : AsksOnce context log) : Fallible.ClientsOnly log := by
  rcases h with rfl | ⟨request, answer, rfl⟩
  · exact Fallible.clientsOnly_nil
  · simp [Fallible.ClientsOnly, Fallible.isClientQuestion]

/-- What goes wrong in authentication is a lack of headers or what a client failed with, and what
else clients fail with than the environment does is passed on. -/
structure Accounted {α : Type} (log : Log) (r : Except Failure α) : Prop where
  raised : ∀ f, r = .error f → f.kind = authKind ∨ Fails log f
  passed : ∀ f, Fails log f → f.isHost = true ∨ r = .error f

theorem Accounted.of_nil {α : Type} {r : Except Failure α}
    (h : ∀ f, r = .error f → f.kind = authKind) : Accounted [] r where
  raised f hf := .inl (h f hf)
  passed _ hf := absurd hf Fallible.not_fails_nil

theorem Accounted.isHost {α : Type} {log : Log} {r : Except Failure α} {f : Failure}
    (h : Accounted log r) (hl : Foreseen log) (hf : r = .error f) :
    f.isHost = true ∨ f.kind = authKind :=
  (h.raised f hf).symm.imp_left hl.isHost

/-- Opening a client before and closing it after changes nothing about that. -/
theorem Accounted.of_withClient {α : Type} {context : Host.ClientContext}
    {inner : Log → Except Failure α → Prop} {log : Log} {r : Except Failure α}
    (h : WithClient context inner log r) (hi : ∀ l, inner l r → Accounted l r) :
    Accounted log r := by
  cases h with
  | refused f =>
    constructor
    · intro e he
      obtain rfl := Except.error.inj he
      exact .inr (.opening List.mem_cons_self)
    · rintro e (h | h)
      · cases List.mem_singleton.mp h
        exact .inr rfl
      · cases List.mem_singleton.mp h
  | opened h =>
    constructor
    · intro e he
      refine ((hi _ h).raised e he).imp_right ?_
      rintro (hm | hm)
      · exact .opening (List.mem_cons_of_mem _ (List.mem_append_left _ hm))
      · exact .sending (List.mem_cons_of_mem _ (List.mem_append_left _ hm))
    · rintro e (hm | hm)
      · exact (hi _ h).passed e (.opening (by simpa using hm))
      · exact (hi _ h).passed e (.sending (by simpa using hm))

theorem Refused.kind_eq {r : Except Failure Grant} {f : Failure} (h : Refused r)
    (hf : r = .error f) : f.kind = authKind := by
  obtain ⟨message, rfl⟩ := h
  obtain rfl := Except.error.inj hf
  rfl

/-- What goes wrong with the request for a token is accounted for. -/
theorem TokenGranted.accounted {context : Host.ClientContext} {request : Http.Request}
    {reply : Except Failure Http.Response} {r : Except Failure Grant} (h : TokenGranted reply r) :
    Accounted [⟨.send context request, reply⟩] r where
  raised f hf := by
    by_cases hr : ∀ g, reply = .error g → g.isHost = true
    · refine .inl ((h.refused hr ?_).kind_eq hf)
      rintro ⟨g, hg⟩
      cases hg.symm.trans hf
    · obtain ⟨g, hg, hh⟩ := not_forall₂.mp hr
      have hp := h.raised g hg (by simpa using hh)
      obtain rfl := Except.error.inj (hf.symm.trans hp)
      exact .inr (Fallible.fails_send.mpr hg)
  passed f hf := by
    have hr := Fallible.fails_send.mp hf
    cases hh : f.isHost with
    | true => exact .inl rfl
    | false => exact .inr (h.raised f hr hh)

/-- Where nothing is asked, what goes wrong is a lack of headers. -/
theorem Granted.kind_eq {a : Config.Auth} {baseUrl : String} {context : Host.ClientContext}
    {log : Log} {r : Except Failure Grant} {f : Failure} (h : Granted a baseUrl context log r)
    (hn : ¬ ∃ endpoint, AsksAt a endpoint) (hf : r = .error f) : f.kind = authKind := by
  have hno : ¬ ∃ g, r = .ok g := by
    rintro ⟨g, hg⟩
    cases hg.symm.trans hf
  cases hs : a.strategy with
  | bearer => exact ((h.silent hn).2 hs).kind_eq hf
  | basic => exact ((h.basic hs).refused hno).kind_eq hf
  | apiKey => exact ((h.key hs).refused hno).kind_eq hf
  | none => exact absurd ⟨_, h.unneeded hs⟩ hno

/-- Every strategy sends one request at most, and what goes wrong is accounted for. -/
theorem authenticate_spec {a : Config.Auth} {baseUrl : String} {context : Host.ClientContext}
    {log : Log} {r : Except Failure Grant}
    (h : Fallible.Traces (authenticate a baseUrl (Fallible.send context)) log r) :
    AsksOnce context log ∧ Accounted log r := by
  have hg := granted_of_traces h
  by_cases ha : ∃ endpoint, AsksAt a endpoint
  · obtain ⟨endpoint, ha⟩ := ha
    obtain ⟨url, reply, -, rfl, hr⟩ := hg.asked endpoint ha
    exact ⟨.inr ⟨_, _, rfl⟩, hr.accounted⟩
  · obtain rfl := (hg.silent ha).1
    exact ⟨.inl rfl, .of_nil fun f => hg.kind_eq ha⟩

/-- Obtaining headers sends one request at most, and what goes wrong is accounted for. -/
theorem authentication_spec {config : Config} {log : Log} {r : Except Failure Grant}
    (h : Fallible.Traces (authentication config) log r) :
    (sent log).length ≤ 1 ∧ Fallible.ClientsOnly log ∧ Accounted log r := by
  have hw := Fallible.traces_withClient.mp h
  have hc := hw.clientsOnly fun l r ha => (authenticate_spec ha).1.clientsOnly
  have ha := Accounted.of_withClient hw fun l ha => (authenticate_spec ha).2
  cases hw with
  | refused f => exact ⟨Nat.zero_le 1, hc, ha⟩
  | opened ht => exact ⟨by simpa [sent] using (authenticate_spec ht).1.sent_le, hc, ha⟩

/-- How the headers of a suite may be obtained: they are not asked for, granted, or there are none,
for lack of what the strategy needs or because the environment failed. -/
inductive Authentication (config : Config) : Log → Except String Http.Headers → Prop
  | unneeded (h : config.auth.strategy = .none) : Authentication config [] (.ok [])
  | granted {log : Log} {g : Grant} (h : config.auth.strategy ≠ .none)
      (ht : Fallible.Traces (authentication config) log (.ok g)) :
      Authentication config log (.ok g.headers)
  | failed {log : Log} {f : Failure} (h : config.auth.strategy ≠ .none)
      (ht : Fallible.Traces (authentication config) log (.error f))
      (hf : f.isHost = true ∨ f.kind = authKind) :
      Authentication config log (.error ("Authentication failed: " ++ f.message))

/-- Authentication raises what neither is a lack of headers nor comes from the environment. -/
structure AuthenticationRaises (config : Config) (log : Log) (f : Failure) : Prop where
  needed : config.auth.strategy ≠ .none
  traces : Fallible.Traces (authentication config) log (.error f)
  not_host : f.isHost = false
  not_auth : f.kind ≠ authKind

/-- **There is no other way to obtain headers.** -/
theorem traces_suiteHeaders {config : Config} {log : Log}
    {r : Except Failure (Except String Http.Headers)} :
    Fallible.Traces (suiteHeaders config) log r ↔
      (∃ a, r = .ok a ∧ Authentication config log a) ∨
        ∃ f, r = .error f ∧ AuthenticationRaises config log f := by
  by_cases hs : config.auth.strategy = .none
  · have he : suiteHeaders config = pure (.ok []) := by
      unfold suiteHeaders
      rw [hs]
    rw [he, Fallible.traces_pure]
    constructor
    · rintro ⟨rfl, rfl⟩
      exact .inl ⟨_, rfl, .unneeded hs⟩
    · rintro (⟨a, rfl, h⟩ | ⟨f, rfl, h⟩)
      · cases h with
        | unneeded => exact ⟨rfl, rfl⟩
        | granted hn => exact absurd hs hn
        | failed hn => exact absurd hs hn
      · exact absurd hs h.needed
  · have he : suiteHeaders config =
        settle "Authentication failed: " (fun f => f.isHost || f.kind == authKind)
          (authentication config) >>= fun granted => pure (granted.map Grant.headers) := by
      unfold suiteHeaders
      split
      · rename_i hn
        exact absurd hn hs
      · rfl
    rw [he, Fallible.traces_map]
    constructor
    · rintro ⟨settled, h, rfl⟩
      rcases traces_settle.mp h with ⟨g, ht, rfl⟩ | ⟨f, ht, rfl⟩
      · exact .inl ⟨_, rfl, .granted hs ht⟩
      · split
        · rename_i hf
          exact .inl ⟨_, rfl, .failed hs ht (by simpa using hf)⟩
        · rename_i hf
          have hf : f.isHost = false ∧ f.kind ≠ authKind := by simpa using hf
          exact .inr ⟨f, rfl, hs, ht, hf.1, hf.2⟩
    · rintro (⟨a, rfl, h⟩ | ⟨f, rfl, h⟩)
      · cases h with
        | unneeded hn => exact absurd hn hs
        | granted _ ht => exact ⟨_, traces_settle.mpr (.inl ⟨_, ht, rfl⟩), rfl⟩
        | failed _ ht hf =>
          exact ⟨_, traces_settle.mpr (.inr ⟨_, ht, (if_pos (by simpa using hf)).symm⟩), rfl⟩
      · have hf : ¬ (f.isHost || f.kind == authKind) = true := by
          simp [h.not_host, h.not_auth]
        exact ⟨_, traces_settle.mpr (.inr ⟨f, h.traces, (if_neg hf).symm⟩), rfl⟩

theorem AuthenticationRaises.fails {config : Config} {log : Log} {f : Failure}
    (h : AuthenticationRaises config log f) : Fails log f :=
  ((authentication_spec h.traces).2.2.raised f rfl).resolve_left h.not_auth

/-- What clients fail with in an authentication that does not raise is foreseen. -/
theorem Authentication.foreseen {config : Config} {log : Log} {a : Except String Http.Headers}
    {f : Failure} (h : Authentication config log a) (hf : Fails log f) :
    f.isHost = true ∨ f.kind = authKind := by
  cases h with
  | unneeded => exact absurd hf Fallible.not_fails_nil
  | granted _ ht => exact .inl (((authentication_spec ht).2.2.passed f hf).resolve_right nofun)
  | failed _ ht he =>
    rcases (authentication_spec ht).2.2.passed f hf with hh | hr
    · exact .inl hh
    · obtain rfl := Except.error.inj hr
      exact he

theorem Authentication.sent_le {config : Config} {log : Log} {a : Except String Http.Headers}
    (h : Authentication config log a) : (sent log).length ≤ 1 := by
  cases h with
  | unneeded => exact Nat.zero_le 1
  | granted _ ht => exact (authentication_spec ht).1
  | failed _ ht => exact (authentication_spec ht).1

/-! ## Setup -/

/-- The traces of a declared call are the exchanges of its request. -/
theorem traces_sideExchange {config : Config} {headers : Http.Headers} {bindings : Variables}
    {call : SideCall} {log : Log} {r : Except Failure Http.Response} :
    Fallible.Traces (sideExchange config headers bindings call) log r ↔
      Exchange (clientContext config headers none) (sideRequest config call bindings) log r :=
  Fallible.traces_exchange

/-- How the setup request of a suite may go: there is none, it is not answered, it is refused, there
is no token in the answer, or it succeeds. -/
inductive SetUp (config : Config) (headers : Http.Headers) :
    Option SideCall → Log → Except String Variables → Prop
  | undeclared : SetUp config headers none [] (.ok [])
  | unanswered {call : SideCall} {log : Log} {f : Failure}
      (hx : Exchange (clientContext config headers none) (sideRequest config call []) log
        (.error f))
      (hf : f.isHost = true) :
      SetUp config headers (some call) log (.error ("Setup request failed: " ++ f.message))
  | refused {call : SideCall} {log : Log} {response : Http.Response}
      (hx : Exchange (clientContext config headers none) (sideRequest config call []) log
        (.ok response))
      (hs : response.isError = true) :
      SetUp config headers (some call) log (.error ("Setup request " ++ call.method ++ " " ++
        call.endpoint ++ " returned status " ++ response.status.text))
  | noToken {call : SideCall} {log : Log} {response : Http.Response} {e : TokenExtraction}
      (hx : Exchange (clientContext config headers none) (sideRequest config call []) log
        (.ok response))
      (hs : response.isError = false) (he : call.extractToken = some e)
      (ht : (response.body.deepGet e.fromPath).str? = none) :
      SetUp config headers (some call) log
        (.error ("Setup response has no string at '" ++ e.fromPath ++ "'"))
  | token {call : SideCall} {log : Log} {response : Http.Response} {e : TokenExtraction}
      {token : String}
      (hx : Exchange (clientContext config headers none) (sideRequest config call []) log
        (.ok response))
      (hs : response.isError = false) (he : call.extractToken = some e)
      (ht : (response.body.deepGet e.fromPath).str? = some token) :
      SetUp config headers (some call) log (.ok [(e.variableName, .str token)])
  | done {call : SideCall} {log : Log} {response : Http.Response}
      (hx : Exchange (clientContext config headers none) (sideRequest config call []) log
        (.ok response))
      (hs : response.isError = false) (he : call.extractToken = none) :
      SetUp config headers (some call) log (.ok [])

theorem setUp_of_response {config : Config} {headers : Http.Headers} {call : SideCall} {log : Log}
    {response : Http.Response}
    (hx : Exchange (clientContext config headers none) (sideRequest config call []) log
      (.ok response)) :
    SetUp config headers (some call) log (setupVariables call response) := by
  unfold setupVariables
  split
  · rename_i hs
    exact .refused hx hs
  · rename_i hs
    have hs : response.isError = false := by simpa using hs
    split
    · rename_i he
      exact .done hx hs he
    · rename_i e he
      split
      · rename_i token ht
        exact .token hx hs he ht
      · rename_i ht
        exact .noToken hx hs he ht

/-- A declared call raises what does not come from the environment. -/
inductive CallRaises (config : Config) (headers : Http.Headers) (bindings : Variables) :
    Option SideCall → Log → Failure → Prop
  | unanswered {call : SideCall} {log : Log} {f : Failure}
      (hx : Exchange (clientContext config headers none) (sideRequest config call bindings) log
        (.error f))
      (hf : f.isHost = false) : CallRaises config headers bindings (some call) log f

theorem CallRaises.fails {config : Config} {headers : Http.Headers} {bindings : Variables}
    {call : Option SideCall} {log : Log} {f : Failure}
    (h : CallRaises config headers bindings call log f) : Fails log f := by
  cases h with
  | unanswered hx _ => exact hx.fails_iff.mpr rfl

theorem CallRaises.not_host {config : Config} {headers : Http.Headers} {bindings : Variables}
    {call : Option SideCall} {log : Log} {f : Failure}
    (h : CallRaises config headers bindings call log f) : f.isHost = false := by
  cases h with
  | unanswered _ hf => exact hf

/-- **There is no other way for the setup request to go.** -/
theorem traces_runSetup {config : Config} {setup : Option SideCall} {headers : Http.Headers}
    {log : Log} {r : Except Failure (Except String Variables)} :
    Fallible.Traces (runSetup config setup headers) log r ↔
      (∃ v, r = .ok v ∧ SetUp config headers setup log v) ∨
        ∃ f, r = .error f ∧ CallRaises config headers [] setup log f := by
  cases setup with
  | none =>
    constructor
    · rintro ⟨rfl, rfl⟩
      exact .inl ⟨_, rfl, .undeclared⟩
    · rintro (⟨_, rfl, h⟩ | ⟨_, rfl, h⟩)
      · cases h
        exact ⟨rfl, rfl⟩
      · cases h
  | some call =>
    refine Fallible.traces_map.trans ?_
    constructor
    · rintro ⟨settled, hs, rfl⟩
      rcases traces_settle.mp hs with ⟨response, hx, rfl⟩ | ⟨f, hx, rfl⟩
      · exact .inl ⟨_, rfl, setUp_of_response (traces_sideExchange.mp hx)⟩
      · split
        · rename_i hf
          exact .inl ⟨_, rfl, .unanswered (traces_sideExchange.mp hx) hf⟩
        · rename_i hf
          exact .inr ⟨f, rfl, .unanswered (traces_sideExchange.mp hx) (by simpa using hf)⟩
    · rintro (⟨v, rfl, h⟩ | ⟨f, rfl, h⟩)
      · have hr : ∀ {response}, Exchange (clientContext config headers none)
              (sideRequest config call []) log (.ok response) →
            setupVariables call response = v → ∃ a, Fallible.Traces
              (settle "Setup request failed: " Failure.isHost
                (sideExchange config headers [] call)) log a ∧
              (.ok v : Except Failure _) = a.map fun sent => sent.bind (setupVariables call) :=
          fun hx hv => ⟨_, traces_settle.mpr (.inl ⟨_, traces_sideExchange.mpr hx, rfl⟩),
            congrArg Except.ok hv.symm⟩
        cases h with
        | unanswered hx hf =>
          exact ⟨_, traces_settle.mpr (.inr ⟨_, traces_sideExchange.mpr hx, (if_pos hf).symm⟩), rfl⟩
        | refused hx hs => exact hr hx (by simp [setupVariables, hs])
        | noToken hx hs he ht => exact hr hx (by simp [setupVariables, hs, he, ht])
        | token hx hs he ht => exact hr hx (by simp [setupVariables, hs, he, ht])
        | done hx hs he => exact hr hx (by simp [setupVariables, hs, he])
      · cases h with
        | unanswered hx hf =>
          exact ⟨_, traces_settle.mpr (.inr ⟨f, traces_sideExchange.mpr hx,
            (if_neg (by simp [hf])).symm⟩), rfl⟩

/-- What clients fail with in a setup that does not raise is foreseen. -/
theorem SetUp.foreseen {config : Config} {headers : Http.Headers} {setup : Option SideCall}
    {log : Log} {v : Except String Variables} {f : Failure}
    (h : SetUp config headers setup log v) (hf : Fails log f) : f.isHost = true := by
  cases h with
  | undeclared => exact absurd hf Fallible.not_fails_nil
  | unanswered hx hh =>
    obtain rfl := Except.error.inj (hx.fails_iff.mp hf)
    exact hh
  | refused hx => cases hx.fails_iff.mp hf
  | noToken hx => cases hx.fails_iff.mp hf
  | token hx => cases hx.fails_iff.mp hf
  | done hx => cases hx.fails_iff.mp hf

theorem SetUp.sent_le {config : Config} {headers : Http.Headers} {setup : Option SideCall}
    {log : Log} {v : Except String Variables} (h : SetUp config headers setup log v) :
    (sent log).length ≤ 1 := by
  cases h with
  | undeclared => exact Nat.zero_le 1
  | unanswered hx => exact hx.sent_le
  | refused hx => exact hx.sent_le
  | noToken hx => exact hx.sent_le
  | token hx => exact hx.sent_le
  | done hx => exact hx.sent_le

/-! ## Both -/

/-- How the preparation of a suite may go, with what is asked in authentication and in setup. -/
inductive Prepared (config : Config) (suite : ApiSuite) : (auth setup : Log) → Preparation → Prop
  | unauthenticated {auth : Log} {reason : String}
      (ha : Authentication config auth (.error reason)) :
      Prepared config suite auth [] { headers := [], bindings := [], obstacle := some reason }
  | notSetUp {auth setup : Log} {headers : Http.Headers} {reason : String}
      (ha : Authentication config auth (.ok headers))
      (hs : SetUp config headers suite.setup setup (.error reason)) :
      Prepared config suite auth setup { headers, bindings := [], obstacle := some reason }
  | ready {auth setup : Log} {headers : Http.Headers} {bindings : Variables}
      (ha : Authentication config auth (.ok headers))
      (hs : SetUp config headers suite.setup setup (.ok bindings)) :
      Prepared config suite auth setup { headers, bindings, obstacle := none }

/-- How a preparation may be given up, with what is asked in authentication and in setup. -/
inductive PreparationRaises (config : Config) (suite : ApiSuite) :
    (auth setup : Log) → Failure → Prop
  | authenticating {auth : Log} {f : Failure} (ha : AuthenticationRaises config auth f) :
      PreparationRaises config suite auth [] f
  | settingUp {auth setup : Log} {headers : Http.Headers} {f : Failure}
      (ha : Authentication config auth (.ok headers))
      (hs : CallRaises config headers [] suite.setup setup f) :
      PreparationRaises config suite auth setup f

/-- **A preparation comes to an end or is given up.** -/
theorem traces_prepare {config : Config} {suite : ApiSuite} {log : Log}
    {r : Except Failure Preparation} :
    Fallible.Traces (prepare config suite) log r ↔
      (∃ auth setup p, log = auth ++ setup ∧ r = .ok p ∧ Prepared config suite auth setup p) ∨
        ∃ auth setup f, log = auth ++ setup ∧ r = .error f ∧
          PreparationRaises config suite auth setup f := by
  constructor
  · intro h
    rcases Fallible.traces_bind.mp h with ⟨f, ha, rfl⟩ | ⟨a, auth, l₂, rfl, ha, h⟩
    · rcases traces_suiteHeaders.mp ha with ⟨_, hr, _⟩ | ⟨_, hr, ha⟩
      · cases hr
      · obtain rfl := Except.error.inj hr
        exact .inr ⟨log, [], f, by simp, rfl, .authenticating ha⟩
    rcases traces_suiteHeaders.mp ha with ⟨_, hr, ha⟩ | ⟨_, hr, _⟩
    rotate_left
    · cases hr
    obtain rfl := Except.ok.inj hr
    cases a with
    | error reason =>
      obtain ⟨rfl, rfl⟩ := h
      exact .inl ⟨auth, [], _, rfl, rfl, .unauthenticated ha⟩
    | ok headers =>
      rcases Fallible.traces_bind.mp h with ⟨f, hs, rfl⟩ | ⟨v, setup, l₃, rfl, hs, h⟩
      · rcases traces_runSetup.mp hs with ⟨_, hr, _⟩ | ⟨_, hr, hs⟩
        · cases hr
        · obtain rfl := Except.error.inj hr
          exact .inr ⟨auth, l₂, f, rfl, rfl, .settingUp ha hs⟩
      rcases traces_runSetup.mp hs with ⟨_, hr, hs⟩ | ⟨_, hr, _⟩
      rotate_left
      · cases hr
      obtain rfl := Except.ok.inj hr
      cases v with
      | error reason =>
        obtain ⟨rfl, rfl⟩ := h
        exact .inl ⟨auth, setup, _, by simp, rfl, .notSetUp ha hs⟩
      | ok bindings =>
        obtain ⟨rfl, rfl⟩ := h
        exact .inl ⟨auth, setup, _, by simp, rfl, .ready ha hs⟩
  · rintro (⟨auth, setup, p, rfl, rfl, h⟩ | ⟨auth, setup, f, rfl, rfl, h⟩)
    · cases h with
      | unauthenticated ha =>
        exact Fallible.traces_bind.mpr (.inr ⟨_, _, _, rfl,
          traces_suiteHeaders.mpr (.inl ⟨_, rfl, ha⟩), rfl, rfl⟩)
      | notSetUp ha hs =>
        exact Fallible.traces_bind.mpr (.inr ⟨_, _, _, rfl,
          traces_suiteHeaders.mpr (.inl ⟨_, rfl, ha⟩),
          Fallible.traces_bind.mpr (.inr ⟨_, _, _, (List.append_nil _).symm,
            traces_runSetup.mpr (.inl ⟨_, rfl, hs⟩), rfl, rfl⟩)⟩)
      | ready ha hs =>
        exact Fallible.traces_bind.mpr (.inr ⟨_, _, _, rfl,
          traces_suiteHeaders.mpr (.inl ⟨_, rfl, ha⟩),
          Fallible.traces_bind.mpr (.inr ⟨_, _, _, (List.append_nil _).symm,
            traces_runSetup.mpr (.inl ⟨_, rfl, hs⟩), rfl, rfl⟩)⟩)
    · cases h with
      | authenticating ha =>
        rw [List.append_nil]
        exact Fallible.traces_bind.mpr (.inl ⟨f, traces_suiteHeaders.mpr (.inr ⟨f, rfl, ha⟩), rfl⟩)
      | settingUp ha hs =>
        exact Fallible.traces_bind.mpr (.inr ⟨_, _, _, rfl,
          traces_suiteHeaders.mpr (.inl ⟨_, rfl, ha⟩),
          Fallible.traces_bind.mpr (.inl ⟨f, traces_runSetup.mpr (.inr ⟨f, rfl, hs⟩), rfl⟩)⟩)

/-- What is raised in a preparation is what its client failed with, and nothing is prepared for it.
-/
theorem PreparationRaises.fails {config : Config} {suite : ApiSuite} {auth setup : Log}
    {f : Failure} (h : PreparationRaises config suite auth setup f) :
    Fails (auth ++ setup) f ∧ f.isHost = false := by
  cases h with
  | authenticating ha => exact ⟨by simpa using ha.fails, ha.not_host⟩
  | settingUp _ hs => exact ⟨Fallible.fails_append.mpr (.inr hs.fails), hs.not_host⟩

/-- Where clients fail as the environment does, a preparation always comes to an end. -/
theorem prepared_of_traces {config : Config} {suite : ApiSuite} {log : Log}
    {r : Except Failure Preparation} (h : Fallible.Traces (prepare config suite) log r)
    (hl : Foreseen log) :
    ∃ auth setup p, log = auth ++ setup ∧ r = .ok p ∧ Prepared config suite auth setup p := by
  rcases traces_prepare.mp h with h | ⟨auth, setup, f, rfl, rfl, hf⟩
  · exact h
  · have hh : f.isHost = true := hl.isHost hf.fails.1
    rw [hf.fails.2] at hh
    cases hh

end SuiteEngine.Run
