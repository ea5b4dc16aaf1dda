import SuiteEngine.Proofs.Host.Pool
import SuiteEngine.Proofs.Host.Trial

/-!
# Programs that differ in the headers of their contexts

Two questions are alike when they differ in the headers of a client's context at most. Two programs
are alike when they ask alike questions and, for as long as they are answered alike, go on being
alike; what the clock shows need not agree. So headers that tell two alike programs apart can be
told from no request and no result, unless those who answer give them away.

Headlines:
* `Program.Alike.bind`: alike programs with alike continuations are alike.
* **`Program.Alike.follow`**: alike programs that are answered alike ask alike questions throughout
  and end alike.
* `Program.Twins.of_pool`, `Program.Twins.of_sideBySide`: so does each of several programs that go
  on side by side.
* `Heedless.answeredAlike`: machines that make no difference between alike questions answer alike.
-/

namespace SuiteEngine.Host

variable {α β γ δ : Type}

/-- Contexts that differ in their headers at most. -/
structure ClientContext.Alike (c c' : ClientContext) : Prop where
  baseUrl : c.baseUrl = c'.baseUrl
  timeout : c.timeout = c'.timeout

/-- Questions that differ in the headers of a context at most. -/
inductive Question.Alike : Question → Question → Prop
  | clock : Alike .clock .clock
  | warn (message : String) : Alike (.warn message) (.warn message)
  | openClient {c c' : ClientContext} (h : c.Alike c') : Alike (.openClient c) (.openClient c')
  | send {c c' : ClientContext} (h : c.Alike c') (request : Http.Request) :
      Alike (.send c request) (.send c' request)
  | closeClient : Alike .closeClient .closeClient

/-- Alike questions with the same answer, whatever the clock shows. -/
inductive Event.Alike : Event → Event → Prop
  | clock (now now' : Float) : Alike ⟨.clock, now⟩ ⟨.clock, now'⟩
  | warn (message : String) : Alike ⟨.warn message, ()⟩ ⟨.warn message, ()⟩
  | openClient {c c' : ClientContext} (h : c.Alike c') (a : Except Failure Unit) :
      Alike ⟨.openClient c, a⟩ ⟨.openClient c', a⟩
  | send {c c' : ClientContext} (h : c.Alike c') (request : Http.Request)
      (a : Except Failure Http.Response) : Alike ⟨.send c request, a⟩ ⟨.send c' request, a⟩
  | closeClient : Alike ⟨.closeClient, ()⟩ ⟨.closeClient, ()⟩

theorem Event.Alike.question {e e' : Event} (h : e.Alike e') : e.question.Alike e'.question := by
  cases h with
  | clock => exact .clock
  | warn message => exact .warn message
  | openClient h => exact .openClient h
  | send h request => exact .send h request
  | closeClient => exact .closeClient

/-- Logs that are alike, event by event. -/
abbrev Log.Alike (l l' : Log) : Prop := List.Forall₂ Event.Alike l l'

/-- Alike logs send the same requests. -/
theorem Log.Alike.sent_eq {l l' : Log} (h : Log.Alike l l') :
    Fallible.sent l = Fallible.sent l' := by
  induction h with
  | nil => rfl
  | cons he _ ih =>
    cases he with
    | send _ request _ => exact congrArg (request :: ·) ih
    | _ => exact ih

namespace Interleaves

variable {ε : Type} {ls : List (List ε)} {l : List ε}

theorem nil_cons (h : Interleaves ls l) : Interleaves ([] :: ls) l := by
  induction h with
  | nil h =>
    refine .nil fun l hl => ?_
    rcases List.mem_cons.mp hl with rfl | hl
    · rfl
    · exact h l hl
  | cons before e l after _ ih => exact .cons ([] :: before) e l after ih

/-- A list may come before what the others are made of. -/
theorem prepend (h : Interleaves ls l) (m : List ε) : Interleaves (m :: ls) (m ++ l) := by
  induction m with
  | nil => exact h.nil_cons
  | cons e m ih => exact .cons [] e m ls ih

end Interleaves

/-! ## Answers -/

/-- As long as all went alike, a question that is alike is answered alike. -/
def AnsweredAlike (l l' : Log) : Prop :=
  ∀ before e rest before' e' rest', l = before ++ e :: rest → l' = before' ++ e' :: rest' →
    Log.Alike before before' → e.question.Alike e'.question → e.Alike e'

/-- Questions that are alike are answered alike, whenever they are asked. -/
def AlwaysAlike (l l' : Log) : Prop :=
  ∀ e ∈ l, ∀ e' ∈ l', e.question.Alike e'.question → e.Alike e'

theorem AlwaysAlike.mono {l l' m m' : Log} (h : AlwaysAlike l l') (hm : m ⊆ l) (hm' : m' ⊆ l') :
    AlwaysAlike m m' := fun e he e' he' => h e (hm he) e' (hm' he')

theorem AlwaysAlike.answered {l l' : Log} (h : AlwaysAlike l l') : AnsweredAlike l l' := by
  rintro before e rest before' e' rest' rfl rfl -
  exact h e (by simp) e' (by simp)

theorem AnsweredAlike.left {l₁ l₂ l₁' l₂' : Log} (h : AnsweredAlike (l₁ ++ l₂) (l₁' ++ l₂')) :
    AnsweredAlike l₁ l₁' := by
  rintro before e rest before' e' rest' rfl rfl
  exact h before e (rest ++ l₂) before' e' (rest' ++ l₂') (by simp) (by simp)

theorem AnsweredAlike.right {l₁ l₂ l₁' l₂' : Log} (h : AnsweredAlike (l₁ ++ l₂) (l₁' ++ l₂'))
    (hl : Log.Alike l₁ l₁') : AnsweredAlike l₂ l₂' := by
  rintro before e rest before' e' rest' rfl rfl hb
  exact h (l₁ ++ before) e rest (l₁' ++ before') e' rest' (by simp) (by simp)
    (List.rel_append hl hb)

theorem AnsweredAlike.head {e e' : Event} {l l' : Log} (h : AnsweredAlike (e :: l) (e' :: l'))
    (hq : e.question.Alike e'.question) : e.Alike e' :=
  h [] e l [] e' l' rfl rfl .nil hq

theorem AnsweredAlike.tail {e e' : Event} {l l' : Log} (h : AnsweredAlike (e :: l) (e' :: l'))
    (he : e.Alike e') : AnsweredAlike l l' := by
  have h : AnsweredAlike ([e] ++ l) ([e'] ++ l') := h
  exact h.right (.cons he .nil)

/-! ## Programs -/

namespace Program

/-- Programs that ask alike questions and go on being alike while they are answered alike; what they
end with is related. -/
inductive Alike (Q : α → β → Prop) : Program α → Program β → Prop
  | done {a : α} {b : β} (h : Q a b) : Alike Q (done a) (done b)
  | ask {q q' : Question} {next : q.Answer → Program α} {next' : q'.Answer → Program β}
      (hq : q.Alike q')
      (h : ∀ a a', Event.Alike ⟨q, a⟩ ⟨q', a'⟩ → Alike Q (next a) (next' a')) :
      Alike Q (ask q next) (ask q' next')

namespace Alike

variable {Q : α → β → Prop} {S : γ → δ → Prop} {p : Program α} {p' : Program β}

theorem mono {Q' : α → β → Prop} (h : Alike Q p p') (hq : ∀ a b, Q a b → Q' a b) :
    Alike Q' p p' := by
  induction h with
  | done h => exact .done (hq _ _ h)
  | ask hs _ ih => exact .ask hs ih

/-- **Alike programs with alike continuations are alike.** -/
theorem bind {f : α → Program γ} {f' : β → Program δ} (h : Alike Q p p')
    (hf : ∀ a b, Q a b → Alike S (f a) (f' b)) : Alike S (p >>= f) (p' >>= f') := by
  induction h with
  | done h => exact hf _ _ h
  | ask hq _ ih => exact .ask hq ih

theorem clock : Alike (fun _ _ => True) Program.clock Program.clock :=
  .ask .clock fun _ _ _ => .done trivial

theorem warn (message : String) : Alike Eq (Program.warn message) (Program.warn message) :=
  .ask (.warn message) fun _ _ _ => .done rfl

theorem openClient {c c' : ClientContext} (h : c.Alike c') :
    @Alike (Except Failure Unit) (Except Failure Unit) Eq (question (.openClient c))
      (question (.openClient c')) := by
  refine .ask (.openClient h) fun a a' he => ?_
  cases he
  exact .done rfl

theorem send {c c' : ClientContext} (h : c.Alike c') (request : Http.Request) :
    @Alike (Except Failure Http.Response) (Except Failure Http.Response) Eq
      (question (.send c request)) (question (.send c' request)) := by
  refine .ask (.send h request) fun a a' he => ?_
  cases he
  exact .done rfl

theorem closeClient :
    @Alike Unit Unit Eq (question .closeClient) (question .closeClient) :=
  .ask .closeClient fun _ _ _ => .done rfl

/-- **Alike programs that are answered alike go the same way**: all they ask is alike, and so is what
they end with. -/
theorem follow {l l' : Log} {r : α} {r' : β} (h : Alike Q p p') (ht : p.Traces l r)
    (ht' : p'.Traces l' r') (ha : AnsweredAlike l l') : Log.Alike l l' ∧ Q r r' := by
  induction h generalizing l l' with
  | done h =>
    obtain ⟨rfl, rfl⟩ := ht
    obtain ⟨rfl, rfl⟩ := ht'
    exact ⟨.nil, h⟩
  | ask hq _ ih =>
    obtain ⟨a, rest, rfl, ht⟩ := ht
    obtain ⟨a', rest', rfl, ht'⟩ := ht'
    have he := ha.head hq
    obtain ⟨hl, hr⟩ := ih a a' he ht ht' (ha.tail he)
    exact ⟨.cons he hl, hr⟩

theorem isDone_eq (h : Alike Q p p') : p.isDone = p'.isDone := by
  cases h with
  | done => rfl
  | ask => rfl

theorem of_ask {q : Question} {next : q.Answer → Program α} (h : Alike Q (Program.ask q next) p') :
    ∃ (q' : Question) (next' : q'.Answer → Program β), p' = Program.ask q' next' ∧ q.Alike q' ∧
      ∀ a a', Event.Alike ⟨q, a⟩ ⟨q', a'⟩ → Alike Q (next a) (next' a') := by
  cases h with
  | ask hq h => exact ⟨_, _, rfl, hq, h⟩

end Alike

/-! ## Side by side -/

/-- What two programs asked and were told, and what they ended with. -/
structure Twin (α β : Type) where
  log : Log
  log' : Log
  result : α
  result' : β

/-- They asked alike questions and ended alike. -/
structure Twin.Of (Q : α → β → Prop) (pp : Program α × Program β) (t : Twin α β) : Prop where
  traces : pp.1.Traces t.log t.result
  traces' : pp.2.Traces t.log' t.result'
  alike : Log.Alike t.log t.log'
  ends : Q t.result t.result'

/-- The logs and the results of two lists of programs that go on side by side are made of what each
pair of them asks and ends with. -/
def Twins (Q : α → β → Prop) (pps : List (Program α × Program β)) (log log' : Log) (rs : List α)
    (rs' : List β) : Prop :=
  ∃ ts : List (Twin α β), List.Forall₂ (Twin.Of Q) pps ts ∧ Interleaves (ts.map Twin.log) log ∧
    Interleaves (ts.map Twin.log') log' ∧ rs = ts.map Twin.result ∧ rs' = ts.map Twin.result'

variable {Q : α → β → Prop} {pps : List (Program α × Program β)} {log log' : Log} {rs : List α}
  {rs' : List β}

theorem underWay_eq {places : Nat} (h : ∀ pp ∈ pps, Alike Q pp.1 pp.2) :
    underWay places (pps.map Prod.fst) = underWay places (pps.map Prod.snd) := by
  have hu : unfinished (pps.map Prod.fst) = unfinished (pps.map Prod.snd) := by
    unfold unfinished
    rw [List.length_map, List.length_map]
    refine List.filter_congr fun i _ => ?_
    rw [List.getElem?_map, List.getElem?_map]
    cases hi : pps[i]? with
    | none => rfl
    | some pp =>
      have hd := (h pp (List.mem_of_getElem? hi)).isDone_eq
      simp [hd]
  rw [underWay, underWay, hu]

theorem forall_middle {before after : List (Program α × Program β)} {pp x : Program α × Program β}
    (h : ∀ y ∈ before ++ x :: after, Alike Q y.1 y.2) (hp : Alike Q pp.1 pp.2) :
    ∀ y ∈ before ++ pp :: after, Alike Q y.1 y.2 := by
  intro y hy
  rcases List.mem_append.mp hy with hy | hy
  · exact h y (List.mem_append_left _ hy)
  · rcases List.mem_cons.mp hy with rfl | hy
    · exact hp
    · exact h y (List.mem_append_right _ (List.mem_cons_of_mem _ hy))

/-- One of the pairs asks first. -/
theorem Twins.turn {before after : List (Program α × Program β)} {q q' : Question}
    {next : q.Answer → Program α} {next' : q'.Answer → Program β} {a : q.Answer} {a' : q'.Answer}
    (he : Event.Alike ⟨q, a⟩ ⟨q', a'⟩)
    (h : Twins Q (before ++ (next a, next' a') :: after) log log' rs rs') :
    Twins Q (before ++ (ask q next, ask q' next') :: after) (⟨q, a⟩ :: log) (⟨q', a'⟩ :: log') rs
      rs' := by
  obtain ⟨ts, ht, hl, hl', rfl, rfl⟩ := h
  obtain ⟨tb, t, ta, rfl, hb, hm, hf⟩ := forall₂_middle ht
  rw [List.map_append, List.map_cons] at hl hl'
  refine ⟨tb ++ ⟨⟨q, a⟩ :: t.log, ⟨q', a'⟩ :: t.log', t.result, t.result'⟩ :: ta, ?_, ?_, ?_, ?_, ?_⟩
  · refine List.rel_append hb (.cons ?_ hf)
    exact {
      traces := ⟨a, _, rfl, hm.traces⟩
      traces' := ⟨a', _, rfl, hm.traces'⟩
      alike := .cons he hm.alike
      ends := hm.ends }
  · rw [List.map_append, List.map_cons]
    exact .cons _ _ _ _ hl
  · rw [List.map_append, List.map_cons]
    exact .cons _ _ _ _ hl'
  · simp
  · simp

/-- Alike programs that are finished one after the other. -/
theorem Twins.inOrder (h : ∀ pp ∈ pps, Alike Q pp.1 pp.2)
    (ht : ((pps.map Prod.fst).mapM id).Traces log rs)
    (ht' : ((pps.map Prod.snd).mapM id).Traces log' rs') (ha : AnsweredAlike log log') :
    Twins Q pps log log' rs rs' ∧ Log.Alike log log' := by
  induction pps generalizing log log' rs rs' with
  | nil =>
    obtain ⟨rfl, rfl⟩ := traces_mapM_nil.mp ht
    obtain ⟨rfl, rfl⟩ := traces_mapM_nil.mp ht'
    exact ⟨⟨[], .nil, .nil (by simp), .nil (by simp), rfl, rfl⟩, .nil⟩
  | cons pp pps ih =>
    obtain ⟨l₁, r, l₂, rs, rfl, rfl, h₁, h₂⟩ := traces_mapM_cons.mp ht
    obtain ⟨l₁', r', l₂', rs', rfl, rfl, h₁', h₂'⟩ := traces_mapM_cons.mp ht'
    obtain ⟨hl, hr⟩ := (h pp List.mem_cons_self).follow h₁ h₁' ha.left
    obtain ⟨⟨ts, hts, hi, hi', rfl, rfl⟩, hls⟩ :=
      ih (fun x hx => h x (List.mem_cons_of_mem _ hx)) h₂ h₂' (ha.right hl)
    refine ⟨⟨⟨l₁, l₁', r, r'⟩ :: ts, ?_, ?_, ?_, rfl, rfl⟩, List.rel_append hl hls⟩
    · exact .cons ⟨h₁, h₁', hl, hr⟩ hts
    · exact hi.prepend l₁
    · exact hi'.prepend l₁'

/-- **Alike programs that take the same turns and are answered alike go on alike, each by itself.**
-/
theorem Twins.of_pool {places : Nat} {turns : List Nat} (h : ∀ pp ∈ pps, Alike Q pp.1 pp.2)
    (ht : (pool places turns (pps.map Prod.fst)).Traces log rs)
    (ht' : (pool places turns (pps.map Prod.snd)).Traces log' rs') (ha : AnsweredAlike log log') :
    Twins Q pps log log' rs rs' ∧ Log.Alike log log' := by
  induction turns generalizing pps log log' with
  | nil => exact inOrder h ht ht' ha
  | cons i turns ih =>
    rw [pool] at ht ht'
    rw [← underWay_eq h] at ht'
    by_cases hi : (underWay places (pps.map Prod.fst)).contains i = true
    · rw [if_pos hi] at ht ht'
      have hi : i ∈ underWay places (pps.map Prod.fst) := by simpa using hi
      obtain ⟨before, q, next, after, hps, rfl⟩ := mem_underWay hi
      obtain ⟨b, rest, rfl, rfl, hrest⟩ := List.map_eq_append_iff.mp hps
      obtain ⟨⟨p, p'⟩, c, rfl, rfl, rfl⟩ := List.map_eq_cons_iff.mp hrest
      obtain ⟨q', next', rfl, hq, hn⟩ := (h (ask q next, p') (by simp)).of_ask
      have hlen : (b.map Prod.fst).length = (b.map Prod.snd).length := by simp
      rw [hps, advance_middle, traces_bind] at ht
      obtain ⟨_, _, l₂, rfl, ⟨a, _, rfl, rfl, rfl⟩, ht⟩ := ht
      rw [List.map_append, List.map_cons, hlen, advance_middle, traces_bind] at ht'
      obtain ⟨_, _, l₂', rfl, ⟨a', _, rfl, rfl, rfl⟩, ht'⟩ := ht'
      have he : Event.Alike ⟨q, a⟩ ⟨q', a'⟩ := ha.head hq
      have hall : ∀ y ∈ b ++ (next a, next' a') :: c, Alike Q y.1 y.2 :=
        forall_middle h (hn a a' he)
      obtain ⟨hts, hl⟩ := ih hall (by simpa using ht) (by simpa using ht') (ha.tail he)
      exact ⟨hts.turn he, .cons he hl⟩
    · rw [if_neg hi] at ht ht'
      exact ih h ht ht' ha

/-- Runs of alike programs, each by itself, are alike pair by pair. -/
theorem exists_twins {ts : List (Log × α)} {ts' : List (Log × β)}
    (h : ∀ pp ∈ pps, Alike Q pp.1 pp.2)
    (ht : List.Forall₂ (fun pp t => pp.1.Traces t.1 t.2) pps ts)
    (ht' : List.Forall₂ (fun pp t => pp.2.Traces t.1 t.2) pps ts')
    (ha : ∀ t ∈ ts, ∀ t' ∈ ts', AlwaysAlike t.1 t'.1) :
    ∃ us : List (Twin α β), List.Forall₂ (Twin.Of Q) pps us ∧
      ts = us.map (fun u => (u.log, u.result)) ∧ ts' = us.map (fun u => (u.log', u.result')) := by
  induction pps generalizing ts ts' with
  | nil =>
    cases ht
    cases ht'
    exact ⟨[], .nil, rfl, rfl⟩
  | cons pp pps ih =>
    obtain ⟨t, ts, h₁, hts, rfl⟩ := List.forall₂_cons_left_iff.mp ht
    obtain ⟨t', ts', h₁', hts', rfl⟩ := List.forall₂_cons_left_iff.mp ht'
    have hpair := ha t List.mem_cons_self t' List.mem_cons_self
    obtain ⟨hl, hr⟩ := (h pp List.mem_cons_self).follow h₁ h₁' hpair.answered
    obtain ⟨us, hus, rfl, rfl⟩ := ih (fun x hx => h x (List.mem_cons_of_mem _ hx)) hts hts'
      fun t ht t' ht' => ha t (List.mem_cons_of_mem _ ht) t' (List.mem_cons_of_mem _ ht')
    exact ⟨⟨t.1, t'.1, t.2, t'.2⟩ :: us, .cons ⟨h₁, h₁', hl, hr⟩ hus, rfl, rfl⟩

/-- Where questions that are alike are answered alike whenever they are asked, alike programs go on
alike in any order of steps. -/
theorem Twins.of_sideBySide {places places' : Nat} (h : ∀ pp ∈ pps, Alike Q pp.1 pp.2)
    (hs : SideBySide places (pps.map Prod.fst) log rs)
    (hs' : SideBySide places' (pps.map Prod.snd) log' rs') (ha : AlwaysAlike log log') :
    Twins Q pps log log' rs rs' := by
  obtain ⟨ts, ht, hi, rfl⟩ := hs.threads
  obtain ⟨ts', ht', hi', rfl⟩ := hs'.threads
  rw [List.forall₂_map_left_iff] at ht ht'
  obtain ⟨us, hus, rfl, rfl⟩ := exists_twins h ht ht' fun t hm t' hm' => ha.mono
    (fun e he => hi.mem_iff.mpr ⟨t.1, List.mem_map_of_mem hm, he⟩)
    (fun e he => hi'.mem_iff.mpr ⟨t'.1, List.mem_map_of_mem hm', he⟩)
  rw [List.map_map] at hi hi'
  exact ⟨us, hus, hi, hi', by rw [List.map_map]; rfl, by rw [List.map_map]; rfl⟩

end Program

/-! ## On machines -/

section Machine

variable {σ τ : Type}

/-- Machines whose states are related give alike answers to alike questions, and their states stay
related: headers of contexts make no difference to them. -/
def Heedless (R : σ → τ → Prop) (answer : (q : Question) → σ → q.Answer × σ)
    (answer' : (q : Question) → τ → q.Answer × τ) : Prop :=
  ∀ q q', q.Alike q' → ∀ s t, R s t →
    Event.Alike ⟨q, (answer q s).1⟩ ⟨q', (answer' q' t).1⟩ ∧ R (answer q s).2 (answer' q' t).2

variable {R : σ → τ → Prop} {answer : (q : Question) → σ → q.Answer × σ}
  {answer' : (q : Question) → τ → q.Answer × τ}

/-- Such machines answer alike as long as all went alike. -/
theorem Heedless.answeredAlike (hm : Heedless R answer answer') (p : Program α) (p' : Program β)
    {s : σ} {t : τ} (hs : R s t) : AnsweredAlike (p.logOf answer s) (p'.logOf answer' t) := by
  intro before e rest before' e' rest' hl hl' hb hq
  induction hb generalizing p p' s t with
  | nil =>
    cases p with
    | done => cases hl
    | ask q next =>
      cases p' with
      | done => cases hl'
      | ask q' next' =>
        obtain ⟨rfl, -⟩ := List.cons.inj hl
        obtain ⟨rfl, -⟩ := List.cons.inj hl'
        exact (hm q q' hq s t hs).1
  | cons he _ ih =>
    cases p with
    | done => cases hl
    | ask q next =>
      cases p' with
      | done => cases hl'
      | ask q' next' =>
        obtain ⟨rfl, hrest⟩ := List.cons.inj hl
        obtain ⟨rfl, hrest'⟩ := List.cons.inj hl'
        exact ih _ _ (hm q q' he.question s t hs).2 hrest hrest'

/-- Where no state matters, such machines always answer alike. -/
theorem Heedless.alwaysAlike (hm : Heedless R answer answer') (hr : ∀ s t, R s t) {l l' : Log}
    (h : ∀ e ∈ l, Program.Answers answer e) (h' : ∀ e ∈ l', Program.Answers answer' e) :
    AlwaysAlike l l' := by
  rintro ⟨q, a⟩ he ⟨q', a'⟩ he' hq
  obtain ⟨s, hs⟩ := h _ he
  obtain ⟨t, ht⟩ := h' _ he'
  have hst := (hm q q' hq s t (hr s t)).1
  dsimp only at hs ht
  rwa [hs, ht] at hst

end Machine

/-! ## Programs that may fail -/

namespace Fallible

/-- Alike programs that may fail, with the same result or failure. -/
abbrev Alike (x x' : Fallible α) : Prop := Program.Alike Eq x.run x'.run

theorem alike_pure (a : α) : Alike (pure a) (pure a) := .done rfl

theorem alike_throw (f : Failure) : Alike (throw f : Fallible α) (throw f) := .done rfl

theorem alike_lift {p p' : Program α} (h : Program.Alike Eq p p') : Alike (lift p) (lift p') := by
  change Program.Alike Eq (Except.ok <$> p) (Except.ok <$> p')
  rw [map_eq_pure_bind, map_eq_pure_bind]
  refine h.bind ?_
  rintro a _ rfl
  exact .done rfl

variable {x x' : Fallible α}

theorem Alike.bind {f f' : α → Fallible β} (h : Alike x x') (hf : ∀ a, Alike (f a) (f' a)) :
    Alike (x >>= f) (x' >>= f') := by
  rw [Alike, ExceptT.run_bind, ExceptT.run_bind]
  refine Program.Alike.bind h ?_
  rintro (e | a) _ rfl
  · exact .done rfl
  · exact hf a

theorem Alike.tryCatch {g g' : Failure → Fallible α} (h : Alike x x')
    (hg : ∀ f, Alike (g f) (g' f)) : Alike (tryCatch x g) (tryCatch x' g') := by
  rw [Alike, ExceptT.run_tryCatch, ExceptT.run_tryCatch]
  refine Program.Alike.bind h ?_
  rintro (e | a) _ rfl
  · exact hg e
  · exact .done rfl

variable {c c' : ClientContext}

theorem alike_withClient (h : c.Alike c') (hx : Alike x x') :
    Alike (withClient c x) (withClient c' x') := by
  refine Alike.bind (Program.Alike.openClient h) fun _ => ?_
  refine Alike.bind (alike_lift hx) fun r => ?_
  refine Alike.bind (alike_lift Program.Alike.closeClient) fun _ => ?_
  exact .done rfl

theorem alike_exchange (h : c.Alike c') (request : Http.Request) :
    Alike (exchange c request) (exchange c' request) :=
  alike_withClient h (Program.Alike.send h request)

end Fallible

/-! ## Trials -/

namespace Trial

/-- Alike trials, with the same result and the same attachments whatever was recorded before. -/
def Alike (t t' : Trial α) : Prop :=
  ∀ before, Program.Alike Eq (t.run.run before) (t'.run.run before)

theorem alike_throw (f : Failure) : Alike (throw f : Trial α) (throw f) := fun _ => .done rfl

theorem alike_pure (a : α) : Alike (pure a) (pure a) := fun _ => .done rfl

theorem alike_ofExcept (r : Except Failure α) : Alike (ofExcept r) (ofExcept r) :=
  fun _ => .done rfl

theorem alike_attach (a : Report.Attachment) : Alike (attach a) (attach a) := fun _ => .done rfl

theorem alike_ofFallible {x x' : Fallible α} (h : Fallible.Alike x x') :
    Alike (ofFallible x) (ofFallible x') := by
  intro before
  refine Program.Alike.bind h ?_
  rintro r _ rfl
  exact .done rfl

theorem Alike.bind {t t' : Trial α} {f f' : α → Trial β} (h : Alike t t')
    (hf : ∀ a, Alike (f a) (f' a)) : Alike (t >>= f) (t' >>= f') := by
  intro before
  rw [ExceptT.run_bind, ExceptT.run_bind, StateT.run_bind, StateT.run_bind]
  refine (h before).bind ?_
  rintro ⟨e | a, between⟩ _ rfl
  · exact .done rfl
  · exact hf a between

end Trial

end SuiteEngine.Host
