import SuiteEngine.Proofs.Decimal.Quotient
import SuiteEngine.Proofs.Except
import SuiteEngine.Proofs.Ui.Sequence
import SuiteEngine.Run.Attempts

/-!
# What an action must declare

An action names what is to be done, and has the selector and the value that this needs. What is to be done is
then fixed, and is one call of the page at most: a call about an element is about the declared one. An action
that does not declare what it needs is refused as a breach of contract, before the page is called.

Not every other refusal is one. The numbers of milliseconds and of elements are converted without regard to
what has no float or no whole number, and the texts of values without regard to whole numbers that are too
long to be written; these failures count as those of the host.

Headlines:
* **`perform_declared`**: how often the page is called, and when an action is refused.
* **`perform_unasked`**: all failures of actions that do not call the page.
-/

namespace SuiteEngine.Ui

open Host (Event Log PageCall Program Question)
open Report (Attachment)
open Run (AttemptOutcome classify)
open Suite (UiAction)

variable {a : UiAction} {kind : ActionKind} {f : Failure}

/-! ## Which action is declared -/

theorem ActionKind.ofWord?_word (kind : ActionKind) : ActionKind.ofWord? kind.word = some kind := by
  cases kind <;> decide

theorem ActionKind.ofWord?_eq_some {w : String} : ActionKind.ofWord? w = some kind ↔ kind.word = w := by
  constructor
  · intro h
    simpa using List.find?_some h
  · rintro rfl
    exact kind.ofWord?_word

theorem selector?_eq_some {s : String} : selector? a = some s ↔ a.selector = some s ∧ s ≠ "" := by
  simp [selector?, Option.filter_eq_some_iff]

/-- The action is of this kind, and has what it needs. -/
structure Declares (a : UiAction) (kind : ActionKind) : Prop where
  word : kind.word = a.action
  selector : kind.needsSelector = true → ∃ s, a.selector = some s ∧ s ≠ ""
  value : kind.needsValue = true → a.value.isNull = false

/-- An action is of the kind that it declares; one that declares none breaks the contract. -/
theorem actionKind_cases (a : UiAction) :
    (∃ kind, ActionKind.of? a = .ok kind ∧ Declares a kind) ∨
      ∃ message, ActionKind.of? a = .error (contractFailure message) := by
  unfold ActionKind.of?
  cases hw : ActionKind.ofWord? a.action with
  | none => exact .inr ⟨_, rfl⟩
  | some kind =>
    dsimp only
    split
    · exact .inr ⟨_, rfl⟩
    rename_i hs
    split
    · exact .inr ⟨_, rfl⟩
    rename_i hv
    refine .inl ⟨kind, rfl, ActionKind.ofWord?_eq_some.mp hw, fun hneeds => ?_, fun hneeds => ?_⟩
    · cases hsel : selector? a with
      | none => exact absurd (by rw [hneeds, hsel]; rfl) hs
      | some s => exact ⟨s, selector?_eq_some.mp hsel⟩
    · cases hnull : a.value.isNull with
      | true => exact absurd (by rw [hneeds, hnull]; rfl) hv
      | false => rfl

theorem Declares.of_actionKind (h : ActionKind.of? a = .ok kind) : Declares a kind := by
  rcases actionKind_cases a with ⟨kind', h', hd⟩ | ⟨message, h'⟩
  · rwa [Except.ok.inj (h.symm.trans h')]
  · cases h.symm.trans h'

/-- An action declares one kind only. -/
theorem Declares.kind_eq {kind' : ActionKind} (hd : Declares a kind') (hw : kind.word = a.action) :
    kind' = kind :=
  Option.some.inj ((ActionKind.ofWord?_eq_some.mpr hd.word).symm.trans (ActionKind.ofWord?_eq_some.mpr hw))

/-! ## What it calls -/

/-- The element of the page that a call is about. -/
def elementOf? : PageCall → Option String
  | .click s _ | .fill s _ _ | .selectOption s _ _ | .check s _ | .uncheck s _ | .hover s _ => some s
  | .press s _ _ | .scrollIntoView s _ | .setInputFile s _ _ | .setInputFiles s _ _ => some s
  | .waitForSelector s _ | .expectVisible s _ | .expectHidden s _ | .expectText s _ _ => some s
  | .expectValue s _ _ | .expectCount s _ _ => some s
  | .goto _ _ | .scrollTo _ _ | .evaluate _ | .waitForTimeout _ | .waitForUrl _ _ => none
  | .expectUrl _ _ | .expectTitle _ _ | .setViewport _ _ => none

/-- The element that a plan is about. -/
def Plan.element? : Plan → Option String
  | .call asked => elementOf? asked
  | .wait _ | .capture _ _ => none

/-- The element that an action of a kind is about: scrolling may be about one or not. -/
def declaredElement? (kind : ActionKind) (a : UiAction) : Option String :=
  if kind.needsSelector then some ((selector? a).getD "")
  else if kind = .scroll then selector? a else none

theorem written_eq_ok {α : Type} {v : Value} {made x : α} :
    written v made = .ok x ↔ Json.writable v = true ∧ made = x := by
  unfold written
  cases Json.writable v <;> simp

theorem written_eq_error {α : Type} {v : Value} {made : α} :
    written v made = .error f ↔ Json.writable v = false ∧ f = unwritten := by
  unfold written
  cases Json.writable v <;> simp [eq_comm]

theorem elementOf_upload (s : String) (a : UiAction) : elementOf? (uploadCall s a) = some s := by
  unfold uploadCall
  split <;> rfl

theorem element_of_scrollPosition {call : PageCall} (h : scrollPosition a = .ok call) :
    elementOf? call = none := by
  unfold scrollPosition at h
  dsimp only at h
  split at h
  · split at h
    · obtain rfl := Except.ok.inj h
      rfl
    · cases h
  · cases h

/-- **What is planned is about the declared element.** -/
theorem element_of_planOf {plan : Plan} (h : planOf kind a = .ok plan) :
    plan.element? = declaredElement? kind a := by
  cases kind
  case goto | fill | select | press | upload | evaluate | waitForUrl | assertText | assertValue | assertUrl |
      assertTitle | screenshot =>
    obtain ⟨-, rfl⟩ := written_eq_ok.mp h
    first | rfl | exact elementOf_upload _ _
  case click | check | uncheck | hover | waitForSelector | assertVisible | assertHidden =>
    obtain rfl := Except.ok.inj h
    rfl
  case wait | assertCount =>
    obtain ⟨x, -, rfl⟩ := map_eq_ok.mp h
    rfl
  case scroll =>
    unfold planOf at h
    cases hs : selector? a with
    | some s =>
      rw [hs] at h
      obtain rfl := Except.ok.inj h
      exact hs.symm
    | none =>
      rw [hs] at h
      obtain ⟨call, hc, rfl⟩ := map_eq_ok.mp h
      exact (element_of_scrollPosition hc).trans hs.symm

theorem Declares.of_element {s : String} (hd : Declares a kind) (h : declaredElement? kind a = some s) :
    a.selector = some s ∧ s ≠ "" := by
  unfold declaredElement? at h
  split at h
  · rename_i hneeds
    obtain ⟨t, ht⟩ := hd.selector hneeds
    rw [selector?_eq_some.mpr ht] at h
    obtain rfl := Option.some.inj h
    exact ht
  · split at h
    · exact selector?_eq_some.mp h
    · cases h

theorem exists_element (hneeds : kind.needsSelector = true) (a : UiAction) :
    ∃ s, declaredElement? kind a = some s := ⟨_, if_pos hneeds⟩

theorem plan_eq_ok {plan : Plan} (h : Plan.of a = .ok plan) :
    ∃ kind, Declares a kind ∧ planOf kind a = .ok plan := by
  rcases actionKind_cases a with ⟨kind, hk, hd⟩ | ⟨message, hk⟩
  · rw [Plan.of, hk] at h
    exact ⟨kind, hd, h⟩
  · rw [Plan.of, hk] at h
    cases h

/-! ## How often it calls -/

/-- The action is refused as a breach of contract, before anything is asked. -/
def Refused (log : Log) (r : Except Failure Unit) : Prop :=
  log = [] ∧ ∃ message, r = .error (contractFailure message)

variable {c : Setting} {log : Log} {r : Except Failure Unit}

theorem Carried.length_eq {plan : Plan} (h : Carried c log plan) : (pageQuestions log).length = 1 := by
  cases h with
  | call hlog | wait _ hlog | waitUntil _ _ hlog | capture hlog =>
    rw [hlog]
    rfl

/-- What performing an action asks of the page. -/
structure Performed (c : Setting) (a : UiAction) (log : Log) (r : Except Failure Unit) : Prop where
  atMostOnce : (pageQuestions log).length ≤ 1
  once : r = .ok () → (pageQuestions log).length = 1
  /-- Unless the page itself tells of a breach of contract, one that is raised was found before the page was
  called. -/
  never : (∀ e ∈ log, ∀ told, Told told e → told.kind ≠ .contract) → ∀ f, r = .error f →
    f.kind = .contract → pageQuestions log = []
  unknown : (∀ kind : ActionKind, kind.word ≠ a.action) → Refused log r
  unselected : ∀ kind : ActionKind, kind.word = a.action → kind.needsSelector = true →
    (a.selector = none ∨ a.selector = some "") → Refused log r
  unvalued : ∀ kind : ActionKind, kind.word = a.action → kind.needsValue = true →
    a.value.isNull = true → Refused log r
  /-- An action that needs a selector calls the page for the element that it declares. -/
  carried : ∀ kind : ActionKind, kind.word = a.action → kind.needsSelector = true →
    ∀ q ∈ pageQuestions log, ∃ call s, q = .onPage c.session call ∧ elementOf? call = some s ∧
      a.selector = some s ∧ s ≠ ""
  /-- No call of any action is about another element than the declared one. -/
  declared : ∀ session call, .onPage session call ∈ pageQuestions log → session = c.session ∧
    ∀ s, elementOf? call = some s → a.selector = some s ∧ s ≠ ""

/-- An action that does not declare what it needs is refused. -/
theorem Acted.refused_of_undeclared (h : Acted c a log r) (hno : ∀ kind, ¬ Declares a kind) :
    Refused log r := by
  rcases actionKind_cases a with ⟨kind, -, hd⟩ | ⟨message, hk⟩
  · exact absurd hd (hno kind)
  · have hp : Plan.of a = .error (contractFailure message) := by
      rw [Plan.of, hk]
      rfl
    obtain ⟨hlog, hr⟩ := h.eq_error hp
    exact ⟨hlog, message, hr⟩

/-- What is asked of the page for an action is about the element that it declares. -/
theorem Acted.element (h : Acted c a log r) {q : Question} (hq : q ∈ pageQuestions log) :
    ∃ kind, Declares a kind ∧
      ((∃ call, q = .onPage c.session call ∧ elementOf? call = declaredElement? kind a) ∨
        ∃ shot, q = .screenshot c.session shot ∧ none = declaredElement? kind a) := by
  rcases h.asked with ⟨plan, hp, hcarried⟩ | ⟨_, _, rfl, _⟩
  · obtain ⟨kind, hd, hplan⟩ := plan_eq_ok hp
    have helement := element_of_planOf hplan
    refine ⟨kind, hd, ?_⟩
    cases hcarried with
    | call hlog | wait _ hlog | waitUntil _ _ hlog =>
      rw [hlog, List.mem_singleton] at hq
      exact .inl ⟨_, hq, helement⟩
    | capture hlog =>
      rw [hlog, List.mem_singleton] at hq
      exact .inr ⟨_, hq, helement⟩
  · cases hq

theorem Acted.performed (h : Acted c a log r) : Performed c a log r where
  atMostOnce := by
    rcases h.asked with ⟨plan, -, hcarried⟩ | ⟨_, _, rfl, _⟩
    · exact hcarried.length_eq.le
    · exact Nat.zero_le 1
  once := by
    intro hr
    rcases h.asked with ⟨plan, -, hcarried⟩ | ⟨_, _, _, hf⟩
    · exact hcarried.length_eq
    · cases hr.symm.trans hf
  never := by
    rintro htold f rfl hf
    rcases h.fault with ⟨moment, rfl⟩ | hp | ⟨e, he, ht⟩
    · cases hf
    · rw [(h.eq_error hp).1]
      rfl
    · exact absurd hf (htold e he f ht)
  unknown := fun hw => h.refused_of_undeclared fun kind hd => hw kind hd.word
  unselected := by
    intro kind hw hneeds hnone
    refine h.refused_of_undeclared fun kind' hd => ?_
    obtain rfl := hd.kind_eq hw
    obtain ⟨s, hs, hne⟩ := hd.selector hneeds
    rcases hnone with hnone | hempty
    · cases hs.symm.trans hnone
    · exact hne (Option.some.inj (hs.symm.trans hempty))
  unvalued := by
    intro kind hw hneeds hnull
    refine h.refused_of_undeclared fun kind' hd => ?_
    obtain rfl := hd.kind_eq hw
    cases (hd.value hneeds).symm.trans hnull
  carried := by
    intro kind hw hneeds q hq
    obtain ⟨kind', hd, hasked⟩ := h.element hq
    obtain rfl := hd.kind_eq hw
    obtain ⟨s, hs⟩ := exists_element hneeds a
    obtain ⟨hsel, hne⟩ := hd.of_element hs
    rcases hasked with ⟨call, rfl, hcall⟩ | ⟨shot, -, hnone⟩
    · exact ⟨call, s, rfl, hcall.trans hs, hsel, hne⟩
    · cases hnone.trans hs
  declared := by
    intro session call hq
    obtain ⟨kind, hd, ⟨call', hcall, helement⟩ | ⟨_, hshot, _⟩⟩ := h.element hq
    · cases hcall
      exact ⟨rfl, fun s hs => hd.of_element (helement.symm.trans hs)⟩
    · cases hshot

variable {σ : Type} {answer : (q : Question) → σ → q.Answer × σ}

/-- **An action calls the page as it declares.** Whatever the page does, it is called at most once, once if
the action succeeds, and not at all for an action that is unknown or does not have what it needs; a call is
about the declared element. -/
theorem perform_declared (c : Setting) (a : UiAction) (before : List Attachment) (s : σ) :
    Performed c a (((c.perform a).run.run before).logOf answer s)
      (((c.perform a).run.run before).run answer s).1.1 :=
  (acted_of_traces (Program.traces_run answer ((c.perform a).run.run before) s).1).performed

/-! ## Failures that are not translated -/

/-- Whether an action of this kind takes its value for a number. -/
def ActionKind.needsNumber : ActionKind → Bool
  | .wait | .assertCount => true
  | _ => false

/-- Whether an action of this kind writes its value as a text: a number is only written for a message that
says what is there instead. -/
def ActionKind.writes (v : Value) : ActionKind → Bool
  | .goto | .fill | .select | .press | .upload | .evaluate | .waitForUrl => true
  | .assertText | .assertValue | .assertUrl | .assertTitle | .screenshot => true
  | .wait | .assertCount => !v.isNumber
  | _ => false

/-- The failures of declarations that are raised as they come. -/
inductive Untranslated (a : UiAction) : Failure → Prop
  /-- A number of milliseconds or of elements is a whole number beyond all floats. -/
  | tooLarge {kind : ActionKind} {n : Int} (hk : ActionKind.of? a = .ok kind)
      (hnumber : kind.needsNumber = true) (hv : a.value = .int n) (hn : floatLimit ≤ n.natAbs) :
      Untranslated a ⟨.other "OverflowError", "int too large to convert to float"⟩
  /-- A number of elements is none. -/
  | notANumber {x : Float} (hk : ActionKind.of? a = .ok .assertCount) (hv : numberOf a a.value = .ok x)
      (hx : x.isNaN = true) :
      Untranslated a ⟨.other "ValueError", "cannot convert float NaN to integer"⟩
  /-- A number of elements is infinite. -/
  | infinite {x : Float} (hk : ActionKind.of? a = .ok .assertCount) (hv : numberOf a a.value = .ok x)
      (hx : x.isInf = true) :
      Untranslated a ⟨.other "OverflowError", "cannot convert float infinity to integer"⟩
  /-- A value holds a whole number that is too long to be written. -/
  | unwritten {kind : ActionKind} (hk : ActionKind.of? a = .ok kind) (hw : kind.writes a.value = true)
      (hv : Json.writable a.value = false) : Untranslated a unwritten

/-- A value that cannot be written is there. -/
theorem valueOr_of_unwritable (usual : Value) (h : Json.writable a.value = false) :
    valueOr a usual = a.value := by
  unfold valueOr
  cases hv : a.value with
  | null =>
    rw [hv] at h
    cases h
  | _ => rfl

theorem writable_valueOr {usual : Value} (hu : Json.writable usual = true)
    (h : Json.writable (valueOr a usual) = false) : Json.writable a.value = false := by
  unfold valueOr at h
  split at h
  · cases hu.symm.trans h
  · exact h

/-! ### Numbers -/

theorem refusal_cases {v : Value} {message : String}
    (h : (do throw (contractFailure (← written v message)) : Except Failure Float) = .error f) :
    (∃ message, f = contractFailure message) ∨ Json.writable v = false ∧ f = unwritten := by
  unfold written at h
  cases hw : Json.writable v with
  | true =>
    rw [hw] at h
    exact .inl ⟨message, (Except.error.inj h).symm⟩
  | false =>
    rw [hw] at h
    exact .inr ⟨rfl, (Except.error.inj h).symm⟩

/-- How the number of a value cannot be had. -/
theorem numberOf_error {v : Value} (h : numberOf a v = .error f) :
    (∃ message, f = contractFailure message) ∨
      (∃ n, v = .int n ∧ floatLimit ≤ n.natAbs ∧
        f = ⟨.other "OverflowError", "int too large to convert to float"⟩) ∨
      v.isNumber = false ∧ Json.writable v = false ∧ f = unwritten := by
  cases v with
  | bool b => exact .inl ⟨_, (Except.error.inj h).symm⟩
  | float x => cases h
  | int n =>
    unfold numberOf at h
    dsimp only at h
    cases hn : Value.intToFloat? n with
    | some x =>
      rw [hn] at h
      cases h
    | none =>
      rw [hn] at h
      exact .inr (.inl ⟨n, rfl, (intToFloat?_eq_none_iff n).mp hn, (Except.error.inj h).symm⟩)
  | str s =>
    unfold numberOf at h
    dsimp only at h
    cases hs : Text.parseFloat? s with
    | some x =>
      rw [hs] at h
      cases h
    | none =>
      rw [hs] at h
      exact (refusal_cases h).imp_right fun hw => .inr ⟨rfl, hw⟩
  | bytes b =>
    unfold numberOf at h
    dsimp only at h
    cases hs : bytesNumber? b with
    | some x =>
      rw [hs] at h
      cases h
    | none =>
      rw [hs] at h
      exact (refusal_cases h).imp_right fun hw => .inr ⟨rfl, hw⟩
  | missing | null | list _ | tuple _ | obj _ =>
    exact (refusal_cases h).imp_right fun hw => .inr ⟨rfl, hw⟩

theorem numberOf_large {n : Int} (hn : floatLimit ≤ n.natAbs) :
    numberOf a (.int n) = .error ⟨.other "OverflowError", "int too large to convert to float"⟩ := by
  unfold numberOf
  dsimp only
  rw [(intToFloat?_eq_none_iff n).mpr hn]

theorem numberOf_unwritable {v : Value} (hnumber : v.isNumber = false) (hw : Json.writable v = false) :
    numberOf a v = .error unwritten := by
  cases v with
  | int n | float x => cases hnumber
  | missing | null | bool b | str s | bytes b => cases hw
  | list xs | tuple xs | obj fs =>
    unfold numberOf written
    dsimp only
    rw [hw]
    rfl

/-- What has no whole part is no number or infinite. -/
theorem floatTruncate_eq_none {x : Float} : floatTruncate x = none ↔ x.isNaN = true ∨ x.isInf = true := by
  have hnan : x.isNaN = x.toModel.unpack.isNaN := rfl
  have hinf : x.isInf = x.toModel.unpack.isInf := rfl
  rw [floatTruncate, Option.map_eq_none_iff, hnan, hinf, floatParts]
  cases x.toModel.unpack with
  | notANumber => exact iff_of_true rfl (.inl rfl)
  | infinity s => exact iff_of_true rfl (.inr rfl)
  | zero s => exact iff_of_false (fun h => nomatch h) fun h => h.elim nofun nofun
  | finite s m e h => exact iff_of_false (fun h => nomatch h) fun h => h.elim nofun nofun

theorem valueOr_of_value {usual : Value} (h : a.value.isNull = false) : valueOr a usual = a.value := by
  rw [valueOr, h]
  rfl

/-- A number that cannot be had is refused, or one of the untranslated failures. -/
theorem number_error (hk : ActionKind.of? a = .ok kind) (hnumber : kind.needsNumber = true)
    (hwrites : kind.writes a.value = !a.value.isNumber)
    (h : numberOf a (valueOr a usualWait) = .error f) :
    (∃ message, f = contractFailure message) ∨ Untranslated a f := by
  rcases numberOf_error h with hm | ⟨n, hv, hn, rfl⟩ | ⟨hnot, hw, rfl⟩
  · exact .inl hm
  · refine .inr (.tooLarge hk hnumber ?_ hn)
    unfold valueOr at hv
    split at hv
    · have := two_pow_le_floatLimit
      obtain rfl : 1000 = n := Value.int.inj hv
      omega
    · exact hv
  · have hvalue : Json.writable a.value = false := writable_valueOr rfl hw
    rw [valueOr_of_unwritable _ hvalue] at hnot
    exact .inr (.unwritten hk (by rw [hwrites, hnot]; rfl) hvalue)

/-- A number of elements is that of the value without its fraction, if it has one. -/
theorem countOf_error (h : countOf a = .error f) : numberOf a a.value = .error f ∨
    ∃ x, numberOf a a.value = .ok x ∧
      (x.isNaN = true ∧ f = ⟨.other "ValueError", "cannot convert float NaN to integer"⟩ ∨
        x.isInf = true ∧ f = ⟨.other "OverflowError", "cannot convert float infinity to integer"⟩) := by
  unfold countOf at h
  cases hx : numberOf a a.value with
  | error g =>
    rw [hx] at h
    exact .inl (congrArg Except.error (Except.error.inj h))
  | ok x =>
    rw [hx] at h
    cases ht : floatTruncate x with
    | some n =>
      simp only [bind, Except.bind, ht] at h
      cases h
    | none =>
      simp only [bind, Except.bind, ht] at h
      split at h
      · rename_i hnan
        exact .inr ⟨x, rfl, .inl ⟨hnan, (Except.error.inj h).symm⟩⟩
      · rename_i hnan
        exact .inr ⟨x, rfl, .inr ⟨(floatTruncate_eq_none.mp ht).resolve_left hnan,
          (Except.error.inj h).symm⟩⟩

/-! ### All failures -/

theorem scrollPosition_error (h : (scrollPosition a).map Plan.call = .error f) :
    ∃ message, f = contractFailure message := by
  unfold scrollPosition at h
  dsimp only at h
  split at h
  · split at h
    · cases h
    · exact ⟨_, (Except.error.inj h).symm⟩
  · exact ⟨_, (Except.error.inj h).symm⟩

/-- **How an action that has what it needs fails without a call**: by a breach of contract or by one of the
untranslated failures. -/
theorem planOf_error (hk : ActionKind.of? a = .ok kind) (h : planOf kind a = .error f) :
    (∃ message, f = contractFailure message) ∨ Untranslated a f := by
  cases kind
  case click | check | uncheck | hover | waitForSelector | assertVisible | assertHidden => cases h
  case fill | select | press | upload | evaluate | waitForUrl | assertText | assertValue | assertUrl |
      assertTitle =>
    obtain ⟨hw, rfl⟩ := written_eq_error.mp h
    exact .inr (.unwritten hk rfl hw)
  case goto | screenshot =>
    obtain ⟨hw, rfl⟩ := written_eq_error.mp h
    exact .inr (.unwritten hk rfl (writable_valueOr rfl hw))
  case scroll =>
    unfold planOf at h
    cases hs : selector? a with
    | some s =>
      rw [hs] at h
      cases h
    | none =>
      rw [hs] at h
      exact .inl (scrollPosition_error h)
  case wait => exact number_error hk rfl rfl (map_eq_error.mp h)
  case assertCount =>
    have hvalue : a.value.isNull = false := (Declares.of_actionKind hk).value rfl
    rcases countOf_error (map_eq_error.mp h) with hn | ⟨x, hv, ⟨hx, rfl⟩ | ⟨hx, rfl⟩⟩
    · rw [← valueOr_of_value hvalue] at hn
      exact number_error hk rfl rfl hn
    · exact .inr (.notANumber hk hv hx)
    · exact .inr (.infinite hk hv hx)

theorem countOf_of_error (h : numberOf a a.value = .error f) : countOf a = .error f := by
  rw [countOf, h]
  rfl

theorem countOf_of_number {x : Float} (h : numberOf a a.value = .ok x) (hx : floatTruncate x = none) :
    countOf a = .error (if x.isNaN then ⟨.other "ValueError", "cannot convert float NaN to integer"⟩
      else ⟨.other "OverflowError", "cannot convert float infinity to integer"⟩) := by
  rw [countOf, h]
  simp only [bind, Except.bind, hx]
  split <;> rfl

theorem not_isNaN_of_isInf {x : Float} (h : x.isInf = true) : x.isNaN = false := by
  change x.toModel.unpack.isInf = true at h
  change x.toModel.unpack.isNaN = false
  cases hu : x.toModel.unpack with
  | notANumber =>
    rw [hu] at h
    cases h
  | infinity s | zero s | finite s m e hm => rfl

theorem planOf_tooLarge {n : Int} (hnumber : kind.needsNumber = true) (hv : a.value = .int n)
    (hn : floatLimit ≤ n.natAbs) :
    planOf kind a = .error ⟨.other "OverflowError", "int too large to convert to float"⟩ := by
  have hover := numberOf_large (a := a) hn
  cases kind
  case wait =>
    refine map_eq_error.mpr ?_
    rw [valueOr_of_value (by rw [hv]; rfl), hv]
    exact hover
  case assertCount => exact map_eq_error.mpr (countOf_of_error (hv ▸ hover))
  all_goals cases hnumber

theorem planOf_unwritten (hw : kind.writes a.value = true) (hv : Json.writable a.value = false) :
    planOf kind a = .error unwritten := by
  have hor : ∀ usual, Json.writable (valueOr a usual) = false := fun usual => by
    rwa [valueOr_of_unwritable usual hv]
  have hnumber : (!a.value.isNumber) = true → numberOf a a.value = .error unwritten := fun hnot =>
    numberOf_unwritable ((Bool.not_eq_true' _).mp hnot) hv
  cases kind
  case fill | select | press | upload | evaluate | waitForUrl | assertText | assertValue | assertUrl |
      assertTitle => exact written_eq_error.mpr ⟨hv, rfl⟩
  case goto | screenshot => exact written_eq_error.mpr ⟨hor _, rfl⟩
  case wait =>
    refine map_eq_error.mpr ?_
    rw [valueOr_of_unwritable _ hv]
    exact hnumber hw
  case assertCount => exact map_eq_error.mpr (countOf_of_error (hnumber hw))
  all_goals cases hw

/-- **The untranslated failures do occur.** -/
theorem Untranslated.plan_eq (h : Untranslated a f) : Plan.of a = .error f := by
  have hplan : ∀ {kind}, ActionKind.of? a = .ok kind → Plan.of a = planOf kind a := fun hk => by
    rw [Plan.of, hk]
    rfl
  cases h with
  | tooLarge hk hnumber hv hn => exact (hplan hk).trans (planOf_tooLarge hnumber hv hn)
  | notANumber hk hv hx =>
    rw [hplan hk, planOf, map_eq_error, countOf_of_number hv (floatTruncate_eq_none.mpr (.inl hx)), hx]
    rfl
  | infinite hk hv hx =>
    rw [hplan hk, planOf, map_eq_error, countOf_of_number hv (floatTruncate_eq_none.mpr (.inr hx)),
      not_isNaN_of_isInf hx]
    rfl
  | unwritten hk hw hv => exact (hplan hk).trans (planOf_unwritten hw hv)

/-- No untranslated failure is a breach of contract. -/
theorem Untranslated.kind_eq (h : Untranslated a f) : ∃ name, f.kind = .other name := by
  cases h <;> exact ⟨_, rfl⟩

/-- What the action declares breaks the contract. -/
def BreaksContract (a : UiAction) (f : Failure) : Prop :=
  Plan.of a = .error f ∧ ∃ message, f = contractFailure message

theorem plan_error (h : Plan.of a = .error f) : BreaksContract a f ∨ Untranslated a f := by
  rcases actionKind_cases a with ⟨kind, hk, hd⟩ | ⟨message, hk⟩
  · have hplan := h
    rw [Plan.of, hk] at hplan
    exact (planOf_error hk hplan).imp_left fun hm => ⟨h, hm⟩
  · have hplan := h
    rw [Plan.of, hk] at hplan
    exact .inl ⟨h, message, (Except.error.inj hplan).symm⟩

/-- **What an action fails for that does not call the page.** Either it breaks the contract; this is reported
as such, and the case is not tried again. Or it is one of the untranslated failures; these are reported as
failures of the host, and the case is tried again. All of these do occur, whatever the page and the deadline.
-/
theorem perform_unasked (c : Setting) (a : UiAction) (before : List Attachment) (s : σ) (f : Failure) :
    ((((c.perform a).run.run before).run answer s).1.1 = .error f ∧
        pageQuestions (((c.perform a).run.run before).logOf answer s) = [] ↔
      BreaksContract a f ∨ Untranslated a f) ∧
    (BreaksContract a f → classify f = .contract ∧
      ∀ attachments lead, (AttemptOutcome.failure f attachments lead).retryable = false) ∧
    (Untranslated a f → classify f = .host ∧
      ∀ attachments lead, (AttemptOutcome.failure f attachments lead).retryable = true) := by
  have hacted := acted_of_traces (Program.traces_run answer ((c.perform a).run.run before) s).1
  refine ⟨⟨?_, fun h => ?_⟩, ?_, fun h => ?_⟩
  · rintro ⟨hr, hnone⟩
    rcases hacted.asked with ⟨plan, -, hcarried⟩ | ⟨g, hp, -, hg⟩
    · have hone := hcarried.length_eq
      rw [hnone] at hone
      cases hone
    · obtain rfl := Except.error.inj (hg.symm.trans hr)
      exact plan_error hp
  · obtain ⟨hlog, hr⟩ := hacted.eq_error (h.elim And.left Untranslated.plan_eq)
    rw [hlog]
    exact ⟨hr, rfl⟩
  · rintro ⟨-, message, rfl⟩
    exact ⟨rfl, fun _ _ => rfl⟩
  · obtain ⟨name, hname⟩ := h.kind_eq
    have hclass : classify f = .host := by
      rw [classify, hname]
    refine ⟨hclass, fun _ _ => ?_⟩
    rw [AttemptOutcome.retryable, AttemptOutcome.failure, hclass]
    rfl

/-- As many elements as no number says. -/
def countNone : UiAction :=
  { action := "assertCount", selector := some "li", value := .str "nan", options := []
    description := none }

theorem perform_unasked_nan :
    let r := ((({ halfSecond with deadline := none } : Setting).perform countNone).run.run []).run
      (slowPage (.ok ())) false
    let f : Failure := ⟨.other "ValueError", "cannot convert float NaN to integer"⟩
    Untranslated countNone f ∧ r.1.1 = .error f ∧ classify f = .host := by
  have hnan : Untranslated countNone ⟨.other "ValueError", "cannot convert float NaN to integer"⟩ :=
    .notANumber rfl rfl (by decide)
  obtain ⟨hfails, -, hclass⟩ := @perform_unasked _ (slowPage (.ok ()))
    { halfSecond with deadline := none } countNone [] false
    ⟨.other "ValueError", "cannot convert float NaN to integer"⟩
  exact ⟨hnan, (hfails.mpr (.inr hnan)).1, (hclass hnan).1⟩

end SuiteEngine.Ui
