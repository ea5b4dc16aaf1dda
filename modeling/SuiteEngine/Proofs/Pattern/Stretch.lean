import SuiteEngine.Pattern.Match

/-!
# Texts made of one set of characters

A pattern such as `^[ab]+$` asks that a text is one stretch of characters of a set; only a line
break may follow. The matcher goes through the stretch round by round, and `greedy_stretch` says
what the rounds have gone through, by induction on the fuel.

Headlines:
* `greedy_stretch`: a repetition of a set has gone through characters of the set only.
* **`search_wholeLine`**: a text in which such a pattern occurs is a stretch of these characters, with
  at most a line break behind it.
-/

namespace SuiteEngine.Pattern

variable {text : Array Char} {widths : List Width} {f : Flags} {negated : Bool}
  {items : List SetItem}

/-- Where a set matches, there is a character that it takes. -/
theorem matchNodes_set {fuel : Nat} {p : Progress} {rest : Rest} {r : Progress}
    (h : matchNodes text widths fuel f [.set negated items] p rest = some r) :
    ∃ c, text[p.position]? = some c ∧ (Node.set negated items).takes f c = true ∧
      rest { p with position := p.position + 1 } = some r := by
  rcases fuel with _ | _ | fuel
  · simp [matchNodes] at h
  · simp [matchNodes, matchNode] at h
  simp only [matchNodes, matchNode] at h
  split at h
  · rename_i c hc
    split at h
    · rename_i ht
      exact ⟨c, hc, ht, h⟩
    · cases h
  · cases h

/-- **A repetition of a set goes through characters of the set**, as many as it has to at least. -/
theorem greedy_stretch {fuel least count : Nat} {most last : Option Nat} {p r : Progress}
    {rest : Rest}
    (h : matchGreedy text widths fuel f [.set negated items] least most count last p rest =
      some r) :
    ∃ q : Progress, p.position + (least - count) ≤ q.position ∧
      (∀ i, p.position ≤ i → i < q.position →
        ∃ c, text[i]? = some c ∧ (Node.set negated items).takes f c = true) ∧ rest q = some r := by
  induction fuel generalizing count last p with
  | zero => simp [matchGreedy] at h
  | succ fuel ih =>
    have step : ∀ {last}, matchNodes text widths fuel f [.set negated items] p (fun q =>
        matchGreedy text widths fuel f [.set negated items] least most (count + 1) last q rest) =
          some r →
        ∃ q : Progress, p.position + (least - count) ≤ q.position ∧
          (∀ i, p.position ≤ i → i < q.position →
            ∃ c, text[i]? = some c ∧ (Node.set negated items).takes f c = true) ∧
              rest q = some r := by
      intro last hm
      obtain ⟨c, hc, ht, hg⟩ := matchNodes_set hm
      obtain ⟨q, hle, hq, hr⟩ := ih hg
      refine ⟨q, ?_, fun i hi hlt => ?_, hr⟩
      · change p.position + 1 + (least - (count + 1)) ≤ q.position at hle
        omega
      · rcases Nat.lt_or_ge p.position i with hlt' | hge
        · exact hq i hlt' hlt
        · obtain rfl := Nat.le_antisymm hge hi
          exact ⟨c, hc, ht⟩
    have stop : ¬ count < least → rest p = some r →
        ∃ q : Progress, p.position + (least - count) ≤ q.position ∧
          (∀ i, p.position ≤ i → i < q.position →
            ∃ c, text[i]? = some c ∧ (Node.set negated items).takes f c = true) ∧
              rest q = some r :=
      fun hn hr => ⟨p, by omega, fun i hi hlt => absurd hlt (Nat.not_lt.mpr hi), hr⟩
    rw [matchGreedy] at h
    split at h
    · exact step h
    · rename_i hn
      split at h
      · dsimp only at h
        split at h
        · rename_i q hq
          exact step (hq.trans h)
        · exact stop hn h
      · exact stop hn h

/-- A search finds a place where the nodes match. -/
theorem exists_of_searchFrom {nodes : List Node} {fuel places position : Nat}
    (h : searchFrom nodes f widths text fuel places position = true) :
    ∃ i, (matchNodes text widths fuel f nodes ⟨i, []⟩ some).isSome = true := by
  induction places generalizing position with
  | zero => cases h
  | succ places ih =>
    rw [searchFrom, Bool.or_eq_true] at h
    rcases h with h | h
    · exact ⟨position, h⟩
    · exact ih h

/-- One stretch of characters of a set, from the beginning of a line to its end. -/
def wholeLine (negated : Bool) (items : List SetItem) : List Node :=
  [.anchor .lineStart, .repetition .greedy 1 none [.set negated items], .anchor .lineEnd]

/-- Where an anchor matches, the place is as it asks. -/
theorem matchNodes_anchor {fuel : Nat} {a : Anchor} {ns : List Node} {p r : Progress} {rest : Rest}
    (h : matchNodes text widths fuel f (.anchor a :: ns) p rest = some r) :
    a.holds f text p.position = true ∧
      ∃ fuel', matchNodes text widths fuel' f ns p rest = some r := by
  rcases fuel with _ | _ | fuel
  · simp [matchNodes] at h
  · simp [matchNodes, matchNode] at h
  rw [matchNodes, matchNode] at h
  split at h
  · rename_i ha
    exact ⟨ha, _, h⟩
  · cases h

/-- Where a repetition matches, its rounds do. -/
theorem matchNodes_greedy {fuel least : Nat} {most : Option Nat} {body ns : List Node}
    {p r : Progress} {rest : Rest}
    (h : matchNodes text widths fuel f (.repetition .greedy least most body :: ns) p rest =
      some r) :
    ∃ fuel' fuel'', matchGreedy text widths fuel' f body least most 0 none p
      (fun q => matchNodes text widths fuel'' f ns q rest) = some r := by
  rcases fuel with _ | _ | fuel
  · simp [matchNodes] at h
  · simp [matchNodes, matchNode] at h
  rw [matchNodes, matchNode] at h
  exact ⟨_, _, h⟩

/-- **A text in which the pattern occurs is a stretch of these characters**, one at least, with at
most a line break behind it. -/
theorem search_wholeLine {p : Pattern} {s : String} (hn : p.nodes = wholeLine negated items)
    (hm : p.flags.multiline = false) (h : p.search s = true) :
    ∃ stretch, stretch ≠ [] ∧ (∀ c ∈ stretch, (Node.set negated items).takes p.flags c = true) ∧
      (s.toList = stretch ∨ s.toList = stretch ++ ['\n']) := by
  unfold Pattern.search at h
  dsimp only at h
  obtain ⟨start, hr⟩ := exists_of_searchFrom h
  obtain ⟨r, hr⟩ := Option.isSome_iff_exists.mp hr
  rw [hn, wholeLine] at hr
  obtain ⟨hs, _, hr⟩ := matchNodes_anchor hr
  obtain ⟨_, _, hr⟩ := matchNodes_greedy hr
  obtain ⟨q, hle, hq, hr⟩ := greedy_stretch hr
  obtain ⟨he, _⟩ := matchNodes_anchor hr
  simp only [Anchor.holds, hm, Bool.false_and, Bool.or_false, beq_iff_eq, Bool.or_eq_true,
    Bool.false_or, Bool.and_eq_true, List.size_toArray] at hs he
  change start = 0 at hs
  subst hs
  change 0 + (1 - 0) ≤ q.position at hle
  have hsize : q.position ≤ s.toList.length := by omega
  refine ⟨s.toList.take q.position, ?_, fun c hc => ?_, ?_⟩
  · intro hnil
    have hlength := congrArg List.length hnil
    rw [List.length_take, List.length_nil] at hlength
    omega
  · obtain ⟨i, hi, rfl⟩ := List.getElem_of_mem hc
    rw [List.length_take] at hi
    obtain ⟨c, hc, ht⟩ := hq i (Nat.zero_le i) (by omega)
    rw [List.getElem?_toArray, List.getElem?_eq_getElem (by omega)] at hc
    obtain rfl := Option.some.inj hc
    rw [List.getElem_take]
    exact ht
  · -- Only the last character can stand behind the stretch.
    rcases he with he | ⟨he, hlast⟩
    · exact .inl (List.take_of_length_le (by omega)).symm
    · rw [List.getElem?_toArray] at he
      refine .inr ?_
      calc s.toList = s.toList.take (q.position + 1) := (List.take_of_length_le (by omega)).symm
        _ = s.toList.take q.position ++ ['\n'] := by rw [List.take_add_one, he]; rfl

/-- A text in which the pattern occurs is made of these characters, up to a line break at its end. -/
theorem search_stretch {p : Pattern} {s : String} (hn : p.nodes = wholeLine negated items)
    (hm : p.flags.multiline = false) (h : p.search s = true) :
    ∀ c ∈ s.toList, (Node.set negated items).takes p.flags c = true ∨ c = '\n' := by
  obtain ⟨stretch, -, ht, hs | hs⟩ := search_wholeLine hn hm h
  · exact fun c hc => .inl (ht c (hs ▸ hc))
  · intro c hc
    rw [hs, List.mem_append, List.mem_singleton] at hc
    exact hc.imp_left (ht c)

end SuiteEngine.Pattern
