import Mathlib.Data.List.Basic
import SuiteEngine.Yaml.Read

/-!
# A YAML mapping has each key once

Entries are bound one after the other, an entry with a key that is there already taking the place of the
former one. So whatever a text denotes, no mapping in it has two keys that are one, merged entries
included. Lists, tuples and sets are not looked into, since no mapping in them is ever asked for an entry.

Headlines:
* `bind_keys`: a binding leaves the keys as they are, or puts a new one at the end.
* `datum_tidy`: what a node denotes is tidy, by induction over the node.
* **`tidy_of_read`**: so is what a text denotes.
-/

namespace SuiteEngine.Yaml

/-- No two of the keys are one. -/
def DistinctKeys (es : List (Datum × Datum)) : Prop :=
  (es.map Prod.fst).Pairwise fun a b => a.sameKey b = false

/-- No mapping has a key twice, neither the datum nor one under a key of it. -/
inductive Tidy : Datum → Prop
  | map {es : List (Datum × Datum)} (hk : DistinctKeys es) (hv : ∀ e ∈ es, Tidy e.2) : Tidy (.map es)
  | other {d : Datum} (h : ∀ es, d ≠ .map es) : Tidy d

/-! ## Bindings -/

variable {es : List (Datum × Datum)} {key value : Datum}

/-- **A binding leaves the keys as they are, or puts a new one at the end.** -/
theorem bind_keys (key value : Datum) (es : List (Datum × Datum)) :
    (Datum.bind key value es).map Prod.fst = es.map Prod.fst ∨
      (Datum.bind key value es).map Prod.fst = es.map Prod.fst ++ [key] ∧
        ∀ e ∈ es, e.1.sameKey key = false := by
  induction es with
  | nil => exact .inr ⟨rfl, List.forall_mem_nil _⟩
  | cons e es ih =>
    obtain ⟨k, v⟩ := e
    rw [Datum.bind]
    split
    · exact .inl rfl
    · rename_i hk
      rcases ih with h | ⟨h, hnew⟩
      · exact .inl (congrArg (k :: ·) h)
      · refine .inr ⟨congrArg (k :: ·) h, ?_⟩
        exact List.forall_mem_cons.mpr ⟨Bool.eq_false_iff.mpr hk, hnew⟩

theorem DistinctKeys.bind (h : DistinctKeys es) : DistinctKeys (Datum.bind key value es) := by
  unfold DistinctKeys at *
  rcases bind_keys key value es with hk | ⟨hk, hnew⟩
  · rw [hk]
    exact h
  · rw [hk, List.pairwise_append]
    refine ⟨h, List.pairwise_singleton _ _, fun a ha b hb => ?_⟩
    obtain ⟨e, he, rfl⟩ := List.mem_map.mp ha
    rw [List.mem_singleton.mp hb]
    exact hnew e he

theorem mem_bind {e : Datum × Datum} (h : e ∈ Datum.bind key value es) :
    e.2 = value ∨ e ∈ es := by
  induction es with
  | nil => exact .inl (congrArg Prod.snd (List.mem_singleton.mp h))
  | cons f es ih =>
    obtain ⟨k, v⟩ := f
    rw [Datum.bind] at h
    split at h
    · rcases List.mem_cons.mp h with rfl | h
      · exact .inl rfl
      · exact .inr (List.mem_cons_of_mem _ h)
    · rcases List.mem_cons.mp h with rfl | h
      · exact .inr List.mem_cons_self
      · exact (ih h).imp_right (List.mem_cons_of_mem _)

/-- Bindings one after the other leave a tidy mapping. -/
theorem tidy_foldl {new : List (Datum × Datum)} (hn : ∀ e ∈ new, Tidy e.2) (hk : DistinctKeys es)
    (hv : ∀ e ∈ es, Tidy e.2) :
    Tidy (.map (new.foldl (fun es e => Datum.bind e.1 e.2 es) es)) := by
  induction new generalizing es with
  | nil => exact .map hk hv
  | cons e new ih =>
    obtain ⟨he, hn⟩ := List.forall_mem_cons.mp hn
    refine ih hn hk.bind fun f hf => ?_
    rcases mem_bind hf with h | h
    · exact h ▸ he
    · exact hv f h

theorem tidy_mapOf {new : List (Datum × Datum)} (h : ∀ e ∈ new, Tidy e.2) :
    Tidy (.map (Build.mapOf new)) :=
  tidy_foldl h List.Pairwise.nil (List.forall_mem_nil _)

theorem tidy_plain (v : Value) : Tidy (.plain v) := .other fun _ h => Datum.noConfusion h

/-! ## Nodes -/

namespace Build

variable {α β : Type} {P : α → Prop} {Q : β → Prop}

/-- Whatever faults were found before, the computation gives something with the property. -/
def Gives (P : α → Prop) (b : Build α) : Prop := ∀ faults, P (b.run faults).1

theorem Gives.pure {a : α} (h : P a) : Gives P (pure a) := fun _ => h

theorem Gives.bind {x : Build α} {f : α → Build β} (hx : Gives P x)
    (hf : ∀ a, P a → Gives Q (f a)) : Gives Q (x >>= f) := fun faults =>
  hf _ (hx faults) _

/-- What comes first does not matter. -/
theorem Gives.after {x : Build α} {f : α → Build β} (hf : ∀ a, Gives Q (f a)) : Gives Q (x >>= f) :=
  Gives.bind (P := fun _ => True) (fun _ => trivial) fun a _ => hf a

theorem orFault_tidy {depth : Nat} {d : Except Fault Datum} (h : ∀ x, d = .ok x → Tidy x) :
    Gives Tidy (orFault depth d) := by
  cases d with
  | ok d => exact Gives.pure (h d rfl)
  | error f => exact Gives.after fun _ => Gives.pure (tidy_plain .null)

theorem malformed_tidy (depth : Nat) : Gives Tidy (malformed depth) :=
  orFault_tidy fun _ h => nomatch h

/-- A scalar is no mapping. -/
theorem readScalar_tidy {tag : Tag} {text : String} {d : Datum} (h : readScalar tag text = .ok d) :
    Tidy d := by
  refine .other fun es hes => ?_
  subst hes
  unfold readScalar at h
  split at h
  · cases h
  · cases hr : readBool text with
    | ok b => rw [hr] at h; cases h
    | error f => rw [hr] at h; cases h
  · cases hr : readInteger text with
    | ok b => rw [hr] at h; cases h
    | error f => rw [hr] at h; cases h
  · cases hr : readFloat text with
    | ok b => rw [hr] at h; cases h
    | error f => rw [hr] at h; cases h
  · cases hr : readBytes text with
    | ok b => rw [hr] at h; cases h
    | error f => rw [hr] at h; cases h
  · cases hr : readTimestamp text with
    | ok b => rw [hr] at h; cases h
    | error f => rw [hr] at h; cases h
  · cases h
  · cases h

/-- All values of the entries are tidy. -/
abbrev TidyValues (es : List (Datum × Datum)) : Prop := ∀ e ∈ es, Tidy e.2

/-- All values of both lists of entries are tidy. -/
abbrev TidyPairs (p : List (Datum × Datum) × List (Datum × Datum)) : Prop :=
  TidyValues p.1 ∧ TidyValues p.2

theorem tidyValues_append {es fs : List (Datum × Datum)} (he : TidyValues es) (hf : TidyValues fs) :
    TidyValues (es ++ fs) :=
  List.forall_mem_append.mpr ⟨he, hf⟩

mutual
/-- **What a node denotes is tidy.** -/
theorem datum_tidy (depth : Nat) : (n : Node) → Gives Tidy (datum depth n)
  | .scalar tag text => by
    rw [datum]
    exact orFault_tidy fun _ => readScalar_tidy
  | .loop ofMap => by
    rw [datum]
    exact Gives.pure (.other fun _ h => Datum.noConfusion h)
  | .seq tag items => by
    have hlist : ∀ xs : List Datum, Gives Tidy (pure (.list xs)) := fun _ =>
      Gives.pure (.other fun _ h => Datum.noConfusion h)
    unfold datum
    split
    · exact Gives.after hlist
    · exact Gives.after hlist
    · exact Gives.after hlist
    · exact malformed_tidy depth
  | .map tag entries => by
    unfold datum
    split
    · exact Gives.bind (pairs_tidy (depth + 1) entries) fun p hp =>
        Gives.pure (tidy_mapOf (tidyValues_append hp.1 hp.2))
    · exact Gives.after fun _ => Gives.pure (.other fun _ h => Datum.noConfusion h)
    · split
      · exact orFault_tidy fun _ => readScalar_tidy
      · exact malformed_tidy depth
/-- So are the values of the entries of a mapping. -/
theorem pairs_tidy (depth : Nat) : (entries : List (Node × Node)) → Gives TidyPairs (pairs depth entries)
  | [] => by
    rw [pairs]
    exact Gives.pure ⟨List.forall_mem_nil _, List.forall_mem_nil _⟩
  | (k, v) :: rest => by
    unfold pairs
    split
    · exact Gives.bind (mergedFrom_tidy depth v) fun here hh =>
        Gives.bind (pairs_tidy depth rest) fun p hp =>
          Gives.pure ⟨tidyValues_append hh hp.1, hp.2⟩
    · have hgo : ∀ key : Datum, Gives TidyPairs (do
          let value ← datum depth v
          let (merged, own) ← pairs depth rest
          return (merged, (key, value) :: own)) := fun key =>
        Gives.bind (datum_tidy depth v) fun value hv =>
          Gives.bind (pairs_tidy depth rest) fun p hp =>
            Gives.pure ⟨hp.1, List.forall_mem_cons.mpr ⟨hv, hp.2⟩⟩
      have hkey : ∀ key : Datum, Gives TidyPairs (if !key.isKey then do
            let _ ← malformed depth
            let value ← datum depth v
            let (merged, own) ← pairs depth rest
            return (merged, (key, value) :: own)
          else do
            let value ← datum depth v
            let (merged, own) ← pairs depth rest
            return (merged, (key, value) :: own)) := by
        intro key
        split
        · exact Gives.after fun _ => hgo key
        · exact hgo key
      split
      · exact Gives.after hkey
      · exact Gives.after hkey
/-- So are the values of merged entries. -/
theorem mergedFrom_tidy (depth : Nat) : (n : Node) → Gives TidyValues (mergedFrom depth n)
  | .map _ entries => by
    rw [mergedFrom]
    exact Gives.bind (pairs_tidy depth entries) fun p hp =>
      Gives.pure (tidyValues_append hp.1 hp.2)
  | .seq _ items => by
    rw [mergedFrom]
    exact mergedFromAll_tidy depth items
  | .loop true => by
    rw [mergedFrom]
    exact Gives.pure (List.forall_mem_nil _)
  | .loop false => by
    unfold mergedFrom
    exact Gives.after fun _ => Gives.pure (List.forall_mem_nil _)
  | .scalar _ _ => by
    unfold mergedFrom
    exact Gives.after fun _ => Gives.pure (List.forall_mem_nil _)
/-- Also of several mappings. -/
theorem mergedFromAll_tidy (depth : Nat) :
    (ns : List Node) → Gives TidyValues (mergedFromAll depth ns)
  | [] => by
    rw [mergedFromAll]
    exact Gives.pure (List.forall_mem_nil _)
  | .map _ entries :: ns => by
    rw [mergedFromAll]
    exact Gives.bind (pairs_tidy depth entries) fun p hp =>
      Gives.bind (mergedFromAll_tidy depth ns) fun es he =>
        Gives.pure (tidyValues_append (tidyValues_append he hp.1) hp.2)
  | .loop true :: ns => by
    rw [mergedFromAll]
    exact mergedFromAll_tidy depth ns
  | .loop false :: ns => by
    unfold mergedFromAll
    exact Gives.after fun _ => Gives.pure (List.forall_mem_nil _)
  | .seq _ _ :: ns => by
    unfold mergedFromAll
    exact Gives.after fun _ => Gives.pure (List.forall_mem_nil _)
  | .scalar _ _ :: ns => by
    unfold mergedFromAll
    exact Gives.after fun _ => Gives.pure (List.forall_mem_nil _)
end

end Build

/-! ## Texts -/

theorem datum_ok_tidy {n : Node} {d : Datum} (h : n.datum = .ok d) : Tidy d := by
  have ht : Tidy ((Build.datum 0 n).run []).1 := Build.datum_tidy 0 n []
  unfold Node.datum at h
  generalize (Build.datum 0 n).run [] = found at h ht
  obtain ⟨d', faults⟩ := found
  cases hf : shallowest? faults with
  | some f =>
    simp only [hf] at h
    cases h
  | none =>
    simp only [hf] at h
    exact Except.ok.inj h ▸ ht

/-- **What a text denotes is tidy.** -/
theorem tidy_of_read {text : String} {d : Datum} (h : read text = .ok d) : Tidy d := by
  unfold read at h
  cases ht : Token.scan text.toList with
  | error f => rw [ht] at h; cases h
  | ok tokens =>
    rw [ht] at h
    cases hn : Node.ofTokens tokens with
    | error f =>
      change (Node.ofTokens tokens >>= _) = _ at h
      rw [hn] at h
      cases h
    | ok n =>
      change (Node.ofTokens tokens >>= _) = _ at h
      rw [hn] at h
      cases n with
      | none =>
        obtain rfl := Except.ok.inj h
        exact tidy_plain .null
      | some n => exact datum_ok_tidy h

end SuiteEngine.Yaml
