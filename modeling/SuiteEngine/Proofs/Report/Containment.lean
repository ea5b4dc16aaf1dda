import SuiteEngine.Proofs.Report.Attachments

/-!
# Where attachments can get to

The file of an attachment belongs two levels below the directory of all attachments, in the directory of its
case in that of its suite. Every name holds a single step at most, so a file gets no deeper. It stays higher
up, or gets out, where the name of the suite or of the case is no step down: where a dot or two dots are all
that is left of it. What an attachment itself is called is no matter, since its file has a number in front.

Headlines:
* `inCaseDirectory_iff`: where the file of one attachment lies.
* **`writeAttachments_inside_iff`**: which files are written, and when they all lie where they belong.
-/

namespace SuiteEngine.Report

open Files (IsName Path Place Tree)

variable {files t : Tree} {out : Path} {cwd : Place} {suites : List SuiteResult} {l : Located}

/-- The place is that of a file in a directory in a directory of the directory of all attachments. -/
def InCaseDirectory (cwd : Place) (out : Path) (q : Place) : Prop :=
  ∃ suite case file, IsName suite ∧ IsName case ∧ IsName file ∧
    q = attachmentsPlace cwd out ++ [suite, case, file]

/-- **Where the file of an attachment lies**: where it belongs, if and only if the names of the suite and of
the case lead a step down. -/
theorem inCaseDirectory_iff :
    InCaseDirectory cwd out (l.place cwd out) ↔ PlainName l.suite ∧ PlainName l.case := by
  constructor
  · rintro ⟨suite, case, file, -, -, -, hq⟩
    have hlen := congrArg List.length hq
    rw [Located.place, Located.path, Path.target_child isName_fileName, attachmentsPlace] at hlen
    simp only [List.length_append, List.length_cons, List.length_nil] at hlen
    -- Each of the two names has to lead a step down for the file to get as deep as that.
    have hsuite := Path.length_target_child_le (s := safeName l.suite) (out.child attachmentsName) cwd
      slash_not_mem_safeName
    have hcase := Path.length_target_child_le (s := safeName l.case)
      ((out.child attachmentsName).child (safeName l.suite)) cwd slash_not_mem_safeName
    rw [← isName_safeName_iff, ← isName_safeName_iff]
    refine ⟨by_contra fun hn => ?_, by_contra fun hn => ?_⟩
    · have hnone := Path.length_target_child_le_of_not_isName (out.child attachmentsName) cwd
        slash_not_mem_safeName hn
      omega
    · have hnone := Path.length_target_child_le_of_not_isName
        ((out.child attachmentsName).child (safeName l.suite)) cwd slash_not_mem_safeName hn
      omega
  · rintro ⟨hs, hc⟩
    exact ⟨_, _, _, isName_safeName hs, isName_safeName hc, isName_fileName, place_plain hs hc⟩

/-- **Which files are written, and when they all lie where they belong.** Every file there is afterwards was
there before or holds an attachment, at its place, and there is a file at the place of each. All these
places lie in the directory of a case in that of a suite if and only if of no name of a suite or case
with attachments one dot or two dots are all that is left, when underscores and what may not stand in
names of files are taken away at its ends. -/
theorem writeAttachments_inside_iff {n : Nat} (h : writeAttachments files out suites = .ok (n, t)) :
    (∀ q c, t.at? q = some (.file c) → files.at? q = some (.file c) ∨
      ∃ l ∈ located suites, q = l.place files.cwd out ∧ c = l.attachment.payload) ∧
    (∀ l ∈ located suites, ∃ c, t.at? (l.place files.cwd out) = some (.file c)) ∧
    ((∀ l ∈ located suites, InCaseDirectory files.cwd out (l.place files.cwd out)) ↔
      ∀ l ∈ located suites, ∀ name ∈ [l.suite, l.case],
        Text.trimList isDropped name.toList ≠ ['.'] ∧
          Text.trimList isDropped name.toList ≠ ['.', '.']) := by
  obtain ⟨-, hw⟩ := writeAttachments_written h
  have hcwd : t.cwd = files.cwd := hw.overwritten.cwd
  refine ⟨fun q c hq => ?_, fun l hl => ?_, ?_⟩
  · rw [written_file_iff hw, hcwd] at hq
    obtain hq | ⟨-, hq⟩ := hq
    · obtain ⟨front, back, hsplit, -⟩ := List.lookup_eq_some_iff.mp hq
      have hmem : (q, c) ∈ (located suites).map fun l =>
          (l.place files.cwd out, l.attachment.payload) := by
        rw [← List.mem_reverse, hsplit]
        exact List.mem_append_right _ List.mem_cons_self
      obtain ⟨l, hl, hlc⟩ := List.mem_map.mp hmem
      exact .inr ⟨l, hl, (congrArg Prod.fst hlc).symm, (congrArg Prod.snd hlc).symm⟩
    · exact .inl hq
  · obtain ⟨c, hc⟩ := Option.isSome_iff_exists.mp
      (mem_places_iff.mp (List.mem_map_of_mem (f := Located.place files.cwd out) hl))
    refine ⟨c, (written_file_iff hw).mpr (.inl ?_)⟩
    rwa [hcwd]
  · refine forall₂_congr fun l _ => ?_
    rw [inCaseDirectory_iff, plainName_iff, plainName_iff, List.forall_mem_cons,
      List.forall_mem_singleton]

/-- A suite whose name leads up. -/
def upward : SuiteResult :=
  { suite := "..", kind := .api, cases := [caseWith "a" "one"], source := none
    duration := 0.0, setupError := none }

/-- The attachment of such a suite gets out of the directory of attachments. -/
theorem writeAttachments_inside_upward :
    ∃ n t, writeAttachments ⟨[], [(["out"], .directory)]⟩ ⟨"", ["out"]⟩ [upward] = .ok (n, t) ∧
      (∃ c, t.at? ["out", "a", "01-x.txt"] = some (.file c)) ∧
      ¬ InCaseDirectory [] ⟨"", ["out"]⟩ ["out", "a", "01-x.txt"] := by
  have hwritten : (writeAttachments ⟨[], [(["out"], .directory)]⟩ ⟨"", ["out"]⟩
      [upward]).toOption.isSome = true := by decide +kernel
  cases ht : writeAttachments ⟨[], [(["out"], .directory)]⟩ ⟨"", ["out"]⟩ [upward] with
  | error e =>
    rw [ht] at hwritten
    cases hwritten
  | ok written =>
    obtain ⟨n, t⟩ := written
    obtain ⟨-, hfiles, hinside⟩ := writeAttachments_inside_iff ht
    have hl : located [upward] = [⟨"..", "a", 1, .text "x" "one"⟩] := rfl
    have hplace : Located.place [] ⟨"", ["out"]⟩ ⟨"..", "a", 1, .text "x" "one"⟩ =
        ["out", "a", "01-x.txt"] := by decide +kernel
    rw [hl] at hfiles hinside
    refine ⟨n, t, rfl, ?_, fun hin => ?_⟩
    · have hfile := hfiles _ List.mem_cons_self
      rwa [hplace] at hfile
    · have hall := hinside.mp (List.forall_mem_singleton.mpr (hplace ▸ hin)) _ List.mem_cons_self
        ".." List.mem_cons_self
      exact absurd hall (by decide +kernel)

end SuiteEngine.Report
