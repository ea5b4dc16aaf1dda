import SuiteEngine.Cli.Program
import SuiteEngine.Proofs.Host.Change
import SuiteEngine.Proofs.Report.Attachments
import SuiteEngine.Proofs.Report.Rows

/-!
# What a run leaves

A run writes a workbook, a summary and the files of attachments, in this order. Each of them is written
at places of its own, so none is written over another one, and all of them count the same cases.

Headlines:
* `writeOutputs_leaves`: what is in the files when everything was written.
* `writeOutputs_refused`: what is left when the workbook is refused.
* **`reports_agree`**: the numbers in all reports, in the outcome of the run, and in its exit status.
-/

namespace SuiteEngine.Run

open Files (Content IsName Path Place Tree)
open Files.Tree (Overwritten)
open Host (Change Machine)
open Report (RunInfo SuiteResult Status Totals caseCount countAll)

variable {config : Config} {m : Moment} {output : Path} {suites : List SuiteResult} {duration : Float}
  {files written : Tree} {o : Outcome}

/-! ## Names -/

theorem isDigit_padded {count n : Nat} {c : Char} (h : c ∈ (Moment.padded count n).toList) :
    c.isDigit = true := by
  unfold Moment.padded at h
  rw [String.toList_append, String.toList_ofList] at h
  rcases List.mem_append.mp h with h | h
  · rw [List.eq_of_mem_replicate h]
    rfl
  · rw [Nat.toString_eq_ofList_toDigits, String.toList_ofList] at h
    exact Nat.isDigit_of_mem_toDigits (by decide) (by decide) h

theorem slash_not_mem_padded {count n : Nat} : '/' ∉ (Moment.padded count n).toList := fun h =>
  absurd (isDigit_padded h) (by decide)

theorem isName_workbookName : IsName (workbookName m) := by
  have hr : 'r' ∈ (workbookName m).toList := by simp [workbookName]
  refine ⟨?_, ?_, ?_, ?_⟩
  · simp [workbookName, Moment.stamp, slash_not_mem_padded]
  all_goals
    intro h
    rw [h] at hr
    revert hr
    decide

theorem isName_summaryFileName : IsName Report.summaryFileName :=
  ⟨by decide, by decide, by decide, by decide⟩

theorem digits_workbookName : (workbookName m).toList.takeWhile Char.isDigit = [] := by
  simp [workbookName]

theorem workbookName_ne : workbookName m ≠ Report.summaryFileName := by
  intro h
  have := congrArg (fun s => s.toList.head?) h
  simp [workbookName, Report.summaryFileName] at this

/-- A name that no attachment's file has leads to a place that no attachment has. -/
theorem place_ne_child {cwd : Place} {l : Report.Located} {s : String} (hs : IsName s)
    (hne : l.attachment.fileName l.number ≠ s) : l.place cwd output ≠ (output.child s).target cwd := by
  intro h
  rw [Report.Located.place, Report.Located.path, Path.target_child Report.isName_fileName,
    Path.target_child hs] at h
  exact hne (List.singleton_inj.mp (List.append_inj' h rfl).2)

/-! ## Writing -/

/-- What is left when all outputs were written. -/
structure Published (config : Config) (m : Moment) (output : Path) (suites : List SuiteResult)
    (duration : Float) (o : Outcome) (written : Tree) : Prop where
  results : o.suites = suites
  summary : written.read o.summaryPath = .ok (.ofText (Json.render .indented
    (Report.summary config.environment.name suites (.float duration) m.text)))
  workbook : ∃ info results run, Report.resultsSheet suites = .ok results ∧
    Report.infoSheet info suites = .ok run ∧
    written.read (output.child (workbookName m)) = .ok (.workbook ⟨[results, run]⟩)

/-- The files that are written one after the other. -/
theorem writeOutputs_ok
    (h : (writeOutputs config m output suites duration).on files = (.ok o, written)) :
    ∃ info t₁ t₂ n, Report.writeWorkbook files (output.child (workbookName m)) info suites = .ok t₁ ∧
      Report.writeSummary t₁ output
        (Report.summary config.environment.name suites (.float duration) m.text) =
          .ok (o.summaryPath, t₂) ∧
      Report.writeAttachments t₂ output suites = .ok (n, written) ∧ o.suites = suites := by
  have h := Change.on_tryCatch_eq_ok.mp h
  unfold writeAllOutputs at h
  obtain ⟨_, _, hget, h⟩ := Change.on_bind_eq_ok.mp h
  cases hget
  obtain ⟨_, t₁, hbook, h⟩ := Change.on_bind_eq_ok.mp h
  obtain ⟨path, t₂, hsummary, h⟩ := Change.on_bind_eq_ok.mp h
  obtain ⟨n, t₃, hattachments, h⟩ := Change.on_bind_eq_ok.mp h
  rw [Change.on_pure] at h
  obtain ⟨ho, rfl⟩ := Prod.mk.inj h
  obtain rfl := Except.ok.inj ho
  obtain ⟨t, hbook, ht⟩ := bind_eq_ok.mp (Change.on_ofTree_eq_ok.mp hbook)
  cases ht
  exact ⟨_, t₁, t₂, n, hbook, mapError_eq_ok.mp (Change.on_ofTree_eq_ok.mp hsummary),
    mapError_eq_ok.mp (Change.on_ofTree_eq_ok.mp hattachments), rfl⟩

/-- The summary is written at its place, and nothing else is changed but directories. -/
theorem writeSummary_ok {path : Path} {v : Value} {t : Tree}
    (h : Report.writeSummary files output v = .ok (path, t)) :
    path = output.child Report.summaryFileName ∧
      t.read path = .ok (.ofText (Json.render .indented v)) ∧
      Overwritten files [(path.target files.cwd, .ofText (Json.render .indented v))] t := by
  obtain ⟨made, hmade, h⟩ := bind_eq_ok.mp h
  obtain ⟨t', hwrite, h⟩ := bind_eq_ok.mp h
  cases h
  have hgrown := Tree.makeDirectories_grown hmade
  refine ⟨rfl, Tree.read_write hwrite, ?_⟩
  rw [← hgrown.cwd]
  exact hgrown.overwritten.trans (Tree.Written.of_write hwrite).overwritten

/-- **What is in the files when everything was written.** -/
theorem writeOutputs_leaves
    (h : (writeOutputs config m output suites duration).on files = (.ok o, written)) :
    Published config m output suites duration o written := by
  obtain ⟨info, t₁, t₂, n, hbook, hsummary, hattachments, hsuites⟩ := writeOutputs_ok h
  obtain ⟨results, run, hresults, hrun, hreadBook⟩ := Report.writeWorkbook_ok hbook
  obtain ⟨hpath, hreadSummary, hover⟩ := writeSummary_ok hsummary
  obtain ⟨-, hwritten⟩ := Report.writeAttachments_written hattachments
  have hkept : ∀ {s : String} {c : Content}, IsName s → s.toList.takeWhile Char.isDigit = [] →
      t₂.read (output.child s) = .ok c → written.read (output.child s) = .ok c := by
    intro s c hs hdigits hread
    refine hwritten.overwritten.read hread fun f hf => ?_
    rw [List.map_map] at hf
    obtain ⟨l, -, rfl⟩ := List.mem_map.mp hf
    exact place_ne_child hs (Report.fileName_ne hdigits)
  refine ⟨hsuites, ?_, info, results, run, hresults, hrun, ?_⟩
  · rw [hpath] at hreadSummary ⊢
    exact hkept isName_summaryFileName (by decide) hreadSummary
  · refine hkept isName_workbookName digits_workbookName (hover.read hreadBook fun f hf => ?_)
    rw [List.mem_singleton.mp hf, hpath, Path.target_child isName_summaryFileName,
      Path.target_child isName_workbookName]
    exact fun heq => workbookName_ne (List.singleton_inj.mp (List.append_inj' heq rfl).2).symm

/-- **Nothing is written when the workbook is refused**, which is not reported as a failure of files:
the results of the run are lost. -/
theorem writeOutputs_refused {f : Failure}
    (h : Report.writeWorkbook files (output.child (workbookName m))
      (runInfo config m ((output.child (workbookName m)).resolve files.cwd) duration) suites = .error f)
    (hf : isFileFailure f = false) :
    (writeOutputs config m output suites duration).on files = (.error f, files) := by
  have hall : (writeAllOutputs config m output suites duration).on files = (.error f, files) := by
    unfold writeAllOutputs
    rw [Change.on_get_bind]
    exact Change.on_bind_of_error (Change.on_ofTree_of_error (by rw [h]; rfl))
  rw [writeOutputs, Change.on_tryCatch, hall]
  simp [outputFailure, hf]

/-! ## Agreement -/

theorem hasFailures_iff :
    o.hasFailures = true ↔ 0 < countAll o.suites .failed + countAll o.suites .blocked :=
  Report.anyFailure_iff

/-- What is shown of some suites, and where. -/
structure ShowsCounts (suites : List SuiteResult) : Prop where
  totals : ∀ st, (Totals.of suites).get st = countAll suites st
  total : (Totals.of suites).total = caseCount suites
  summary : ∀ environment duration timestamp,
    (Report.summary environment suites duration timestamp).get? "totalTests" =
      some (.int (caseCount suites)) ∧
    ∀ st, (Report.summary environment suites duration timestamp).get? st.label =
      some (.int (countAll suites st))
  info : ∀ info sheet, Report.infoSheet info suites = .ok sheet →
    sheet.rows.drop 7 = Report.countRows suites
  results : ∀ sheet, Report.resultsSheet suites = .ok sheet →
    sheet.rows.length = 1 + caseCount suites ∧
    sheet.rows.tail.map (·[4]?) =
      (suites.flatMap SuiteResult.cases).map fun c => some (.text c.status.word)

theorem showsCounts (suites : List SuiteResult) : ShowsCounts suites where
  totals := Totals.get_of suites
  total := Totals.total_of suites
  summary environment duration := Report.summary_counts environment suites duration
  info _ _ := Report.infoSheet_counts
  results _ := Report.resultsSheet_rows

theorem execute_ok {σ : Type} {machine : Machine σ} {environ : Config.Environ} {r : Request} {s s' : σ}
    (h : execute machine environ m r s = (.ok o, s')) :
    ∃ config suites duration s₁ written,
      (writeOutputs config m r.output suites duration).on (machine.files s₁) = (.ok o, written) ∧
      s' = machine.withFiles s₁ written := by
  unfold execute at h
  split at h
  · cases h
  · rename_i l _
    split at h
    · cases h
    · rename_i suites duration s₁ _
      obtain ⟨hw, rfl⟩ := Prod.mk.inj h
      exact ⟨l.config, suites, duration, s₁, _, Prod.ext hw rfl, rfl⟩

theorem carryOut_run {σ : Type} {machine : Machine σ} {at_ : Cli.Surroundings} {g : Cli.Given}
    {s s' : σ} (h : execute machine at_.environ at_.moment (Cli.runRequest g) s = (.ok o, s')) :
    Cli.carryOut machine at_ "run" g s = (.ok (Cli.runEnding o), s') := by
  change (Cli.ended _ ((execute machine at_.environ at_.moment (Cli.runRequest g) s).1.map
    Cli.runEnding), (execute machine at_.environ at_.moment (Cli.runRequest g) s).2) = _
  rw [h]
  rfl

/-- **All reports of a run agree.** For any results of suites, the summary, both sheets of the workbook
and the outcome of the run show the sums of what the suites count. These are shown wherever the outputs
were written; and a run that was completed has failures, and ends with status 1, if and only if a case
failed or was blocked. -/
theorem reports_agree (suites : List SuiteResult) :
    ShowsCounts suites ∧
    caseCount suites = countAll suites .passed + countAll suites .failed + countAll suites .skipped +
      countAll suites .blocked ∧
    (∀ more st, (Totals.of (suites ++ more)).get st =
      (Totals.of suites).get st + (Totals.of more).get st) ∧
    (∀ o : Outcome, o.suites = suites →
      (∀ st, o.totals.get st = countAll suites st) ∧
      (o.hasFailures = true ↔ 0 < countAll suites .failed + countAll suites .blocked) ∧
      (o.hasFailures = true ↔ ∃ s ∈ suites, s.hasFailures = true)) ∧
    (∀ config m output duration files o written,
      (writeOutputs config m output suites duration).on files = (.ok o, written) →
        Published config m output suites duration o written) ∧
    ∀ (σ : Type) (machine : Machine σ) at_ g s s' o,
      execute machine at_.environ at_.moment (Cli.runRequest g) s = (.ok o, s') → o.suites = suites →
        (∃ config duration s₁ written, s' = machine.withFiles s₁ written ∧
          Published config at_.moment (Cli.runRequest g).output suites duration o written) ∧
        ∃ e, Cli.carryOut machine at_ "run" g s = (.ok e, s') ∧
          e.status = if 0 < countAll suites .failed + countAll suites .blocked then 1 else 0 := by
  refine ⟨showsCounts suites, (Report.countAll_statuses suites).symm, fun more st => ?_,
    fun o ho => ⟨?_, ?_, ?_⟩, fun _ _ _ _ _ _ _ => writeOutputs_leaves,
    fun σ machine at_ g s s' o h ho => ⟨?_, _, carryOut_run h, ?_⟩⟩
  · rw [Totals.get_of, Totals.get_of, Totals.get_of, Report.countAll_append]
  · exact ho ▸ Totals.get_of o.suites
  · exact ho ▸ hasFailures_iff
  · rw [Outcome.hasFailures, ho, List.any_eq_true]
  · obtain ⟨config, results, duration, s₁, written, hw, hs⟩ := execute_ok h
    have published := writeOutputs_leaves hw
    obtain rfl : results = suites := published.results.symm.trans ho
    exact ⟨config, duration, s₁, written, hs, published⟩
  · rw [← ho]
    exact if_congr hasFailures_iff rfl rfl

end SuiteEngine.Run
