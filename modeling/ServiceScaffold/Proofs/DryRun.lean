import Mathlib
import ServiceScaffold.Proofs.StoppedRuns
import ServiceScaffold.Summary

/-!
# Summaries and runs

A summary says what a run over the same files would register, without running. A run that succeeds
has one report for each summary, and its table can only lack the services that were skipped.
-/

namespace ServiceScaffold

open FileTree Handler

theorem summarize_append (first last : List SourceFile) :
    summarize (first ++ last) = summarize first ++ summarize last := by
  simp [summarize]

theorem summarize_cons_of_eligible {file : SourceFile} (h : file.eligible = true)
    (rest : List SourceFile) :
    summarize (file :: rest) = ⟨file.name, file.package, .ofFile file⟩ :: summarize rest := by
  simp [summarize, h]

theorem summarize_cons_of_not_eligible {file : SourceFile} (h : file.eligible = false)
    (rest : List SourceFile) : summarize (file :: rest) = summarize rest := by
  simp [summarize, h]

theorem mergedPlans_of_all (file : SourceFile) {services : List Service} {outcomes : List Outcome}
    (hlength : outcomes.length = services.length)
    (h : ∀ outcome ∈ outcomes, outcome.isMerged = true) :
    mergedPlans file services outcomes = services.map (ServicePlan.of file) := by
  induction services generalizing outcomes with
  | nil =>
    obtain rfl := List.length_eq_zero_iff.mp hlength
    rfl
  | cons service rest ih =>
    obtain ⟨outcome, later, rfl⟩ := List.exists_cons_of_length_eq_add_one hlength
    rw [List.forall_mem_cons] at h
    rw [mergedPlans_cons, if_pos h.1, ih (by simpa using hlength) h.2, List.map_cons]

namespace Generator

variable {generator : Generator} {files : List SourceFile} {file : SourceFile} {tree : FileTree}
  {report : FileReport} {reports : List FileReport}

theorem sources_generate (h : (generator.generate files tree).answer = .ok reports) :
    reports.map FileReport.source = (summarize files).map FileSummary.source := by
  induction files generalizing tree reports with
  | nil =>
    rw [generate, Run.done, Except.ok.injEq] at h
    rw [← h]
    rfl
  | cons first rest ih =>
    cases heligible : first.eligible with
    | false =>
      rw [generate_cons_of_not_eligible heligible] at h
      rw [summarize_cons_of_not_eligible heligible]
      exact ih h
    | true =>
      obtain ⟨report, later, rfl, hfirst, hrest⟩ := (answer_generate_cons_eq_ok_iff heligible).mp h
      obtain ⟨made, outcomes, table, place, -, rfl⟩ := generates_of_answer hfirst
      rw [summarize_cons_of_eligible heligible, List.map_cons, List.map_cons, ih hrest]

/-- The report of the last file of a run comes after those of the files before. -/
theorem answer_generate_last (heligible : file.eligible = true) {before : List SourceFile}
    (h : (generator.generate (before ++ [file]) tree).answer = .ok (reports ++ [report])) :
    (generator.generate before tree).answer = .ok reports ∧
      (generator.generateFile file (generator.generate before tree).tree).answer = .ok report := by
  rw [generate_append, Run.answer_andThen_eq_ok_iff] at h
  obtain ⟨earlier, hbefore, hlast⟩ := h
  rw [generate_singleton heligible, Run.map_map, Run.answer_map_eq_ok_iff] at hlast
  obtain ⟨last, hfile, heq⟩ := hlast
  obtain ⟨rfl, hreport⟩ := List.append_inj' heq rfl
  obtain rfl := List.singleton_inj.mp hreport
  exact ⟨hbefore, hfile⟩

/-- How a file's report and the table on disk come from the summary of the file and the outcomes of
its services. -/
structure FollowsSummary (generator : Generator) (file : SourceFile) (start : FileTree)
    (report : FileReport) : Prop where
  answer : (generator.generateFile file start).answer = .ok report
  source : report.source = file.name
  outcomes : report.outcomes.length = file.services.length
  table : report.table =
    (mergedPlans file file.services report.outcomes).foldl Routing.Table.register .empty
  endpoints : report.table.endpoints =
    (mergedPlans file file.services report.outcomes).flatMap fun plan =>
      plan.methods.map (Routing.Endpoint.of plan.receiver)
  complete : (∀ outcome ∈ report.outcomes, outcome.isMerged = true) →
    report.table = .ofFile file
  written : (generator.generateFile file start).tree.read generator.tablePath =
    .ok (Utf8.ofString (report.table.render generator.settings))

theorem followsSummary_of_answer (h : (generator.generateFile file tree).answer = .ok report) :
    FollowsSummary generator file tree report := by
  obtain ⟨hlength, htable⟩ := table_generateFile h
  refine ⟨h, ?_, hlength, htable, ?_, fun hall => ?_, read_tablePath_generateFile h⟩
  · obtain ⟨made, outcomes, table, place, -, rfl⟩ := generates_of_answer h
    rfl
  · rw [htable, Routing.Table.endpoints_foldl_register]
    rfl
  · rw [htable, mergedPlans_of_all file hlength hall, Routing.Table.ofFile]

/-- The reports of a successful run are about the files that are summarized, in the same order. The
table of a report holds the services that were merged, so it is the summary's table if none was
skipped, and when the file has been generated, the source of this table is on disk. -/
theorem generate_follows_summary (h : (generator.generate files tree).answer = .ok reports) :
    reports.map FileReport.source = (summarize files).map FileSummary.source ∧
    ∀ earlier report later, reports = earlier ++ report :: later →
      ∃ before file after, files = before ++ file :: after ∧ file.eligible = true ∧
        (generator.generate before tree).answer = .ok earlier ∧
        (summarize files)[earlier.length]? = some ⟨file.name, file.package, .ofFile file⟩ ∧
        FollowsSummary generator file (generator.generate before tree).tree report := by
  refine ⟨sources_generate h, ?_⟩
  rintro earlier report later rfl
  obtain ⟨before, file, after, start, rfl, heligible, -, hlast⟩ := exists_file_of_report h
  obtain ⟨hbefore, hfile⟩ := answer_generate_last heligible hlast
  refine ⟨before, file, after, rfl, heligible, hbefore, ?_, followsSummary_of_answer hfile⟩
  have hlength : earlier.length = (summarize before).length := by
    simpa using congrArg List.length (sources_generate hbefore)
  rw [summarize_append, summarize_cons_of_eligible heligible, hlength,
    List.getElem?_append_right le_rfl, Nat.sub_self, List.getElem?_cons_zero]

/-- The second summary of two and the second report. -/
theorem generate_follows_summary_payments : ∃ first second,
    (plainGenerator.generate [ordersSource, paymentsSource] ⟨[], []⟩).answer =
      .ok [first, second] ∧
    ∃ before file after, [ordersSource, paymentsSource] = before ++ file :: after ∧
      (summarize [ordersSource, paymentsSource])[1]? =
        some ⟨file.name, file.package, .ofFile file⟩ ∧
      FollowsSummary plainGenerator file (plainGenerator.generate before ⟨[], []⟩).tree second := by
  obtain ⟨first, second, hanswer, -⟩ := answer_generate_payments
  obtain ⟨before, file, after, hfiles, -, -, hsummary, hfollows⟩ :=
    (generate_follows_summary hanswer).2 [first] second [] rfl
  exact ⟨first, second, hanswer, before, file, after, hfiles, hsummary, hfollows⟩

end Generator
end ServiceScaffold
