import Mathlib
import ServiceScaffold.Proofs.Routes
import ServiceScaffold.Proofs.SettledTrees

/-!
# The routing table on disk

A file's table holds the services that were merged, and its source lists them all. The source is
written again for every file of a run, with the table of that file alone, so what is on disk in the
end is the table of the last file.
-/

namespace ServiceScaffold

open FileTree Handler

namespace Utf8

theorem ofString_append (a b : String) : ofString (a ++ b) = ofString a ++ ofString b := by
  rw [ofString, String.toList_append, encode_append, ofString, ofString]

theorem ofString_eq (s : String) : ofString s = s.toByteArray.data.toList := by
  rw [← String.utf8Encode_toList, ofString, encode]
  simp [List.utf8Encode]

end Utf8

def Handler.Outcome.isMerged : Outcome → Bool
  | .merged _ => true
  | .skipped _ _ => false

def mergedPlans (file : SourceFile) (services : List Service) (outcomes : List Outcome) :
    List ServicePlan :=
  ((services.zip outcomes).filter fun entry => entry.2.isMerged).map fun entry =>
    ServicePlan.of file entry.1

@[simp] theorem mergedPlans_nil (file : SourceFile) : mergedPlans file [] [] = [] := rfl

@[simp] theorem mergedPlans_cons (file : SourceFile) (service : Service) (rest : List Service)
    (outcome : Outcome) (later : List Outcome) :
    mergedPlans file (service :: rest) (outcome :: later) =
      if outcome.isMerged then ServicePlan.of file service :: mergedPlans file rest later
      else mergedPlans file rest later := by
  cases h : outcome.isMerged <;> simp [mergedPlans, h]

namespace Routing.Table

theorem services_foldl_register (plans : List ServicePlan) (table : Table) :
    (plans.foldl register table).services = table.services ++ plans.map ServicePlan.receiver := by
  induction plans generalizing table with
  | nil => simp
  | cons plan rest ih => simp [ih]

theorem endpoints_foldl_register (plans : List ServicePlan) (table : Table) :
    (plans.foldl register table).endpoints = table.endpoints ++
      plans.flatMap fun plan => plan.methods.map (Endpoint.of plan.receiver) := by
  induction plans generalizing table with
  | nil => simp
  | cons plan rest ih => simp [ih]

end Routing.Table

namespace Generator

variable {generator : Generator} {file : SourceFile} {tree : FileTree}

theorem table_mergeServices {services : List Service} {table last : Routing.Table}
    {outcomes : List Outcome}
    (h : (generator.mergeServices file services table tree).answer = .ok (outcomes, last)) :
    outcomes.length = services.length ∧
      last = (mergedPlans file services outcomes).foldl Routing.Table.register table := by
  induction services generalizing tree table outcomes with
  | nil =>
    rw [mergeServices, Run.done, Except.ok.injEq, Prod.mk.injEq] at h
    obtain ⟨rfl, rfl⟩ := h
    exact ⟨rfl, rfl⟩
  | cons service rest ih =>
    obtain ⟨outcome, later, rfl, hmerge, hrest⟩ := answer_mergeServices_cons_eq_ok_iff.mp h
    obtain ⟨hlength, hlast⟩ := ih hrest
    rw [table_mergeOf hmerge] at hlast
    refine ⟨by simp [hlength], ?_⟩
    cases outcome <;> simpa [Outcome.isMerged, Outcome.register] using hlast

theorem table_generateFile {report : FileReport}
    (h : (generator.generateFile file tree).answer = .ok report) :
    report.outcomes.length = file.services.length ∧
      report.table =
        (mergedPlans file file.services report.outcomes).foldl Routing.Table.register .empty := by
  obtain ⟨made, outcomes, table, place, hparts, rfl⟩ := generates_of_answer h
  exact table_mergeServices hparts.merged

end Generator

namespace Routing

def listOpening : String :=
  "func GetList() []interface\x7b\x7d \x7b\n\tlist := make([]interface\x7b\x7d, 0)"

def listClosing : String :=
  "\n\treturn list\n\x7d\n"

def listFunction (receivers : List String) : String :=
  listOpening ++ block (receivers.map serviceLine) ++ listClosing

def endpointsOpening (framework : String) : String :=
  "func GetApiEndpoint() []*" ++ framework ++ ".ApiEndpoint \x7b" ++ "\n\treturn []*" ++ framework
    ++ ".ApiEndpoint\x7b"

def endpointsClosing : String :=
  "\n\t\x7d\n\x7d\n"

def endpointsFunction (framework : String) (endpoints : List Endpoint) : String :=
  endpointsOpening framework ++ block (endpoints.map endpointLine) ++ endpointsClosing

/-- The source has a function `GetList` for these types. -/
def Lists (source : String) (receivers : List String) : Prop :=
  ∃ before after, source = before ++ listFunction receivers ++ after

/-- The source has a function `GetApiEndpoint` with these rows. -/
def Returns (framework source : String) (endpoints : List Endpoint) : Prop :=
  ∃ before after, source = before ++ endpointsFunction framework endpoints ++ after

def sourceHead (settings : Settings) : String :=
  "// Code generated by protoc-gen-vkit. DO NOT EDIT.\n// versions:\n// - protoc-gen-vkit "
  ++ settings.version
  ++ "\n\npackage " ++ settings.packageName
  ++ "\n\nimport (" ++ importLine settings.frameworkImport
  ++ block (settings.extraImports.map importLine)
  ++ "\n)\n\n"

/-- Two pieces of the source are cut where `GetList` begins and where it ends. -/
theorem append_cut {opening closing first start stop second : String}
    (hopening : opening = first ++ start) (hclosing : closing = stop ++ ("\n" ++ second))
    (head body framework brace back brace' rows last : String) :
    head ++ opening ++ body ++ closing ++ framework ++ brace ++ back ++ framework ++ brace' ++ rows
        ++ last =
      (head ++ first) ++ (start ++ body ++ stop) ++ ("\n" ++ (second ++ framework ++ brace ++ back
        ++ framework ++ brace' ++ rows ++ last)) := by
  subst hopening hclosing
  simp only [String.append_assoc]

theorem render_eq (table : Table) (settings : Settings) :
    table.render settings = sourceHead settings ++ listFunction table.services
      ++ ("\n" ++ endpointsFunction (importAlias settings.frameworkImport) table.endpoints) := by
  apply append_cut <;> decide +kernel

theorem lists_render (table : Table) (settings : Settings) :
    Lists (table.render settings) table.services :=
  ⟨_, _, render_eq table settings⟩

theorem returns_render (table : Table) (settings : Settings) :
    Returns (importAlias settings.frameworkImport) (table.render settings) table.endpoints := by
  rw [render_eq, ← String.append_assoc]
  exact ⟨_, "", String.append_empty.symm⟩

theorem isInfix_ofString_block {line : String} {lines : List String} (h : line ∈ lines) :
    Utf8.ofString line <:+: Utf8.ofString (block lines) := by
  induction lines with
  | nil => exact absurd h List.not_mem_nil
  | cons first rest ih =>
    rw [block, List.foldr_cons, Utf8.ofString_append, ← block]
    rcases List.mem_cons.mp h with rfl | h
    · exact List.infix_append' [] _ _
    · exact (ih h).trans (List.suffix_append _ _).isInfix

theorem not_mem_of_lists {source receiver : String} {receivers : List String}
    (h : Lists source receivers)
    (hline : ¬Utf8.ofString (serviceLine receiver) <:+: Utf8.ofString source) :
    receiver ∉ receivers := by
  obtain ⟨before, after, rfl⟩ := h
  intro hmem
  have hblock := isInfix_ofString_block (List.mem_map_of_mem (f := serviceLine) hmem)
  refine hline (hblock.trans ?_)
  simp only [Utf8.ofString_append, listFunction]
  exact (List.infix_append _ _ _).trans (List.infix_append _ _ _)

end Routing

/-- The source lists the merged services of a report and returns all rows of its table. -/
structure Covers (framework source : String) (file : SourceFile) (report : FileReport) : Prop where
  services : ∃ receivers, Routing.Lists source receivers ∧
    List.Forall₂ (fun service outcome => outcome.isMerged = true → service.goName ∈ receivers)
      file.services report.outcomes
  endpoints : ∃ endpoints, Routing.Returns framework source endpoints ∧
    ∀ endpoint ∈ report.table.endpoints, endpoint ∈ endpoints

theorem forall₂_mergedPlans (file : SourceFile) {services : List Service} {outcomes : List Outcome}
    (h : outcomes.length = services.length) :
    List.Forall₂ (fun service outcome => outcome.isMerged = true →
        service.goName ∈ (mergedPlans file services outcomes).map ServicePlan.receiver)
      services outcomes := by
  induction services generalizing outcomes with
  | nil =>
    obtain rfl := List.length_eq_zero_iff.mp h
    exact .nil
  | cons service rest ih =>
    obtain ⟨outcome, later, rfl⟩ := List.exists_cons_of_length_eq_add_one h
    rw [mergedPlans_cons]
    refine .cons (fun hmerged => by simp [hmerged, ServicePlan.of]) ?_
    refine (ih (by simpa using h)).imp fun s o hlisted hmerged => ?_
    split
    · exact List.mem_cons_of_mem _ (hlisted hmerged)
    · exact hlisted hmerged

namespace Generator

variable {generator : Generator} {file : SourceFile} {tree : FileTree}

theorem covers_render {report : FileReport}
    (h : (generator.generateFile file tree).answer = .ok report) :
    Covers (Routing.importAlias generator.settings.frameworkImport)
      (report.table.render generator.settings) file report := by
  obtain ⟨hlength, htable⟩ := table_generateFile h
  refine ⟨⟨_, Routing.lists_render _ _, ?_⟩, ⟨_, Routing.returns_render _ _, fun _ => id⟩⟩
  rw [htable, Routing.Table.services_foldl_register]
  exact forall₂_mergedPlans file hlength

theorem read_tablePath_generateFile {report : FileReport}
    (h : (generator.generateFile file tree).answer = .ok report) :
    (generator.generateFile file tree).tree.read generator.tablePath =
      .ok (Utf8.ofString (report.table.render generator.settings)) := by
  obtain ⟨made, outcomes, table, place, hparts, rfl⟩ := generates_of_answer h
  rw [hparts.tree_eq]
  exact read_eq_ok_iff.mpr ⟨place, find_put_of_openFresh hparts.opened _⟩

theorem generate_cons_of_not_eligible {disk : Disk} (h : file.eligible = false)
    (rest : List SourceFile) (tree : FileTree) :
    generator.generate (file :: rest) tree disk = generator.generate rest tree disk := by
  rw [generate, if_neg (by simp [h])]

/-- A run without reports has done nothing. -/
theorem tree_generate_of_no_reports {files : List SourceFile}
    (h : (generator.generate files tree).answer = .ok []) :
    (generator.generate files tree).tree = tree := by
  induction files with
  | nil => rfl
  | cons file rest ih =>
    cases heligible : file.eligible with
    | true =>
      obtain ⟨_, _, hreports, -⟩ := (answer_generate_cons_eq_ok_iff heligible).mp h
      cases hreports
    | false =>
      rw [generate_cons_of_not_eligible heligible] at h ⊢
      exact ih h

theorem read_tablePath_generate {files : List SourceFile} {earlier : List FileReport}
    {report : FileReport} (h : (generator.generate files tree).answer = .ok (earlier ++ [report])) :
    (generator.generate files tree).tree.read generator.tablePath =
      .ok (Utf8.ofString (report.table.render generator.settings)) := by
  induction files generalizing tree earlier with
  | nil =>
    rw [generate, Run.done, Except.ok.injEq] at h
    simp at h
  | cons first rest ih =>
    cases heligible : first.eligible with
    | false =>
      rw [generate_cons_of_not_eligible heligible] at h ⊢
      exact ih h
    | true =>
      obtain ⟨head, tail, hsplit, hfirst, hrest⟩ := (answer_generate_cons_eq_ok_iff heligible).mp h
      rw [tree_generate_cons heligible hfirst]
      cases earlier with
      | nil =>
        obtain ⟨rfl, rfl⟩ := List.cons.inj hsplit
        rw [tree_generate_of_no_reports hrest]
        exact read_tablePath_generateFile hfirst
      | cons _ earlier =>
        obtain ⟨-, rfl⟩ := List.cons.inj hsplit
        exact ih hrest

/-- Every report of a successful run is about one of the files for which it was asked, and a run
that ends with this file succeeds with the reports up to this one. -/
theorem exists_file_of_report {files : List SourceFile} {earlier later : List FileReport}
    {report : FileReport}
    (h : (generator.generate files tree).answer = .ok (earlier ++ report :: later)) :
    ∃ before file after start, files = before ++ file :: after ∧ file.eligible = true ∧
      (generator.generateFile file start).answer = .ok report ∧
      (generator.generate (before ++ [file]) tree).answer = .ok (earlier ++ [report]) := by
  induction files generalizing tree earlier with
  | nil =>
    rw [generate, Run.done, Except.ok.injEq] at h
    simp at h
  | cons first rest ih =>
    cases heligible : first.eligible with
    | false =>
      rw [generate_cons_of_not_eligible heligible] at h
      obtain ⟨before, file, after, start, rfl, hfile, hreport, hanswer⟩ := ih h
      refine ⟨first :: before, file, after, start, rfl, hfile, hreport, ?_⟩
      rw [List.cons_append, generate_cons_of_not_eligible heligible]
      exact hanswer
    | true =>
      obtain ⟨head, tail, hsplit, hfirst, hrest⟩ := (answer_generate_cons_eq_ok_iff heligible).mp h
      cases earlier with
      | nil =>
        obtain ⟨rfl, rfl⟩ := List.cons.inj hsplit
        refine ⟨[], first, rest, tree, rfl, heligible, hfirst, ?_⟩
        exact (answer_generate_cons_eq_ok_iff heligible).mpr ⟨_, [], rfl, hfirst, rfl⟩
      | cons _ earlier =>
        obtain ⟨rfl, rfl⟩ := List.cons.inj hsplit
        obtain ⟨before, file, after, start, rfl, hfile, hreport, hanswer⟩ := ih hrest
        refine ⟨first :: before, file, after, start, rfl, hfile, hreport, ?_⟩
        exact (answer_generate_cons_eq_ok_iff heligible).mpr ⟨_, _, rfl, hfirst, hanswer⟩

/-- The routing table on disk covers every report of a successful run when the report's file has
been generated. At the end of the run it still covers the last report. -/
theorem generate_table_covers_report {generator : Generator} {files : List SourceFile}
    {tree : FileTree} {earlier later : List FileReport} {report : FileReport}
    (h : (generator.generate files tree).answer = .ok (earlier ++ report :: later)) :
    ∃ before file after source, files = before ++ file :: after ∧ file.eligible = true ∧
      (generator.generate (before ++ [file]) tree).answer = .ok (earlier ++ [report]) ∧
      (generator.generate (before ++ [file]) tree).tree.read generator.tablePath =
        .ok (Utf8.ofString source) ∧
      Covers (Routing.importAlias generator.settings.frameworkImport) source file report ∧
      (later = [] → (generator.generate files tree).tree.read generator.tablePath =
        .ok (Utf8.ofString source)) := by
  obtain ⟨before, file, after, start, hfiles, heligible, hreport, hanswer⟩ :=
    exists_file_of_report h
  refine ⟨before, file, after, _, hfiles, heligible, hanswer, read_tablePath_generate hanswer,
    covers_render hreport, ?_⟩
  rintro rfl
  exact read_tablePath_generate h

def paymentsSource : SourceFile :=
  ⟨"pay.proto", "pay", "pay", true,
    [⟨"Pay", "pay.Pay", [⟨"Charge", "Charge", "Req", "Resp", false, false, none⟩]⟩]⟩

theorem answer_generate_payments : ∃ first second,
    (plainGenerator.generate [ordersSource, paymentsSource] ⟨[], []⟩).answer =
      .ok [first, second] ∧
    first.outcomes.map Outcome.isMerged = [true] ∧
    second.table = ⟨["Pay"], [⟨"Pay.Charge", "/pay.Pay/Charge", false, false⟩]⟩ := by
  have hanswer : (plainGenerator.generate [ordersSource, paymentsSource] ⟨[], []⟩).answer.map
      (List.map fun report => (report.outcomes.map Outcome.isMerged, report.table)) =
        .ok [([true], ⟨["Order"], [⟨"Order.Get", "/order.Order/Get", false, false⟩]⟩),
          ([true], ⟨["Pay"], [⟨"Pay.Charge", "/pay.Pay/Charge", false, false⟩]⟩)] := by
    decide +kernel
  obtain ⟨reports, hreports, hmap⟩ := map_eq_ok_iff.mp hanswer
  obtain ⟨first, rest, rfl, hfirst, hrest⟩ := List.map_eq_cons_iff.mp hmap
  obtain ⟨second, rfl, hsecond⟩ := List.map_eq_singleton_iff.mp hrest
  exact ⟨first, second, hreports, congrArg Prod.fst hfirst, congrArg Prod.snd hsecond⟩

/-- The table on disk at the end covers the second of two reports. -/
theorem generate_table_covers_report_payments : ∃ first second file source,
    (plainGenerator.generate [ordersSource, paymentsSource] ⟨[], []⟩).answer =
      .ok [first, second] ∧
    (plainGenerator.generate [ordersSource, paymentsSource] ⟨[], []⟩).tree.read
      plainGenerator.tablePath = .ok (Utf8.ofString source) ∧
    Covers (Routing.importAlias plainGenerator.settings.frameworkImport) source file second := by
  obtain ⟨first, second, hanswer, -⟩ := answer_generate_payments
  obtain ⟨_, file, _, source, -, -, -, -, hcovers, hread⟩ :=
    @generate_table_covers_report _ _ _ [first] [] second hanswer
  exact ⟨first, second, file, source, hanswer, hread rfl, hcovers⟩

/-- The table on disk at the end does not cover the first of two reports. -/
theorem not_generate_table_covers_all_reports :
    ¬∀ (generator : Generator) (files : List SourceFile) (tree : FileTree)
      (reports : List FileReport), (generator.generate files tree).answer = .ok reports →
      List.Forall₂ (fun file report => ∃ source,
        (generator.generate files tree).tree.read generator.tablePath =
          .ok (Utf8.ofString source) ∧
        Covers (Routing.importAlias generator.settings.frameworkImport) source file report)
        (files.filter SourceFile.eligible) reports := by
  intro hall
  obtain ⟨first, second, hanswer, hmerged, htable⟩ := answer_generate_payments
  have hreports := hall _ _ _ _ hanswer
  have hfiles : [ordersSource, paymentsSource].filter SourceFile.eligible =
      [ordersSource, paymentsSource] := by decide
  rw [hfiles] at hreports
  obtain ⟨⟨source, hread, ⟨receivers, hlists, hservices⟩, -⟩, -⟩ := List.forall₂_cons.mp hreports
  have hlisted : "Order" ∈ receivers := by
    obtain ⟨outcome, houtcomes, hmerged⟩ := List.map_eq_singleton_iff.mp hmerged
    rw [houtcomes] at hservices
    exact (List.forall₂_cons.mp hservices).1 hmerged
  -- The source at the end is that of the second table, where no line is about orders.
  have hlast := read_tablePath_generate (show _ = Except.ok ([first] ++ [second]) from hanswer)
  rw [hread, Except.ok.injEq, htable] at hlast
  refine Routing.not_mem_of_lists hlists ?_ hlisted
  rw [hlast, Utf8.ofString_eq, Utf8.ofString_eq]
  decide +kernel

end Generator
end ServiceScaffold
