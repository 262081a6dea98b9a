import Mathlib
import ServiceScaffold.Generation
import ServiceScaffold.Proofs.AppendOnly
import ServiceScaffold.Proofs.HandlerDirectory

/-!
# Runs that succeed

A run that succeeds has gone through all of its parts, and each of them has succeeded. Here a
successful run is taken apart, and put together again from successful parts.
-/

namespace ServiceScaffold

open FileTree Handler

theorem map_eq_ok_iff {ε α β : Type} {x : Except ε α} {f : α → β} {b : β} :
    x.map f = .ok b ↔ ∃ a, x = .ok a ∧ f a = b := by
  cases x <;> simp [Except.map]

namespace Run

variable {α β : Type}

theorem answer_andThen_eq_ok_iff {first : Run α} {next : α → FileTree → Run β} {b : β} :
    (first.andThen next).answer = .ok b ↔
      ∃ a, first.answer = .ok a ∧ (next a first.tree).answer = .ok b := by
  cases hfirst : first.answer with
  | error fault => simp [andThen_of_error hfirst]
  | ok a => simp [andThen_of_ok hfirst]

theorem tree_andThen_of_ok {first : Run α} {a : α} (h : first.answer = .ok a)
    (next : α → FileTree → Run β) : (first.andThen next).tree = (next a first.tree).tree := by
  rw [andThen_of_ok h]

theorem answer_map_eq_ok_iff {f : α → β} {run : Run α} {b : β} :
    (run.map f).answer = .ok b ↔ ∃ a, run.answer = .ok a ∧ f a = b :=
  map_eq_ok_iff

end Run

namespace Generator

variable {generator : Generator} {file : SourceFile} {tree : FileTree} {disk : Disk}

def mergeOf (generator : Generator) (file : SourceFile) (service : Service)
    (table : Routing.Table) (tree : FileTree) (disk : Disk := .sound) : Merge :=
  Handler.merge generator.scan generator.settings.handlerPath (ServicePlan.of file service)
    (fun _ => generator.preamble file tree) tree table disk

theorem answer_mergeService (service : Service) (table : Routing.Table) :
    (generator.mergeService file service table tree disk).answer =
      (generator.mergeOf file service table tree disk).answer.map fun outcome =>
        (outcome, (generator.mergeOf file service table tree disk).table) := by
  simp only [mergeService, mergeOf]

theorem tree_mergeService (service : Service) (table : Routing.Table) :
    (generator.mergeService file service table tree disk).tree =
      (generator.mergeOf file service table tree disk).tree := by
  simp only [mergeService, mergeOf]

@[simp] theorem tree_mergeServices_nil (generator : Generator) (file : SourceFile)
    (table : Routing.Table) (tree : FileTree) (disk : Disk) :
    (generator.mergeServices file [] table tree disk).tree = tree := by
  rw [mergeServices, Run.done]

theorem answer_mergeServices_cons_eq_ok_iff {service : Service} {rest : List Service}
    {table last : Routing.Table} {outcomes : List Outcome} :
    (generator.mergeServices file (service :: rest) table tree disk).answer = .ok (outcomes, last) ↔
      ∃ outcome later, outcomes = outcome :: later ∧
        (generator.mergeOf file service table tree disk).answer = .ok outcome ∧
        (generator.mergeServices file rest (generator.mergeOf file service table tree disk).table
          (generator.mergeOf file service table tree disk).tree disk).answer =
            .ok (later, last) := by
  simp only [mergeServices, Run.answer_andThen_eq_ok_iff, answer_mergeService, tree_mergeService,
    map_eq_ok_iff, Run.answer_map_eq_ok_iff]
  generalize generator.mergeOf file service table tree disk = merge
  constructor
  · rintro ⟨_, ⟨outcome, hmerge, rfl⟩, ⟨later, last'⟩, hlater, heq⟩
    rw [Prod.mk.injEq] at heq
    obtain ⟨rfl, rfl⟩ := heq
    exact ⟨outcome, later, rfl, hmerge, hlater⟩
  · rintro ⟨outcome, later, rfl, hmerge, hlater⟩
    exact ⟨_, ⟨outcome, hmerge, rfl⟩, (later, last), hlater, rfl⟩

theorem tree_mergeServices_cons {service : Service} {rest : List Service} {table : Routing.Table}
    {outcome : Outcome}
    (h : (generator.mergeOf file service table tree disk).answer = .ok outcome) :
    (generator.mergeServices file (service :: rest) table tree disk).tree =
      (generator.mergeServices file rest (generator.mergeOf file service table tree disk).table
        (generator.mergeOf file service table tree disk).tree disk).tree := by
  have hfirst : (generator.mergeService file service table tree disk).answer =
      .ok (outcome, (generator.mergeOf file service table tree disk).table) := by
    rw [answer_mergeService, h]
    rfl
  rw [mergeServices, Run.tree_andThen_of_ok hfirst, Run.map_tree, tree_mergeService]

def treeAfter (generator : Generator) (file : SourceFile) (services : List Service)
    (tree : FileTree) (disk : Disk := .sound) : FileTree :=
  (generator.mergeServices file services .empty
    (tree.makeDirectories generator.settings.handlerPath).tree disk).tree

theorem makeHandlerDirectory_of_eq {made : FileTree}
    (h : tree.makeDirectories generator.settings.handlerPath = ⟨made, none⟩) :
    generator.makeHandlerDirectory tree = .done made () := by
  simp only [makeHandlerDirectory, h]

theorem answer_makeHandlerDirectory_eq_ok {u : Unit}
    (h : (generator.makeHandlerDirectory tree).answer = .ok u) :
    ∃ made, tree.makeDirectories generator.settings.handlerPath = ⟨made, none⟩ := by
  simp only [makeHandlerDirectory] at h
  split at h
  · exact ⟨_, ‹_›⟩
  · cases h

theorem answer_emit_eq_ok {table : Routing.Table} {path : String}
    (h : (table.emit generator.settings generator.settings.handlerPath tree disk).answer =
      .ok path) :
    ∃ place, tree.openFresh generator.tablePath = .ok place ∧
      disk.fault (tree.put place (.file [])) place
        (Utf8.ofString (table.render generator.settings)) = none := by
  have hstep := emitStep_emit generator table tree disk
  generalize table.emit generator.settings generator.settings.handlerPath tree disk = result
    at h hstep
  cases hstep with
  | refused | cut => cases h
  | written opened taken => exact ⟨_, opened, taken⟩

/-- The parts of the generation of a file, all of which have to succeed: making the directory,
merging the services, and opening and writing the routing table. -/
structure Generates (generator : Generator) (file : SourceFile) (tree made : FileTree)
    (outcomes : List Outcome) (table : Routing.Table) (place : Location)
    (disk : Disk := .sound) : Prop where
  directory : tree.makeDirectories generator.settings.handlerPath = ⟨made, none⟩
  merged : (generator.mergeServices file file.services .empty made disk).answer =
    .ok (outcomes, table)
  opened : (generator.mergeServices file file.services .empty made disk).tree.openFresh
    generator.tablePath = .ok place
  taken : disk.fault
    ((generator.mergeServices file file.services .empty made disk).tree.put place (.file [])) place
    (Utf8.ofString (table.render generator.settings)) = none

variable {made : FileTree} {outcomes : List Outcome} {table : Routing.Table} {place : Location}

theorem Generates.answer (h : Generates generator file tree made outcomes table place disk) :
    (generator.generateFile file tree disk).answer =
      .ok ⟨file.name, outcomes, table, generator.tablePath⟩ := by
  rw [generateFile, makeHandlerDirectory_of_eq h.directory, Run.done_andThen,
    Run.andThen_of_ok h.merged]
  simp only [emit_of_taken h.opened h.taken]
  rfl

theorem Generates.tree_eq (h : Generates generator file tree made outcomes table place disk) :
    (generator.generateFile file tree disk).tree =
      (generator.mergeServices file file.services .empty made disk).tree.put place
        (.file (Utf8.ofString (table.render generator.settings))) := by
  rw [generateFile, makeHandlerDirectory_of_eq h.directory, Run.done_andThen,
    Run.tree_andThen_of_ok h.merged, Run.map_tree, emit_of_taken h.opened h.taken]
  rfl

theorem generates_of_answer {report : FileReport}
    (h : (generator.generateFile file tree disk).answer = .ok report) :
    ∃ made outcomes table place, Generates generator file tree made outcomes table place disk ∧
      report = ⟨file.name, outcomes, table, generator.tablePath⟩ := by
  have hanswer := h
  rw [generateFile, Run.answer_andThen_eq_ok_iff] at h
  obtain ⟨_, hmake, h⟩ := h
  obtain ⟨made, hmade⟩ := answer_makeHandlerDirectory_eq_ok hmake
  rw [makeHandlerDirectory_of_eq hmade, Run.answer_andThen_eq_ok_iff] at h
  obtain ⟨⟨outcomes, table⟩, hmerged, h⟩ := h
  obtain ⟨path, hemit, -⟩ := Run.answer_map_eq_ok_iff.mp h
  obtain ⟨place, hopen, htaken⟩ := answer_emit_eq_ok hemit
  have hparts : Generates generator file tree made outcomes table place disk :=
    ⟨hmade, hmerged, hopen, htaken⟩
  rw [hparts.answer, Except.ok.injEq] at hanswer
  exact ⟨made, outcomes, table, place, hparts, hanswer.symm⟩

/-- Files that are not eligible make no difference. -/
theorem generate_filter_eligible (generator : Generator) (files : List SourceFile)
    (tree : FileTree) :
    generator.generate (files.filter SourceFile.eligible) tree = generator.generate files tree := by
  induction files generalizing tree with
  | nil => rfl
  | cons file rest ih =>
    cases heligible : file.eligible with
    | true =>
      rw [List.filter_cons_of_pos heligible, generate, generate, if_pos heligible,
        if_pos heligible]
      simp only [ih]
    | false =>
      rw [List.filter_cons_of_neg (by simp [heligible]), ih, generate, if_neg (by simp [heligible])]

theorem answer_generate_cons_eq_ok_iff (heligible : file.eligible = true) {rest : List SourceFile}
    {reports : List FileReport} :
    (generator.generate (file :: rest) tree disk).answer = .ok reports ↔
      ∃ report later, reports = report :: later ∧
        (generator.generateFile file tree disk).answer = .ok report ∧
        (generator.generate rest (generator.generateFile file tree disk).tree disk).answer =
          .ok later := by
  rw [generate, if_pos heligible, Run.answer_andThen_eq_ok_iff]
  constructor
  · rintro ⟨report, hfile, hrest⟩
    obtain ⟨later, hlater, rfl⟩ := Run.answer_map_eq_ok_iff.mp hrest
    exact ⟨report, later, rfl, hfile, hlater⟩
  · rintro ⟨report, later, rfl, hfile, hlater⟩
    exact ⟨report, hfile, Run.answer_map_eq_ok_iff.mpr ⟨later, hlater, rfl⟩⟩

theorem tree_generate_cons (heligible : file.eligible = true) {rest : List SourceFile}
    {report : FileReport} (h : (generator.generateFile file tree disk).answer = .ok report) :
    (generator.generate (file :: rest) tree disk).tree =
      (generator.generate rest (generator.generateFile file tree disk).tree disk).tree := by
  rw [generate, if_pos heligible, Run.tree_andThen_of_ok h, Run.map_tree]

end Generator
end ServiceScaffold
