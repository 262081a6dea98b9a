import Mathlib
import ServiceScaffold.Generation
import ServiceScaffold.Proofs.MergeStep

/-!
# Runs only append

Wherever a run stops, and whichever write fails, it has removed nothing: directories are still
there, and but for the routing table every file that was there still begins with what it held. Only
the handler files of the services that were asked for, and the routing table, are new or changed.
-/

namespace ServiceScaffold

open FileTree Handler

namespace Run

variable {α β : Type}

theorem andThen_tree (R : FileTree → FileTree → Prop)
    (trans : ∀ {first second third}, R first second → R second third → R first third)
    {tree : FileTree} {first : Run α} {next : α → FileTree → Run β} (hfirst : R tree first.tree)
    (hnext : ∀ answer, first.answer = .ok answer → R first.tree (next answer first.tree).tree) :
    R tree (first.andThen next).tree := by
  cases hanswer : first.answer with
  | error fault => rwa [andThen_of_error hanswer]
  | ok answer =>
    rw [andThen_of_ok hanswer]
    exact trans hfirst (hnext answer hanswer)

@[simp] theorem map_tree (f : α → β) (run : Run α) : (run.map f).tree = run.tree := rfl

end Run

namespace Handler

/-- What a handler file may become: it goes on after all that it held, and with whole declarations
if no write fails. -/
structure Grown (disk : Disk) (old new : Bytes) : Prop where
  isPrefix : old <+: new
  continues : disk.TakesAll → Continues old new

namespace Grown

variable {disk : Disk}

theorem refl (disk : Disk) (content : Bytes) : Grown disk content content :=
  ⟨List.prefix_rfl, fun _ => .refl content⟩

theorem trans {first second third : Bytes} (h : Grown disk first second)
    (h' : Grown disk second third) : Grown disk first third :=
  ⟨h.isPrefix.trans h'.isPrefix, fun hall => (h.continues hall).trans (h'.continues hall)⟩

theorem of_continues {old new : Bytes} (h : Continues old new) : Grown disk old new :=
  ⟨h.isPrefix, fun _ => h⟩

theorem of_fault {tree : FileTree} {place : Location} {content added : Bytes} {fault : WriteFault}
    (h : disk.fault tree place added = some fault) :
    Grown disk content (content ++ added.take fault.taken) :=
  ⟨List.prefix_append _ _, fun hall => by simp [hall tree place added] at h⟩

end Grown

/-- What can be written to the file that `path` leads to, at `place`, or would make there. -/
structure Fills (tree : FileTree) (path : String) (disk : Disk) (place : Location)
    (content : Bytes) : Prop where
  free : tree.node? place ≠ some .directory
  find : (tree.put place (.file content)).find path = .ok (place, .file content)
  grown (old : Bytes) : tree.node? place = some (.file old) → Grown disk old content

namespace Fills

variable {tree : FileTree} {path : String} {disk : Disk} {place : Location}

theorem created (absent : tree.exists? path = false) (opened : tree.openFresh path = .ok place)
    (content : Bytes) : Fills tree path disk place content := by
  have hnone := node?_eq_none_of_openFresh absent opened
  exact ⟨by simp [hnone], find_put_of_openFresh opened _, by simp [hnone]⟩

theorem extended {old content : Bytes} (found : tree.find path = .ok (place, .file old))
    (hgrown : Grown disk old content) : Fills tree path disk place content := by
  obtain ⟨-, -, -, hnode⟩ := find_eq_ok_iff.mp found
  refine ⟨by simp [hnode], find_put_of_find found _, fun other hother => ?_⟩
  rw [hnode, Option.some.injEq, Node.file.injEq] at hother
  exact hother ▸ hgrown

end Fills

theorem fills_of_cutShort {scan : SymbolScanner} {dir : String} {service : ServicePlan}
    {preamble : Unit → Except Fault String} {tree left : FileTree} {disk : Disk} {asked : Bool}
    {answer : Except Fault Outcome}
    (h : CutShort scan dir service preamble tree disk asked left answer) :
    ∃ place content, Fills tree (filePath dir service) disk place content ∧
      left = tree.put place (.file content) := by
  cases h with
  | preamble absent asked opened failed => exact ⟨_, _, .created absent opened _, rfl⟩
  | stubs opened failed =>
    refine ⟨_, _, ?_, rfl⟩
    cases opened with
    | created absent asked opened => exact .created absent opened _
    | extended found => exact .extended found (.of_fault failed)

/-- A merge leaves the tree as it is, or writes the file of its service. -/
theorem fills_merge (scan : SymbolScanner) (dir : String) (service : ServicePlan)
    (preamble : Unit → Except Fault String) (tree : FileTree) (routes : Routing.Table)
    (disk : Disk) :
    (merge scan dir service preamble tree routes disk).tree = tree ∨
      ∃ place content, Fills tree (filePath dir service) disk place content ∧
        (merge scan dir service preamble tree routes disk).tree =
          tree.put place (.file content) := by
  have hstep := diskStep_merge scan dir service preamble tree routes disk
  generalize merge scan dir service preamble tree routes disk = result at hstep ⊢
  cases hstep with
  | whole step =>
    cases step with
    | stopped | blocked | refused => exact Or.inl rfl
    | created absent asked opened => exact Or.inr ⟨_, _, .created absent opened _, rfl⟩
    | extended found =>
      exact Or.inr ⟨_, _,
        .extended found (.of_continues (continues_missingText _ _ service)), rfl⟩
  | cut short => exact Or.inr (fills_of_cutShort short)

end Handler

/-- What a run that writes its routing table to `table` and handlers to `paths` may do to a tree. -/
structure Appends (table : String) (paths : List String) (before after : FileTree)
    (disk : Disk := .sound) : Prop where
  here : after.here = before.here
  directory {place : Location} : before.node? place = some .directory →
    after.node? place = some .directory
  file {place : Location} {old : Bytes} : before.node? place = some (.file old) →
    ∃ new, after.node? place = some (.file new) ∧ (¬after.Leads table place → Grown disk old new)
  written {place : Location} {new : Bytes} : after.node? place = some (.file new) →
    before.node? place ≠ some (.file new) →
    ∃ path ∈ table :: paths, after.find path = .ok (place, .file new)

namespace Appends

variable {table : String} {paths : List String} {before after tree : FileTree} {disk : Disk}

theorem keeps (h : Appends table paths before after disk) : Keeps before after where
  here := h.here
  directory := h.directory
  file hf := by
    obtain ⟨new, hnew, -⟩ := h.file hf
    exact ⟨new, hnew⟩

theorem refl (table : String) (paths : List String) (tree : FileTree) :
    Appends table paths tree tree disk :=
  ⟨rfl, id, fun {_ old} h => ⟨old, h, fun _ => .refl disk old⟩, fun h hne => absurd h hne⟩

theorem trans {first second third : FileTree} (h : Appends table paths first second disk)
    (h' : Appends table paths second third disk) : Appends table paths first third disk where
  here := h'.here.trans h.here
  directory hd := h'.directory (h.directory hd)
  file {place old} hf := by
    obtain ⟨middle, hmiddle, hold⟩ := h.file hf
    obtain ⟨new, hnew, hadded⟩ := h'.file hmiddle
    exact ⟨new, hnew, fun hl => (hold fun hl' => hl (h'.keeps.leads hl')).trans (hadded hl)⟩
  written {place new} hnew hne := by
    by_cases hmiddle : second.node? place = some (.file new)
    · obtain ⟨path, hpath, hfind⟩ := h.written hmiddle hne
      obtain ⟨node, hnode, hfind'⟩ := h'.keeps.find hfind
      rw [hnew, Option.some.injEq] at hnode
      exact ⟨path, hpath, hnode ▸ hfind'⟩
    · exact h'.written hnew hmiddle

theorem of_addsDirectories (h : AddsDirectories before after) :
    Appends table paths before after disk where
  here := h.here
  directory := h.directory
  file {place old} hf := ⟨old, (h.file place old).mpr hf, fun _ => .refl disk old⟩
  written {place new} hnew hne := absurd ((h.file place new).mp hnew) hne

/-- Writing the file that a path leads to is within bounds if the path is, and the old contents
go on or the path is the table's. -/
theorem put_file {place : Location} {path : String} {content : Bytes}
    (hpath : path ∈ table :: paths) (hfree : tree.node? place ≠ some .directory)
    (hfind : (tree.put place (.file content)).find path = .ok (place, .file content))
    (hold : ∀ old, tree.node? place = some (.file old) → path = table ∨ Grown disk old content) :
    Appends table paths tree (tree.put place (.file content)) disk where
  here := rfl
  directory := (Keeps.put_file hfree content).directory
  file {other old} hf := by
    by_cases hne : other = place
    · subst hne
      refine ⟨content, node?_put_self (ne_nil_of_not_directory hfree) tree _, fun hl => ?_⟩
      rcases hold old hf with rfl | hgrown
      · exact absurd ⟨_, hfind⟩ hl
      · exact hgrown
    · exact ⟨old, by rw [node?_put_of_ne hne, hf], fun _ => .refl disk old⟩
  written {other new} hnew hne := by
    by_cases heq : other = place
    · subst heq
      rw [node?_put_self (ne_nil_of_not_directory hfree), Option.some.injEq, Node.file.injEq]
        at hnew
      subst hnew
      exact ⟨path, hpath, hfind⟩
    · rw [node?_put_of_ne heq] at hnew
      exact absurd hnew hne

theorem merge (scan : SymbolScanner) {dir : String} {service : ServicePlan}
    (preamble : Unit → Except Fault String) (tree : FileTree) (routes : Routing.Table)
    (hpath : filePath dir service ∈ paths) (disk : Disk := .sound) :
    Appends table paths tree (Handler.merge scan dir service preamble tree routes disk).tree
      disk := by
  rcases fills_merge scan dir service preamble tree routes disk with
    hsame | ⟨place, content, hfills, hput⟩
  · rw [hsame]
    exact refl table paths tree
  · rw [hput]
    exact put_file (List.mem_cons_of_mem _ hpath) hfills.free hfills.find
      fun old hold => Or.inr (hfills.grown old hold)

end Appends

namespace Generator

def tablePath (generator : Generator) : String :=
  Path.join generator.settings.handlerPath routingFileName

def filePaths (generator : Generator) (file : SourceFile) : List String :=
  file.services.map fun service =>
    filePath generator.settings.handlerPath (ServicePlan.of file service)

def handlerPaths (generator : Generator) (files : List SourceFile) : List String :=
  (files.filter SourceFile.eligible).flatMap generator.filePaths

variable {generator : Generator} {paths : List String} {disk : Disk}

theorem filePath_mem_filePaths {file : SourceFile} {service : Service}
    (h : service ∈ file.services) :
    filePath generator.settings.handlerPath (ServicePlan.of file service) ∈
      generator.filePaths file :=
  List.mem_map_of_mem h

theorem handlerPaths_cons {file : SourceFile} (h : file.eligible = true) (rest : List SourceFile) :
    generator.handlerPaths (file :: rest) =
      generator.filePaths file ++ generator.handlerPaths rest := by
  simp [handlerPaths, h]

theorem makeHandlerDirectory_appends (generator : Generator) (paths : List String)
    (tree : FileTree) (disk : Disk := .sound) :
    Appends generator.tablePath paths tree (generator.makeHandlerDirectory tree).tree disk := by
  have hadds := AddsDirectories.makeDirectories tree generator.settings.handlerPath
  simp only [makeHandlerDirectory]
  split
  all_goals
    rename_i made hmade
    rw [hmade] at hadds
    exact .of_addsDirectories hadds

section

variable {tree : FileTree} {routes : Routing.Table} {place : Location}

theorem emit_of_refused {refusal : Refusal}
    (h : tree.openFresh generator.tablePath = .error refusal) :
    routes.emit generator.settings generator.settings.handlerPath tree disk =
      .failed tree ⟨.generation,
        "Failed to write " ++ generator.tablePath ++ ": " ++ refusal.message⟩ := by
  have hpath : Path.join generator.settings.handlerPath routingFileName = generator.tablePath := rfl
  rw [Routing.Table.emit]
  simp only [hpath, write_of_refused h]

theorem emit_of_taken (h : tree.openFresh generator.tablePath = .ok place)
    (htaken : disk.fault (tree.put place (.file [])) place
      (Utf8.ofString (routes.render generator.settings)) = none) :
    routes.emit generator.settings generator.settings.handlerPath tree disk =
      .done (tree.put place (.file (Utf8.ofString (routes.render generator.settings))))
        generator.tablePath := by
  have hpath : Path.join generator.settings.handlerPath routingFileName = generator.tablePath := rfl
  rw [Routing.Table.emit]
  simp only [hpath, write_of_taken h htaken]

theorem emit_of_fault {fault : WriteFault} (h : tree.openFresh generator.tablePath = .ok place)
    (hfault : disk.fault (tree.put place (.file [])) place
      (Utf8.ofString (routes.render generator.settings)) = some fault) :
    routes.emit generator.settings generator.settings.handlerPath tree disk =
      .failed
        (tree.put place
          (.file ((Utf8.ofString (routes.render generator.settings)).take fault.taken)))
        ⟨.generation,
          "Failed to write " ++ generator.tablePath ++ ": " ++ fault.reason.message⟩ := by
  have hpath : Path.join generator.settings.handlerPath routingFileName = generator.tablePath := rfl
  rw [Routing.Table.emit]
  simp only [hpath, write_of_fault h hfault]

end

/-- The ways in which the writing of the routing table ends. -/
inductive EmitStep (generator : Generator) (routes : Routing.Table) (tree : FileTree)
    (disk : Disk) : Run String → Prop
  | refused {refusal : Refusal} (opened : tree.openFresh generator.tablePath = .error refusal) :
      EmitStep generator routes tree disk (.failed tree ⟨.generation,
        "Failed to write " ++ generator.tablePath ++ ": " ++ refusal.message⟩)
  | cut {place : Location} {fault : WriteFault}
      (opened : tree.openFresh generator.tablePath = .ok place)
      (failed : disk.fault (tree.put place (.file [])) place
        (Utf8.ofString (routes.render generator.settings)) = some fault) :
      EmitStep generator routes tree disk (.failed
        (tree.put place
          (.file ((Utf8.ofString (routes.render generator.settings)).take fault.taken)))
        ⟨.generation,
          "Failed to write " ++ generator.tablePath ++ ": " ++ fault.reason.message⟩)
  | written {place : Location} (opened : tree.openFresh generator.tablePath = .ok place)
      (taken : disk.fault (tree.put place (.file [])) place
        (Utf8.ofString (routes.render generator.settings)) = none) :
      EmitStep generator routes tree disk (.done
        (tree.put place (.file (Utf8.ofString (routes.render generator.settings))))
        generator.tablePath)

theorem emitStep_emit (generator : Generator) (routes : Routing.Table) (tree : FileTree)
    (disk : Disk) :
    EmitStep generator routes tree disk
      (routes.emit generator.settings generator.settings.handlerPath tree disk) := by
  cases hopened : tree.openFresh generator.tablePath with
  | error refusal =>
    rw [emit_of_refused hopened]
    exact .refused hopened
  | ok place =>
    cases hfault : disk.fault (tree.put place (.file [])) place
        (Utf8.ofString (routes.render generator.settings)) with
    | none =>
      rw [emit_of_taken hopened hfault]
      exact .written hopened hfault
    | some fault =>
      rw [emit_of_fault hopened hfault]
      exact .cut hopened hfault

theorem emit_appends (generator : Generator) (paths : List String) (routes : Routing.Table)
    (tree : FileTree) (disk : Disk := .sound) :
    Appends generator.tablePath paths tree
      (routes.emit generator.settings generator.settings.handlerPath tree disk).tree disk := by
  have hstep := emitStep_emit generator routes tree disk
  generalize routes.emit generator.settings generator.settings.handlerPath tree disk = result
    at hstep ⊢
  cases hstep with
  | refused opened => exact .refl _ _ tree
  | written opened | cut opened =>
    exact Appends.put_file List.mem_cons_self (not_directory_of_openFresh opened)
      (find_put_of_openFresh opened _) fun _ _ => Or.inl rfl

theorem mergeService_appends (generator : Generator) (file : SourceFile) {service : Service}
    (hpath : filePath generator.settings.handlerPath (ServicePlan.of file service) ∈ paths)
    (routes : Routing.Table) (tree : FileTree) (disk : Disk := .sound) :
    Appends generator.tablePath paths tree
      (generator.mergeService file service routes tree disk).tree disk := by
  simp only [mergeService]
  exact Appends.merge generator.scan _ tree routes hpath disk

theorem mergeServices_tree (R : FileTree → FileTree → Prop) (refl : ∀ tree, R tree tree)
    (trans : ∀ {first second third}, R first second → R second third → R first third)
    {file : SourceFile} {services : List Service}
    (step : ∀ service ∈ services, ∀ routes tree,
      R tree (generator.mergeService file service routes tree disk).tree)
    (routes : Routing.Table) (tree : FileTree) :
    R tree (generator.mergeServices file services routes tree disk).tree := by
  induction services generalizing routes tree with
  | nil => exact refl tree
  | cons service rest ih =>
    rw [mergeServices]
    refine Run.andThen_tree R trans (step service List.mem_cons_self routes tree) ?_
    rintro ⟨outcome, routes'⟩ -
    exact ih (fun s hs => step s (List.mem_cons_of_mem _ hs)) routes' _

theorem mergeServices_appends (generator : Generator) (file : SourceFile)
    {services : List Service}
    (hpaths : ∀ service ∈ services,
      filePath generator.settings.handlerPath (ServicePlan.of file service) ∈ paths)
    (routes : Routing.Table) (tree : FileTree) (disk : Disk := .sound) :
    Appends generator.tablePath paths tree
      (generator.mergeServices file services routes tree disk).tree disk :=
  mergeServices_tree (Appends generator.tablePath paths · · disk) (Appends.refl _ _) Appends.trans
    (fun service hservice routes tree =>
      mergeService_appends generator file (hpaths service hservice) routes tree disk) routes tree

theorem generateFile_appends (generator : Generator) (file : SourceFile)
    (hpaths : ∀ service ∈ file.services,
      filePath generator.settings.handlerPath (ServicePlan.of file service) ∈ paths)
    (tree : FileTree) (disk : Disk := .sound) :
    Appends generator.tablePath paths tree (generator.generateFile file tree disk).tree disk := by
  refine Run.andThen_tree (Appends generator.tablePath paths · · disk) Appends.trans
    (makeHandlerDirectory_appends generator paths tree disk) fun _ _ => ?_
  refine Run.andThen_tree (Appends generator.tablePath paths · · disk) Appends.trans
    (mergeServices_appends generator file hpaths _ _ disk) ?_
  rintro ⟨outcomes, routes⟩ -
  exact emit_appends generator paths routes _ disk

theorem generate_appends (generator : Generator) {files : List SourceFile}
    (hpaths : ∀ path ∈ generator.handlerPaths files, path ∈ paths) (tree : FileTree)
    (disk : Disk := .sound) :
    Appends generator.tablePath paths tree (generator.generate files tree disk).tree disk := by
  induction files generalizing tree with
  | nil => exact .refl _ _ tree
  | cons file rest ih =>
    unfold generate
    split
    · rename_i heligible
      rw [handlerPaths_cons heligible] at hpaths
      have hfile : ∀ service ∈ file.services,
          filePath generator.settings.handlerPath (ServicePlan.of file service) ∈ paths :=
        fun service hservice =>
          hpaths _ (List.mem_append_left _ (filePath_mem_filePaths hservice))
      refine Run.andThen_tree (Appends generator.tablePath paths · · disk) Appends.trans
        (generateFile_appends generator file hfile tree disk) fun report _ => ?_
      exact ih (fun path hpath => hpaths path (List.mem_append_right _ hpath)) _
    · rename_i heligible
      refine ih (fun path hpath => hpaths path ?_) tree
      simpa [handlerPaths, heligible] using hpath

/-- Wherever a run stops, and whichever write fails, it has removed no directory and no file. It
only adds to the end of files that were there, but for the one that the path of the routing table
leads to. What is new or changed is the routing table or the handler file of a service for which an
eligible file asks. -/
theorem generate_only_appends (generator : Generator) (files : List SourceFile) (tree : FileTree)
    (disk : Disk) :
    (∀ place, tree.node? place = some .directory →
      (generator.generate files tree disk).tree.node? place = some .directory) ∧
    (∀ place old, tree.node? place = some (.file old) →
      ¬(generator.generate files tree disk).tree.Leads generator.tablePath place →
      ∃ new, (generator.generate files tree disk).tree.node? place = some (.file new) ∧
        old <+: new) ∧
    (∀ place new, (generator.generate files tree disk).tree.node? place = some (.file new) →
      tree.node? place ≠ some (.file new) →
      ∃ path ∈ generator.tablePath :: generator.handlerPaths files,
        (generator.generate files tree disk).tree.find path = .ok (place, .file new)) := by
  have happends : Appends generator.tablePath (generator.handlerPaths files) tree
      (generator.generate files tree disk).tree disk :=
    generate_appends generator (fun _ => id) tree disk
  refine ⟨fun place hd => happends.directory hd, fun place old hf hl => ?_,
    fun place new hnew hne => happends.written hnew hne⟩
  obtain ⟨new, hnew, hgrown⟩ := happends.file hf
  exact ⟨new, hnew, (hgrown hl).isPrefix⟩

end Generator
end ServiceScaffold
