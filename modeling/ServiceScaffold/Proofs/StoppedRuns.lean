import Mathlib
import ServiceScaffold.Proofs.KeptHandlers
import ServiceScaffold.Proofs.MadeDirectories
import ServiceScaffold.Proofs.SkippedServices

/-!
# Runs that stop

A run over several files is a run over the first of them, and then one over the others if that has
succeeded. So when a run stops at a file, what it leaves is known: all earlier files are done, of
this one some first part, and of the later ones nothing.
-/

namespace ServiceScaffold

open FileTree Handler

theorem map_eq_error_iff {ε α β : Type} {x : Except ε α} {f : α → β} {e : ε} :
    x.map f = .error e ↔ x = .error e := by
  cases x <;> simp [Except.map]

namespace Run

variable {α β γ : Type}

theorem answer_andThen_eq_error_iff {first : Run α} {next : α → FileTree → Run β} {fault : Fault} :
    (first.andThen next).answer = .error fault ↔
      first.answer = .error fault ∨
        ∃ a, first.answer = .ok a ∧ (next a first.tree).answer = .error fault := by
  cases hfirst : first.answer with
  | error other => simp [andThen_of_error hfirst]
  | ok a => simp [andThen_of_ok hfirst]

theorem tree_andThen_of_error {first : Run α} {fault : Fault} (h : first.answer = .error fault)
    (next : α → FileTree → Run β) : (first.andThen next).tree = first.tree := by
  rw [andThen_of_error h]

theorem answer_map_eq_error_iff {f : α → β} {run : Run α} {fault : Fault} :
    (run.map f).answer = .error fault ↔ run.answer = .error fault :=
  map_eq_error_iff

end Run

namespace Generator

variable {generator : Generator} {file : SourceFile} {tree : FileTree} {fault : Fault}
  {disk : Disk}

/-- A run over two lists of files is a run over the first and, if that succeeds, one over the second
in the tree that it has left. -/
theorem generate_append (generator : Generator) (first last : List SourceFile) (tree : FileTree)
    (disk : Disk) :
    generator.generate (first ++ last) tree disk =
      (generator.generate first tree disk).andThen fun reports tree =>
        (generator.generate last tree disk).map (reports ++ ·) := by
  induction first generalizing tree with
  | nil =>
    rw [List.nil_append, generate, Run.done_andThen]
    exact (Run.map_id _).symm
  | cons file rest ih =>
    rw [List.cons_append]
    cases heligible : file.eligible with
    | true =>
      simp only [generate, if_pos heligible, ih, Run.andThen_assoc, Run.andThen_map,
        Run.map_andThen, Run.map_map, List.cons_append]
    | false => simp only [generate_cons_of_not_eligible heligible, ih]

theorem generate_singleton (heligible : file.eligible = true) (tree : FileTree)
    (disk : Disk := .sound) :
    generator.generate [file] tree disk =
      (generator.generateFile file tree disk).map fun report => [report] := by
  rw [generate, if_pos heligible]
  simp only [generate]
  cases hanswer : (generator.generateFile file tree disk).answer <;>
    simp [Run.andThen, Run.map, Run.done, Except.map, hanswer]

/-- A run that stops does so at an eligible file, when all files before it are done. -/
theorem exists_stop_of_generate {files : List SourceFile}
    (h : (generator.generate files tree disk).answer = .error fault) :
    ∃ before file after reports, files = before ++ file :: after ∧ file.eligible = true ∧
      (generator.generate before tree disk).answer = .ok reports ∧
      (generator.generateFile file (generator.generate before tree disk).tree disk).answer =
        .error fault := by
  induction files generalizing tree with
  | nil => cases h
  | cons first rest ih =>
    cases heligible : first.eligible with
    | false =>
      rw [generate_cons_of_not_eligible heligible] at h
      obtain ⟨before, file, after, reports, rfl, hfile, hbefore, hstop⟩ := ih h
      refine ⟨first :: before, file, after, reports, rfl, hfile, ?_, ?_⟩
      · rw [generate_cons_of_not_eligible heligible]
        exact hbefore
      · rw [generate_cons_of_not_eligible heligible]
        exact hstop
    | true =>
      rw [generate, if_pos heligible, Run.answer_andThen_eq_error_iff] at h
      rcases h with hstop | ⟨report, hfirst, hrest⟩
      · exact ⟨[], first, rest, [], rfl, heligible, rfl, hstop⟩
      · obtain ⟨before, file, after, reports, rfl, hfile, hbefore, hstop⟩ :=
          ih (Run.answer_map_eq_error_iff.mp hrest)
        refine ⟨first :: before, file, after, report :: reports, rfl, hfile, ?_, ?_⟩
        · exact (answer_generate_cons_eq_ok_iff heligible).mpr ⟨_, _, rfl, hfirst, hbefore⟩
        · rw [tree_generate_cons heligible hfirst]
          exact hstop

/-- Where a run stops, the later files have no part in it. -/
theorem generate_of_stop {before : List SourceFile} {reports : List FileReport}
    (heligible : file.eligible = true)
    (hbefore : (generator.generate before tree disk).answer = .ok reports)
    (hstop : (generator.generateFile file (generator.generate before tree disk).tree disk).answer =
      .error fault) (after : List SourceFile) :
    generator.generate (before ++ file :: after) tree disk =
      ⟨(generator.generateFile file (generator.generate before tree disk).tree disk).tree,
        (generator.generate before tree disk).consulted ++
          (generator.generateFile file (generator.generate before tree disk).tree disk).consulted,
        .error fault⟩ := by
  have hlast : generator.generate (file :: after) (generator.generate before tree disk).tree disk =
      ⟨(generator.generateFile file (generator.generate before tree disk).tree disk).tree,
        (generator.generateFile file (generator.generate before tree disk).tree disk).consulted,
        .error fault⟩ := by
    rw [generate, if_pos heligible, Run.andThen_of_error hstop]
  rw [generate_append, Run.andThen_of_ok hbefore, hlast]
  rfl

/-- How the merge of a service can stop, and the tree that it leaves then: there is no preamble for
a new handler file, or the stubs are cut short. -/
inductive MergeStops (generator : Generator) (file : SourceFile) (service : Service)
    (tree : FileTree) (disk : Disk) : FileTree → Fault → Prop
  | preamble {fault : Fault}
      (absent : tree.exists?
        (filePath generator.settings.handlerPath (ServicePlan.of file service)) = false)
      (asked : generator.preamble file tree = .error fault) :
      MergeStops generator file service tree disk tree fault
  | cut {asked : Bool} {left : FileTree} {fault : Fault}
      (short : CutShort generator.scan generator.settings.handlerPath (ServicePlan.of file service)
        (fun _ => generator.preamble file tree) tree disk asked left (.error fault)) :
      MergeStops generator file service tree disk left fault

theorem mergeStops_of_mergeOf {service : Service} {table : Routing.Table}
    (h : (generator.mergeOf file service table tree disk).answer = .error fault) :
    MergeStops generator file service tree disk
      (generator.mergeOf file service table tree disk).tree fault := by
  have hstep := diskStep_merge generator.scan generator.settings.handlerPath
    (ServicePlan.of file service) (fun _ => generator.preamble file tree) tree table disk
  rw [mergeOf] at h ⊢
  generalize Handler.merge generator.scan generator.settings.handlerPath
    (ServicePlan.of file service) (fun _ => generator.preamble file tree) tree table disk = result
    at h hstep ⊢
  cases hstep with
  | whole step =>
    cases step with
    | stopped absent asked =>
      rw [Except.error.injEq] at h
      exact .preamble absent (h ▸ asked)
    | blocked | refused => cases h
    | created | extended =>
      rw [answer_extend] at h
      cases h
  | @cut asked left answer short =>
    obtain rfl : answer = .error fault := h
    exact .cut short

theorem exists_stop_of_mergeServices {services : List Service} {table : Routing.Table}
    (h : (generator.mergeServices file services table tree disk).answer = .error fault) :
    ∃ earlier service later outcomes between, services = earlier ++ service :: later ∧
      (generator.mergeServices file earlier table tree disk).answer = .ok (outcomes, between) ∧
      MergeStops generator file service (generator.mergeServices file earlier table tree disk).tree
        disk (generator.mergeServices file services table tree disk).tree fault := by
  induction services generalizing tree table with
  | nil => cases h
  | cons first rest ih =>
    rw [mergeServices, Run.answer_andThen_eq_error_iff] at h
    rcases h with hstop | ⟨⟨outcome, table'⟩, hfirst, hrest⟩
    · refine ⟨[], first, rest, [], table, rfl, rfl, ?_⟩
      rw [mergeServices, mergeServices, Run.tree_andThen_of_error hstop, tree_mergeService]
      rw [answer_mergeService, map_eq_error_iff] at hstop
      exact mergeStops_of_mergeOf hstop
    · rw [answer_mergeService, map_eq_ok_iff] at hfirst
      obtain ⟨outcome, hmerge, heq⟩ := hfirst
      rw [Prod.mk.injEq] at heq
      obtain ⟨rfl, rfl⟩ := heq
      rw [tree_mergeService] at hrest
      obtain ⟨earlier, service, later, outcomes, between, rfl, hearlier, hstop⟩ :=
        ih (Run.answer_map_eq_error_iff.mp hrest)
      refine ⟨first :: earlier, service, later, outcome :: outcomes, between, rfl, ?_, ?_⟩
      · exact answer_mergeServices_cons_eq_ok_iff.mpr ⟨_, _, rfl, hmerge, hearlier⟩
      · rw [tree_mergeServices_cons hmerge, tree_mergeServices_cons hmerge]
        exact hstop

/-- How the generation of a file can stop, and the tree that it leaves then: the handler directory
cannot be made, or the merge of a service stops, or the routing table cannot be opened or is cut. -/
inductive Stops (generator : Generator) (file : SourceFile) (start : FileTree) (disk : Disk) :
    FileTree → Fault → Prop
  | directory {refusal : Refusal}
      (refused : (start.makeDirectories generator.settings.handlerPath).refusal = some refusal) :
      Stops generator file start disk (start.makeDirectories generator.settings.handlerPath).tree
        ⟨.generation, "Failed to create handler directory " ++ generator.settings.handlerPath
          ++ ": " ++ refusal.message⟩
  | service {earlier later : List Service} {service : Service} {outcomes : List Outcome}
      {table : Routing.Table} {final : FileTree} {fault : Fault}
      (made : (start.makeDirectories generator.settings.handlerPath).refusal = none)
      (services : file.services = earlier ++ service :: later)
      (merged : (generator.mergeServices file earlier .empty
        (start.makeDirectories generator.settings.handlerPath).tree disk).answer =
          .ok (outcomes, table))
      (stopped : MergeStops generator file service (generator.treeAfter file earlier start disk)
        disk final fault) :
      Stops generator file start disk final fault
  | table {outcomes : List Outcome} {table : Routing.Table} {final : FileTree} {fault : Fault}
      (made : (start.makeDirectories generator.settings.handlerPath).refusal = none)
      (merged : (generator.mergeServices file file.services .empty
        (start.makeDirectories generator.settings.handlerPath).tree disk).answer =
          .ok (outcomes, table))
      (stopped : EmitStep generator table (generator.treeAfter file file.services start disk) disk
        (.failed final fault)) :
      Stops generator file start disk final fault

theorem emit_eq_failed {table : Routing.Table}
    (h : (table.emit generator.settings generator.settings.handlerPath tree disk).answer =
      .error fault) :
    table.emit generator.settings generator.settings.handlerPath tree disk =
      .failed (table.emit generator.settings generator.settings.handlerPath tree disk).tree
        fault := by
  have hstep := emitStep_emit generator table tree disk
  generalize table.emit generator.settings generator.settings.handlerPath tree disk = result
    at h hstep ⊢
  cases hstep with
  | refused | cut =>
    rw [Run.failed, Except.error.injEq] at h
    rw [h]
    rfl
  | written => cases h

theorem stops_of_generateFile
    (h : (generator.generateFile file tree disk).answer = .error fault) :
    Stops generator file tree disk (generator.generateFile file tree disk).tree fault := by
  rw [generateFile] at h ⊢
  cases hmade : tree.makeDirectories generator.settings.handlerPath with
  | mk made refusal =>
    cases refusal with
    | some refusal =>
      have hfailed : generator.makeHandlerDirectory tree = .failed made
          ⟨.generation, "Failed to create handler directory " ++ generator.settings.handlerPath
            ++ ": " ++ refusal.message⟩ := by
        simp only [makeHandlerDirectory, hmade]
      have hrefused := congrArg Attempt.refusal hmade
      have hstops : Stops generator file tree disk _ _ := .directory hrefused
      rw [hfailed, Run.failed_andThen] at h ⊢
      rw [Run.failed, Except.error.injEq] at h
      rwa [hmade, h] at hstops
    | none =>
      have hrefusal := congrArg Attempt.refusal hmade
      have htree (services : List Service) : generator.treeAfter file services tree disk =
          (generator.mergeServices file services .empty made disk).tree := by
        rw [treeAfter, hmade]
      rw [makeHandlerDirectory_of_eq hmade, Run.done_andThen] at h ⊢
      rw [Run.answer_andThen_eq_error_iff] at h
      rcases h with hmerge | ⟨⟨outcomes, table⟩, hmerged, hemit⟩
      · obtain ⟨earlier, service, later, outcomes, between, hservices, hearlier, hstop⟩ :=
          exists_stop_of_mergeServices hmerge
        rw [Run.tree_andThen_of_error hmerge]
        exact .service hrefusal hservices (by rw [hmade]; exact hearlier) (htree earlier ▸ hstop)
      · rw [Run.answer_map_eq_error_iff] at hemit
        rw [Run.tree_andThen_of_ok hmerged, Run.map_tree]
        have hstep := emitStep_emit generator table
          (generator.mergeServices file file.services .empty made disk).tree disk
        rw [emit_eq_failed hemit] at hstep
        exact .table hrefusal (by rw [hmade]; exact hmerged) (by rw [htree]; exact hstep)

end Generator

namespace FileTree

variable {before after tree : FileTree} {paths : List String}

/-- Everything is kept, and only what these paths lead to is new or changed. -/
structure Writes (paths : List String) (before after : FileTree) : Prop where
  keeps : Keeps before after
  written {place : Location} : after.node? place ≠ before.node? place →
    ∃ path ∈ paths, after.Leads path place

namespace Writes

theorem refl (paths : List String) (tree : FileTree) : Writes paths tree tree :=
  ⟨.refl tree, fun hne => absurd rfl hne⟩

theorem trans {first second third : FileTree} (h : Writes paths first second)
    (h' : Writes paths second third) : Writes paths first third where
  keeps := h.keeps.trans h'.keeps
  written {place} hne := by
    by_cases hthird : third.node? place = second.node? place
    · obtain ⟨path, hpath, hleads⟩ := h.written (hthird ▸ hne)
      exact ⟨path, hpath, h'.keeps.leads hleads⟩
    · exact h'.written hthird

theorem put_file {place : Location} {path : String} {content : Bytes} (hpath : path ∈ paths)
    (hfree : tree.node? place ≠ some .directory)
    (hfind : (tree.put place (.file content)).find path = .ok (place, .file content)) :
    Writes paths tree (tree.put place (.file content)) where
  keeps := .put_file hfree content
  written {other} hne := by
    obtain rfl : other = place := by
      by_contra hother
      exact hne (node?_put_of_ne hother tree _)
    exact ⟨path, hpath, _, hfind⟩

theorem merge (scan : SymbolScanner) {dir : String} {service : ServicePlan}
    (preamble : Unit → Except Fault String) (tree : FileTree) (table : Routing.Table)
    (hpath : filePath dir service ∈ paths) (disk : Disk) :
    Writes paths tree (Handler.merge scan dir service preamble tree table disk).tree := by
  rcases fills_merge scan dir service preamble tree table disk with
    hsame | ⟨place, content, hfills, hput⟩
  · rw [hsame]
    exact refl paths tree
  · rw [hput]
    exact put_file hpath hfills.free hfills.find

theorem mergeServices (generator : Generator) (file : SourceFile) {services : List Service}
    (hpaths : ∀ service ∈ services,
      filePath generator.settings.handlerPath (ServicePlan.of file service) ∈ paths)
    (table : Routing.Table) (tree : FileTree) (disk : Disk) :
    Writes paths tree (generator.mergeServices file services table tree disk).tree := by
  refine Generator.mergeServices_tree (Writes paths) (refl paths) trans ?_ table tree
  intro service hservice routes before
  rw [Generator.tree_mergeService]
  exact merge generator.scan _ before routes (hpaths service hservice) disk

theorem treeAfter (generator : Generator) (file : SourceFile) {services : List Service}
    (hservices : ∀ service ∈ services, service ∈ file.services) (start : FileTree) (disk : Disk) :
    Writes (generator.filePaths file) (start.makeDirectories generator.settings.handlerPath).tree
      (generator.treeAfter file services start disk) :=
  mergeServices generator file
    (fun service hservice => Generator.filePath_mem_filePaths (hservices service hservice)) _ _ disk

end Writes
end FileTree

namespace Generator

variable {generator : Generator} {file : SourceFile} {start final : FileTree} {fault : Fault}
  {disk : Disk}

theorem MergeStops.writes {service : Service} {tree : FileTree}
    (h : MergeStops generator file service tree disk final fault)
    (hservice : service ∈ file.services) : Writes (generator.filePaths file) tree final := by
  cases h with
  | preamble => exact .refl _ _
  | cut short =>
    obtain ⟨place, content, hfills, rfl⟩ := fills_of_cutShort short
    exact .put_file (filePath_mem_filePaths hservice) hfills.free hfills.find

/-- What the path of the routing table leads to after a file's generation has stopped. -/
inductive TableLeft (generator : Generator) (file : SourceFile) (start : FileTree) (disk : Disk)
    (final : FileTree) (place : Location) : Prop
  /-- It is what it was before. -/
  | kept (same : final.node? place = start.node? place)
  /-- It is the handler file of a service, too. -/
  | shared {service : Service} (asked : service ∈ file.services)
      (leads : final.Leads
        (filePath generator.settings.handlerPath (ServicePlan.of file service)) place)
      (named : '/' ∉ service.goName.toList → fileName service.goName = routingFileName)
  /-- It was made as a directory on the way to the handler directory. -/
  | made (absent : start.node? place = none)
      (directory : (start.makeDirectories generator.settings.handlerPath).tree.node? place =
        some .directory)
  /-- It is a first part of the new table, the writing of which has failed. -/
  | cut {outcomes : List Outcome} {table : Routing.Table} {fault : WriteFault}
      (merged : (generator.mergeServices file file.services .empty
        (start.makeDirectories generator.settings.handlerPath).tree disk).answer =
          .ok (outcomes, table))
      (failed : disk.fault
        ((generator.treeAfter file file.services start disk).put place (.file [])) place
        (Utf8.ofString (table.render generator.settings)) = some fault)
      (left : final.node? place =
        some (.file ((Utf8.ofString (table.render generator.settings)).take fault.taken)))

theorem tableLeft_of_writes {place : Location}
    (h : Writes (generator.filePaths file)
      (start.makeDirectories generator.settings.handlerPath).tree final)
    (hleads : final.Leads generator.tablePath place) :
    TableLeft generator file start disk final place := by
  by_cases hfinal : final.node? place =
      (start.makeDirectories generator.settings.handlerPath).tree.node? place
  · by_cases hstart : final.node? place = start.node? place
    · exact .kept hstart
    · have hadds := AddsDirectories.makeDirectories start generator.settings.handlerPath
      obtain ⟨habsent, hdirectory⟩ := hadds.new (hfinal ▸ hstart)
      exact .made habsent hdirectory
  · obtain ⟨path, hpath, hwritten⟩ := h.written hfinal
    obtain ⟨service, hservice, rfl⟩ := List.mem_map.mp hpath
    refine .shared hservice hwritten fun hslash => ?_
    exact fileName_eq_routingFileName_iff.mpr (mem_routingFileServices hslash hleads hwritten)

/-- Wherever a file's generation stops, all is kept, and the path of the table leads to one of the
things that can be left there. -/
theorem Stops.left (h : Stops generator file start disk final fault) :
    Keeps (start.makeDirectories generator.settings.handlerPath).tree final ∧
      ∀ place, final.Leads generator.tablePath place →
        TableLeft generator file start disk final place := by
  cases h with
  | directory refused =>
    exact ⟨.refl _, fun place hleads => tableLeft_of_writes (.refl _ _) hleads⟩
  | service made services merged stopped =>
    have hmerged := Writes.treeAfter generator file
      (fun other hother => services ▸ List.mem_append_left _ hother) start disk
    have hwrites := hmerged.trans (stopped.writes (by simp [services]))
    exact ⟨hwrites.keeps, fun place hleads => tableLeft_of_writes hwrites hleads⟩
  | table made merged stopped =>
    have hwrites := Writes.treeAfter generator file (fun service => id) start disk
    cases stopped with
    | refused opened =>
      exact ⟨hwrites.keeps, fun place hleads => tableLeft_of_writes hwrites hleads⟩
    | @cut reached fault opened failed =>
      have hfree := not_directory_of_openFresh opened
      refine ⟨hwrites.keeps.trans (.put_file hfree _), fun place hleads => ?_⟩
      have hreached := hleads.unique ⟨_, find_put_of_openFresh opened _⟩
      subst hreached
      exact .cut merged failed (node?_put_self (ne_nil_of_not_directory hfree) _ _)

/-- What a run leaves that stops at a file. -/
structure StoppedAt (generator : Generator) (file : SourceFile) (start : FileTree) (disk : Disk)
    (final : FileTree) (fault : Fault) : Prop where
  way : AddsWay generator.settings.handlerPath start
    (start.makeDirectories generator.settings.handlerPath).tree
  stops : Stops generator file start disk final fault
  tableFound {place : Location} : start.Leads generator.tablePath place →
    final.Leads generator.tablePath place
  tableLeft {place : Location} : final.Leads generator.tablePath place →
    TableLeft generator file start disk final place

/-- A run over two lists of files is a run over the first and, if that succeeds, one over the
second. A run that stops does so at one of its files. It leaves the tree of the run over the files
before, with the handler directory or a part of it made, with a first part of the file's services
merged, and with a first part of what was to be written to an open file if that is where it has
stopped. The files after it have no part in the run. What is at the path of the routing table is
what was there before the file, unless it is also the handler file of one of the file's services, or
a directory on the way to the handler directory, or a first part of the new table. -/
theorem generate_stops_at_file (generator : Generator) (tree : FileTree) (disk : Disk) :
    (∀ first last, generator.generate (first ++ last) tree disk =
      (generator.generate first tree disk).andThen fun reports tree =>
        (generator.generate last tree disk).map (reports ++ ·)) ∧
    ∀ files fault, (generator.generate files tree disk).answer = .error fault →
      ∃ before file after reports, files = before ++ file :: after ∧ file.eligible = true ∧
        (generator.generate before tree disk).answer = .ok reports ∧
        (∀ others, generator.generate (before ++ file :: others) tree disk =
          generator.generate files tree disk) ∧
        StoppedAt generator file (generator.generate before tree disk).tree disk
          (generator.generate files tree disk).tree fault := by
  refine ⟨fun first last => generate_append generator first last tree disk,
    fun files fault h => ?_⟩
  obtain ⟨before, file, after, reports, rfl, heligible, hbefore, hstop⟩ := exists_stop_of_generate h
  have hrun := generate_of_stop heligible hbefore hstop
  have hstops := stops_of_generateFile hstop
  refine ⟨before, file, after, reports, rfl, heligible, hbefore, fun others => ?_, ?_⟩
  · rw [hrun others, hrun after]
  · rw [hrun after]
    have hway := AddsWay.makeDirectories generator.settings.handlerPath
      (generator.generate before tree disk).tree
    exact ⟨hway, hstops, (hway.toAddsDirectories.keeps.trans hstops.left.1).leads,
      hstops.left.2 _⟩

def modulelessGenerator : Generator where
  settings := { handlerPath := "" }

/-- The handler file of the orders is there, that of the payments would be new. -/
theorem generate_stops_at_file_payments : ∃ before file after reports,
    [ordersSource, paymentsSource] = before ++ file :: after ∧
    (modulelessGenerator.generate before (ordersTree "package handler")).answer = .ok reports ∧
    StoppedAt modulelessGenerator file
      (modulelessGenerator.generate before (ordersTree "package handler")).tree .sound
      (modulelessGenerator.generate [ordersSource, paymentsSource]
        (ordersTree "package handler")).tree
      ⟨.module, "Failed to read ./go.mod: No such file or directory (os error 2)"⟩ := by
  have hanswer : (modulelessGenerator.generate [ordersSource, paymentsSource]
      (ordersTree "package handler")).answer =
        .error ⟨.module, "Failed to read ./go.mod: No such file or directory (os error 2)"⟩ := by
    decide +kernel
  obtain ⟨before, file, after, reports, hfiles, -, hbefore, -, hstopped⟩ :=
    (generate_stops_at_file modulelessGenerator (ordersTree "package handler") .sound).2 _ _ hanswer
  exact ⟨before, file, after, reports, hfiles, hbefore, hstopped⟩

/-- A routing table that does not fit is cut. -/
theorem generate_of_cut {tree made : FileTree} {outcomes : List Outcome} {table : Routing.Table}
    {place : Location} {fault : WriteFault} (heligible : file.eligible = true)
    (hmade : tree.makeDirectories generator.settings.handlerPath = ⟨made, none⟩)
    (hmerged : (generator.mergeServices file file.services .empty made disk).answer =
      .ok (outcomes, table))
    (hopened : (generator.mergeServices file file.services .empty made disk).tree.openFresh
      generator.tablePath = .ok place)
    (hfailed : disk.fault
      ((generator.mergeServices file file.services .empty made disk).tree.put place (.file []))
      place (Utf8.ofString (table.render generator.settings)) = some fault) :
    (generator.generate [file] tree disk).answer = .error ⟨.generation,
        "Failed to write " ++ generator.tablePath ++ ": " ++ fault.reason.message⟩ ∧
      (generator.generate [file] tree disk).tree =
        (generator.mergeServices file file.services .empty made disk).tree.put place
          (.file ((Utf8.ofString (table.render generator.settings)).take fault.taken)) := by
  rw [generate_singleton heligible tree disk, generateFile, makeHandlerDirectory_of_eq hmade,
    Run.done_andThen, Run.andThen_of_ok hmerged]
  simp only [emit_of_fault hopened hfailed]
  exact ⟨rfl, rfl⟩

/-- If the generation of the file stops and no handler file has the name of the routing table, then
the path of the table leads to what was there before. -/
def KeepsTable (generator : Generator) (file : SourceFile) (tree : FileTree)
    (disk : Disk := .sound) : Prop :=
  ∀ fault, (generator.generate [file] tree disk).answer = .error fault →
    (∀ service ∈ file.services, fileName service.goName ≠ routingFileName) →
    ∀ place, (generator.generate [file] tree disk).tree.Leads generator.tablePath place →
      (generator.generate [file] tree disk).tree.node? place = tree.node? place

/-- If the generation of the file stops when the handler directory is there, then what it leaves is
what the merges of the first services have made. -/
def LeavesMerges (generator : Generator) (file : SourceFile) (tree : FileTree) (disk : Disk) :
    Prop :=
  ∀ fault, (generator.generate [file] tree disk).answer = .error fault →
    ∀ made, tree.makeDirectories generator.settings.handlerPath = ⟨made, none⟩ →
      ∃ earlier later outcomes table, file.services = earlier ++ later ∧
        (generator.mergeServices file earlier .empty made disk).answer = .ok (outcomes, table) ∧
        (generator.generate [file] tree disk).tree =
          (generator.mergeServices file earlier .empty made disk).tree

/-- The path of the handlers climbs out of a directory that has the table's name. -/
def climbingGenerator : Generator where
  settings := { handlerPath := "zzconfig.go/..", module := some "shop" }

/-- The first handler file has another name than the table, but is the same file. -/
def dottedSource : SourceFile :=
  { ordersSource with services := ⟨"./zzconfig", "order.Zzconfig", []⟩ :: ordersSource.services }

def tableTree : FileTree :=
  ⟨[(["zzconfig.go"], .file (Utf8.ofString "package handler"))], []⟩

theorem prefix_ofString_append {first : Bytes} {whole : String}
    (h : first <+: Utf8.ofString whole) (rest : String) :
    first <+: Utf8.ofString (whole ++ rest) := by
  rw [Utf8.ofString_append]
  exact h.trans (List.prefix_append _ _)

theorem take_ofString_render (table : Routing.Table) (settings : Settings) :
    (Utf8.ofString (table.render settings)).take 10 = Utf8.ofString "// Code ge" := by
  have hbegins : Utf8.ofString "// Code ge" <+: Utf8.ofString (table.render settings) := by
    unfold Routing.Table.render
    iterate 16 refine prefix_ofString_append ?_ _
    decide +kernel
  obtain ⟨rest, hrest⟩ := hbegins
  rw [← hrest, List.take_left' (by decide +kernel)]

theorem not_keepsTable_of_find {generator : Generator} {file : SourceFile} {tree : FileTree}
    {disk : Disk} {fault : Fault} {place : Location} {node : Node}
    (hanswer : (generator.generate [file] tree disk).answer = .error fault)
    (hnames : ∀ service ∈ file.services, fileName service.goName ≠ routingFileName)
    (hfind : (generator.generate [file] tree disk).tree.find generator.tablePath =
      .ok (place, node))
    (hnode : tree.node? place ≠ some node) : ¬KeepsTable generator file tree disk := by
  intro hkeeps
  have hsame := hkeeps fault hanswer hnames place ⟨node, hfind⟩
  rw [(find_eq_ok_iff.mp hfind).2.2.2] at hsame
  exact hnode hsame.symm

/-- A directory can be made where the table belongs, a handler file with another name can be the
table, and where a write fails the table or the declarations of a service can be cut. -/
theorem not_keepsTable :
    ¬KeepsTable climbingGenerator ordersSource ⟨[], []⟩ ∧
      ¬KeepsTable modulelessGenerator dottedSource tableTree ∧
      ¬KeepsTable plainGenerator ordersSource tableTree (.fullAt ["zzconfig.go"] 10) ∧
      ¬LeavesMerges plainGenerator ordersSource (ordersTree "package handler")
        (.fullAt ["order.go"] 10) := by
  refine ⟨?directory, ?shared, ?table, ?stubs⟩
  case directory =>
    have hanswer : (climbingGenerator.generate [ordersSource] ⟨[], []⟩).answer =
        .error ⟨.generation,
          "Failed to write zzconfig.go/../zzconfig.go: Is a directory (os error 21)"⟩ := by
      decide +kernel
    have hfind : (climbingGenerator.generate [ordersSource] ⟨[], []⟩).tree.find
        climbingGenerator.tablePath = .ok (["zzconfig.go"], .directory) := by
      decide +kernel
    exact not_keepsTable_of_find hanswer (by decide +kernel) hfind (by decide)
  case shared =>
    have hanswer : (modulelessGenerator.generate [dottedSource] tableTree).answer =
        .error ⟨.module, "Failed to read ./go.mod: No such file or directory (os error 2)"⟩ := by
      decide +kernel
    have hfind : (modulelessGenerator.generate [dottedSource] tableTree).tree.find
        modulelessGenerator.tablePath = .ok (["zzconfig.go"],
          .file (Utf8.ofString "package handler\ntype ./zzconfig struct \x7b\n\x7d\n")) := by
      decide +kernel
    exact not_keepsTable_of_find hanswer (by decide +kernel) hfind (by decide +kernel)
  case table =>
    have hmerged : (plainGenerator.mergeServices ordersSource ordersSource.services .empty tableTree
        (.fullAt ["zzconfig.go"] 10)).answer = .ok ([.merged ⟨"order.go", true, true, ["Get"], []⟩],
          ⟨["Order"], [⟨"Order.Get", "/order.Order/Get", false, false⟩]⟩) := by
      decide +kernel
    have hopened : (plainGenerator.mergeServices ordersSource ordersSource.services .empty tableTree
        (.fullAt ["zzconfig.go"] 10)).tree.openFresh plainGenerator.tablePath =
          .ok ["zzconfig.go"] := by
      decide +kernel
    have hmade : tableTree.makeDirectories plainGenerator.settings.handlerPath =
        ⟨tableTree, none⟩ := by
      decide +kernel
    -- The source of the table is long, and only its first bytes are needed.
    have hbegins := take_ofString_render
      ⟨["Order"], [⟨"Order.Get", "/order.Order/Get", false, false⟩]⟩ plainGenerator.settings
    have hsome : Utf8.ofString (Routing.Table.render
        ⟨["Order"], [⟨"Order.Get", "/order.Order/Get", false, false⟩]⟩
          plainGenerator.settings) ≠ [] := by
      intro hnil
      rw [hnil] at hbegins
      exact absurd hbegins (by decide +kernel)
    obtain ⟨hanswer, htree⟩ := generate_of_cut rfl hmade hmerged hopened
      (Disk.fault_fullAt hsome _ _ 10)
    simp only [hbegins] at htree
    refine not_keepsTable_of_find hanswer (by decide +kernel)
      (by rw [htree]; exact find_put_of_openFresh hopened _) ?_
    decide +kernel
  case stubs =>
    intro hmerges
    have hanswer : (plainGenerator.generate [ordersSource] (ordersTree "package handler")
        (.fullAt ["order.go"] 10)).answer =
          .error ⟨.io, "No space left on device (os error 28)"⟩ := by
      decide +kernel
    obtain ⟨earlier, later, outcomes, table, hservices, hmerged, htree⟩ :=
      hmerges _ hanswer (ordersTree "package handler") (by decide +kernel)
    rcases List.append_eq_singleton_iff.mp hservices.symm with ⟨rfl, -⟩ | ⟨rfl, -⟩
    · rw [tree_mergeServices_nil] at htree
      have hleft : (plainGenerator.generate [ordersSource] (ordersTree "package handler")
          (.fullAt ["order.go"] 10)).tree = ordersTree "package handler\ntype Orde" := by
        decide +kernel
      rw [hleft] at htree
      revert htree
      decide +kernel
    · have hstopped : (plainGenerator.mergeServices ordersSource ordersSource.services .empty
          (ordersTree "package handler") (.fullAt ["order.go"] 10)).answer =
            .error ⟨.io, "No space left on device (os error 28)"⟩ := by
        decide +kernel
      exact absurd (hstopped.symm.trans hmerged) nofun

end Generator
end ServiceScaffold
