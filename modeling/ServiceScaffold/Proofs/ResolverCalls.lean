import Mathlib
import ServiceScaffold.Proofs.StoppedRuns

/-!
# When the module resolver is asked

A run asks the resolver when it comes to a service whose handler file is still to be made, and only
if the settings leave the import path open. What it is asked for is always the same directory. A
call that fails ends the run, so a run sees nothing of its resolver but the answers to these calls.
-/

namespace ServiceScaffold

open FileTree Handler

namespace Run

variable {α β γ : Type}

/-- What is gathered after the first part of a run: nothing if the run stops there. -/
def gather (first : Run α) (next : α → FileTree → List γ) : List γ :=
  match first.answer with
  | .error _ => []
  | .ok answer => next answer first.tree

theorem gather_of_ok {first : Run α} {answer : α} (h : first.answer = .ok answer)
    (next : α → FileTree → List γ) : first.gather next = next answer first.tree := by
  simp [gather, h]

theorem gather_of_error {first : Run α} {fault : Fault} (h : first.answer = .error fault)
    (next : α → FileTree → List γ) : first.gather next = [] := by
  simp [gather, h]

theorem ok_of_mem_gather {first : Run α} {next : α → FileTree → List γ} {c : γ}
    (h : c ∈ first.gather next) :
    ∃ answer, first.answer = .ok answer ∧ c ∈ next answer first.tree := by
  cases hanswer : first.answer with
  | error fault =>
    rw [gather_of_error hanswer] at h
    exact absurd h List.not_mem_nil
  | ok answer => exact ⟨answer, rfl, gather_of_ok hanswer next ▸ h⟩

theorem consulted_andThen (first : Run α) (next : α → FileTree → Run β) :
    (first.andThen next).consulted =
      first.consulted ++ first.gather fun answer tree => (next answer tree).consulted := by
  cases hanswer : first.answer with
  | error fault => rw [andThen_of_error hanswer, gather_of_error hanswer, List.append_nil]
  | ok answer => rw [andThen_of_ok hanswer, gather_of_ok hanswer]

theorem gather_flatMap {δ : Type} (first : Run α) (next : α → FileTree → List γ)
    (f : γ → List δ) :
    (first.gather next).flatMap f = first.gather fun answer tree => (next answer tree).flatMap f := by
  cases hanswer : first.answer with
  | error fault => rw [gather_of_error hanswer, gather_of_error hanswer, List.flatMap_nil]
  | ok answer => rw [gather_of_ok hanswer, gather_of_ok hanswer]

theorem gather_nil (first : Run α) : (first.gather fun _ _ => ([] : List γ)) = [] := by
  cases hanswer : first.answer with
  | error fault => rw [gather_of_error hanswer]
  | ok answer => rw [gather_of_ok hanswer]

theorem andThen_congr {first : Run α} {next next' : α → FileTree → Run β}
    (h : ∀ answer, first.answer = .ok answer →
      next answer first.tree = next' answer first.tree) :
    first.andThen next = first.andThen next' := by
  cases hanswer : first.answer with
  | error fault => rw [andThen_of_error hanswer, andThen_of_error hanswer]
  | ok answer => rw [andThen_of_ok hanswer, andThen_of_ok hanswer, h answer hanswer]

end Run

/-- A service whose turn has come in a run, and the tree in which it has come. -/
structure Visit where
  file : SourceFile
  service : Service
  tree : FileTree

namespace Handler

@[simp] theorem asked_extend (service : ServicePlan) (path : String) (created : Bool)
    (symbols : SymbolSet) (place : Location) (content : Bytes) (tree : FileTree)
    (table : Routing.Table) :
    (extend service path created symbols place content tree table).asked = created := rfl

end Handler

namespace Generator

variable {generator : Generator} {file : SourceFile} {files : List SourceFile} {tree : FileTree}
  {services : List Service} {table : Routing.Table} {visit : Visit} {fault : Fault}

/-- Services get their turns one after another, until a merge stops the run. -/
def serviceVisits (generator : Generator) (file : SourceFile) :
    List Service → Routing.Table → FileTree → List Visit
  | [], _, _ => []
  | service :: rest, table, tree =>
    ⟨file, service, tree⟩ :: (generator.mergeService file service table tree).gather
      fun merged tree => generator.serviceVisits file rest merged.2 tree

/-- The services of a file get their turns when there is a handler directory. -/
def fileVisits (generator : Generator) (file : SourceFile) (tree : FileTree) : List Visit :=
  (generator.makeHandlerDirectory tree).gather fun _ tree =>
    generator.serviceVisits file file.services .empty tree

/-- The turns of a run in their order, up to the one that stops it. -/
def visits (generator : Generator) : List SourceFile → FileTree → List Visit
  | [], _ => []
  | file :: rest, tree =>
    if file.eligible then
      generator.fileVisits file tree ++ (generator.generateFile file tree).gather
        fun _ tree => generator.visits rest tree
    else generator.visits rest tree

theorem visits_cons_of_eligible (heligible : file.eligible = true) (rest : List SourceFile)
    (tree : FileTree) :
    generator.visits (file :: rest) tree =
      generator.fileVisits file tree ++ (generator.generateFile file tree).gather
        fun _ tree => generator.visits rest tree := by
  rw [visits, if_pos heligible]

theorem visits_cons_of_not_eligible (heligible : file.eligible = false) (rest : List SourceFile)
    (tree : FileTree) : generator.visits (file :: rest) tree = generator.visits rest tree := by
  rw [visits, if_neg (by simp [heligible])]

def isNew (generator : Generator) (visit : Visit) : Bool :=
  !visit.tree.exists?
    (filePath generator.settings.handlerPath (ServicePlan.of visit.file visit.service))

def requested (files : List SourceFile) : List (SourceFile × Service) :=
  (files.filter SourceFile.eligible).flatMap fun file =>
    file.services.map fun service => (file, service)

def Visit.subject (visit : Visit) : SourceFile × Service :=
  (visit.file, visit.service)

/-- The preamble is wanted for a handler file that is not there. -/
theorem asked_mergeOf (service : Service) :
    (generator.mergeOf file service table tree).asked =
      generator.isNew ⟨file, service, tree⟩ := by
  have hstep := mergeStep_merge generator.scan generator.settings.handlerPath
    (ServicePlan.of file service) (fun _ => generator.preamble file tree) tree table
  rw [mergeOf, isNew]
  generalize Handler.merge generator.scan generator.settings.handlerPath
    (ServicePlan.of file service) (fun _ => generator.preamble file tree) tree table = result
    at hstep ⊢
  cases hstep with
  | stopped absent | refused absent => rw [absent, Bool.not_false]
  | created absent => rw [absent, asked_extend, Bool.not_false]
  | blocked found => rw [exists?_eq_true_iff.mpr ⟨_, _, found⟩, Bool.not_true]
  | extended found => rw [exists?_eq_true_iff.mpr ⟨_, _, found⟩, asked_extend, Bool.not_true]

theorem consulted_mergeService (service : Service) :
    (generator.mergeService file service table tree).consulted =
      if generator.isNew ⟨file, service, tree⟩ then Go.consulted generator.settings else [] := by
  have hasked : (generator.mergeOf file service table tree).asked =
      generator.isNew ⟨file, service, tree⟩ := asked_mergeOf service
  rw [mergeOf] at hasked
  simp only [mergeService, hasked]

theorem consulted_mergeServices (generator : Generator) (file : SourceFile)
    (services : List Service) (table : Routing.Table) (tree : FileTree) :
    (generator.mergeServices file services table tree).consulted =
      (generator.serviceVisits file services table tree).flatMap fun visit =>
        if generator.isNew visit then Go.consulted generator.settings else [] := by
  induction services generalizing table tree with
  | nil => rfl
  | cons service rest ih =>
    rw [mergeServices, Run.consulted_andThen, serviceVisits, List.flatMap_cons,
      Run.gather_flatMap, consulted_mergeService]
    simp only [Run.map, ih]

theorem consulted_makeHandlerDirectory (generator : Generator) (tree : FileTree) :
    (generator.makeHandlerDirectory tree).consulted = [] := by
  simp only [makeHandlerDirectory]
  split
  all_goals rfl

theorem consulted_emit (generator : Generator) (table : Routing.Table) (tree : FileTree) :
    (table.emit generator.settings generator.settings.handlerPath tree).consulted = [] := by
  simp only [Routing.Table.emit]
  split
  all_goals rfl

theorem consulted_generateFile (generator : Generator) (file : SourceFile) (tree : FileTree) :
    (generator.generateFile file tree).consulted =
      (generator.fileVisits file tree).flatMap fun visit =>
        if generator.isNew visit then Go.consulted generator.settings else [] := by
  rw [generateFile, Run.consulted_andThen, consulted_makeHandlerDirectory, List.nil_append,
    fileVisits, Run.gather_flatMap]
  congr 1
  funext _ tree
  rw [Run.consulted_andThen, consulted_mergeServices]
  simp only [Run.map, consulted_emit, Run.gather_nil, List.append_nil]

theorem consulted_generate (generator : Generator) (files : List SourceFile) (tree : FileTree) :
    (generator.generate files tree).consulted =
      (generator.visits files tree).flatMap fun visit =>
        if generator.isNew visit then Go.consulted generator.settings else [] := by
  induction files generalizing tree with
  | nil => rfl
  | cons file rest ih =>
    cases heligible : file.eligible with
    | false =>
      rw [generate_cons_of_not_eligible heligible, visits_cons_of_not_eligible heligible, ih]
    | true =>
      rw [generate, if_pos heligible, Run.consulted_andThen, visits_cons_of_eligible heligible,
        List.flatMap_append, Run.gather_flatMap, consulted_generateFile]
      simp only [Run.map, ih]

theorem subjects_serviceVisits (generator : Generator) (file : SourceFile)
    (services : List Service) (table : Routing.Table) (tree : FileTree) :
    (generator.serviceVisits file services table tree).map Visit.subject <+:
        services.map (file, ·) ∧
      ∀ merged, (generator.mergeServices file services table tree).answer = .ok merged →
        (generator.serviceVisits file services table tree).map Visit.subject =
          services.map (file, ·) := by
  induction services generalizing table tree with
  | nil => exact ⟨List.nil_prefix, fun _ _ => rfl⟩
  | cons service rest ih =>
    rw [serviceVisits, List.map_cons, List.map_cons, Visit.subject, List.prefix_cons_inj,
      List.cons_inj_right]
    cases hanswer : (generator.mergeService file service table tree).answer with
    | error fault =>
      rw [Run.gather_of_error hanswer]
      refine ⟨List.nil_prefix, fun merged h => ?_⟩
      rw [mergeServices, Run.andThen_of_error hanswer] at h
      cases h
    | ok first =>
      rw [Run.gather_of_ok hanswer]
      refine ⟨(ih _ _).1, fun merged h => ?_⟩
      rw [mergeServices, Run.answer_andThen_eq_ok_iff] at h
      obtain ⟨⟨outcome, later⟩, hfirst, hrest⟩ := h
      rw [hanswer, Except.ok.injEq] at hfirst
      obtain ⟨result, hresult, -⟩ := Run.answer_map_eq_ok_iff.mp hrest
      subst hfirst
      exact (ih _ _).2 result hresult

theorem subjects_fileVisits (generator : Generator) (file : SourceFile) (tree : FileTree) :
    (generator.fileVisits file tree).map Visit.subject <+: file.services.map (file, ·) ∧
      ∀ report, (generator.generateFile file tree).answer = .ok report →
        (generator.fileVisits file tree).map Visit.subject = file.services.map (file, ·) := by
  rw [fileVisits, generateFile]
  cases hanswer : (generator.makeHandlerDirectory tree).answer with
  | error fault =>
    rw [Run.gather_of_error hanswer, Run.andThen_of_error hanswer]
    refine ⟨List.nil_prefix, fun report h => ?_⟩
    cases h
  | ok made =>
    rw [Run.gather_of_ok hanswer]
    have hvisits := generator.subjects_serviceVisits file file.services .empty
      (generator.makeHandlerDirectory tree).tree
    refine ⟨hvisits.1, fun report h => ?_⟩
    obtain ⟨_, -, h⟩ := Run.answer_andThen_eq_ok_iff.mp h
    obtain ⟨merged, hmerged, -⟩ := Run.answer_andThen_eq_ok_iff.mp h
    exact hvisits.2 merged hmerged

theorem subjects_visits (generator : Generator) (files : List SourceFile) (tree : FileTree) :
    (generator.visits files tree).map Visit.subject <+: requested files ∧
      ∀ reports, (generator.generate files tree).answer = .ok reports →
        (generator.visits files tree).map Visit.subject = requested files := by
  induction files generalizing tree with
  | nil => exact ⟨List.nil_prefix, fun _ _ => rfl⟩
  | cons file rest ih =>
    cases heligible : file.eligible with
    | false =>
      rw [visits_cons_of_not_eligible heligible, generate_cons_of_not_eligible heligible,
        requested, List.filter_cons_of_neg (by simp [heligible])]
      exact ih tree
    | true =>
      have hrequested : requested (file :: rest) =
          file.services.map (file, ·) ++ requested rest := by
        rw [requested, List.filter_cons_of_pos heligible, List.flatMap_cons]
        rfl
      have hfile := generator.subjects_fileVisits file tree
      rw [visits_cons_of_eligible heligible, List.map_append, hrequested]
      cases hanswer : (generator.generateFile file tree).answer with
      | error fault =>
        rw [Run.gather_of_error hanswer, List.map_nil, List.append_nil]
        refine ⟨hfile.1.trans (List.prefix_append _ _), fun reports h => ?_⟩
        rw [generate, if_pos heligible, Run.andThen_of_error hanswer] at h
        cases h
      | ok report =>
        rw [Run.gather_of_ok hanswer, hfile.2 report hanswer, List.prefix_append_right_inj,
          List.append_cancel_left_eq]
        refine ⟨(ih _).1, fun reports h => ?_⟩
        obtain ⟨-, later, -, -, hlater⟩ := (answer_generate_cons_eq_ok_iff heligible).mp h
        exact (ih _).2 later hlater

theorem answer_mergeService_of_refused {service : Service}
    (hnew : generator.isNew ⟨file, service, tree⟩ = true)
    (hasked : generator.preamble file tree = .error fault) (table : Routing.Table) :
    (generator.mergeService file service table tree).answer = .error fault := by
  have habsent : tree.exists?
      (filePath generator.settings.handlerPath (ServicePlan.of file service)) = false := by
    simpa [isNew] using hnew
  have hpath : Path.join generator.settings.handlerPath
      (fileName (ServicePlan.of file service).receiver) =
        filePath generator.settings.handlerPath (ServicePlan.of file service) := rfl
  rw [answer_mergeService, map_eq_error_iff]
  simp only [mergeOf, Handler.merge, hpath, habsent, hasked, Bool.false_eq_true, if_false]

theorem last_of_refused_serviceVisits {before after : List Visit}
    (hvisits : generator.serviceVisits file services table tree = before ++ visit :: after)
    (hnew : generator.isNew visit = true)
    (hasked : generator.preamble visit.file visit.tree = .error fault) :
    after = [] ∧ (generator.mergeServices file services table tree).answer = .error fault := by
  induction services generalizing before table tree with
  | nil => simp [serviceVisits] at hvisits
  | cons service rest ih =>
    rw [serviceVisits] at hvisits
    rw [mergeServices]
    cases before with
    | nil =>
      obtain ⟨rfl, hrest⟩ := List.cons.inj hvisits
      have hanswer := answer_mergeService_of_refused hnew hasked table
      rw [Run.gather_of_error hanswer] at hrest
      exact ⟨hrest.symm, Run.answer_andThen_eq_error_iff.mpr (Or.inl hanswer)⟩
    | cons first before =>
      obtain ⟨-, hrest⟩ := List.cons.inj hvisits
      have hmem : visit ∈ (generator.mergeService file service table tree).gather
          fun merged tree => generator.serviceVisits file rest merged.2 tree := by
        rw [hrest]
        exact List.mem_append_right _ List.mem_cons_self
      obtain ⟨merged, hanswer, -⟩ := Run.ok_of_mem_gather hmem
      rw [Run.gather_of_ok hanswer] at hrest
      obtain ⟨hafter, hfault⟩ := ih hrest
      exact ⟨hafter, Run.answer_andThen_eq_error_iff.mpr
        (Or.inr ⟨merged, hanswer, Run.answer_map_eq_error_iff.mpr hfault⟩)⟩

theorem last_of_refused_fileVisits {before after : List Visit}
    (hvisits : generator.fileVisits file tree = before ++ visit :: after)
    (hnew : generator.isNew visit = true)
    (hasked : generator.preamble visit.file visit.tree = .error fault) :
    after = [] ∧ (generator.generateFile file tree).answer = .error fault := by
  have hmem : visit ∈ generator.fileVisits file tree := by
    rw [hvisits]
    exact List.mem_append_right _ List.mem_cons_self
  obtain ⟨made, hmade, -⟩ := Run.ok_of_mem_gather hmem
  rw [fileVisits, Run.gather_of_ok hmade] at hvisits
  obtain ⟨hafter, hfault⟩ := last_of_refused_serviceVisits hvisits hnew hasked
  refine ⟨hafter, ?_⟩
  rw [generateFile, Run.andThen_of_ok hmade]
  exact Run.answer_andThen_eq_error_iff.mpr (Or.inl hfault)

/-- A turn at which there is no preamble for a new file is the last one, and the run stops there. -/
theorem last_of_refused_visits {before after : List Visit}
    (hvisits : generator.visits files tree = before ++ visit :: after)
    (hnew : generator.isNew visit = true)
    (hasked : generator.preamble visit.file visit.tree = .error fault) :
    after = [] ∧ (generator.generate files tree).answer = .error fault := by
  induction files generalizing before tree with
  | nil => simp [visits] at hvisits
  | cons file rest ih =>
    cases heligible : file.eligible with
    | false =>
      rw [visits_cons_of_not_eligible heligible] at hvisits
      rw [generate_cons_of_not_eligible heligible]
      exact ih hvisits
    | true =>
      rw [visits_cons_of_eligible heligible] at hvisits
      rw [generate, if_pos heligible]
      have hlater {first : List Visit} (hrest : (generator.generateFile file tree).gather
          (fun _ tree => generator.visits rest tree) = first ++ visit :: after) :
          after = [] ∧ ((generator.generateFile file tree).andThen fun report tree =>
            (generator.generate rest tree).map (report :: ·)).answer = .error fault := by
        have hmem : visit ∈ (generator.generateFile file tree).gather
            fun _ tree => generator.visits rest tree := by
          rw [hrest]
          exact List.mem_append_right _ List.mem_cons_self
        obtain ⟨report, hreport, -⟩ := Run.ok_of_mem_gather hmem
        rw [Run.gather_of_ok hreport] at hrest
        obtain ⟨hafter, hfault⟩ := ih hrest
        exact ⟨hafter, Run.answer_andThen_eq_error_iff.mpr
          (Or.inr ⟨report, hreport, Run.answer_map_eq_error_iff.mpr hfault⟩)⟩
      -- The turn is one of this file or of a later one.
      rcases List.append_eq_append_iff.mp hvisits with ⟨middle, -, hrest⟩ | ⟨middle, hfile, hrest⟩
      · exact hlater hrest
      · cases middle with
        | nil =>
          rw [List.nil_append] at hrest
          exact hlater (hrest.symm.trans (List.nil_append _).symm)
        | cons other middle =>
          obtain ⟨rfl, hafter⟩ := List.cons.inj hrest
          obtain ⟨rfl, hfault⟩ := last_of_refused_fileVisits hfile hnew hasked
          rw [Run.gather_of_error hfault] at hafter
          exact ⟨hafter, Run.answer_andThen_eq_error_iff.mpr (Or.inl hfault)⟩

theorem preamble_of_refused {dir : String} (hdir : dir ∈ Go.consulted generator.settings)
    (hfault : generator.resolve tree dir = .error fault) (file : SourceFile) :
    generator.preamble file tree = .error fault := by
  unfold Go.consulted at hdir
  split at hdir
  · exact absurd hdir List.not_mem_nil
  · rename_i hopen
    rw [List.mem_singleton] at hdir
    subst hdir
    simp only [Bool.or_eq_true, not_or, Bool.not_eq_true, Option.isSome_eq_false_iff,
      Option.isNone_iff_eq_none] at hopen
    rw [preamble, map_eq_error_iff, Go.messageImport]
    simp only [hopen.1, hopen.2, hfault]
    rfl

def withResolver (generator : Generator) (resolve : Go.ModuleResolver) : Generator :=
  { generator with resolve }

theorem messageImport_congr {settings : Settings} {resolve other : Go.ModuleResolver}
    (h : ∀ dir ∈ Go.consulted settings, other tree dir = resolve tree dir) (package : String) :
    Go.messageImport settings other tree package = Go.messageImport settings resolve tree package := by
  unfold Go.messageImport
  cases hpath : settings.protoImportPath with
  | some path => rfl
  | none =>
    cases hmodule : settings.module with
    | some name => rfl
    | none =>
      have hconsulted : Go.consulted settings = [Go.messageModuleDir settings] := by
        simp [Go.consulted, hpath, hmodule]
      simp only [h _ (hconsulted ▸ List.mem_singleton_self _)]

theorem mergeService_withResolver {other : Go.ModuleResolver} {service : Service}
    (h : generator.isNew ⟨file, service, tree⟩ = true →
      ∀ dir ∈ Go.consulted generator.settings, other tree dir = generator.resolve tree dir)
    (table : Routing.Table) :
    (generator.withResolver other).mergeService file service table tree =
      generator.mergeService file service table tree := by
  have hpath : Path.join generator.settings.handlerPath
      (fileName (ServicePlan.of file service).receiver) =
        filePath generator.settings.handlerPath (ServicePlan.of file service) := rfl
  cases hnew : generator.isNew ⟨file, service, tree⟩ with
  | true =>
    have hpreamble : (generator.withResolver other).preamble file tree =
        generator.preamble file tree := by
      simp only [preamble, withResolver, messageImport_congr (h hnew)]
    simp only [mergeService, hpreamble]
    rfl
  | false =>
    have hexists : tree.exists?
        (filePath generator.settings.handlerPath (ServicePlan.of file service)) = true := by
      simpa [isNew] using hnew
    simp only [mergeService, withResolver, Handler.merge, hpath, hexists, if_true]

theorem mergeServices_withResolver {other : Go.ModuleResolver}
    (h : ∀ visit ∈ generator.serviceVisits file services table tree,
      generator.isNew visit = true → ∀ dir ∈ Go.consulted generator.settings,
        other visit.tree dir = generator.resolve visit.tree dir) :
    (generator.withResolver other).mergeServices file services table tree =
      generator.mergeServices file services table tree := by
  induction services generalizing table tree with
  | nil => rfl
  | cons service rest ih =>
    rw [serviceVisits, List.forall_mem_cons] at h
    rw [mergeServices, mergeServices, mergeService_withResolver h.1]
    refine Run.andThen_congr fun merged hmerged => ?_
    rw [Run.gather_of_ok hmerged] at h
    simp only [ih h.2]

theorem generateFile_withResolver {other : Go.ModuleResolver}
    (h : ∀ visit ∈ generator.fileVisits file tree, generator.isNew visit = true →
      ∀ dir ∈ Go.consulted generator.settings,
        other visit.tree dir = generator.resolve visit.tree dir) :
    (generator.withResolver other).generateFile file tree = generator.generateFile file tree := by
  have hmake : (generator.withResolver other).makeHandlerDirectory tree =
      generator.makeHandlerDirectory tree := rfl
  rw [generateFile, generateFile, hmake]
  refine Run.andThen_congr fun made hmade => ?_
  rw [fileVisits, Run.gather_of_ok hmade] at h
  rw [mergeServices_withResolver h]
  rfl

/-- Resolvers with the same answers to the calls of a run make the same run. -/
theorem generate_withResolver {other : Go.ModuleResolver}
    (h : ∀ visit ∈ generator.visits files tree, generator.isNew visit = true →
      ∀ dir ∈ Go.consulted generator.settings,
        other visit.tree dir = generator.resolve visit.tree dir) :
    (generator.withResolver other).generate files tree = generator.generate files tree := by
  induction files generalizing tree with
  | nil => rfl
  | cons file rest ih =>
    cases heligible : file.eligible with
    | false =>
      rw [visits_cons_of_not_eligible heligible] at h
      rw [generate_cons_of_not_eligible heligible, generate_cons_of_not_eligible heligible, ih h]
    | true =>
      rw [visits_cons_of_eligible heligible, List.forall_mem_append] at h
      rw [generate, generate, if_pos heligible, if_pos heligible, generateFile_withResolver h.1]
      refine Run.andThen_congr fun report hreport => ?_
      rw [Run.gather_of_ok hreport] at h
      rw [ih h.2]

theorem keeps_of_mem_serviceVisits
    (h : visit ∈ generator.serviceVisits file services table tree) :
    Keeps tree visit.tree ∧ visit.file = file ∧ visit.service ∈ services := by
  induction services generalizing table tree with
  | nil => exact absurd h List.not_mem_nil
  | cons service rest ih =>
    rcases List.mem_cons.mp h with rfl | h
    · exact ⟨.refl tree, rfl, List.mem_cons_self⟩
    · obtain ⟨merged, -, h⟩ := Run.ok_of_mem_gather h
      obtain ⟨hkeeps, hfile, hservice⟩ := ih h
      have hfirst : Keeps tree (generator.mergeService file service table tree).tree :=
        (mergeService_appends generator file (List.mem_singleton_self _) table tree).keeps
      exact ⟨hfirst.trans hkeeps, hfile, List.mem_cons_of_mem service hservice⟩

theorem keeps_of_mem_visits (h : visit ∈ generator.visits files tree) :
    Keeps tree visit.tree ∧
      filePath generator.settings.handlerPath (ServicePlan.of visit.file visit.service) ∈
        generator.handlerPaths files := by
  induction files generalizing tree with
  | nil => exact absurd h List.not_mem_nil
  | cons file rest ih =>
    cases heligible : file.eligible with
    | false =>
      rw [visits_cons_of_not_eligible heligible] at h
      have hpaths : generator.handlerPaths (file :: rest) = generator.handlerPaths rest := by
        simp [handlerPaths, heligible]
      rw [hpaths]
      exact ih h
    | true =>
      rw [visits_cons_of_eligible heligible] at h
      rw [handlerPaths_cons heligible]
      rcases List.mem_append.mp h with h | h
      · obtain ⟨_, -, h⟩ := Run.ok_of_mem_gather h
        obtain ⟨hkeeps, rfl, hservice⟩ := keeps_of_mem_serviceVisits h
        have hmade := (makeHandlerDirectory_appends generator [] tree).keeps
        exact ⟨hmade.trans hkeeps, List.mem_append_left _ (filePath_mem_filePaths hservice)⟩
      · obtain ⟨report, -, h⟩ := Run.ok_of_mem_gather h
        obtain ⟨hkeeps, hpath⟩ := ih h
        have hfile := (generateFile_appends generator file
          (fun service => filePath_mem_filePaths) tree).keeps
        exact ⟨hfile.trans hkeeps, List.mem_append_right _ hpath⟩

theorem isNew_of_exists
    (hexists : ∀ path ∈ generator.handlerPaths files, tree.exists? path = true)
    (h : visit ∈ generator.visits files tree) : generator.isNew visit = false := by
  obtain ⟨hkeeps, hpath⟩ := keeps_of_mem_visits h
  obtain ⟨place, node, hfind⟩ := exists?_eq_true_iff.mp (hexists _ hpath)
  obtain ⟨node', -, hfind'⟩ := hkeeps.find hfind
  rw [isNew, exists?_eq_true_iff.mpr ⟨place, node', hfind'⟩, Bool.not_true]

theorem worksInProto_iff {settings : Settings} : Go.worksInProto settings = true ↔
    "proto".toList <:+ Text.dropEndWhile (· = '/') settings.workDir.toList := by
  rw [Go.worksInProto, Text.dropEnding?, Option.isSome_map, Option.isSome_iff_exists]
  simp only [Text.dropStart?_eq_some_iff]
  rw [← List.reverse_prefix]
  constructor <;> rintro ⟨rest, h⟩ <;> exact ⟨rest, h.symm⟩

/-- The calls of a run: when they are made, what they ask for, and what comes of them. -/
structure AsksResolver (generator : Generator) (files : List SourceFile) (tree : FileTree) :
    Prop where
  /-- Services have their turns in order, up to the one at which the run stops. -/
  order : (generator.visits files tree).map Visit.subject <+: requested files
  every {reports : List FileReport} : (generator.generate files tree).answer = .ok reports →
    (generator.visits files tree).map Visit.subject = requested files
  settled : generator.settings.protoImportPath.isSome ∨ generator.settings.module.isSome →
    (generator.generate files tree).consulted = []
  /-- There is one call for each turn at which the handler file does not exist. -/
  calls : generator.settings.protoImportPath = none → generator.settings.module = none →
    (generator.generate files tree).consulted =
      ((generator.visits files tree).filter generator.isNew).map fun _ =>
        Go.messageModuleDir generator.settings
  directory : Go.messageModuleDir generator.settings =
    if "proto".toList <:+ Text.dropEndWhile (· = '/') generator.settings.workDir.toList then
      Path.join generator.settings.handlerPath ".."
    else generator.settings.workDir
  /-- A call that fails is the last one, and its fault is that of the run. -/
  refused {before after : List Visit} {visit : Visit} {fault : Fault} :
    generator.settings.protoImportPath = none → generator.settings.module = none →
    generator.visits files tree = before ++ visit :: after → generator.isNew visit = true →
    generator.resolve visit.tree (Go.messageModuleDir generator.settings) = .error fault →
    after = [] ∧ (generator.generate files tree).answer = .error fault
  /-- Nothing but the answers to these calls has an influence on the run. -/
  alike {other : Go.ModuleResolver} :
    (∀ visit ∈ generator.visits files tree, generator.isNew visit = true →
      ∀ dir ∈ Go.consulted generator.settings,
        other visit.tree dir = generator.resolve visit.tree dir) →
    (generator.withResolver other).generate files tree = generator.generate files tree
  /-- Where every handler file exists, the resolver does not matter. -/
  existing : (∀ path ∈ generator.handlerPaths files, tree.exists? path = true) →
    ∀ other, (generator.withResolver other).generate files tree = generator.generate files tree

/-- A run asks the resolver if the settings leave the import path open, once for each service whose
handler file does not exist when its turn comes, and for no other reason. -/
theorem generate_asks_resolver (generator : Generator) (files : List SourceFile)
    (tree : FileTree) : AsksResolver generator files tree where
  order := (subjects_visits generator files tree).1
  every h := (subjects_visits generator files tree).2 _ h
  settled h := by
    have hnone : Go.consulted generator.settings = [] := by
      rw [Go.consulted, if_pos (by simpa using h)]
    rw [consulted_generate, List.flatMap_eq_nil_iff]
    intro visit _
    rw [hnone, ite_self]
  calls hpath hmodule := by
    have hone : Go.consulted generator.settings = [Go.messageModuleDir generator.settings] := by
      simp [Go.consulted, hpath, hmodule]
    rw [consulted_generate, hone]
    generalize generator.visits files tree = visits
    induction visits with
    | nil => rfl
    | cons visit rest ih => cases hnew : generator.isNew visit <;> simp [hnew, ih]
  directory := by
    rw [Go.messageModuleDir]
    exact if_congr worksInProto_iff rfl rfl
  refused hpath hmodule hvisits hnew hfault := by
    have hdir : Go.messageModuleDir generator.settings ∈ Go.consulted generator.settings := by
      simp [Go.consulted, hpath, hmodule]
    exact last_of_refused_visits hvisits hnew (preamble_of_refused hdir hfault _)
  alike := generate_withResolver
  existing hexists _ := generate_withResolver fun visit hvisit hnew => by
    rw [isNew_of_exists hexists hvisit] at hnew
    cases hnew

/-- The handler file of the orders is there; for the payments the module file is looked for. -/
example : (modulelessGenerator.generate [ordersSource, paymentsSource]
    (ordersTree "package handler")).consulted = ["."] := by
  decide +kernel

end Generator
end ServiceScaffold
