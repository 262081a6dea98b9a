import Mathlib
import ServiceScaffold.Proofs.KeptHandlers

/-!
# What a new handler file holds

A handler file that a run has made consists of the preamble and of the declarations that the run
reports, one service after another. So it holds nothing but what was generated for the services
whose path leads to it, and its preamble is that of the first of them.
-/

namespace ServiceScaffold

open FileTree Handler

/-- A service that was merged or skipped in a run. -/
structure Turn where
  file : SourceFile
  service : Service
  outcome : Outcome
  deriving DecidableEq, Repr

namespace Turn

def plan (turn : Turn) : ServicePlan :=
  ServicePlan.of turn.file turn.service

def declarations (turn : Turn) : List Declaration :=
  turn.outcome.declarations turn.plan

theorem ofString_missingText {symbols : SymbolSet} {file : SourceFile} {service : Service}
    {path : String} {created : Bool} {outcome : Outcome}
    (h : .merged (Handler.summarize symbols (ServicePlan.of file service) path created) = outcome) :
    Utf8.ofString (missingText symbols (ServicePlan.of file service)) =
      Declaration.source (declarations ⟨file, service, outcome⟩) := by
  rw [declarations, plan, ← h]
  exact Handler.ofString_missingText symbols _ path created

end Turn

def turns (file : SourceFile) (services : List Service) (outcomes : List Outcome) : List Turn :=
  (services.zip outcomes).map fun entry => ⟨file, entry.1, entry.2⟩

def runTurns (files : List SourceFile) (reports : List FileReport) : List Turn :=
  ((files.filter SourceFile.eligible).zip reports).flatMap fun entry =>
    turns entry.1 entry.1.services entry.2.outcomes

theorem runTurns_cons_of_eligible {file : SourceFile} (h : file.eligible = true)
    (rest : List SourceFile) (report : FileReport) (later : List FileReport) :
    runTurns (file :: rest) (report :: later) =
      turns file file.services report.outcomes ++ runTurns rest later := by
  simp [runTurns, h]

theorem runTurns_cons_of_not_eligible {file : SourceFile} (h : file.eligible = false)
    (rest : List SourceFile) (reports : List FileReport) :
    runTurns (file :: rest) reports = runTurns rest reports := by
  simp [runTurns, h]

/-- The file at `place` holds the preamble of the first of these turns, as it was at some time
since `start`, and what the turns have added. All of their paths lead to the file. -/
structure Composition (generator : Generator) (paths : List String) (start tree : FileTree)
    (place : Location) (content : Bytes) (entries : List Turn) : Prop where
  begun : ∃ first rest before text, entries = first :: rest ∧
    Appends generator.tablePath paths start before ∧
    generator.preamble first.file before = .ok text ∧
    content = Utf8.ofString text ++ Declaration.source (entries.flatMap Turn.declarations)
  leads : ∀ turn ∈ entries, tree.Leads (filePath generator.settings.handlerPath turn.plan) place

namespace Composition

variable {generator : Generator} {paths : List String} {start before after : FileTree}
  {place : Location}

/-- The turn that makes the file writes the preamble and its own declarations. -/
theorem first (turn : Turn) {text : String}
    (happends : Appends generator.tablePath paths start before)
    (hasked : generator.preamble turn.file before = .ok text)
    (hleads : after.Leads (filePath generator.settings.handlerPath turn.plan) place) :
    Composition generator paths start after place
      (Utf8.ofString text ++ Declaration.source turn.declarations) [turn] where
  begun := ⟨turn, [], before, text, rfl, happends, hasked, by rw [List.flatMap_singleton]⟩
  leads := List.forall_mem_singleton.mpr hleads

theorem next (turn : Turn) {old : Bytes} {entries : List Turn}
    (h : Composition generator paths start before place old entries) (hkeeps : Keeps before after)
    (hleads : after.Leads (filePath generator.settings.handlerPath turn.plan) place) :
    Composition generator paths start after place
      (old ++ Declaration.source turn.declarations) (entries ++ [turn]) where
  begun := by
    obtain ⟨first, rest, begun, text, rfl, happends, hasked, rfl⟩ := h.begun
    refine ⟨first, rest ++ [turn], begun, text, rfl, happends, hasked, ?_⟩
    rw [List.flatMap_append, Declaration.source_append, List.flatMap_singleton, List.append_assoc]
  leads other hother := by
    rcases List.mem_append.mp hother with hother | hother
    · exact hkeeps.leads (h.leads other hother)
    · rwa [List.mem_singleton.mp hother]

end Composition

/-- If there is a file at `place`, it is composed of turns of the log. -/
def Composed (generator : Generator) (paths : List String) (start tree : FileTree)
    (place : Location) (log : List Turn) : Prop :=
  ∀ content, tree.node? place = some (.file content) →
    ∃ entries, entries.Sublist log ∧ Composition generator paths start tree place content entries

namespace Composed

variable {generator : Generator} {paths : List String} {start before after tree : FileTree}
  {place : Location} {log more : List Turn} {file : SourceFile} {service : Service}
  {table : Routing.Table} {outcome : Outcome}

theorem of_no_file (h : ∀ content, tree.node? place ≠ some (.file content)) (log : List Turn) :
    Composed generator paths start tree place log :=
  fun content hcontent => absurd hcontent (h content)

theorem keeps (h : Composed generator paths start before place log)
    (hkeeps : Keeps before after)
    (hsame : ∀ content, after.node? place = some (.file content) →
      before.node? place = some (.file content)) (more : List Turn) :
    Composed generator paths start after place (log ++ more) := by
  intro content hcontent
  obtain ⟨entries, hlog, hbegun, hleads⟩ := h content (hsame content hcontent)
  exact ⟨entries, hlog.trans (List.sublist_append_left log more), hbegun,
    fun turn hturn => hkeeps.leads (hleads turn hturn)⟩

theorem put_other (h : Composed generator paths start tree place log) {other : Location}
    (hne : place ≠ other) (hfree : tree.node? other ≠ some .directory) (content : Bytes)
    (more : List Turn) :
    Composed generator paths start (tree.put other (.file content)) place (log ++ more) :=
  h.keeps (Keeps.put_file hfree content) (fun _ hnode => by rwa [node?_put_of_ne hne] at hnode) more

theorem mergeOf (h : Composed generator paths start tree place log)
    (happends : Appends generator.tablePath paths start tree)
    (hanswer : (generator.mergeOf file service table tree).answer = .ok outcome) :
    Composed generator paths start (generator.mergeOf file service table tree).tree place
      (log ++ [⟨file, service, outcome⟩]) := by
  have hstep := mergeStep_merge generator.scan generator.settings.handlerPath
    (ServicePlan.of file service) (fun _ => generator.preamble file tree) tree table
  rw [Generator.mergeOf] at hanswer ⊢
  generalize Handler.merge generator.scan generator.settings.handlerPath
    (ServicePlan.of file service) (fun _ => generator.preamble file tree) tree table = result
    at hanswer hstep ⊢
  cases hstep with
  | stopped => cases hanswer
  | blocked | refused =>
    intro content hcontent
    obtain ⟨entries, hlog, hcomposition⟩ := h content hcontent
    exact ⟨entries, hlog.trans (List.sublist_append_left _ _), hcomposition⟩
  | @created text target absent asked opened =>
    have hfree : tree.node? target ≠ some .directory := by
      simp [node?_eq_none_of_openFresh absent opened]
    rw [answer_extend, Except.ok.injEq] at hanswer
    rw [tree_extend, Turn.ofString_missingText hanswer]
    by_cases hplace : place = target
    · subst hplace
      intro content hcontent
      rw [node?_put_self (ne_nil_of_not_directory hfree), Option.some.injEq, Node.file.injEq]
        at hcontent
      subst hcontent
      exact ⟨_, List.sublist_append_right _ _,
        .first ⟨file, service, outcome⟩ happends asked ⟨_, find_put_of_openFresh opened _⟩⟩
    · exact h.put_other hplace hfree _ _
  | @extended target old found =>
    obtain ⟨-, -, -, hold⟩ := find_eq_ok_iff.mp found
    have hfree : tree.node? target ≠ some .directory := by simp [hold]
    rw [answer_extend, Except.ok.injEq] at hanswer
    rw [tree_extend, Turn.ofString_missingText hanswer]
    by_cases hplace : place = target
    · subst hplace
      intro content hcontent
      rw [node?_put_self (ne_nil_of_not_directory hfree), Option.some.injEq, Node.file.injEq]
        at hcontent
      subst hcontent
      obtain ⟨entries, hlog, hcomposition⟩ := h old hold
      exact ⟨_, hlog.append (List.Sublist.refl _), hcomposition.next ⟨file, service, outcome⟩
        (Keeps.put_file hfree _) ⟨_, find_put_of_find found _⟩⟩
    · exact h.put_other hplace hfree _ _

theorem mergeServices {services : List Service} {last : Routing.Table} {outcomes : List Outcome}
    (h : Composed generator paths start tree place log)
    (hpaths : ∀ service ∈ services,
      filePath generator.settings.handlerPath (ServicePlan.of file service) ∈ paths)
    (happends : Appends generator.tablePath paths start tree)
    (hanswer : (generator.mergeServices file services table tree).answer = .ok (outcomes, last)) :
    Composed generator paths start (generator.mergeServices file services table tree).tree place
      (log ++ turns file services outcomes) := by
  induction services generalizing tree table outcomes log with
  | nil =>
    rw [Generator.mergeServices, Run.done, Except.ok.injEq, Prod.mk.injEq] at hanswer
    rw [← hanswer.1]
    simpa [turns, Generator.mergeServices, Run.done] using h
  | cons service rest ih =>
    obtain ⟨outcome, later, rfl, hmerge, hrest⟩ :=
      Generator.answer_mergeServices_cons_eq_ok_iff.mp hanswer
    rw [Generator.tree_mergeServices_cons hmerge]
    have hstep := Generator.mergeService_appends generator file (hpaths service List.mem_cons_self)
      table tree
    rw [Generator.tree_mergeService] at hstep
    have hlater := ih (h.mergeOf happends hmerge)
      (fun s hs => hpaths s (List.mem_cons_of_mem service hs)) (happends.trans hstep) hrest
    simpa [turns] using hlater

theorem generateFile {report : FileReport} (h : Composed generator paths start tree place log)
    (hpaths : ∀ path ∈ generator.filePaths file, path ∈ paths)
    (happends : Appends generator.tablePath paths start tree)
    (hanswer : (generator.generateFile file tree).answer = .ok report)
    (htable : ¬(generator.generateFile file tree).tree.Leads generator.tablePath place) :
    Composed generator paths start (generator.generateFile file tree).tree place
      (log ++ turns file file.services report.outcomes) := by
  obtain ⟨made, outcomes, last, target, hparts, rfl⟩ := Generator.generates_of_answer hanswer
  have hadds := AddsDirectories.makeDirectories tree generator.settings.handlerPath
  rw [hparts.directory] at hadds
  have hmade : Appends generator.tablePath paths tree made := Appends.of_addsDirectories hadds
  have hbegin : Composed generator paths start made place log := by
    simpa using h.keeps hmade.keeps (fun content => (hadds.file place content).mp) []
  have hmerged := hbegin.mergeServices
    (fun service hservice => hpaths _ (Generator.filePath_mem_filePaths hservice))
    (happends.trans hmade) hparts.merged
  have hfree := not_directory_of_openFresh hparts.opened
  rw [hparts.tree_eq] at htable ⊢
  have hne : place ≠ target := by
    rintro rfl
    exact htable ⟨_, find_put_of_openFresh hparts.opened _⟩
  simpa using hmerged.put_other hne hfree _ []

theorem generate {files : List SourceFile} {reports : List FileReport}
    (h : Composed generator paths start tree place log)
    (hpaths : ∀ path ∈ generator.handlerPaths files, path ∈ paths)
    (happends : Appends generator.tablePath paths start tree)
    (hanswer : (generator.generate files tree).answer = .ok reports)
    (htable : ¬(generator.generate files tree).tree.Leads generator.tablePath place) :
    Composed generator paths start (generator.generate files tree).tree place
      (log ++ runTurns files reports) := by
  induction files generalizing tree log reports with
  | nil =>
    rw [Generator.generate, Run.done, Except.ok.injEq] at hanswer
    simpa [runTurns, Generator.generate, Run.done] using h
  | cons file rest ih =>
    cases heligible : file.eligible with
    | false =>
      rw [Generator.generate_cons_of_not_eligible heligible] at hanswer htable ⊢
      rw [runTurns_cons_of_not_eligible heligible]
      refine ih h (fun path hpath => hpaths path ?_) happends hanswer htable
      simpa [Generator.handlerPaths, heligible] using hpath
    | true =>
      obtain ⟨report, later, rfl, hfile, hrest⟩ :=
        (Generator.answer_generate_cons_eq_ok_iff heligible).mp hanswer
      rw [Generator.handlerPaths_cons heligible] at hpaths
      have hfilePaths : ∀ path ∈ generator.filePaths file, path ∈ paths :=
        fun path hpath => hpaths path (List.mem_append_left _ hpath)
      have hlaterPaths : ∀ path ∈ generator.handlerPaths rest, path ∈ paths :=
        fun path hpath => hpaths path (List.mem_append_right _ hpath)
      rw [Generator.tree_generate_cons heligible hfile] at htable ⊢
      have hlater := Generator.generate_appends generator hlaterPaths
        (generator.generateFile file tree).tree
      have hfirst := Generator.generateFile_appends generator file (fun service hservice =>
        hfilePaths _ (Generator.filePath_mem_filePaths hservice)) tree
      have hcomposed := h.generateFile hfilePaths happends hfile fun hleads =>
        htable (hlater.keeps.leads hleads)
      rw [runTurns_cons_of_eligible heligible, ← List.append_assoc]
      exact ih hcomposed hlaterPaths (happends.trans hfirst) hrest htable

end Composed

namespace Generator

variable {generator : Generator} {tree : FileTree} {place : Location} {content : Bytes}

/-- A file that the generation of one description file has made is composed of its turns, unless it
is the routing table. -/
theorem composition_of_generateFile {file : SourceFile} {report : FileReport}
    (h : (generator.generateFile file tree).answer = .ok report)
    (hnew : ∀ old, tree.node? place ≠ some (.file old))
    (htable : ¬(generator.generateFile file tree).tree.Leads generator.tablePath place)
    (hcontent : (generator.generateFile file tree).tree.node? place = some (.file content)) :
    ∃ entries, entries.Sublist (turns file file.services report.outcomes) ∧
      Composition generator (generator.filePaths file) tree
        (generator.generateFile file tree).tree place content entries :=
  (Composed.of_no_file hnew []).generateFile (fun _ => id) (Appends.refl _ _ tree) h htable
    content hcontent

theorem composition_of_generate {files : List SourceFile} {reports : List FileReport}
    (h : (generator.generate files tree).answer = .ok reports)
    (hnew : ∀ old, tree.node? place ≠ some (.file old))
    (htable : ¬(generator.generate files tree).tree.Leads generator.tablePath place)
    (hcontent : (generator.generate files tree).tree.node? place = some (.file content)) :
    ∃ entries, entries.Sublist (runTurns files reports) ∧
      Composition generator (generator.handlerPaths files) tree
        (generator.generate files tree).tree place content entries :=
  (Composed.of_no_file hnew []).generate (fun _ => id) (Appends.refl _ _ tree) h htable
    content hcontent

end Generator
end ServiceScaffold
