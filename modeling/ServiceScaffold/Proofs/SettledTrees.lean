import Mathlib
import ServiceScaffold.Proofs.SuccessfulRuns

/-!
# What a successful run leaves behind

After a service has been merged or skipped, the tree shows why it would go the same way again: the
handler file declares the whole service, or its path is refused whatever stands in the handler
directory. Later parts of the run do not change this, so it holds at the end for all services.
-/

namespace ServiceScaffold

open FileTree Handler

def Handler.Outcome.register (service : ServicePlan) (table : Routing.Table) :
    Outcome → Routing.Table
  | .merged _ => table.register service
  | .skipped _ _ => table

namespace Generator

variable {generator : Generator} {file : SourceFile} {paths : List String}
  {before after tree : FileTree}

/-- The resolver is deterministic as far as runs go: what it has found it finds again after a run
that writes handlers to `paths`. -/
def Steady (generator : Generator) (paths : List String) : Prop :=
  ∀ before after dir name, Appends generator.tablePath paths before after →
    generator.resolve before dir = .ok name → generator.resolve after dir = .ok name

theorem steady_of_path_only (h : ∀ before after dir,
    generator.resolve before dir = generator.resolve after dir) (paths : List String) :
    Steady generator paths :=
  fun before after dir _ _ hname => (h before after dir) ▸ hname

theorem fileName_ne_goMod (receiver : String) : fileName receiver ≠ "go.mod" := by
  intro heq
  have hlast : (fileName receiver).toList.getLast? = some 'o' := by
    rw [fileName, String.toList_ofList, List.getLast?_append_of_ne_nil _ (by decide)]
    decide
  rw [heq] at hlast
  exact absurd hlast (by decide)

theorem read_goMod_of_appends (hpaths : ∀ path ∈ paths, ∃ receiver : String,
      '/' ∉ receiver.toList ∧
        path = Path.join generator.settings.handlerPath (fileName receiver))
    (happends : Appends generator.tablePath paths before after) {dir : String} {content : Bytes}
    (h : before.read (Path.join dir "go.mod") = .ok content) :
    after.read (Path.join dir "go.mod") = .ok content := by
  have hentry : Path.IsEntry "go.mod" := ⟨by decide, by decide, by decide⟩
  obtain ⟨place, hfind⟩ := read_eq_ok_iff.mp h
  obtain ⟨-, -, -, hold⟩ := find_eq_ok_iff.mp hfind
  obtain ⟨node, hnode, hfind'⟩ := happends.keeps.find hfind
  obtain ⟨new, hnew, -⟩ := happends.file hold
  rw [hnew, Option.some.injEq] at hnode
  subst hnode
  by_cases hsame : new = content
  · exact read_eq_ok_iff.mpr ⟨place, hsame ▸ hfind'⟩
  · obtain ⟨path, hpath, hwritten⟩ := happends.written hnew (by simp [hold, Ne.symm hsame])
    have hleads : after.Leads (Path.join dir "go.mod") place := ⟨_, hfind'⟩
    obtain ⟨first, -, hplace, -⟩ := leadsInto_of_leads hentry hleads
    have hother : ∃ name, Path.IsEntry name ∧ name ≠ "go.mod" ∧
        path = Path.join generator.settings.handlerPath name := by
      rcases List.mem_cons.mp hpath with rfl | hpath
      · exact ⟨routingFileName, isEntry_routingFileName, by decide, rfl⟩
      · obtain ⟨receiver, hslash, rfl⟩ := hpaths path hpath
        exact ⟨fileName receiver, isEntry_fileName hslash, fileName_ne_goMod receiver, rfl⟩
    obtain ⟨name, hname, hne, rfl⟩ := hother
    obtain ⟨second, -, hplace', -⟩ := leadsInto_of_leads hname ⟨_, hwritten⟩
    rw [hplace] at hplace'
    obtain ⟨-, hlast⟩ := List.append_inj' hplace' rfl
    exact absurd (List.cons.inj hlast).1.symm hne

theorem moduleFile_of_read {dir name : String}
    (h : ∀ content, before.read (Path.join dir "go.mod") = .ok content →
      after.read (Path.join dir "go.mod") = .ok content)
    (hname : Go.moduleFile before dir = .ok name) : Go.moduleFile after dir = .ok name := by
  simp only [Go.moduleFile, readText] at hname ⊢
  cases hread : before.read (Path.join dir "go.mod") with
  | error refusal =>
    rw [hread] at hname
    cases hname
  | ok content =>
    rw [hread] at hname
    rw [h content hread]
    exact hname

theorem steady_moduleFile (hresolve : generator.resolve = Go.moduleFile) {files : List SourceFile}
    (hplain : ∀ file ∈ files, ∀ service ∈ file.services,
      Recognizable (ServicePlan.of file service)) :
    Steady generator (generator.handlerPaths files) := by
  have hpaths : ∀ path ∈ generator.handlerPaths files, ∃ receiver : String,
      '/' ∉ receiver.toList ∧
        path = Path.join generator.settings.handlerPath (fileName receiver) := by
    intro path hpath
    obtain ⟨file, hfile, hmem⟩ := List.mem_flatMap.mp hpath
    obtain ⟨service, hservice, rfl⟩ := List.mem_map.mp hmem
    have hservicePlain := hplain file (List.mem_filter.mp hfile).1 service hservice
    exact ⟨service.goName, hservicePlain.receiver.not_mem (by decide), rfl⟩
  intro before after dir name happends hname
  rw [hresolve] at hname ⊢
  exact moduleFile_of_read (fun _ => read_goMod_of_appends hpaths happends) hname

theorem preamble_of_resolve
    (h : ∀ dir name, generator.resolve before dir = .ok name → generator.resolve after dir = .ok name)
    {text : String} (hasked : generator.preamble file before = .ok text) :
    generator.preamble file after = .ok text := by
  obtain ⟨messages, himport, rfl⟩ := map_eq_ok_iff.mp hasked
  refine map_eq_ok_iff.mpr ⟨messages, ?_, rfl⟩
  unfold Go.messageImport at himport ⊢
  cases hproto : generator.settings.protoImportPath with
  | some path =>
    simp only [hproto] at himport ⊢
    exact himport
  | none =>
    cases hmodule : generator.settings.module with
    | some name =>
      simp only [hproto, hmodule] at himport ⊢
      exact himport
    | none =>
      simp only [hproto, hmodule] at himport ⊢
      obtain ⟨name, hname, himport⟩ := bind_eq_ok_iff.mp himport
      exact bind_eq_ok_iff.mpr ⟨name, h _ name hname, himport⟩

theorem preamble_of_appends (hsteady : Steady generator paths)
    (happends : Appends generator.tablePath paths before after) {text : String}
    (h : generator.preamble file before = .ok text) : generator.preamble file after = .ok text :=
  preamble_of_resolve (fun dir name => hsteady before after dir name happends) h

/-- Why the outcome of a service would be the same again. -/
inductive Rests (generator : Generator) (tree : FileTree) (file : SourceFile)
    (service : ServicePlan) : Outcome → Prop
  | blocked {place : Location}
      (found : tree.find (filePath generator.settings.handlerPath service) =
        .ok (place, .directory)) :
      Rests generator tree file service
        (.skipped (filePath generator.settings.handlerPath service) .isDirectory)
  | refused {text : String} {reason : Refusal} (asked : generator.preamble file tree = .ok text)
      (unfit : Unfit (filePath generator.settings.handlerPath service)
        (fileName service.receiver) reason) :
      Rests generator tree file service
        (.skipped (filePath generator.settings.handlerPath service) reason)
  | merged {summary : Summary} {place : Location} {content : Bytes}
      (path : summary.path = filePath generator.settings.handlerPath service)
      (found : tree.find (filePath generator.settings.handlerPath service) =
        .ok (place, .file content))
      (declares : filePath generator.settings.handlerPath service ≠ generator.tablePath →
        Utf8.IsText content ∧ Declares content service) :
      Rests generator tree file service (.merged summary)

theorem isEntry_of_recognizable {service : ServicePlan} (hs : Recognizable service) :
    Path.IsEntry (fileName service.receiver) :=
  isEntry_fileName (hs.receiver.not_mem (by decide))

theorem not_leads_tablePath {service : ServicePlan} (hs : Recognizable service)
    (hne : filePath generator.settings.handlerPath service ≠ generator.tablePath)
    {place : Location}
    (h : tree.Leads (filePath generator.settings.handlerPath service) place) :
    ¬tree.Leads generator.tablePath place := by
  intro htable
  have hname : fileName service.receiver ≠ routingFileName := by
    intro heq
    exact hne (congrArg (Path.join generator.settings.handlerPath) heq)
  exact ne_of_leads (isEntry_of_recognizable hs) isEntry_routingFileName hname h htable rfl

/-- The rest of a run does not disturb a service. -/
theorem Rests.appends {service : ServicePlan} {outcome : Outcome}
    (h : Rests generator before file service outcome) (hs : Recognizable service)
    (hsteady : Steady generator paths)
    (happends : Appends generator.tablePath paths before after) :
    Rests generator after file service outcome := by
  cases h with
  | blocked found =>
    obtain ⟨-, -, -, hdirectory⟩ := find_eq_ok_iff.mp found
    obtain ⟨node, hnode, hfind⟩ := happends.keeps.find found
    rw [happends.directory hdirectory, Option.some.injEq] at hnode
    subst hnode
    exact .blocked hfind
  | refused asked unfit => exact .refused (preamble_of_appends hsteady happends asked) unfit
  | @merged summary place content path found declares =>
    obtain ⟨-, -, -, hold⟩ := find_eq_ok_iff.mp found
    obtain ⟨node, hnode, hfind⟩ := happends.keeps.find found
    obtain ⟨new, hnew, hgrown⟩ := happends.file hold
    rw [hnew, Option.some.injEq] at hnode
    subst hnode
    refine .merged path hfind fun hne => ?_
    obtain ⟨htext, hdeclares⟩ := declares hne
    have hadded :=
      (hgrown (not_leads_tablePath hs hne ⟨_, hfind⟩)).continues Disk.takesAll_sound
    exact ⟨hadded.isText htext, hdeclares.continues hs htext hadded⟩

theorem leadsInto_of_mergeOf {service : Service} {table : Routing.Table} {dir : String}
    {place : Location} (h : LeadsInto (generator.mergeOf file service table tree).tree dir place) :
    LeadsInto tree dir place := by
  have hstep := mergeStep_merge generator.scan generator.settings.handlerPath
    (ServicePlan.of file service) (fun _ => generator.preamble file tree) tree table
  rw [mergeOf] at h
  generalize Handler.merge generator.scan generator.settings.handlerPath
    (ServicePlan.of file service) (fun _ => generator.preamble file tree) tree table = result
    at h hstep
  cases hstep with
  | stopped | blocked | refused => exact h
  | created absent asked opened =>
    exact h.of_put_file (by simp [node?_eq_none_of_openFresh absent opened])
  | extended found =>
    obtain ⟨-, -, -, hnode⟩ := find_eq_ok_iff.mp found
    exact h.of_put_file (by simp [hnode])

theorem table_mergeOf {service : Service} {table : Routing.Table} {outcome : Outcome}
    (h : (generator.mergeOf file service table tree).answer = .ok outcome) :
    (generator.mergeOf file service table tree).table =
      outcome.register (ServicePlan.of file service) table := by
  rw [mergeOf] at h ⊢
  cases outcome with
  | merged summary => exact table_of_merged h
  | skipped path reason => exact (unchanged_of_skipped h).2

/-- A service comes to rest when it is merged or skipped. -/
theorem rests_of_mergeOf (hscan : generator.scan = scanLines) {service : Service}
    (hs : Recognizable (ServicePlan.of file service))
    (ht : TextAt {path | path ∈ paths} tree)
    (hpath : filePath generator.settings.handlerPath (ServicePlan.of file service) ∈ paths)
    {place : Location} (hinto : LeadsInto tree generator.settings.handlerPath place)
    {table : Routing.Table} {outcome : Outcome}
    (h : (generator.mergeOf file service table tree).answer = .ok outcome) :
    Rests generator (generator.mergeOf file service table tree).tree file
      (ServicePlan.of file service) outcome := by
  rw [mergeOf, hscan] at h ⊢
  cases outcome with
  | merged summary =>
    obtain ⟨reached, content, hfind, hdeclares⟩ := declares_of_merged hs ht hpath h
    obtain ⟨symbols, created, hsummary⟩ := eq_summarize_of_merged h
    have htext := ht.merge scanLines hpath (fun _ => generator.preamble file tree) table
    have hcontent : Utf8.IsText content := htext _ hpath reached content hfind
    exact .merged (by rw [hsummary, summarize]) hfind fun _ => ⟨hcontent, hdeclares⟩
  | skipped path reason =>
    obtain ⟨rfl, hcases⟩ := cases_of_skipped h
    rw [(unchanged_of_skipped h).1]
    rcases hcases with ⟨rfl, reached, hfind⟩ | ⟨habsent, ⟨text, hasked⟩, hopen⟩
    · exact .blocked hfind
    · exact .refused hasked (unfit_of_openFresh hinto (isEntry_of_recognizable hs) habsent hopen)

theorem leadsInto_of_mergeServices {services : List Service} {table : Routing.Table}
    {dir : String} {place : Location}
    (h : LeadsInto (generator.mergeServices file services table tree).tree dir place) :
    LeadsInto tree dir place :=
  mergeServices_tree (fun before after => LeadsInto after dir place → LeadsInto before dir place)
    (fun _ => id) (fun hfirst hsecond => hfirst ∘ hsecond)
    (fun _ _ _ _ hafter => leadsInto_of_mergeOf (tree_mergeService _ _ ▸ hafter)) table tree h

theorem textAt_mergeOf {service : Service} {table : Routing.Table}
    (hpath : filePath generator.settings.handlerPath (ServicePlan.of file service) ∈ paths)
    (ht : TextAt {path | path ∈ paths} tree) :
    TextAt {path | path ∈ paths} (generator.mergeOf file service table tree).tree := by
  rw [mergeOf]
  exact ht.merge generator.scan hpath _ table

theorem textAt_mergeServices {services : List Service}
    (hpaths : ∀ service ∈ services,
      filePath generator.settings.handlerPath (ServicePlan.of file service) ∈ paths)
    {table : Routing.Table} (ht : TextAt {path | path ∈ paths} tree) :
    TextAt {path | path ∈ paths} (generator.mergeServices file services table tree).tree := by
  refine mergeServices_tree
    (fun before after => TextAt {path | path ∈ paths} before → TextAt {path | path ∈ paths} after)
    (fun _ => id) (fun hfirst hsecond => hsecond ∘ hfirst) ?_ table tree ht
  intro service hservice routes before hbefore
  rw [tree_mergeService]
  exact textAt_mergeOf (hpaths service hservice) hbefore

theorem mergeServices_rests (hscan : generator.scan = scanLines) (hsteady : Steady generator paths)
    {services : List Service}
    (hplain : ∀ service ∈ services, Recognizable (ServicePlan.of file service))
    (hpaths : ∀ service ∈ services,
      filePath generator.settings.handlerPath (ServicePlan.of file service) ∈ paths)
    {table last : Routing.Table} {outcomes : List Outcome}
    (ht : TextAt {path | path ∈ paths} tree)
    (hanswer : (generator.mergeServices file services table tree).answer = .ok (outcomes, last))
    {place : Location} (hinto : LeadsInto (generator.mergeServices file services table tree).tree
      generator.settings.handlerPath place) :
    List.Forall₂ (fun service outcome =>
      Rests generator (generator.mergeServices file services table tree).tree file
        (ServicePlan.of file service) outcome) services outcomes := by
  induction services generalizing tree table outcomes with
  | nil =>
    cases hanswer
    exact .nil
  | cons service rest ih =>
    obtain ⟨outcome, later, rfl, hmerge, hrest⟩ := answer_mergeServices_cons_eq_ok_iff.mp hanswer
    rw [tree_mergeServices_cons hmerge] at hinto ⊢
    have hservice := List.mem_cons_self (a := service) (l := rest)
    have hbefore := leadsInto_of_mergeOf (leadsInto_of_mergeServices hinto)
    have hfirst := rests_of_mergeOf hscan (hplain service hservice) ht (hpaths service hservice)
      hbefore hmerge
    have hlater := mergeServices_appends generator file
      (fun s hs => hpaths s (List.mem_cons_of_mem service hs))
      (generator.mergeOf file service table tree).table
      (generator.mergeOf file service table tree).tree
    have htext : TextAt {path | path ∈ paths} (generator.mergeOf file service table tree).tree :=
      textAt_mergeOf (hpaths service hservice) ht
    exact .cons (hfirst.appends (hplain service hservice) hsteady hlater)
      (ih (fun s hs => hplain s (List.mem_cons_of_mem service hs))
        (fun s hs => hpaths s (List.mem_cons_of_mem service hs)) htext hrest hinto)

/-- What a run has reported of a file stays true of the tree. -/
structure FileRests (generator : Generator) (tree : FileTree) (file : SourceFile)
    (report : FileReport) : Prop where
  source : report.source = file.name
  tablePath : report.tablePath = generator.tablePath
  merged : ∃ start, (generator.mergeServices file file.services .empty start).answer =
    .ok (report.outcomes, report.table)
  outcomes : List.Forall₂ (fun service outcome =>
    Rests generator tree file (ServicePlan.of file service) outcome) file.services report.outcomes

theorem FileRests.appends {report : FileReport} (h : FileRests generator before file report)
    (hplain : ∀ service ∈ file.services, Recognizable (ServicePlan.of file service))
    (hsteady : Steady generator paths)
    (happends : Appends generator.tablePath paths before after) :
    FileRests generator after file report where
  source := h.source
  tablePath := h.tablePath
  merged := h.merged
  outcomes := by
    have hboth := (List.forall₂_and_left _ _).mpr ⟨hplain, h.outcomes⟩
    exact hboth.imp fun service outcome hrests =>
      hrests.2.appends hrests.1 hsteady happends

/-- The handler directory is there, and the path of its routing table is in order. -/
structure Prepared (generator : Generator) (tree : FileTree) (place : Location) : Prop where
  checked : checkPath generator.tablePath = .ok ()
  into : LeadsInto tree generator.settings.handlerPath place

theorem Prepared.keeps {place : Location} (h : Prepared generator before place)
    (hkeeps : Keeps before after) : Prepared generator after place :=
  ⟨h.checked, hkeeps.leadsInto h.into⟩

theorem Prepared.makeDirectories_eq {place : Location} (h : Prepared generator tree place) :
    tree.makeDirectories generator.settings.handlerPath = ⟨tree, none⟩ :=
  h.into.makeDirectories_eq fun hne => checkPath_of_join isEntry_routingFileName hne h.checked

theorem Prepared.openFresh_eq {place : Location} (h : Prepared generator tree place)
    (hfree : tree.node? (place ++ [routingFileName]) ≠ some .directory) :
    tree.openFresh generator.tablePath = .ok (place ++ [routingFileName]) := by
  have hfits : ¬Path.maxNameSize < Path.size routingFileName := by decide
  have hchecked := h.checked
  rw [tablePath] at hchecked ⊢
  rw [openFresh_join h.into isEntry_routingFileName, hchecked]
  simp only [bind, Except.bind, if_neg hfits, if_neg hfree]

theorem prepared_of_openFresh {reached : Location}
    (h : tree.openFresh generator.tablePath = .ok reached) :
    ∃ place, Prepared generator tree place ∧ reached = place ++ [routingFileName] := by
  obtain ⟨place, hinto, heq⟩ := leadsInto_of_openFresh isEntry_routingFileName h
  obtain ⟨_, _, hslot, -, -, -⟩ := openFresh_eq_ok_iff.mp h
  exact ⟨place, ⟨hslot.checked, hinto⟩, heq⟩

def lastTable (generator : Generator) (content : Bytes) (reports : List FileReport) : Bytes :=
  reports.foldl (fun _ report => Utf8.ofString (report.table.render generator.settings)) content

@[simp] theorem lastTable_nil (content : Bytes) : lastTable generator content [] = content := rfl

@[simp] theorem lastTable_cons (content : Bytes) (report : FileReport) (rest : List FileReport) :
    lastTable generator content (report :: rest) =
      lastTable generator (Utf8.ofString (report.table.render generator.settings)) rest := by
  rw [lastTable, List.foldl_cons, lastTable]

theorem generateFile_rests (hscan : generator.scan = scanLines) (hsteady : Steady generator paths)
    (hplain : ∀ service ∈ file.services, Recognizable (ServicePlan.of file service))
    (hpaths : ∀ path ∈ generator.filePaths file, path ∈ paths)
    (ht : TextAt {path | path ∈ paths}
      (tree.makeDirectories generator.settings.handlerPath).tree)
    {report : FileReport} (h : (generator.generateFile file tree).answer = .ok report) :
    FileRests generator (generator.generateFile file tree).tree file report ∧
      TextAt {path | path ∈ paths} (generator.generateFile file tree).tree ∧
      ∃ place, Prepared generator (generator.generateFile file tree).tree place ∧
        (generator.generateFile file tree).tree.node? (place ++ [routingFileName]) =
          some (.file (Utf8.ofString (report.table.render generator.settings))) := by
  obtain ⟨made, outcomes, table, reached, hparts, rfl⟩ := generates_of_answer h
  obtain ⟨place, hprepared, rfl⟩ := prepared_of_openFresh hparts.opened
  have hfree := not_directory_of_openFresh hparts.opened
  have hservices : ∀ service ∈ file.services,
      filePath generator.settings.handlerPath (ServicePlan.of file service) ∈ paths :=
    fun service hservice => hpaths _ (filePath_mem_filePaths hservice)
  rw [hparts.directory] at ht
  have hrests := mergeServices_rests hscan hsteady hplain hservices ht hparts.merged hprepared.into
  have hemit := emit_appends generator paths table
    (generator.mergeServices file file.services .empty made).tree
  rw [emit_of_taken hparts.opened hparts.taken] at hemit
  rw [hparts.tree_eq]
  have hmerged : FileRests generator (generator.mergeServices file file.services .empty made).tree
      file ⟨file.name, outcomes, table, generator.tablePath⟩ :=
    ⟨rfl, rfl, ⟨made, hparts.merged⟩, hrests⟩
  refine ⟨hmerged.appends hplain hsteady hemit, ?_, place, hprepared.keeps hemit.keeps, ?_⟩
  · exact (textAt_mergeServices hservices ht).put_file hfree (Utf8.isText_encode _)
  · exact node?_put_self (by simp) _ _

theorem generate_rests (hscan : generator.scan = scanLines) (hsteady : Steady generator paths)
    {files : List SourceFile} (heligible : ∀ file ∈ files, file.eligible = true)
    (hplain : ∀ file ∈ files, ∀ service ∈ file.services,
      Recognizable (ServicePlan.of file service))
    (hpaths : ∀ path ∈ generator.handlerPaths files, path ∈ paths)
    (ht : TextAt {path | path ∈ paths}
      (tree.makeDirectories generator.settings.handlerPath).tree)
    {reports : List FileReport} (h : (generator.generate files tree).answer = .ok reports) :
    List.Forall₂ (FileRests generator (generator.generate files tree).tree) files reports ∧
      (files ≠ [] → ∃ place, Prepared generator (generator.generate files tree).tree place ∧
        ∀ content, (generator.generate files tree).tree.node? (place ++ [routingFileName]) =
          some (.file (lastTable generator content reports))) := by
  induction files generalizing tree reports with
  | nil =>
    cases h
    exact ⟨.nil, fun hne => absurd rfl hne⟩
  | cons file rest ih =>
    have hfile := heligible file List.mem_cons_self
    obtain ⟨report, later, rfl, hfirst, hrest⟩ := (answer_generate_cons_eq_ok_iff hfile).mp h
    rw [handlerPaths_cons hfile] at hpaths
    have hlater : ∀ path ∈ generator.handlerPaths rest, path ∈ paths :=
      fun path hpath => hpaths path (List.mem_append_right _ hpath)
    obtain ⟨hrests, htext, place, hprepared, htable⟩ := generateFile_rests hscan hsteady
      (hplain file List.mem_cons_self)
      (fun path hpath => hpaths path (List.mem_append_left _ hpath)) ht hfirst
    rw [tree_generate_cons hfile hfirst]
    have hagain : TextAt {path | path ∈ paths}
        ((generator.generateFile file tree).tree.makeDirectories
          generator.settings.handlerPath).tree := by
      rw [hprepared.makeDirectories_eq]
      exact htext
    obtain ⟨hforall, hlast⟩ := ih (fun f hf => heligible f (List.mem_cons_of_mem file hf))
      (fun f hf => hplain f (List.mem_cons_of_mem file hf)) hlater hagain hrest
    have happends := generate_appends generator hlater (generator.generateFile file tree).tree
    refine ⟨.cons (hrests.appends (hplain file List.mem_cons_self) hsteady happends) hforall,
      fun _ => ?_⟩
    cases rest with
    | nil =>
      rw [generate, Run.done, Except.ok.injEq] at hrest
      rw [← hrest, generate]
      refine ⟨place, hprepared, fun content => ?_⟩
      rw [lastTable_cons, lastTable_nil]
      exact htable
    | cons next others =>
      obtain ⟨place', hprepared', htable'⟩ := hlast (List.cons_ne_nil next others)
      refine ⟨place', hprepared', fun content => ?_⟩
      rw [lastTable_cons]
      exact htable' _

end Generator
end ServiceScaffold
