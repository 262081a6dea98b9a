import Mathlib
import ServiceScaffold.Proofs.MergeHistory
import ServiceScaffold.Proofs.SuccessfulRuns

/-!
# Routes and their handlers

The routing table and the handler files are written by different parts of a run. Every row of the
table stands for a declaration that the scan of a handler file finds, because a service gets its
rows only after its file has been written, and nothing is taken out of a file afterwards.
-/

namespace ServiceScaffold

open FileTree Handler

/-- Every row comes from a planned service whose handler file declares all of it. -/
structure Backed (dir : String) (plans : List ServicePlan) (tree : FileTree)
    (table : Routing.Table) : Prop where
  services : ∀ receiver ∈ table.services, ∃ plan ∈ plans,
    plan.receiver = receiver ∧ HoldsService tree dir plan
  endpoints : ∀ endpoint ∈ table.endpoints, ∃ plan ∈ plans, ∃ method ∈ plan.methods,
    Routing.Endpoint.of plan.receiver method = endpoint ∧ HoldsService tree dir plan

namespace Backed

variable {dir : String} {plans : List ServicePlan} {before after tree : FileTree}
  {table : Routing.Table}

theorem empty (dir : String) (plans : List ServicePlan) (tree : FileTree) :
    Backed dir plans tree .empty :=
  ⟨fun _ h => absurd h List.not_mem_nil, fun _ h => absurd h List.not_mem_nil⟩

theorem mono (h : Backed dir plans before table)
    (hkeep : ∀ plan ∈ plans, HoldsService before dir plan → HoldsService after dir plan) :
    Backed dir plans after table where
  services receiver hreceiver := by
    obtain ⟨plan, hplan, heq, hholds⟩ := h.services receiver hreceiver
    exact ⟨plan, hplan, heq, hkeep plan hplan hholds⟩
  endpoints endpoint hendpoint := by
    obtain ⟨plan, hplan, method, hmethod, heq, hholds⟩ := h.endpoints endpoint hendpoint
    exact ⟨plan, hplan, method, hmethod, heq, hkeep plan hplan hholds⟩

theorem register (h : Backed dir plans tree table) {plan : ServicePlan} (hplan : plan ∈ plans)
    (hholds : HoldsService tree dir plan) : Backed dir plans tree (table.register plan) where
  services receiver hreceiver := by
    rw [Routing.Table.services_register, List.mem_append, List.mem_singleton] at hreceiver
    rcases hreceiver with hold | rfl
    · exact h.services receiver hold
    · exact ⟨plan, hplan, rfl, hholds⟩
  endpoints endpoint hendpoint := by
    rw [Routing.Table.endpoints_register, List.mem_append, List.mem_map] at hendpoint
    rcases hendpoint with hold | ⟨method, hmethod, heq⟩
    · exact h.endpoints endpoint hold
    · exact ⟨plan, hplan, method, hmethod, heq, hholds⟩

/-- One merge keeps the table backed: it adds rows only for what it leaves in the file. -/
theorem merge {paths : Set String} (h : Backed dir plans tree table)
    (hplain : ∀ plan ∈ plans, Recognizable plan) (ht : TextAt paths tree)
    (hpaths : ∀ plan ∈ plans, filePath dir plan ∈ paths) {plan : ServicePlan} (hplan : plan ∈ plans)
    {preamble : Unit → Except Fault String} {outcome : Outcome}
    (hanswer : (Handler.merge scanLines dir plan preamble tree table).answer = .ok outcome) :
    Backed dir plans (Handler.merge scanLines dir plan preamble tree table).tree
      (Handler.merge scanLines dir plan preamble tree table).table := by
  cases outcome with
  | merged summary =>
    rw [table_of_merged hanswer]
    have hkept := h.mono fun other hother hholds =>
      hholds.merge (hplain other hother) ht (hpaths other hother) plan preamble table
    exact hkept.register hplan
      (holdsService_of_merged (hplain plan hplan) ht (hpaths plan hplan) hanswer)
  | skipped path reason =>
    rw [(unchanged_of_skipped hanswer).1, (unchanged_of_skipped hanswer).2]
    exact h

end Backed

namespace Generator

variable {generator : Generator} {file : SourceFile} {plans : List ServicePlan}
  {paths : Set String}

theorem mergeServices_backed (hscan : generator.scan = scanLines)
    (hplain : ∀ plan ∈ plans, Recognizable plan)
    (hpaths : ∀ plan ∈ plans, filePath generator.settings.handlerPath plan ∈ paths)
    {services : List Service} (hplans : ∀ service ∈ services, ServicePlan.of file service ∈ plans)
    {tree : FileTree} {table last : Routing.Table} {outcomes : List Outcome}
    (ht : TextAt paths tree) (h : Backed generator.settings.handlerPath plans tree table)
    (hanswer : (generator.mergeServices file services table tree).answer = .ok (outcomes, last)) :
    Backed generator.settings.handlerPath plans
      (generator.mergeServices file services table tree).tree last := by
  induction services generalizing tree table outcomes with
  | nil =>
    cases hanswer
    exact h
  | cons service rest ih =>
    obtain ⟨outcome, later, -, hmerge, hrest⟩ := answer_mergeServices_cons_eq_ok_iff.mp hanswer
    rw [tree_mergeServices_cons hmerge]
    have hplan := hplans service List.mem_cons_self
    rw [mergeOf, hscan] at hmerge hrest ⊢
    exact ih (fun s hs => hplans s (List.mem_cons_of_mem _ hs))
      (ht.merge scanLines (hpaths _ hplan) _ table) (h.merge hplain ht hpaths hplan hmerge) hrest

theorem holds_put_table {tree : FileTree} {place : Location} {content : Bytes} {name key : String}
    (hname : Path.IsEntry name) (hne : name ≠ routingFileName)
    (hopen : tree.openFresh generator.tablePath = .ok place)
    (h : Holds tree (Path.join generator.settings.handlerPath name) key) :
    Holds (tree.put place (.file content)) (Path.join generator.settings.handlerPath name) key := by
  obtain ⟨reached, old, hfind, hkey⟩ := h
  have hfree := not_directory_of_openFresh hopen
  have hkeeps := Keeps.put_file hfree content
  obtain ⟨node, hnode, hfind'⟩ := hkeeps.find hfind
  have hplaces : reached ≠ place :=
    ne_of_leads hname isEntry_routingFileName hne ⟨node, hfind'⟩
      ⟨_, find_put_of_openFresh hopen content⟩
  obtain ⟨-, -, -, hold⟩ := find_eq_ok_iff.mp hfind
  rw [node?_put_of_ne hplaces, hold, Option.some.injEq] at hnode
  subst hnode
  exact ⟨reached, old, hfind', hkey⟩

/-- No route without a handler: if a file is generated, the scan of a service's handler file finds
the type of every registered service, and the method of every endpoint. The handler files that are
there when the handler directory has been made have to be text. -/
theorem generateFile_routes_have_handlers {generator : Generator}
    (hscan : generator.scan = scanLines) {file : SourceFile}
    (hplain : ∀ service ∈ file.services, Recognizable (.of file service))
    (hname : ∀ service ∈ file.services, fileName service.goName ≠ routingFileName)
    {tree : FileTree}
    (ht : TextAt {path | path ∈ generator.filePaths file}
      (tree.makeDirectories generator.settings.handlerPath).tree)
    {report : FileReport} (h : (generator.generateFile file tree).answer = .ok report) :
    (∀ receiver ∈ report.table.services, ∃ content,
      (generator.generateFile file tree).tree.read
        (Path.join generator.settings.handlerPath (fileName receiver)) = .ok content ∧
      receiver ∈ scanLines content) ∧
    ∀ endpoint ∈ report.table.endpoints, ∃ receiver method content,
      IsPlain receiver ∧ IsPlain method ∧ endpoint.methodKey = receiver ++ "." ++ method ∧
      (generator.generateFile file tree).tree.read
        (Path.join generator.settings.handlerPath (fileName receiver)) = .ok content ∧
      methodKey receiver method ∈ scanLines content := by
  obtain ⟨made, outcomes, table, place, hparts, rfl⟩ := generates_of_answer h
  rw [hparts.tree_eq]
  rw [hparts.directory] at ht
  have hrecognizable : ∀ plan ∈ file.services.map (ServicePlan.of file), Recognizable plan :=
    List.forall_mem_map.mpr hplain
  have hpaths : ∀ plan ∈ file.services.map (ServicePlan.of file),
      filePath generator.settings.handlerPath plan ∈ {path | path ∈ generator.filePaths file} :=
    List.forall_mem_map.mpr fun service hservice => filePath_mem_filePaths hservice
  have hplans : ∀ service ∈ file.services,
      ServicePlan.of file service ∈ file.services.map (ServicePlan.of file) :=
    fun service hservice => List.mem_map_of_mem hservice
  have hbacked := mergeServices_backed hscan hrecognizable hpaths hplans ht
    (Backed.empty _ _ made) hparts.merged
  have hread : ∀ plan ∈ file.services.map (ServicePlan.of file), ∀ key,
      Holds (generator.mergeServices file file.services .empty made).tree
        (filePath generator.settings.handlerPath plan) key →
      ∃ content, ((generator.mergeServices file file.services .empty made).tree.put place
        (.file (Utf8.ofString (table.render generator.settings)))).read
          (filePath generator.settings.handlerPath plan) = .ok content ∧
        key ∈ scanLines content := by
    intro plan hplan key hholds
    obtain ⟨service, hservice, rfl⟩ := List.mem_map.mp hplan
    have hslash : '/' ∉ service.goName.toList :=
      (hplain service hservice).receiver.not_mem (by decide)
    obtain ⟨reached, content, hfind, hkey⟩ :=
      holds_put_table (isEntry_fileName hslash) (hname service hservice) hparts.opened hholds
    exact ⟨content, read_eq_ok_iff.mpr ⟨reached, hfind⟩, hkey⟩
  constructor
  · intro receiver hreceiver
    obtain ⟨plan, hplan, rfl, hholds⟩ := hbacked.services receiver hreceiver
    exact hread plan hplan _ hholds.receiver
  · intro endpoint hendpoint
    obtain ⟨plan, hplan, method, hmethod, rfl, hholds⟩ := hbacked.endpoints endpoint hendpoint
    obtain ⟨content, hcontent, hkey⟩ := hread plan hplan _ (hholds.methods method hmethod)
    exact ⟨plan.receiver, method.name, content, (hrecognizable plan hplan).receiver,
      (hrecognizable plan hplan).methods method hmethod, rfl, hcontent, hkey⟩

def plainGenerator : Generator where
  settings := { handlerPath := "", module := some "shop" }

def ordersSource : SourceFile :=
  ⟨"order.proto", "order", "order", true,
    [⟨"Order", "order.Order", [⟨"Get", "Get", "Req", "Resp", false, false, none⟩]⟩]⟩

/-- The routes of a service whose handler file was begun by hand. -/
theorem generateFile_routes_have_handlers_orders : ∃ report content,
    (plainGenerator.generateFile ordersSource (ordersTree "package handler")).answer =
      .ok report ∧ "Order" ∈ report.table.services ∧
    (plainGenerator.generateFile ordersSource (ordersTree "package handler")).tree.read
      "order.go" = .ok content ∧ "Order" ∈ scanLines content := by
  have hanswer : (plainGenerator.generateFile ordersSource
      (ordersTree "package handler")).answer.map (fun report => report.table.services) =
        .ok ["Order"] := by decide +kernel
  obtain ⟨report, hreport, hservices⟩ := map_eq_ok_iff.mp hanswer
  have hpaths : plainGenerator.filePaths ordersSource = ["order.go"] := by decide +kernel
  have hplain : ∀ service ∈ ordersSource.services, Recognizable (.of ordersSource service) := by
    intro service hservice
    rw [List.mem_singleton.mp hservice]
    exact ⟨by decide, by decide, by decide⟩
  have htext : TextAt {path | path ∈ plainGenerator.filePaths ordersSource}
      (ordersTree "package handler") := by
    intro path hpath
    rw [hpaths] at hpath
    exact textAt_ordersTree _ path (List.mem_singleton.mp hpath)
  have hmember : "Order" ∈ report.table.services := by simp [hservices]
  have hscan : plainGenerator.scan = scanLines := rfl
  obtain ⟨content, hread, hkey⟩ :=
    (generateFile_routes_have_handlers hscan hplain (by decide) htext hreport).1 "Order" hmember
  exact ⟨report, content, hreport, hmember, hread, hkey⟩

end Generator
end ServiceScaffold
