import Mathlib
import ServiceScaffold.Proofs.HandlerContents

/-!
# Distinct declarations

Services and methods are told apart by their Go names. Where those differ, no type and no method is
declared twice and the routing table has no method twice. Names that differ before they are put into
camel case can become equal, and then their stubs and their rows are doubled.
-/

namespace ServiceScaffold

open FileTree Handler

/-- What stands before and after a mark is determined, if the mark does not come earlier. -/
theorem append_mark_inj {α : Type} {mark : α} {a a' b b' : List α} (ha : mark ∉ a) (ha' : mark ∉ a')
    (h : a ++ mark :: b = a' ++ mark :: b') : a = a' ∧ b = b' := by
  induction a generalizing a' with
  | nil =>
    cases a' with
    | nil => exact ⟨rfl, (List.cons.inj h).2⟩
    | cons c cs => exact absurd ((List.cons.inj h).1 ▸ List.mem_cons_self) ha'
  | cons c cs ih =>
    cases a' with
    | nil => exact absurd ((List.cons.inj h).1 ▸ List.mem_cons_self) ha
    | cons c' cs' =>
      obtain ⟨rfl, htail⟩ := List.cons.inj h
      obtain ⟨rfl, rfl⟩ := ih (fun hm => ha (List.mem_cons_of_mem _ hm))
        (fun hm => ha' (List.mem_cons_of_mem _ hm)) htail
      exact ⟨rfl, rfl⟩

def ServicePlan.pairs (plan : ServicePlan) : List (String × String) :=
  plan.methods.map fun method => (plan.receiver, method.name)

namespace Routing.Table

theorem methodKeys_foldl_register (plans : List ServicePlan) :
    ((plans.foldl register empty).endpoints.map Endpoint.methodKey) =
      (plans.flatMap ServicePlan.pairs).map fun pair => pair.1 ++ "." ++ pair.2 := by
  rw [endpoints_foldl_register, empty, List.nil_append, List.map_flatMap, List.map_flatMap]
  simp [ServicePlan.pairs, Endpoint.of, Function.comp_def]

/-- If types have no dots, then the rows have different keys just if their methods differ. -/
theorem nodup_methodKeys_iff {plans : List ServicePlan}
    (hdots : ∀ plan ∈ plans, '.' ∉ plan.receiver.toList) :
    ((plans.foldl register empty).endpoints.map Endpoint.methodKey).Nodup ↔
      (plans.flatMap ServicePlan.pairs).Nodup := by
  rw [methodKeys_foldl_register]
  refine ⟨List.Nodup.of_map _, fun h => h.map_on ?_⟩
  have hclear : ∀ pair ∈ plans.flatMap ServicePlan.pairs, '.' ∉ pair.1.toList := by
    intro pair hpair
    obtain ⟨plan, hplan, hmethod⟩ := List.mem_flatMap.mp hpair
    obtain ⟨method, -, rfl⟩ := List.mem_map.mp hmethod
    exact hdots plan hplan
  rintro ⟨receiver, method⟩ h ⟨receiver', method'⟩ h' heq
  have hdot : ".".toList = ['.'] := by decide
  have hchars := congrArg String.toList heq
  simp only [String.toList_append, List.append_assoc, hdot, List.singleton_append] at hchars
  obtain ⟨hreceiver, hmethod⟩ := append_mark_inj (hclear _ h) (hclear _ h') hchars
  exact Prod.ext (String.toList_inj.mp hreceiver) (String.toList_inj.mp hmethod)

end Routing.Table

theorem nodup_pairs {plans : List ServicePlan} (hplans : (plans.map ServicePlan.receiver).Nodup)
    (hmethods : ∀ plan ∈ plans, (plan.methods.map MethodPlan.name).Nodup) :
    (plans.flatMap ServicePlan.pairs).Nodup := by
  rw [List.nodup_flatMap]
  refine ⟨fun plan hplan => ?_, (List.pairwise_map.mp hplans).imp fun hne pair hpair hpair' => ?_⟩
  · refine List.Nodup.of_map Prod.snd ?_
    simpa [ServicePlan.pairs, Function.comp_def] using hmethods plan hplan
  · obtain ⟨_, -, rfl⟩ := List.mem_map.mp hpair
    obtain ⟨_, -, heq⟩ := List.mem_map.mp hpair'
    exact hne (Prod.mk.inj heq).1.symm

theorem sublist_mergedPlans (file : SourceFile) (services : List Service)
    (outcomes : List Outcome) :
    (mergedPlans file services outcomes).Sublist (services.map (ServicePlan.of file)) := by
  induction services generalizing outcomes with
  | nil => simp [mergedPlans]
  | cons service rest ih =>
    cases outcomes with
    | nil => simp [mergedPlans]
    | cons outcome later =>
      rw [mergedPlans_cons, List.map_cons]
      split
      · exact (ih later).cons_cons _
      · exact (ih later).cons _

namespace Handler

theorem receiver_of_mem_declarations {outcome : Outcome} {service : ServicePlan}
    {declaration : Declaration} (h : declaration ∈ outcome.declarations service) :
    declaration.receiver = service.receiver := by
  cases outcome with
  | skipped path reason => exact absurd h List.not_mem_nil
  | merged summary =>
    rw [Outcome.declarations, List.mem_append, List.mem_map] at h
    rcases h with h | ⟨_, -, rfl⟩
    · split at h
      · rw [List.mem_singleton.mp h]
      · exact absurd h List.not_mem_nil
    · rfl

theorem nodup_keys_declarations {service : ServicePlan}
    (h : (service.methods.map MethodPlan.name).Nodup) (outcome : Outcome) :
    ((outcome.declarations service).map Declaration.key).Nodup := by
  cases outcome with
  | skipped path reason => exact List.nodup_nil
  | merged summary =>
    have hadded : ((service.methods.filter fun method =>
        decide (method.name ∈ summary.appended)).map MethodPlan.name).Nodup :=
      h.sublist (List.filter_sublist.map _)
    have hmethods : (((service.methods.filter fun method =>
        decide (method.name ∈ summary.appended)).map fun method =>
          (⟨service.receiver, some method⟩ : Declaration)).map Declaration.key).Nodup := by
      refine List.Nodup.of_map (fun key => key.2.getD "") ?_
      simpa [Declaration.key, Function.comp_def] using hadded
    rw [Outcome.declarations, List.map_append]
    split
    · refine List.nodup_cons.mpr ⟨fun hmem => ?_, hmethods⟩
      obtain ⟨declaration, hmem, heq⟩ := List.mem_map.mp hmem
      obtain ⟨method, -, rfl⟩ := List.mem_map.mp hmem
      cases (Prod.mk.inj heq).2
    · exact hmethods

end Handler

theorem sublist_turns (file : SourceFile) (services : List Service) (outcomes : List Outcome) :
    ((turns file services outcomes).map Turn.service).Sublist services := by
  induction services generalizing outcomes with
  | nil => simp [turns]
  | cons service rest ih =>
    cases outcomes with
    | nil => simp [turns]
    | cons outcome later => exact (ih later).cons_cons service

@[simp] theorem names_of (file : SourceFile) (service : Service) :
    (ServicePlan.of file service).methods.map MethodPlan.name = service.methods.map Rpc.goName := by
  simp [ServicePlan.of, MethodPlan.of, Function.comp_def]

theorem nodup_keys_turns {file : SourceFile} {services : List Service}
    (hservices : (services.map Service.goName).Nodup)
    (hmethods : ∀ service ∈ services, (service.methods.map Rpc.goName).Nodup)
    (outcomes : List Outcome) :
    (((turns file services outcomes).flatMap Turn.declarations).map Declaration.key).Nodup := by
  have hsublist := sublist_turns file services outcomes
  have hfile : ∀ turn ∈ turns file services outcomes, turn.file = file := by
    intro turn hturn
    obtain ⟨_, -, rfl⟩ := List.mem_map.mp hturn
    rfl
  have hnames := hservices.sublist (hsublist.map Service.goName)
  rw [List.map_map] at hnames
  rw [List.map_flatMap, List.nodup_flatMap]
  refine ⟨fun turn hturn => ?_, (List.pairwise_map.mp hnames).imp fun hne key hkey hkey' => ?_⟩
  · refine nodup_keys_declarations ?_ turn.outcome
    rw [Turn.plan, names_of]
    exact hmethods _ (hsublist.subset (List.mem_map_of_mem hturn))
  · obtain ⟨declaration, hmem, rfl⟩ := List.mem_map.mp hkey
    obtain ⟨declaration', hmem', heq⟩ := List.mem_map.mp hkey'
    have hreceiver := (Prod.mk.inj heq).1
    rw [receiver_of_mem_declarations hmem, receiver_of_mem_declarations hmem'] at hreceiver
    exact hne hreceiver.symm

namespace Generator

variable {generator : Generator} {file : SourceFile} {tree : FileTree} {report : FileReport}

theorem nodup_methodKeys_of_generateFile
    (hdots : ∀ service ∈ file.services, '.' ∉ service.goName.toList)
    (hservices : (file.services.map Service.goName).Nodup)
    (hmethods : ∀ service ∈ file.services, (service.methods.map Rpc.goName).Nodup)
    (h : (generator.generateFile file tree).answer = .ok report) :
    (report.table.endpoints.map Routing.Endpoint.methodKey).Nodup := by
  have hsublist := sublist_mergedPlans file file.services report.outcomes
  have hplans : ∀ plan ∈ mergedPlans file file.services report.outcomes,
      ∃ service ∈ file.services, plan = ServicePlan.of file service := by
    intro plan hplan
    obtain ⟨service, hservice, rfl⟩ := List.mem_map.mp (hsublist.subset hplan)
    exact ⟨service, hservice, rfl⟩
  rw [(table_generateFile h).2, Routing.Table.nodup_methodKeys_iff]
  · refine nodup_pairs ?_ fun plan hplan => ?_
    · have hreceivers := hsublist.map ServicePlan.receiver
      rw [List.map_map] at hreceivers
      exact hservices.sublist hreceivers
    · obtain ⟨service, hservice, rfl⟩ := hplans plan hplan
      rw [names_of]
      exact hmethods service hservice
  · intro plan hplan
    obtain ⟨service, hservice, rfl⟩ := hplans plan hplan
    exact hdots service hservice

/-- A new handler file consists of a preamble and of declarations that are reported as added, in the
file of their receiver. -/
theorem exists_declared_of_generateFile
    (h : (generator.generateFile file tree).answer = .ok report) {place : Location}
    {content : Bytes} (hnew : ∀ old, tree.node? place ≠ some (.file old))
    (hcontent : (generator.generateFile file tree).tree.node? place = some (.file content))
    (htable : ¬(generator.generateFile file tree).tree.Leads generator.tablePath place) :
    ∃ before text declared, generator.preamble file before = .ok text ∧
      declared.Sublist ((turns file file.services report.outcomes).flatMap Turn.declarations) ∧
      (∀ declaration ∈ declared, (generator.generateFile file tree).tree.Leads
        (Path.join generator.settings.handlerPath (fileName declaration.receiver)) place) ∧
      content = Utf8.ofString text ++ Declaration.source declared := by
  obtain ⟨entries, hentries, ⟨first, rest, before, text, rfl, -, hasked, hcontent⟩, hleads⟩ :=
    composition_of_generateFile h hnew htable hcontent
  have hfirst : first.file = file := by
    obtain ⟨_, -, heq⟩ := List.mem_map.mp (hentries.subset List.mem_cons_self)
    rw [← heq]
  rw [hfirst] at hasked
  refine ⟨before, text, _, hasked, hentries.flatMap Turn.declarations,
    fun declaration hdeclaration => ?_, hcontent⟩
  obtain ⟨turn, hturn, hmem⟩ := List.mem_flatMap.mp hdeclaration
  have hturnLeads := hleads turn hturn
  rw [filePath, ← receiver_of_mem_declarations hmem] at hturnLeads
  exact hturnLeads

/-- If the services of a parsed file have different Go names, and the methods of each service too,
then the rows of its table have different keys, and no type and no method is added twice. A handler
file that is new consists of a preamble and of declarations that are reported as added, in the file
of their receiver. -/
theorem generateFile_distinct_declarations {source : Source} {files : List SourceFile}
    (hparse : source.parse = .ok files) {file : SourceFile} (hfile : file ∈ files)
    (hservices : (file.services.map Service.goName).Nodup)
    (hmethods : ∀ service ∈ file.services, (service.methods.map Rpc.goName).Nodup)
    {generator : Generator} {tree : FileTree} {report : FileReport}
    (h : (generator.generateFile file tree).answer = .ok report) :
    (report.table.endpoints.map Routing.Endpoint.methodKey).Nodup ∧
    (((turns file file.services report.outcomes).flatMap Turn.declarations).map
      Declaration.key).Nodup ∧
    ∀ place content, (∀ old, tree.node? place ≠ some (.file old)) →
      (generator.generateFile file tree).tree.node? place = some (.file content) →
      ¬(generator.generateFile file tree).tree.Leads generator.tablePath place →
      ∃ before text declared, generator.preamble file before = .ok text ∧
        declared.Sublist ((turns file file.services report.outcomes).flatMap Turn.declarations) ∧
        (∀ declaration ∈ declared, (generator.generateFile file tree).tree.Leads
          (Path.join generator.settings.handlerPath (fileName declaration.receiver)) place) ∧
        content = Utf8.ofString text ++ Declaration.source declared := by
  have hdots : ∀ service ∈ file.services, '.' ∉ service.goName.toList := by
    intro service hservice
    obtain ⟨⟨name, hname⟩, -⟩ := Source.goName_of_parse hparse file hfile service hservice
    rw [hname]
    exact Go.dot_not_mem_camelCase name
  refine ⟨nodup_methodKeys_of_generateFile hdots hservices hmethods h,
    nodup_keys_turns hservices hmethods _, fun place content hnew hcontent htable => ?_⟩
  exact exists_declared_of_generateFile h hnew hcontent htable

theorem not_leads_tablePath_of_getLast {generator : Generator} {tree : FileTree} {place : Location}
    (h : place.getLast? ≠ some routingFileName) : ¬tree.Leads generator.tablePath place := by
  intro hleads
  obtain ⟨dir, -, rfl, -⟩ := leadsInto_of_leads isEntry_routingFileName hleads
  simp at h

def shopSource : SourceFile :=
  ⟨"shop.proto", "shop", "shop", true,
    [⟨"Order", "shop.Order", [⟨"Get", "Get", "Req", "Req", false, false, none⟩,
      ⟨"List", "List", "Req", "Req", false, false, none⟩]⟩,
    ⟨"Item", "shop.Item", [⟨"Get", "Get", "Req", "Req", false, false, none⟩]⟩]⟩

theorem parseDeclared_shop :
    Source.parseDeclared [.named "shop" [("Order", ["Get", "List"]), ("Item", ["Get"])]] =
      .ok [shopSource] := by
  decide +kernel

theorem exists_file_of_any {tree : FileTree} {place : Location}
    (h : (tree.node? place).any (· ≠ .directory) = true) :
    ∃ content, tree.node? place = some (.file content) := by
  obtain ⟨node, hnode, hkind⟩ := Option.any_eq_true _ _ |>.mp h
  cases node with
  | directory => cases hkind
  | file content => exact ⟨content, hnode⟩

/-- Two services, of which one has two methods and the other one a method with the same name. -/
theorem generateFile_distinct_declarations_shop : ∃ report content text declared,
    (plainGenerator.generateFile shopSource ⟨[], []⟩).answer = .ok report ∧
    report.table.endpoints.map Routing.Endpoint.methodKey =
      ["Order.Get", "Order.List", "Item.Get"] ∧
    (report.table.endpoints.map Routing.Endpoint.methodKey).Nodup ∧
    (plainGenerator.generateFile shopSource ⟨[], []⟩).tree.node? ["order.go"] =
      some (.file content) ∧
    content = Utf8.ofString text ++ Declaration.source declared := by
  obtain ⟨source, -, hparse⟩ := Source.exists_pooled_of_parseDeclared parseDeclared_shop
  have hanswer : (plainGenerator.generateFile shopSource ⟨[], []⟩).answer.map
      (fun report => report.table.endpoints.map Routing.Endpoint.methodKey) =
        .ok ["Order.Get", "Order.List", "Item.Get"] := by decide +kernel
  obtain ⟨report, hreport, hrows⟩ := map_eq_ok_iff.mp hanswer
  have hfile : ((plainGenerator.generateFile shopSource ⟨[], []⟩).tree.node? ["order.go"]).any
      (· ≠ .directory) = true := by decide +kernel
  obtain ⟨content, hcontent⟩ := exists_file_of_any hfile
  obtain ⟨hkeys, -, hcomposed⟩ := generateFile_distinct_declarations hparse List.mem_cons_self
    (by decide) (by decide) hreport
  obtain ⟨_, text, declared, -, -, -, heq⟩ := hcomposed ["order.go"] content
    (by simp [FileTree.node?]) hcontent (not_leads_tablePath_of_getLast (by decide))
  exact ⟨report, content, text, declared, hreport, hrows, hkeys, hcontent, heq⟩

def doubledSource : SourceFile :=
  ⟨"shop.proto", "shop", "shop", true, [⟨"Order", "shop.Order",
    [⟨"get", "Get", "Req", "Req", false, false, none⟩,
      ⟨"Get", "Get", "Req", "Req", false, false, none⟩]⟩]⟩

theorem parseDeclared_doubled :
    Source.parseDeclared [.named "shop" [("Order", ["get", "Get"])]] = .ok [doubledSource] := by
  decide +kernel

/-- Different methods of a parsed service can be declared as one: the handler file then has two
declarations of the same method, and the routing table two rows with the same key. -/
theorem exists_doubled_declaration : ∃ (source : Source) (report : FileReport) (text : String)
    (declared : List Declaration), source.Pooled ∧ source.parse = .ok [doubledSource] ∧
    (doubledSource.services.map Service.fullName).Nodup ∧
    (∀ service ∈ doubledSource.services, (service.methods.map Rpc.name).Nodup) ∧
    (plainGenerator.generateFile doubledSource ⟨[], []⟩).answer = .ok report ∧
    (∀ outcome ∈ report.outcomes, outcome.isMerged = true) ∧
    ¬(report.table.endpoints.map Routing.Endpoint.methodKey).Nodup ∧
    (plainGenerator.generateFile doubledSource ⟨[], []⟩).tree.node? ["order.go"] =
      some (.file (Utf8.ofString text ++ Declaration.source declared)) ∧
    ¬(declared.map Declaration.key).Nodup := by
  obtain ⟨source, hpooled, hparse⟩ := Source.exists_pooled_of_parseDeclared parseDeclared_doubled
  have hanswer : (plainGenerator.generateFile doubledSource ⟨[], []⟩).answer.map
      (fun report => (report.outcomes, report.table.endpoints.map Routing.Endpoint.methodKey)) =
        .ok ([.merged ⟨"order.go", true, true, ["Get", "Get"], []⟩],
          ["Order.Get", "Order.Get"]) := by
    decide +kernel
  obtain ⟨report, hreport, hmap⟩ := map_eq_ok_iff.mp hanswer
  obtain ⟨houtcomes, hkeys⟩ := Prod.mk.inj hmap
  have hfile : ((plainGenerator.generateFile doubledSource ⟨[], []⟩).tree.node? ["order.go"]).any
      (· ≠ .directory) = true := by decide +kernel
  obtain ⟨content, hcontent⟩ := exists_file_of_any hfile
  obtain ⟨entries, hentries, ⟨first, rest, before, text, rfl, -, -, rfl⟩, -⟩ :=
    composition_of_generateFile hreport (by simp [FileTree.node?])
      (not_leads_tablePath_of_getLast (by decide)) hcontent
  rw [houtcomes] at hentries
  have hentry : first :: rest = turns doubledSource doubledSource.services
      [.merged ⟨"order.go", true, true, ["Get", "Get"], []⟩] :=
    hentries.eq_of_length_le (by simp [turns, doubledSource])
  refine ⟨source, report, text, _, hpooled, hparse, by decide, by decide, hreport, ?_, ?_,
    hcontent, ?_⟩
  · rw [houtcomes]
    decide
  · rw [hkeys]
    decide
  · rw [hentry]
    decide

end Generator
end ServiceScaffold
