import Mathlib
import ServiceScaffold.Proofs.DistinctNames

/-!
# Handler files and their owners

A handler file belongs to one service as long as no other service has a file of the same name. Then
its preamble imports the messages of that service's description file, and it declares nothing else.
Services of different packages, or with and without the word `Service`, can have the same file name,
and then the one that comes second adds its declarations under the first one's imports.
-/

namespace ServiceScaffold

open FileTree Handler

theorem mem_methods_of_mem_declarations {outcome : Outcome} {service : ServicePlan}
    {declaration : Declaration} (h : declaration ∈ outcome.declarations service)
    {method : MethodPlan} (hmethod : declaration.method = some method) :
    method ∈ service.methods := by
  cases outcome with
  | skipped path reason => exact absurd h List.not_mem_nil
  | merged summary =>
    rw [Outcome.declarations, List.mem_append, List.mem_map] at h
    rcases h with h | ⟨declared, hdeclared, rfl⟩
    · split at h
      · rw [List.mem_singleton.mp h] at hmethod
        cases hmethod
      · exact absurd h List.not_mem_nil
    · cases hmethod
      exact (List.mem_filter.mp hdeclared).1

theorem mem_runTurns {files : List SourceFile} {reports : List FileReport} {turn : Turn}
    (h : turn ∈ runTurns files reports) :
    turn.file ∈ files.filter SourceFile.eligible ∧ turn.service ∈ turn.file.services := by
  obtain ⟨⟨file, report⟩, hentry, hturn⟩ := List.mem_flatMap.mp h
  obtain ⟨⟨service, outcome⟩, hservice, rfl⟩ := List.mem_map.mp hturn
  exact ⟨(List.of_mem_zip hentry).1, (List.of_mem_zip hservice).1⟩

/-- A parsed service is known by its full name. -/
theorem eq_of_fullName {files : List SourceFile}
    (hnodup : (files.flatMap fun file => file.services.map Service.fullName).Nodup)
    {file file' : SourceFile} (hfile : file ∈ files) (hfile' : file' ∈ files)
    {service service' : Service} (hservice : service ∈ file.services)
    (hservice' : service' ∈ file'.services) (hname : service.fullName = service'.fullName) :
    file = file' ∧ service = service' := by
  obtain ⟨hfiles, hdisjoint⟩ := List.nodup_flatMap.mp hnodup
  have hsame : file = file' := by
    by_contra hne
    have : Std.Symm (Function.onFun List.Disjoint fun file : SourceFile =>
        file.services.map Service.fullName) := ⟨fun _ _ h => h.symm⟩
    have hapart := hdisjoint.forall hfile hfile' hne
    exact hapart (List.mem_map_of_mem hservice) (hname ▸ List.mem_map_of_mem hservice')
  subst hsame
  exact ⟨rfl, List.inj_on_of_nodup_map (hfiles file hfile) hservice hservice' hname⟩

namespace Generator

/-- If services with different full names have handler files with different names, then every
handler file that a run makes is one service's own: the preamble imports the messages of the
service's description file, and what follows declares the service's type and its methods. -/
theorem generate_handler_file_has_one_owner {source : Source} (hpooled : source.Pooled)
    {files : List SourceFile} (hparse : source.parse = .ok files)
    (hslash : ∀ file ∈ files.filter SourceFile.eligible, ∀ service ∈ file.services,
      '/' ∉ service.goName.toList)
    (hnames : ∀ file ∈ files.filter SourceFile.eligible, ∀ service ∈ file.services,
      ∀ other ∈ files.filter SourceFile.eligible, ∀ service' ∈ other.services,
      service.fullName ≠ service'.fullName →
        fileName service.goName ≠ fileName service'.goName)
    {generator : Generator} {tree : FileTree} {reports : List FileReport}
    (h : (generator.generate files tree).answer = .ok reports) {place : Location} {content : Bytes}
    (hnew : ∀ old, tree.node? place ≠ some (.file old))
    (hcontent : (generator.generate files tree).tree.node? place = some (.file content))
    (htable : ¬(generator.generate files tree).tree.Leads generator.tablePath place) :
    ∃ file ∈ files, ∃ service ∈ file.services, ∃ before messages declared,
      Appends generator.tablePath (generator.handlerPaths files) tree before ∧
      Go.messageImport generator.settings generator.resolve before file.goPackage = .ok messages ∧
      content = Utf8.ofString (header generator.settings messages) ++ Declaration.source declared ∧
      ∀ declaration ∈ declared, declaration.receiver = service.goName ∧
        ∀ method, declaration.method = some method →
          method ∈ (ServicePlan.of file service).methods := by
  obtain ⟨entries, hentries, ⟨first, rest, before, text, rfl, happends, hasked, hcomposed⟩,
    hleads⟩ := composition_of_generate h hnew htable hcontent
  obtain ⟨messages, himport, rfl⟩ := map_eq_ok_iff.mp hasked
  have hnodup := Source.nodup_fullName_of_parse hpooled hparse
  obtain ⟨hfile, hservice⟩ := mem_runTurns (hentries.subset (List.mem_cons_self (a := first)))
  have hmem {file : SourceFile} (h : file ∈ files.filter SourceFile.eligible) : file ∈ files :=
    (List.mem_filter.mp h).1
  -- Turns that lead to one place are turns of one service.
  have hsame : ∀ turn ∈ first :: rest, turn.file = first.file ∧ turn.service = first.service := by
    intro turn hturn
    obtain ⟨hfile', hservice'⟩ := mem_runTurns (hentries.subset hturn)
    refine eq_of_fullName hnodup (hmem hfile') (hmem hfile) hservice' hservice ?_
    by_contra hne
    exact ne_of_leads (isEntry_fileName (hslash _ hfile' _ hservice'))
      (isEntry_fileName (hslash _ hfile _ hservice))
      (hnames _ hfile' _ hservice' _ hfile _ hservice hne) (hleads turn hturn)
      (hleads first List.mem_cons_self) rfl
  refine ⟨first.file, hmem hfile, first.service, hservice, before, messages, _, happends, himport,
    hcomposed, fun declaration hdeclaration => ?_⟩
  obtain ⟨turn, hturn, hadded⟩ := List.mem_flatMap.mp hdeclaration
  rw [Turn.declarations, Turn.plan, (hsame turn hturn).1, (hsame turn hturn).2] at hadded
  exact ⟨receiver_of_mem_declarations hadded, fun _ => mem_methods_of_mem_declarations hadded⟩

/-- The handler files of two services. -/
theorem generate_handler_file_has_one_owner_shop : ∃ reports,
    (plainGenerator.generate [shopSource] ⟨[], []⟩).answer = .ok reports ∧
    ∀ name ∈ ["order.go", "item.go"],
      ∃ content messages declared, ∃ service ∈ shopSource.services,
        (plainGenerator.generate [shopSource] ⟨[], []⟩).tree.node? [name] = some (.file content) ∧
        content = Utf8.ofString (header plainGenerator.settings messages) ++
          Declaration.source declared ∧
        ∀ declaration ∈ declared, declaration.receiver = service.goName := by
  obtain ⟨source, hpooled, hparse⟩ := Source.exists_pooled_of_parseDeclared parseDeclared_shop
  have hanswer : (plainGenerator.generate [shopSource] ⟨[], []⟩).answer.map List.length =
      .ok 1 := by decide +kernel
  obtain ⟨reports, hreports, -⟩ := map_eq_ok_iff.mp hanswer
  have hfiles : ∀ name ∈ ["order.go", "item.go"],
      ((plainGenerator.generate [shopSource] ⟨[], []⟩).tree.node? [name]).any
        (· ≠ .directory) = true := by decide +kernel
  have hlast : ∀ name ∈ ["order.go", "item.go"], [name].getLast? ≠ some routingFileName := by
    decide
  refine ⟨reports, hreports, fun name hname => ?_⟩
  obtain ⟨content, hcontent⟩ := exists_file_of_any (hfiles name hname)
  obtain ⟨file, hmem, service, hservice, _, messages, declared, -, -, heq, hdeclared⟩ :=
    generate_handler_file_has_one_owner hpooled hparse (by decide) (by decide) hreports
      (by simp [FileTree.node?]) hcontent (not_leads_tablePath_of_getLast (hlast name hname))
  rw [List.mem_singleton.mp hmem] at hservice
  exact ⟨content, messages, declared, service, hservice, hcontent, heq,
    fun declaration hdeclaration => (hdeclared declaration hdeclaration).1⟩

def firstSource : SourceFile :=
  ⟨"a.proto", "a", "a", true, [⟨"Order", "a.Order", []⟩]⟩

def secondSource : SourceFile :=
  ⟨"b.proto", "b", "b", true, [⟨"OrderService", "b.OrderService", []⟩]⟩

theorem parseDeclared_shared :
    Source.parseDeclared [.named "a" [("Order", [])], .named "b" [("OrderService", [])]] =
      .ok [firstSource, secondSource] := by
  decide +kernel

/-- Parsed services can share a handler file: it then has the declarations of both, and imports the
messages of the first one's description file only. -/
theorem exists_shared_handler_file : ∃ source : Source, source.Pooled ∧
    source.parse = .ok [firstSource, secondSource] ∧
    (∃ reports, (plainGenerator.generate [firstSource, secondSource] ⟨[], []⟩).answer =
      .ok reports) ∧
    (plainGenerator.generate [firstSource, secondSource] ⟨[], []⟩).tree.node? ["order.go"] =
      some (.file (Utf8.ofString (header plainGenerator.settings "shop/a") ++
        Declaration.source [⟨"Order", none⟩, ⟨"OrderService", none⟩])) := by
  obtain ⟨source, hpooled, hparse⟩ := Source.exists_pooled_of_parseDeclared parseDeclared_shared
  have hanswer : (plainGenerator.generate [firstSource, secondSource] ⟨[], []⟩).answer.map
      List.length = .ok 2 := by decide +kernel
  obtain ⟨reports, hreports, -⟩ := map_eq_ok_iff.mp hanswer
  exact ⟨source, hpooled, hparse, ⟨reports, hreports⟩, by decide +kernel⟩

end Generator
end ServiceScaffold
