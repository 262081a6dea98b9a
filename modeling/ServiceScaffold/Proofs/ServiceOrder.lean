import Mathlib
import ServiceScaffold.Proofs.Regeneration
import ServiceScaffold.Proofs.SkippedServices
import ServiceScaffold.Proofs.StoppedRuns

/-!
# The order of services

What becomes of a service depends on its own entry of the handler directory and on what the
resolver finds. So services with different handler files do not meet: each has the outcome that it
would have alone, and their order shows in nothing but the routing table.
-/

namespace ServiceScaffold

open FileTree Handler

namespace FileTree

variable {tree first second : FileTree} {dir name : String} {place : Location}

theorem LeadsInto.unique {reached : Location} (h : LeadsInto tree dir place)
    (h' : LeadsInto tree dir reached) : place = reached :=
  Except.ok.inj (h.walked.symm.trans h'.walked)

theorem node?_put_congr {reached other : Location} (hreached : reached ≠ [])
    (h : other ≠ reached → second.node? other = first.node? other) (node : Node) :
    (second.put reached node).node? other = (first.put reached node).node? other := by
  by_cases hother : other = reached
  · subst hother
    rw [node?_put_self hreached, node?_put_self hreached]
  · rw [node?_put_of_ne hother, node?_put_of_ne hother, h hother]

theorem find_join (h : LeadsInto tree dir place) (hn : Path.IsEntry name) :
    tree.find (Path.join dir name) = checkPath (Path.join dir name) >>= fun _ =>
      if Path.maxNameSize < Path.size name then .error .nameTooLong
      else (tree.node? (place ++ [name])).elim (.error .noEntry) fun node =>
        .ok (place ++ [name], node) := by
  cases hcheck : checkPath (Path.join dir name) with
  | error refusal => simp [FileTree.find, hcheck, bind, Except.bind]
  | ok u =>
    have hwalked := h.walked
    rw [walk] at hwalked
    simp only [FileTree.find, hcheck, Path.steps_join dir hn, origin_join tree dir hn, walk,
      List.foldlM_append, List.foldlM_cons, List.foldlM_nil, hwalked, bind, Except.bind, pure,
      Except.pure, step, child_of_directory h.directory, if_neg hn.proper.1, if_neg hn.proper.2,
      Path.endsInSlash_join dir hn]
    by_cases hlong : Path.maxNameSize < Path.size name
    · simp [hlong]
    · cases hnode : tree.node? (place ++ [name]) <;> simp [hlong, hnode]

theorem find_join_congr (h : LeadsInto first dir place) (h' : LeadsInto second dir place)
    (hn : Path.IsEntry name) (hnode : second.node? (place ++ [name]) = first.node? (place ++ [name])) :
    second.find (Path.join dir name) = first.find (Path.join dir name) := by
  rw [find_join h hn, find_join h' hn, hnode]

theorem read_of_find {path : String} (h : second.find path = first.find path) :
    second.read path = first.read path := by
  rw [FileTree.read, openExisting, h, FileTree.read, openExisting]

end FileTree

namespace Generator

variable {generator : Generator} {file : SourceFile} {paths : List String}
  {tree first second start : FileTree} {place : Location} {service : Service}
  {services : List Service} {outcomes : List Outcome} {table last : Routing.Table}

/-- Writing one of these files makes no difference to what the resolver finds. So it is if the
answer depends on the directory alone, and also if it is read from module files. -/
def Indifferent (generator : Generator) (paths : List String) : Prop :=
  ∀ tree place content path, path ∈ paths → tree.node? place ≠ some .directory →
    (tree.put place (.file content)).find path = .ok (place, .file content) →
    ∀ dir name, generator.resolve (tree.put place (.file content)) dir = .ok name ↔
      generator.resolve tree dir = .ok name

theorem indifferent_of_path_only (h : ∀ before after dir,
    generator.resolve before dir = generator.resolve after dir) (paths : List String) :
    Indifferent generator paths :=
  fun tree _ _ _ _ _ _ dir name => by rw [h _ tree dir]

theorem indifferent_moduleFile (hresolve : generator.resolve = Go.moduleFile)
    (hslash : ∀ service ∈ file.services, '/' ∉ service.goName.toList) :
    Indifferent generator (generator.filePaths file) := by
  intro tree place content path hpath hfree hwritten dir name
  obtain ⟨service, hservice, rfl⟩ := List.mem_map.mp hpath
  have hentry : Path.IsEntry "go.mod" := ⟨by decide, by decide, by decide⟩
  have hother {reached : Location}
      (hleads : (tree.put place (.file content)).Leads (Path.join dir "go.mod") reached) :
      reached ≠ place := by
    obtain ⟨above, -, rfl, -⟩ := leadsInto_of_leads hentry hleads
    obtain ⟨above', -, rfl, -⟩ :=
      leadsInto_of_leads (isEntry_fileName (hslash service hservice)) ⟨_, hwritten⟩
    intro heq
    exact fileName_ne_goMod service.goName (last_eq_of_append_eq heq).symm
  rw [hresolve]
  constructor
  · refine moduleFile_of_read fun text hread => ?_
    obtain ⟨reached, hfind⟩ := read_eq_ok_iff.mp hread
    rcases find_put_file hfree hfind with ⟨hsame, -⟩ | hbefore
    · exact absurd hsame (hother ⟨_, hfind⟩)
    · exact read_eq_ok_iff.mpr ⟨reached, hbefore⟩
  · refine moduleFile_of_read fun text hread => ?_
    obtain ⟨reached, hfind⟩ := read_eq_ok_iff.mp hread
    obtain ⟨node, hnode, hfind'⟩ := (Keeps.put_file hfree content).find hfind
    rw [node?_put_of_ne (hother ⟨node, hfind'⟩), (find_eq_ok_iff.mp hfind).2.2.2,
      Option.some.injEq] at hnode
    exact read_eq_ok_iff.mpr ⟨reached, hnode ▸ hfind'⟩

/-- Two trees between which the merge of a service cannot tell, since the entry `name` of the
handler directory is the same in both and so is what the resolver finds. -/
structure Alike (generator : Generator) (place : Location) (name : String)
    (first second : FileTree) : Prop where
  intoFirst : LeadsInto first generator.settings.handlerPath place
  intoSecond : LeadsInto second generator.settings.handlerPath place
  node : second.node? (place ++ [name]) = first.node? (place ++ [name])
  resolved (dir found : String) :
    generator.resolve second dir = .ok found ↔ generator.resolve first dir = .ok found

namespace Alike

theorem symm {name : String} (h : Alike generator place name first second) :
    Alike generator place name second first :=
  ⟨h.intoSecond, h.intoFirst, h.node.symm, fun dir found => (h.resolved dir found).symm⟩

theorem refl {name : String} (h : LeadsInto tree generator.settings.handlerPath place) :
    Alike generator place name tree tree :=
  ⟨h, h, rfl, fun _ _ => Iff.rfl⟩

theorem find {name : String} (h : Alike generator place name first second)
    (hn : Path.IsEntry name) :
    second.find (Path.join generator.settings.handlerPath name) =
      first.find (Path.join generator.settings.handlerPath name) :=
  find_join_congr h.intoFirst h.intoSecond hn h.node

theorem openFresh {name : String} (h : Alike generator place name first second)
    (hn : Path.IsEntry name) :
    second.openFresh (Path.join generator.settings.handlerPath name) =
      first.openFresh (Path.join generator.settings.handlerPath name) := by
  rw [openFresh_join h.intoFirst hn, openFresh_join h.intoSecond hn, h.node]

theorem mergeOf (h : Alike generator place (fileName service.goName) first second)
    (hslash : '/' ∉ service.goName.toList) {outcome : Outcome}
    (hmerge : (generator.mergeOf file service table first).answer = .ok outcome)
    (table' : Routing.Table) :
    (generator.mergeOf file service table' second).answer = .ok outcome ∧
      (generator.mergeOf file service table' second).tree.node?
          (place ++ [fileName service.goName]) =
        (generator.mergeOf file service table first).tree.node?
          (place ++ [fileName service.goName]) := by
  have hentry := isEntry_fileName hslash
  have hfind : second.find (filePath generator.settings.handlerPath (ServicePlan.of file service)) =
      first.find (filePath generator.settings.handlerPath (ServicePlan.of file service)) :=
    h.find hentry
  have hopen : second.openFresh
        (filePath generator.settings.handlerPath (ServicePlan.of file service)) =
      first.openFresh (filePath generator.settings.handlerPath (ServicePlan.of file service)) :=
    h.openFresh hentry
  have hexists : second.exists?
        (filePath generator.settings.handlerPath (ServicePlan.of file service)) =
      first.exists? (filePath generator.settings.handlerPath (ServicePlan.of file service)) := by
    rw [exists?, exists?, hfind]
  have hasked {text : String} (hpreamble : generator.preamble file first = .ok text) :
      generator.preamble file second = .ok text :=
    preamble_of_resolve (fun dir found => (h.resolved dir found).mpr) hpreamble
  have hstep := mergeStep_merge generator.scan generator.settings.handlerPath
    (ServicePlan.of file service) (fun _ => generator.preamble file first) first table
  rw [Generator.mergeOf] at hmerge
  simp only [Generator.mergeOf]
  generalize Handler.merge generator.scan generator.settings.handlerPath
    (ServicePlan.of file service) (fun _ => generator.preamble file first) first table = result
    at hmerge hstep ⊢
  cases hstep with
  | stopped => cases hmerge
  | blocked found =>
    rw [merge_of_directory (hfind.trans found)]
    exact ⟨hmerge, h.node⟩
  | refused absent asked opened =>
    rw [merge_of_refused (hexists.trans absent) (hasked asked) (hopen.trans opened)]
    exact ⟨hmerge, h.node⟩
  | @created text reached absent asked opened =>
    have hfree : first.node? reached ≠ some .directory := by
      simp [node?_eq_none_of_openFresh absent opened]
    rw [merge_of_opened (hexists.trans absent) (hasked asked) (hopen.trans opened)]
    rw [answer_extend] at hmerge ⊢
    exact ⟨hmerge, node?_put_congr (ne_nil_of_not_directory hfree) (fun _ => h.node) _⟩
  | @extended reached content found =>
    have hfree : first.node? reached ≠ some .directory := by
      simp [(find_eq_ok_iff.mp found).2.2.2]
    rw [merge_of_find (hfind.trans found)]
    rw [answer_extend] at hmerge ⊢
    exact ⟨hmerge, node?_put_congr (ne_nil_of_not_directory hfree) (fun _ => h.node) _⟩

end Alike

theorem node?_mergeOf_of_ne (hinto : LeadsInto tree generator.settings.handlerPath place)
    (hslash : '/' ∉ service.goName.toList) {other : Location}
    (hother : other ≠ place ++ [fileName service.goName]) :
    (generator.mergeOf file service table tree).tree.node? other = tree.node? other := by
  have hwrites : Writes [filePath generator.settings.handlerPath (ServicePlan.of file service)] tree
      (generator.mergeOf file service table tree).tree := by
    rw [mergeOf]
    exact .merge generator.scan _ tree table List.mem_cons_self .sound
  by_contra hchanged
  obtain ⟨path, hpath, hleads⟩ := hwrites.written hchanged
  rw [List.mem_singleton.mp hpath] at hleads
  obtain ⟨above, habove, rfl, -⟩ := leadsInto_of_leads (isEntry_fileName hslash) hleads
  obtain rfl := (hwrites.keeps.leadsInto hinto).unique habove
  exact hother rfl

theorem mergeOf_appends
    (hpath : filePath generator.settings.handlerPath (ServicePlan.of file service) ∈ paths) :
    Appends generator.tablePath paths tree (generator.mergeOf file service table tree).tree := by
  rw [mergeOf]
  exact .merge generator.scan _ tree table hpath

theorem alike_mergeOf (hindifferent : Indifferent generator paths)
    (hpath : filePath generator.settings.handlerPath (ServicePlan.of file service) ∈ paths)
    (hinto : LeadsInto tree generator.settings.handlerPath place)
    (hslash : '/' ∉ service.goName.toList) {name : String} (hname : name ≠ fileName service.goName) :
    Alike generator place name tree (generator.mergeOf file service table tree).tree := by
  have hnode : (generator.mergeOf file service table tree).tree.node? (place ++ [name]) =
      tree.node? (place ++ [name]) := by
    refine node?_mergeOf_of_ne hinto hslash fun heq => hname ?_
    exact last_eq_of_append_eq heq
  refine ⟨hinto, (mergeOf_appends hpath).keeps.leadsInto hinto, hnode, fun dir found => ?_⟩
  have hstep := mergeStep_merge generator.scan generator.settings.handlerPath
    (ServicePlan.of file service) (fun _ => generator.preamble file tree) tree table
  rw [mergeOf]
  generalize Handler.merge generator.scan generator.settings.handlerPath
    (ServicePlan.of file service) (fun _ => generator.preamble file tree) tree table = result
    at hstep ⊢
  cases hstep with
  | stopped | blocked | refused => exact Iff.rfl
  | created absent asked opened =>
    rw [tree_extend]
    exact hindifferent _ _ _ _ hpath (by simp [node?_eq_none_of_openFresh absent opened])
      (find_put_of_openFresh opened _) dir found
  | extended found' =>
    rw [tree_extend]
    exact hindifferent _ _ _ _ hpath (by simp [(find_eq_ok_iff.mp found').2.2.2])
      (find_put_of_find found' _) dir found

def alone? (generator : Generator) (file : SourceFile) (tree : FileTree) (service : Service) :
    Option Outcome :=
  (generator.mergeOf file service .empty tree).answer.toOption

theorem alone?_eq_some_iff {outcome : Outcome} :
    generator.alone? file tree service = some outcome ↔
      (generator.mergeOf file service .empty tree).answer = .ok outcome := by
  rw [alone?]
  cases (generator.mergeOf file service .empty tree).answer <;> simp [Except.toOption]

theorem Alike.alone? (h : Alike generator place (fileName service.goName) first second)
    (hslash : '/' ∉ service.goName.toList) :
    generator.alone? file second service = generator.alone? file first service := by
  ext outcome
  rw [alone?_eq_some_iff, alone?_eq_some_iff]
  exact ⟨fun hmerge => (h.symm.mergeOf hslash hmerge .empty).1,
    fun hmerge => (h.mergeOf hslash hmerge .empty).1⟩

/-- What the independence of services rests on. -/
structure Apart (generator : Generator) (file : SourceFile) (paths : List String)
    (place : Location) (services : List Service) (start : FileTree) : Prop where
  indifferent : Indifferent generator paths
  paths : ∀ service ∈ services,
    filePath generator.settings.handlerPath (ServicePlan.of file service) ∈ paths
  slash : ∀ service ∈ services, '/' ∉ service.goName.toList
  names : (services.map fun service => fileName service.goName).Nodup
  into : LeadsInto start generator.settings.handlerPath place

namespace Apart

theorem alike (h : Apart generator file paths place (service :: services) start)
    (table : Routing.Table) {other : Service} (hother : other ∈ services) :
    Alike generator place (fileName other.goName) start
      (generator.mergeOf file service table start).tree := by
  refine alike_mergeOf h.indifferent (h.paths service List.mem_cons_self) h.into
    (h.slash service List.mem_cons_self) fun heq => ?_
  have hnames := h.names
  rw [List.map_cons, List.nodup_cons] at hnames
  exact hnames.1 (List.mem_map.mpr ⟨other, hother, heq⟩)

theorem tail (h : Apart generator file paths place (service :: services) start)
    (table : Routing.Table) :
    Apart generator file paths place services (generator.mergeOf file service table start).tree where
  indifferent := h.indifferent
  paths other hother := h.paths other (List.mem_cons_of_mem service hother)
  slash other hother := h.slash other (List.mem_cons_of_mem service hother)
  names := (List.nodup_cons.mp h.names).2
  into := (mergeOf_appends (h.paths service List.mem_cons_self)).keeps.leadsInto h.into

theorem of_perm {others : List Service} (h : Apart generator file paths place services start)
    (hperm : others.Perm services) : Apart generator file paths place others start where
  indifferent := h.indifferent
  paths service hservice := h.paths service (hperm.subset hservice)
  slash service hservice := h.slash service (hperm.subset hservice)
  names := (hperm.map _).nodup_iff.mpr h.names
  into := h.into

/-- The merges of services succeed if each would succeed alone, and have the same outcomes. -/
theorem answer_mergeServices_iff (h : Apart generator file paths place services start)
    (table : Routing.Table) :
    (∃ last, (generator.mergeServices file services table start).answer = .ok (outcomes, last)) ↔
      services.map (generator.alone? file start) = outcomes.map some := by
  induction services generalizing start table outcomes with
  | nil =>
    simp only [mergeServices, Run.done, Except.ok.injEq, Prod.mk.injEq, exists_and_left,
      exists_eq', and_true, List.map_nil]
    exact ⟨fun heq => by rw [← heq, List.map_nil], fun heq => (List.map_eq_nil_iff.mp heq.symm).symm⟩
  | cons service rest ih =>
    have hslash := h.slash service List.mem_cons_self
    have hfirst (outcome : Outcome) :
        (generator.mergeOf file service table start).answer = .ok outcome ↔
          generator.alone? file start service = some outcome := by
      rw [alone?_eq_some_iff]
      exact ⟨fun hmerge => ((Alike.refl h.into).mergeOf hslash hmerge .empty).1,
        fun hmerge => ((Alike.refl h.into).mergeOf hslash hmerge table).1⟩
    have hrest : rest.map (generator.alone? file (generator.mergeOf file service table start).tree) =
        rest.map (generator.alone? file start) := by
      refine List.map_congr_left fun other hother => ?_
      exact (h.alike table hother).alone? (h.slash other (List.mem_cons_of_mem service hother))
    simp only [answer_mergeServices_cons_eq_ok_iff, hfirst, List.map_cons]
    constructor
    · rintro ⟨last, outcome, later, rfl, hmerge, hlater⟩
      rw [List.map_cons, hmerge, ← hrest, (ih (h.tail table) _).mp ⟨last, hlater⟩]
    · intro heq
      obtain ⟨outcome, later, rfl, houtcome, hlater⟩ := List.map_eq_cons_iff.mp heq.symm
      rw [← hrest] at hlater
      obtain ⟨last, hanswer⟩ := (ih (h.tail table) _).mpr hlater.symm
      exact ⟨last, outcome, later, rfl, houtcome.symm, hanswer⟩

theorem node?_entry (h : Apart generator file paths place services start)
    (hanswer : (generator.mergeServices file services table start).answer = .ok (outcomes, last)) :
    (∀ service ∈ services,
      (generator.mergeServices file services table start).tree.node?
          (place ++ [fileName service.goName]) =
        (generator.mergeOf file service .empty start).tree.node?
          (place ++ [fileName service.goName])) ∧
    ∀ other, (∀ service ∈ services, other ≠ place ++ [fileName service.goName]) →
      (generator.mergeServices file services table start).tree.node? other = start.node? other := by
  induction services generalizing start table outcomes with
  | nil => exact ⟨fun _ hservice => absurd hservice List.not_mem_nil, fun _ _ => rfl⟩
  | cons service rest ih =>
    obtain ⟨outcome, later, rfl, hmerge, hlater⟩ := answer_mergeServices_cons_eq_ok_iff.mp hanswer
    rw [tree_mergeServices_cons hmerge]
    obtain ⟨hentries, hothers⟩ := ih (h.tail table) hlater
    have hslash := h.slash service List.mem_cons_self
    refine ⟨List.forall_mem_cons.mpr ⟨?_, fun other hother => ?_⟩, fun other hother => ?_⟩
    · have hnames := (List.nodup_cons.mp h.names).1
      rw [hothers]
      · exact ((Alike.refl h.into).mergeOf hslash hmerge .empty).2.symm
      · intro other hother heq
        have hname := last_eq_of_append_eq heq
        exact hnames (List.mem_map.mpr ⟨other, hother, hname.symm⟩)
    · have hsome : ∃ alone, generator.alone? file start other = some alone := by
        have hmem := List.mem_map_of_mem (f := generator.alone? file start)
          (List.mem_cons_of_mem service hother)
        rw [(h.answer_mergeServices_iff table).mp ⟨last, hanswer⟩] at hmem
        obtain ⟨alone, -, halone⟩ := List.mem_map.mp hmem
        exact ⟨alone, halone.symm⟩
      obtain ⟨alone, halone⟩ := hsome
      rw [hentries other hother]
      exact ((h.alike table hother).mergeOf (h.slash other (List.mem_cons_of_mem service hother))
        (alone?_eq_some_iff.mp halone) .empty).2
    · rw [List.forall_mem_cons] at hother
      rw [hothers other hother.2, node?_mergeOf_of_ne h.into hslash hother.1]

/-- In another order, the same is left everywhere. -/
theorem node?_of_perm (h : Apart generator file paths place services start)
    {others : List Service} (hperm : others.Perm services) {outcomes' : List Outcome}
    {last' : Routing.Table}
    (hanswer : (generator.mergeServices file services table start).answer = .ok (outcomes, last))
    (hanswer' : (generator.mergeServices file others table start).answer = .ok (outcomes', last'))
    (other : Location) :
    (generator.mergeServices file others table start).tree.node? other =
      (generator.mergeServices file services table start).tree.node? other := by
  obtain ⟨hentries, hothers⟩ := h.node?_entry hanswer
  obtain ⟨hentries', hothers'⟩ := (h.of_perm hperm).node?_entry hanswer'
  by_cases hentry : ∃ service ∈ services, other = place ++ [fileName service.goName]
  · obtain ⟨service, hservice, rfl⟩ := hentry
    rw [hentries' service (hperm.symm.subset hservice), hentries service hservice]
  · have hnone : ∀ service ∈ services, other ≠ place ++ [fileName service.goName] :=
      fun service hservice heq => hentry ⟨service, hservice, heq⟩
    rw [hothers other hnone, hothers' other fun service hservice =>
      hnone service (hperm.subset hservice)]

theorem exists_outcomeOf (h : Apart generator file paths place services start)
    (hanswer : (generator.mergeServices file services table start).answer = .ok (outcomes, last)) :
    ∃ outcomeOf : Service → Outcome, outcomes = services.map outcomeOf ∧
      ∀ service ∈ services, generator.alone? file start service = some (outcomeOf service) := by
  have halone := (h.answer_mergeServices_iff table).mp ⟨last, hanswer⟩
  have hsome : ∀ service ∈ services, generator.alone? file start service =
      some ((generator.alone? file start service).getD (.skipped "" .noEntry)) := by
    intro service hservice
    have hmem := List.mem_map_of_mem (f := generator.alone? file start) hservice
    rw [halone] at hmem
    obtain ⟨outcome, -, houtcome⟩ := List.mem_map.mp hmem
    rw [← houtcome, Option.getD_some]
  refine ⟨_, ?_, hsome⟩
  refine List.map_injective_iff.mpr (Option.some_injective Outcome) ?_
  rw [← halone, List.map_map]
  exact List.map_congr_left hsome

end Apart

end Generator

def Service.endpoints (service : Service) : List Routing.Endpoint :=
  service.methods.map fun rpc => .of service.goName (.of service rpc)

/-- The report of a file whose services have these outcomes. The table has the services that were
merged in the order of the file, and so it has their blocks of rows. -/
structure Ordered (generator : Generator) (outcomeOf : Service → Outcome) (file : SourceFile)
    (report : FileReport) : Prop where
  source : report.source = file.name
  tablePath : report.tablePath = generator.tablePath
  outcomes : report.outcomes = file.services.map outcomeOf
  receivers : report.table.services =
    (file.services.filter fun service => (outcomeOf service).isMerged).map Service.goName
  endpoints : report.table.endpoints =
    (file.services.filter fun service => (outcomeOf service).isMerged).flatMap Service.endpoints

theorem mergedPlans_map (file : SourceFile) (outcomeOf : Service → Outcome)
    (services : List Service) :
    mergedPlans file services (services.map outcomeOf) =
      (services.filter fun service => (outcomeOf service).isMerged).map (ServicePlan.of file) := by
  induction services with
  | nil => rfl
  | cons service rest ih =>
    rw [List.map_cons, mergedPlans_cons, ih, List.filter_cons]
    split <;> simp

namespace Generator

variable {generator : Generator} {file : SourceFile} {tree : FileTree} {report : FileReport}

theorem ordered_of_answer (h : (generator.generateFile file tree).answer = .ok report)
    {outcomeOf : Service → Outcome} (houtcomes : report.outcomes = file.services.map outcomeOf) :
    Ordered generator outcomeOf file report := by
  obtain ⟨-, htable⟩ := table_generateFile h
  rw [houtcomes, mergedPlans_map] at htable
  obtain ⟨made, outcomes, table, place, -, rfl⟩ := generates_of_answer h
  refine ⟨rfl, rfl, houtcomes, ?_, ?_⟩
  · rw [htable, Routing.Table.services_foldl_register, List.map_map]
    rfl
  · rw [htable, Routing.Table.endpoints_foldl_register, List.flatMap_map]
    simp only [Routing.Table.empty, List.nil_append, ServicePlan.of, List.map_map]
    rfl

theorem Generates.leadsInto {made : FileTree} {outcomes : List Outcome} {table : Routing.Table}
    {place reached : Location} (h : Generates generator file tree made outcomes table reached)
    (hinto : LeadsInto made generator.settings.handlerPath place) :
    LeadsInto (generator.generateFile file tree).tree generator.settings.handlerPath place := by
  have hmerges : Appends generator.tablePath (generator.filePaths file) made _ :=
    mergeServices_appends generator file (fun _ => filePath_mem_filePaths) .empty made
  have hemit := emit_appends generator (generator.filePaths file) table
    (generator.mergeServices file file.services .empty made).tree
  rw [emit_of_taken h.opened h.taken] at hemit
  rw [h.tree_eq]
  exact (hmerges.trans hemit).keeps.leadsInto hinto

/-- The parts of a file's generation succeed with the services in another order, and the trees in
which the tables are written are the same everywhere. -/
theorem Generates.of_perm {made : FileTree} {outcomes : List Outcome} {table : Routing.Table}
    {place : Location} (h : Generates generator file tree made outcomes table
      (place ++ [routingFileName]))
    (hapart : Apart generator file (generator.filePaths file) place file.services made)
    (hafter : LeadsInto (generator.mergeServices file file.services .empty made).tree
      generator.settings.handlerPath place)
    {services : List Service} (hperm : services.Perm file.services)
    {outcomeOf : Service → Outcome}
    (halone : ∀ service ∈ file.services,
      generator.alone? file made service = some (outcomeOf service)) :
    ∃ table', Generates generator { file with services } tree made (services.map outcomeOf) table'
        (place ++ [routingFileName]) ∧
      ∀ other, (generator.mergeServices { file with services } services .empty made).tree.node?
          other =
        (generator.mergeServices file file.services .empty made).tree.node? other := by
  have hapart' := hapart.of_perm hperm
  have hanswer : services.map (generator.alone? file made) =
      (services.map outcomeOf).map some := by
    rw [List.map_map]
    exact List.map_congr_left fun service hservice => halone service (hperm.subset hservice)
  obtain ⟨table', hmerged⟩ := (hapart'.answer_mergeServices_iff .empty).mpr hanswer
  have hnode := hapart.node?_of_perm hperm h.merged hmerged
  have hinto : LeadsInto (generator.mergeServices file services .empty made).tree
      generator.settings.handlerPath place :=
    (mergeServices_appends generator file hapart'.paths .empty made).keeps.leadsInto hapart.into
  have hopened : (generator.mergeServices file services .empty made).tree.openFresh
      generator.tablePath = .ok (place ++ [routingFileName]) := by
    rw [← h.opened, tablePath, openFresh_join hinto isEntry_routingFileName,
      openFresh_join hafter isEntry_routingFileName, hnode]
  rw [← mergeServices_with_services generator file services] at hmerged hopened
  refine ⟨table', ⟨h.directory, hmerged, hopened, rfl⟩, fun other => ?_⟩
  rw [mergeServices_with_services, hnode]

/-- The order of services does not matter for handler files: if a file is generated whose services
have different handler files, then it is generated with its services in any other order. Each
service has the same outcome, and only the routing table is different, which has the services that
were merged, and their rows, in the new order. -/
theorem generateFile_of_perm (hindifferent : Indifferent generator (generator.filePaths file))
    (hslash : ∀ service ∈ file.services, '/' ∉ service.goName.toList)
    (hnames : (file.services.map fun service => fileName service.goName).Nodup)
    (htable : ∀ service ∈ file.services, fileName service.goName ≠ routingFileName)
    (h : (generator.generateFile file tree).answer = .ok report) :
    ∃ outcomeOf, Ordered generator outcomeOf file report ∧
      ∀ services : List Service, services.Perm file.services →
        ∃ report', (generator.generateFile { file with services } tree).answer = .ok report' ∧
          Ordered generator outcomeOf { file with services } report' ∧
          (∀ service ∈ file.services,
            (generator.generateFile { file with services } tree).tree.read
                (filePath generator.settings.handlerPath (.of file service)) =
              (generator.generateFile file tree).tree.read
                (filePath generator.settings.handlerPath (.of file service))) ∧
          ∀ place, ¬(generator.generateFile file tree).tree.Leads generator.tablePath place →
            (generator.generateFile { file with services } tree).tree.node? place =
              (generator.generateFile file tree).tree.node? place := by
  obtain ⟨made, outcomes, table, reached, hparts, rfl⟩ := generates_of_answer h
  obtain ⟨place, hafter, rfl⟩ := leadsInto_of_openFresh isEntry_routingFileName hparts.opened
  have hapart : Apart generator file (generator.filePaths file) place file.services made :=
    ⟨hindifferent, fun _ => filePath_mem_filePaths, hslash, hnames,
      leadsInto_of_mergeServices hafter⟩
  obtain ⟨outcomeOf, houtcomes, halone⟩ := hapart.exists_outcomeOf hparts.merged
  refine ⟨outcomeOf, ordered_of_answer h houtcomes, fun services hperm => ?_⟩
  obtain ⟨table', hparts', hnode⟩ := hparts.of_perm hapart hafter hperm halone
  have hsame (other : Location) (hother : other ≠ place ++ [routingFileName]) :
      (generator.generateFile { file with services } tree).tree.node? other =
        (generator.generateFile file tree).tree.node? other := by
    rw [hparts'.tree_eq, hparts.tree_eq, node?_put_of_ne hother, node?_put_of_ne hother, hnode]
  refine ⟨_, hparts'.answer, ordered_of_answer hparts'.answer rfl, fun service hservice => ?_,
    fun other hother => hsame other ?_⟩
  · refine read_of_find (find_join_congr (hparts.leadsInto hapart.into)
      (hparts'.leadsInto hapart.into) (isEntry_fileName (hslash service hservice)) (hsame _ ?_))
    intro heq
    exact htable service hservice (last_eq_of_append_eq heq)
  · rintro rfl
    refine hother ⟨.file (Utf8.ofString (table.render generator.settings)), ?_⟩
    rw [hparts.tree_eq]
    exact find_put_of_openFresh hparts.opened _

/-- The store's two services in the other order: the orders still extend the file that is there,
and the payments still make a new one. -/
theorem generateFile_of_perm_store : ∃ report report' outcomeOf,
    (moduleGenerator.generateFile storeSource shopTree).answer = .ok report ∧
    report.table.services = ["Order", "Pay"] ∧
    Ordered moduleGenerator outcomeOf storeSource report ∧
    (moduleGenerator.generateFile { storeSource with services := storeSource.services.reverse }
      shopTree).answer = .ok report' ∧
    Ordered moduleGenerator outcomeOf
      { storeSource with services := storeSource.services.reverse } report' := by
  have hanswer : (moduleGenerator.generateFile storeSource shopTree).answer.map
      (fun report => report.table.services) = .ok ["Order", "Pay"] := by decide +kernel
  obtain ⟨report, hreport, hservices⟩ := map_eq_ok_iff.mp hanswer
  have hslash : ∀ service ∈ storeSource.services, '/' ∉ service.goName.toList := by decide
  obtain ⟨outcomeOf, hordered, hperm⟩ := generateFile_of_perm (indifferent_moduleFile rfl hslash)
    hslash (by decide +kernel) (by decide +kernel) hreport
  obtain ⟨report', hreport', hordered', -⟩ := hperm _ (List.reverse_perm _)
  exact ⟨report, report', outcomeOf, hreport, hservices, hordered, hreport', hordered'⟩

end Generator
end ServiceScaffold
