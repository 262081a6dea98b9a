import Mathlib
import ServiceScaffold.Proofs.SourceNames
import ServiceScaffold.Proofs.TableOnDisk

/-!
# Handler files after a run

What a merge reports as appended is what it has added to the handler file, word for word. The rest
of a file's generation keeps it there, unless the routing table is written over the handler file,
which can happen to a service whose name makes its file the table's.
-/

namespace ServiceScaffold

open FileTree Handler

namespace Handler

/-- A declaration that a merge adds: the receiver type, or a method of it. -/
structure Declaration where
  receiver : String
  method : Option MethodPlan
  deriving DecidableEq, Repr

namespace Declaration

def text (declaration : Declaration) : String :=
  match declaration.method with
  | none => typeStub declaration.receiver
  | some method => methodStub declaration.receiver method

def key (declaration : Declaration) : String × Option String :=
  (declaration.receiver, declaration.method.map MethodPlan.name)

def source (declarations : List Declaration) : Bytes :=
  declarations.flatMap fun declaration => Utf8.ofString declaration.text

@[simp] theorem source_append (first second : List Declaration) :
    source (first ++ second) = source first ++ source second :=
  List.flatMap_append

end Declaration

def Outcome.declarations (service : ServicePlan) : Outcome → List Declaration
  | .merged summary =>
    (if summary.typeAppended then [⟨service.receiver, none⟩] else []) ++
      (service.methods.filter fun method => decide (method.name ∈ summary.appended)).map
        fun method => ⟨service.receiver, some method⟩
  | .skipped _ _ => []

@[simp] theorem path_summarize (symbols : SymbolSet) (service : ServicePlan) (path : String)
    (created : Bool) : (summarize symbols service path created).path = path := rfl

@[simp] theorem created_summarize (symbols : SymbolSet) (service : ServicePlan) (path : String)
    (created : Bool) : (summarize symbols service path created).created = created := rfl

theorem filter_appended (symbols : SymbolSet) (service : ServicePlan) (path : String)
    (created : Bool) :
    (service.methods.filter fun method =>
        decide (method.name ∈ (summarize symbols service path created).appended)) =
      service.methods.filter (lacksMethod symbols service.receiver) := by
  refine List.filter_congr fun method hmethod => ?_
  rw [Bool.eq_iff_iff, decide_eq_true_iff, mem_appended_summarize, lacksMethod, Bool.not_eq_true',
    List.contains_eq_mem, decide_eq_false_iff_not]
  constructor
  · rintro ⟨_, -, -, hkey⟩
    exact hkey
  · exact fun hkey => ⟨method, hmethod, rfl, hkey⟩

theorem ofString_missingText (symbols : SymbolSet) (service : ServicePlan) (path : String)
    (created : Bool) :
    Utf8.ofString (missingText symbols service) = Declaration.source
      ((Outcome.merged (summarize symbols service path created)).declarations service) := by
  have hstubs (methods : List MethodPlan) :
      Utf8.ofString ((methods.map (methodStub service.receiver)).foldr (· ++ ·) "") =
        Declaration.source (methods.map fun method => ⟨service.receiver, some method⟩) := by
    induction methods with
    | nil => rfl
    | cons method rest ih =>
      rw [List.map_cons, List.foldr_cons, Utf8.ofString_append, ih]
      rfl
  rw [missingText, Utf8.ofString_append, hstubs, Outcome.declarations, filter_appended,
    Declaration.source_append]
  congr 1
  by_cases hmem : service.receiver ∈ symbols
  · simp [summarize, hmem, Declaration.source, Utf8.ofString, Utf8.encode]
  · simp [summarize, hmem, Declaration.source, Declaration.text]

/-- Only the dotted capital I has a lower case of two characters. -/
theorem lowercase_cases (c : Char) :
    Text.lowercase c = ['i', '\u0307'] ∨ ∃ d, Text.lowercase c = [d] := by
  unfold Text.lowercase
  split
  · exact Or.inl rfl
  · right
    split <;> exact ⟨_, rfl⟩

theorem eq_of_lowercase_eq_z {c : Char} (h : Text.lowercase c = ['z']) : c = 'z' ∨ c = 'Z' := by
  have hruns : ∀ run ∈ Text.lowercaseRuns, (run.1 : Int) + run.2.2.2 ≤ 122 →
      122 ≤ (run.2.1 : Int) + run.2.2.2 → run.2.2.2 = 32 := by decide +kernel
  unfold Text.lowercase at h
  split at h
  · simp at h
  split at h
  · rename_i first last stride distance hfind
    right
    have hrun := hruns _ (List.mem_of_find?_eq_some hfind)
    have hon := List.find?_some hfind
    simp only [Text.onRun, Bool.and_eq_true, decide_eq_true_eq] at hon hrun
    have hcode : ((c.toNat : Int) + distance).toNat = 122 := by
      have hchar := congrArg Char.toNat (List.cons.inj h).1
      rw [Char.toNat_ofNat] at hchar
      split at hchar
      · exact hchar
      · cases hchar
    have hdistance : distance = 32 := hrun (by omega) (by omega)
    exact Char.toNat_inj.mp (show c.toNat = 90 by omega)
  · exact Or.inl (List.cons.inj h).1

/-- A text without an underscore comes from a text with no capital but perhaps the first. -/
theorem flatMap_snakeChar_eq {s cs : List Char} (h : cs.flatMap (snakeChar false) = s)
    (hunderscore : '_' ∉ s) : cs = s := by
  induction cs generalizing s with
  | nil => exact h
  | cons c cs ih =>
    rw [List.flatMap_cons, snakeChar] at h
    split at h
    · subst h
      simp at hunderscore
    · subst h
      rw [List.singleton_append, List.mem_cons, not_or] at hunderscore
      rw [← ih rfl hunderscore.2, List.singleton_append]

theorem eq_of_snakeCase_eq {s : List Char} (h : snakeCase s = "zzconfig".toList) :
    s = "zzconfig".toList ∨ s = "Zzconfig".toList := by
  have hspelled : "zzconfig".toList = 'z' :: "zconfig".toList := by decide
  cases s with
  | nil => simp [snakeCase] at h
  | cons c cs =>
    rw [snakeCase, snakeChar, if_pos rfl, hspelled] at h
    have hrest (first : Char) (h : first :: cs.flatMap (snakeChar false) =
        'z' :: "zconfig".toList) : first = 'z' ∧ cs = "zconfig".toList := by
      obtain ⟨hfirst, hcs⟩ := List.cons.inj h
      exact ⟨hfirst, flatMap_snakeChar_eq hcs (by decide)⟩
    split at h
    · rcases lowercase_cases c with hdotted | ⟨d, hd⟩
      · rw [hdotted] at h
        exact absurd (List.cons.inj h).1 (by decide)
      · rw [hd] at h
        obtain ⟨rfl, rfl⟩ := hrest d h
        rcases eq_of_lowercase_eq_z hd with rfl | rfl
        · exact Or.inl rfl
        · exact Or.inr rfl
    · obtain ⟨rfl, rfl⟩ := hrest c h
      exact Or.inl rfl

theorem eq_of_shortName_eq {receiver short : List Char} (h : shortName receiver = short) :
    receiver = short ∨ receiver = short ++ "Service".toList := by
  unfold shortName at h
  split at h
  · rename_i c cs hdrop
    rw [Text.dropEnding?, Option.map_eq_some_iff] at hdrop
    obtain ⟨rest, hrest, hreverse⟩ := hdrop
    right
    rw [← h, ← hreverse, ← List.reverse_reverse receiver, Text.dropStart?_eq_some_iff.mp hrest,
      List.reverse_append, List.reverse_reverse]
  · exact Or.inl h

def routingFileServices : List String :=
  ["zzconfig", "Zzconfig", "zzconfigService", "ZzconfigService"]

theorem fileName_eq_routingFileName_iff {receiver : String} :
    fileName receiver = routingFileName ↔ receiver ∈ routingFileServices := by
  constructor
  · intro h
    have hname : routingFileName.toList = "zzconfig".toList ++ ".go".toList := by decide
    have hchars := congrArg String.toList h
    rw [fileName, String.toList_ofList, hname] at hchars
    have hreceiver {s : List Char} (h : shortName receiver.toList = s) :
        receiver = String.ofList s ∨ receiver = String.ofList (s ++ "Service".toList) := by
      rcases eq_of_shortName_eq h with h | h
      · exact Or.inl (by rw [← h, String.ofList_toList])
      · exact Or.inr (by rw [← h, String.ofList_toList])
    rcases eq_of_snakeCase_eq (List.append_cancel_right hchars) with h | h
    all_goals
      rcases hreceiver h with rfl | rfl
      all_goals decide
  · intro h
    simp only [routingFileServices, List.mem_cons, List.not_mem_nil, or_false] at h
    rcases h with rfl | rfl | rfl | rfl
    all_goals decide +kernel

end Handler

namespace Generator

variable {generator : Generator} {file : SourceFile} {tree : FileTree} {service : Service}

theorem mergeServices_split {earlier later : List Service} {table last : Routing.Table}
    {outcomes : List Outcome}
    (h : (generator.mergeServices file (earlier ++ service :: later) table tree).answer =
      .ok (outcomes, last)) :
    ∃ between outcome, outcomes[earlier.length]? = some outcome ∧
      (generator.mergeOf file service between
        (generator.mergeServices file earlier table tree).tree).answer = .ok outcome ∧
      (generator.mergeServices file (earlier ++ service :: later) table tree).tree =
        (generator.mergeServices file later
          (generator.mergeOf file service between
            (generator.mergeServices file earlier table tree).tree).table
          (generator.mergeOf file service between
            (generator.mergeServices file earlier table tree).tree).tree).tree := by
  induction earlier generalizing tree table outcomes with
  | nil =>
    obtain ⟨outcome, rest, rfl, hmerge, -⟩ := answer_mergeServices_cons_eq_ok_iff.mp h
    exact ⟨table, outcome, rfl, hmerge, tree_mergeServices_cons hmerge⟩
  | cons first earlier ih =>
    obtain ⟨outcome, rest, rfl, hmerge, hrest⟩ := answer_mergeServices_cons_eq_ok_iff.mp h
    obtain ⟨between, found, houtcome, hservice, htree⟩ := ih hrest
    rw [List.cons_append, tree_mergeServices_cons hmerge, tree_mergeServices_cons hmerge]
    exact ⟨between, found, houtcome, hservice, htree⟩

/-- What a handler file held when its service's turn came: the preamble with which it was made, or
its contents. -/
inductive Begins (generator : Generator) (file : SourceFile) (before : FileTree) (path : String) :
    Bool → Bytes → Prop
  | created {text : String} (absent : before.exists? path = false)
      (asked : generator.preamble file before = .ok text) :
      Begins generator file before path true (Utf8.ofString text)
  | extended {content : Bytes} (found : before.read path = .ok content) :
      Begins generator file before path false content

theorem find_of_merged {table : Routing.Table} {summary : Summary}
    (h : (generator.mergeOf file service table tree).answer = .ok (.merged summary)) :
    summary.path = filePath generator.settings.handlerPath (ServicePlan.of file service) ∧
      ∃ start place, Begins generator file tree summary.path summary.created start ∧
        (generator.mergeOf file service table tree).tree.find summary.path =
          .ok (place, .file (start ++ Declaration.source
            ((Outcome.merged summary).declarations (ServicePlan.of file service)))) := by
  have hstep := mergeStep_merge generator.scan generator.settings.handlerPath
    (ServicePlan.of file service) (fun _ => generator.preamble file tree) tree table
  rw [mergeOf] at h ⊢
  generalize Handler.merge generator.scan generator.settings.handlerPath
    (ServicePlan.of file service) (fun _ => generator.preamble file tree) tree table = result
    at h hstep ⊢
  cases hstep with
  | stopped | blocked | refused => cases h
  | @created text place absent asked opened =>
    rw [answer_extend, Except.ok.injEq, Outcome.merged.injEq] at h
    rw [← h, path_summarize, created_summarize, tree_extend, ← ofString_missingText]
    refine ⟨rfl, Utf8.ofString text, place, ?_, find_put_of_openFresh opened _⟩
    exact .created absent asked
  | @extended place content found =>
    rw [answer_extend, Except.ok.injEq, Outcome.merged.injEq] at h
    rw [← h, path_summarize, created_summarize, tree_extend, ← ofString_missingText]
    refine ⟨rfl, content, place, ?_, find_put_of_find found _⟩
    exact .extended (read_eq_ok_iff.mpr ⟨place, found⟩)

theorem treeAfter_appends {earlier later : List Service}
    (hservices : file.services = earlier ++ service :: later) :
    Appends generator.tablePath (generator.filePaths file) tree
      (generator.treeAfter file earlier tree) := by
  have hmade := AddsDirectories.makeDirectories tree generator.settings.handlerPath
  refine (Appends.of_addsDirectories hmade).trans ?_
  exact mergeServices_appends generator file (fun other hother => filePath_mem_filePaths
    (by simp [hservices, hother])) _ _

/-- In the generation of a file, what comes after a merge only appends to what the merge left. -/
theorem generateFile_appends_to_merge {report : FileReport}
    (h : (generator.generateFile file tree).answer = .ok report) {earlier later : List Service}
    (hservices : file.services = earlier ++ service :: later) :
    ∃ between outcome, report.outcomes[earlier.length]? = some outcome ∧
      (generator.mergeOf file service between (generator.treeAfter file earlier tree)).answer =
        .ok outcome ∧
      Appends generator.tablePath (generator.filePaths file)
        (generator.mergeOf file service between (generator.treeAfter file earlier tree)).tree
        (generator.generateFile file tree).tree := by
  obtain ⟨made, outcomes, table, place, hparts, rfl⟩ := generates_of_answer h
  have hmerged := hparts.merged
  have hemit := emit_appends generator (generator.filePaths file) table
    (generator.mergeServices file file.services .empty made).tree
  rw [emit_of_taken hparts.opened hparts.taken] at hemit
  rw [treeAfter, hparts.directory, hparts.tree_eq]
  rw [hservices] at hmerged hemit ⊢
  obtain ⟨between, outcome, houtcome, hmerge, hsplit⟩ := mergeServices_split hmerged
  refine ⟨between, outcome, houtcome, hmerge, Appends.trans ?_ hemit⟩
  rw [hsplit]
  exact mergeServices_appends generator file (fun other hother => filePath_mem_filePaths
    (by simp [hservices, hother])) _ _

theorem mem_routingFileServices {place : Location} (hslash : '/' ∉ service.goName.toList)
    (htable : tree.Leads generator.tablePath place)
    (h : tree.Leads (filePath generator.settings.handlerPath (ServicePlan.of file service)) place) :
    service.goName ∈ routingFileServices := by
  rw [← fileName_eq_routingFileName_iff]
  by_contra hne
  exact ne_of_leads (isEntry_fileName hslash) isEntry_routingFileName hne h htable rfl

theorem prefix_of_begins {paths : List String} {before : FileTree} {path : String} {created : Bool}
    {old start : Bytes} (h : Begins generator file before path created start)
    (happends : Appends generator.tablePath paths tree before)
    (htable : ∀ place, before.Leads path place → ¬before.Leads generator.tablePath place)
    (hread : tree.read path = .ok old) : old <+: start := by
  obtain ⟨place, hfind⟩ := read_eq_ok_iff.mp hread
  obtain ⟨-, -, -, hold⟩ := find_eq_ok_iff.mp hfind
  obtain ⟨node, hnode, hfound⟩ := happends.keeps.find hfind
  obtain ⟨new, hnew, hgrown⟩ := happends.file hold
  rw [hnode, Option.some.injEq] at hnew
  subst hnew
  have hleads : before.Leads path place := ⟨_, hfound⟩
  cases h with
  | created absent asked =>
    rw [exists?_eq_true_iff.mpr ⟨place, hleads⟩] at absent
    cases absent
  | extended found =>
    rw [read_eq_ok_iff.mpr ⟨place, hfound⟩, Except.ok.injEq] at found
    exact found ▸ (hgrown (htable place hleads)).isPrefix

/-- If a file is generated, then the handler file of every merged service begins with what it held
before, or with the preamble if it was made, and after that comes every declaration that the summary
reports as added. Only the routing table can be there instead, and if the service's name has no
slash, then it is one of those to which the name of the table's file belongs. -/
theorem generateFile_keeps_handlers {generator : Generator} {file : SourceFile} {tree : FileTree}
    {report : FileReport} (h : (generator.generateFile file tree).answer = .ok report)
    {earlier later : List Service} {service : Service}
    (hservices : file.services = earlier ++ service :: later) {summary : Summary}
    (houtcome : report.outcomes[earlier.length]? = some (.merged summary)) :
    ∃ start content,
      Begins generator file (generator.treeAfter file earlier tree) summary.path summary.created
        start ∧
      (generator.generateFile file tree).tree.read summary.path = .ok content ∧
      ((∀ old, tree.read summary.path = .ok old → old <+: start) ∧
          start ++ Declaration.source
            ((Outcome.merged summary).declarations (ServicePlan.of file service)) <+: content ∨
        content = Utf8.ofString (report.table.render generator.settings) ∧
          ('/' ∉ service.goName.toList → service.goName ∈ routingFileServices)) := by
  obtain ⟨between, outcome, hfound, hmerge, happends⟩ := generateFile_appends_to_merge h hservices
  rw [houtcome, Option.some.injEq] at hfound
  subst hfound
  obtain ⟨hpath, start, place, hbegins, hfind⟩ := find_of_merged hmerge
  obtain ⟨-, -, -, hnode⟩ := find_eq_ok_iff.mp hfind
  obtain ⟨content, hcontent, hgrown⟩ := happends.file hnode
  obtain ⟨node, hnode', hfind'⟩ := happends.keeps.find hfind
  rw [hcontent, Option.some.injEq] at hnode'
  subst hnode'
  have hleads : (generator.generateFile file tree).tree.Leads summary.path place := ⟨_, hfind'⟩
  refine ⟨start, content, hbegins, read_eq_ok_iff.mpr ⟨place, hfind'⟩, ?_⟩
  by_cases htable : (generator.generateFile file tree).tree.Leads generator.tablePath place
  · right
    obtain ⟨tablePlace, hsource⟩ := read_eq_ok_iff.mp (read_tablePath_generateFile h)
    rw [hpath] at hleads
    refine ⟨?_, fun hslash => mem_routingFileServices hslash htable hleads⟩
    obtain ⟨node, hshared⟩ := htable
    rw [hshared, Except.ok.injEq, Prod.mk.injEq] at hsource
    obtain ⟨-, rfl⟩ := hsource
    obtain ⟨-, -, -, hsource⟩ := find_eq_ok_iff.mp hshared
    rw [hcontent, Option.some.injEq, Node.file.injEq] at hsource
    exact hsource
  · refine Or.inl ⟨fun old hread => ?_, (hgrown htable).isPrefix⟩
    have hmem : filePath generator.settings.handlerPath (ServicePlan.of file service) ∈
        generator.filePaths file := filePath_mem_filePaths (by simp [hservices])
    have hturn := mergeService_appends generator file hmem between
      (generator.treeAfter file earlier tree)
    rw [tree_mergeService] at hturn
    have hkeeps := (hturn.trans happends).keeps
    refine prefix_of_begins hbegins (treeAfter_appends hservices) (fun other hother => ?_) hread
    rw [(hkeeps.leads hother).unique hleads]
    exact fun hlost => htable (hkeeps.leads hlost)

/-- The handler file of the orders after a first run. -/
theorem generateFile_keeps_handlers_orders : ∃ report summary start content,
    (plainGenerator.generateFile ordersSource ⟨[], []⟩).answer = .ok report ∧
    report.outcomes = [.merged summary] ∧ summary.typeAppended = true ∧
    (plainGenerator.generateFile ordersSource ⟨[], []⟩).tree.read summary.path = .ok content ∧
    start ++ Declaration.source ((Outcome.merged summary).declarations
      (ServicePlan.of ordersSource ⟨"Order", "order.Order",
        [⟨"Get", "Get", "Req", "Resp", false, false, none⟩]⟩)) <+: content := by
  have hanswer : (plainGenerator.generateFile ordersSource ⟨[], []⟩).answer.map
      FileReport.outcomes = .ok [.merged ⟨"order.go", true, true, ["Get"], []⟩] := by
    decide +kernel
  obtain ⟨report, hreport, houtcomes⟩ := map_eq_ok_iff.mp hanswer
  have hservices : ordersSource.services = [] ++
      ⟨"Order", "order.Order", [⟨"Get", "Get", "Req", "Resp", false, false, none⟩]⟩ :: [] := rfl
  have houtcome : report.outcomes[([] : List Service).length]? =
      some (.merged ⟨"order.go", true, true, ["Get"], []⟩) := by
    rw [houtcomes]
    rfl
  obtain ⟨start, content, -, hread, hkept⟩ :=
    generateFile_keeps_handlers hreport hservices houtcome
  refine ⟨report, _, start, content, hreport, houtcomes, rfl, hread,
    (hkept.resolve_right ?_).2⟩
  exact fun hlost => absurd (hlost.2 (by decide)) (by decide)

theorem preamble_plainGenerator (file : SourceFile) (tree : FileTree) :
    plainGenerator.preamble file tree =
      .ok (header plainGenerator.settings ("shop/" ++ file.goPackage)) := by
  have hproto : Go.worksInProto plainGenerator.settings = false := by decide +kernel
  simp only [preamble, Go.messageImport, hproto]
  rfl

def zzconfigService : Service :=
  ⟨"Zzconfig", "z.Zzconfig", [⟨"Get", "Get", "Req", "Req", false, false, none⟩]⟩

def zzconfigSource : SourceFile :=
  ⟨"z.proto", "z", "z", true, [zzconfigService]⟩

theorem parseDeclared_zzconfig :
    Source.parseDeclared [.named "z" [("Zzconfig", ["Get"])]] = .ok [zzconfigSource] := by
  decide +kernel

/-- The handler file of a parsed service can be lost: the routing table is written over it. -/
theorem not_generateFile_keeps_all_handlers :
    ¬∀ (source : Source) (files : List SourceFile) (generator : Generator) (tree : FileTree),
      source.Pooled → source.parse = .ok files → ∀ file ∈ files, ∀ report,
      (generator.generateFile file tree).answer = .ok report →
      ∀ earlier service later, file.services = earlier ++ service :: later → ∀ summary,
      report.outcomes[earlier.length]? = some (.merged summary) → ∃ start content,
      Begins generator file (generator.treeAfter file earlier tree) summary.path summary.created
        start ∧
      (generator.generateFile file tree).tree.read summary.path = .ok content ∧
      start <+: content ∧
      ∀ declaration ∈ (Outcome.merged summary).declarations (ServicePlan.of file service),
        Utf8.ofString declaration.text <:+: content := by
  intro hall
  obtain ⟨source, hpooled, hparse⟩ := Source.exists_pooled_of_parseDeclared parseDeclared_zzconfig
  have hanswer : (plainGenerator.generateFile zzconfigSource ⟨[], []⟩).answer.map
      (fun report => (report.outcomes, report.table)) =
        .ok ([.merged ⟨"zzconfig.go", true, true, ["Get"], []⟩],
          ⟨["Zzconfig"], [⟨"Zzconfig.Get", "/z.Zzconfig/Get", false, false⟩]⟩) := by
    decide +kernel
  obtain ⟨report, hreport, hmap⟩ := map_eq_ok_iff.mp hanswer
  rw [Prod.mk.injEq] at hmap
  obtain ⟨start, content, hbegins, hread, hstart, -⟩ := hall source [zzconfigSource] plainGenerator
    ⟨[], []⟩ hpooled hparse zzconfigSource List.mem_cons_self report hreport [] zzconfigService []
    rfl ⟨"zzconfig.go", true, true, ["Get"], []⟩ (by rw [hmap.1]; rfl)
  have hsource := read_tablePath_generateFile hreport
  have hpath : plainGenerator.tablePath = "zzconfig.go" := by decide +kernel
  rw [hpath, hread, Except.ok.injEq, hmap.2] at hsource
  -- The preamble and the table's source part after the first sentence.
  cases hbegins with
  | @created text absent asked =>
    rw [preamble_plainGenerator, Except.ok.injEq] at asked
    rw [hsource, ← asked, Utf8.ofString_eq, Utf8.ofString_eq] at hstart
    revert hstart
    decide +kernel

end Generator
end ServiceScaffold
