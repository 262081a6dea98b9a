import Mathlib
import ServiceScaffold.Proofs.TableOnDisk

/-!
# Services that are skipped

A service is skipped when its handler file cannot be opened, or made with its preamble. It then has
no route, and unless a write has failed it leaves no trace: the rest of its file is generated as if
the service had not been there.
-/

namespace ServiceScaffold

open FileTree Handler

def mergedServices (services : List Service) (outcomes : List Outcome) : List Service :=
  ((services.zip outcomes).filter fun entry => entry.2.isMerged).map Prod.fst

@[simp] theorem mergedServices_nil : mergedServices [] [] = [] := rfl

@[simp] theorem mergedServices_cons (service : Service) (rest : List Service) (outcome : Outcome)
    (later : List Outcome) : mergedServices (service :: rest) (outcome :: later) =
      if outcome.isMerged then service :: mergedServices rest later
      else mergedServices rest later := by
  cases h : outcome.isMerged <;> simp [mergedServices, h]

def SourceFile.withoutSkipped (file : SourceFile) (outcomes : List Outcome) : SourceFile :=
  { file with services := mergedServices file.services outcomes }

def FileReport.withoutSkipped (report : FileReport) : FileReport :=
  { report with outcomes := report.outcomes.filter Outcome.isMerged }

def Refusal.noSpace : Refusal := .system "No space left on device (os error 28)"

/-- A disk that has room for the first `taken` bytes of what is written to the file at `place`. -/
def Disk.fullAt (place : Location) (taken : Nat) : Disk where
  fault _ other added :=
    if other = place ∧ added.isEmpty = false then some ⟨taken, .noSpace⟩ else none
  fault_nil := by simp

theorem Disk.fault_fullAt {added : Bytes} (h : added ≠ []) (tree : FileTree) (place : Location)
    (taken : Nat) :
    (Disk.fullAt place taken).fault tree place added = some ⟨taken, .noSpace⟩ := by
  simp [Disk.fullAt, h]

namespace Generator

variable {generator : Generator} {file : SourceFile} {tree : FileTree} {disk : Disk}

theorem mergeServices_with_services (generator : Generator) (file : SourceFile)
    (others services : List Service) (table : Routing.Table) (tree : FileTree)
    (disk : Disk := .sound) :
    generator.mergeServices { file with services := others } services table tree disk =
      generator.mergeServices file services table tree disk := by
  induction services generalizing table tree with
  | nil => rfl
  | cons service rest ih =>
    rw [mergeServices, mergeServices]
    simp only [ih]
    rfl

/-- Every service that is reported as skipped has left the tree as it was at its turn. -/
def SkipsCleanly (generator : Generator) (file : SourceFile) (services : List Service)
    (outcomes : List Outcome) (table : Routing.Table) (tree : FileTree) (disk : Disk) : Prop :=
  ∀ earlier service later path reason, services = earlier ++ service :: later →
    outcomes[earlier.length]? = some (.skipped path reason) →
    (generator.mergeServices file (earlier ++ [service]) table tree disk).tree =
      (generator.mergeServices file earlier table tree disk).tree

section

variable {service : Service} {rest : List Service} {table : Routing.Table} {outcome : Outcome}
  {later : List Outcome}

theorem SkipsCleanly.tail
    (h : SkipsCleanly generator file (service :: rest) (outcome :: later) table tree disk)
    (hmerge : (generator.mergeOf file service table tree disk).answer = .ok outcome) :
    SkipsCleanly generator file rest later (generator.mergeOf file service table tree disk).table
      (generator.mergeOf file service table tree disk).tree disk := by
  intro earlier skipped after path reason hrest hskipped
  have hsame := h (service :: earlier) skipped after path reason (by rw [hrest]; rfl) hskipped
  rwa [List.cons_append, tree_mergeServices_cons hmerge, tree_mergeServices_cons hmerge] at hsame

theorem SkipsCleanly.head {path : String} {reason : Refusal}
    (h : SkipsCleanly generator file (service :: rest) (.skipped path reason :: later) table tree
      disk)
    (hmerge : (generator.mergeOf file service table tree disk).answer =
      .ok (.skipped path reason)) :
    (generator.mergeOf file service table tree disk).tree = tree := by
  have hsame := h [] service rest path reason rfl rfl
  rwa [List.nil_append, tree_mergeServices_cons hmerge, tree_mergeServices_nil,
    tree_mergeServices_nil] at hsame

end

/-- Merging services gives the same without those that are skipped. -/
theorem mergeServices_mergedServices {services : List Service} {table last : Routing.Table}
    {outcomes : List Outcome}
    (h : (generator.mergeServices file services table tree disk).answer = .ok (outcomes, last))
    (hclean : SkipsCleanly generator file services outcomes table tree disk) :
    (generator.mergeServices file (mergedServices services outcomes) table tree disk).answer =
        .ok (outcomes.filter Outcome.isMerged, last) ∧
      (generator.mergeServices file (mergedServices services outcomes) table tree disk).tree =
        (generator.mergeServices file services table tree disk).tree := by
  induction services generalizing tree table outcomes with
  | nil =>
    rw [mergeServices, Run.done, Except.ok.injEq, Prod.mk.injEq] at h
    obtain ⟨rfl, rfl⟩ := h
    exact ⟨rfl, rfl⟩
  | cons service rest ih =>
    obtain ⟨outcome, later, rfl, hmerge, hrest⟩ := answer_mergeServices_cons_eq_ok_iff.mp h
    obtain ⟨hanswer, htree⟩ := ih hrest (hclean.tail hmerge)
    rw [tree_mergeServices_cons hmerge]
    cases outcome with
    | merged summary =>
      simp only [mergedServices_cons, Outcome.isMerged, if_true]
      rw [tree_mergeServices_cons hmerge]
      exact ⟨answer_mergeServices_cons_eq_ok_iff.mpr ⟨_, _, rfl, hmerge, hanswer⟩, htree⟩
    | skipped path reason =>
      -- The later services begin in the same tree and with the same table as without this one.
      have hsame := hclean.head hmerge
      have hrow : (generator.mergeOf file service table tree disk).table = table :=
        (left_of_skipped hmerge).1
      rw [hsame, hrow] at hanswer htree
      simpa [Outcome.isMerged, hsame, hrow] using ⟨hanswer, htree⟩

/-- Where no write fails, nothing is left of services that are skipped. -/
theorem skipsCleanly_of_takesAll (hall : disk.TakesAll) {services : List Service}
    {table last : Routing.Table} {outcomes : List Outcome}
    (h : (generator.mergeServices file services table tree disk).answer = .ok (outcomes, last)) :
    SkipsCleanly generator file services outcomes table tree disk := by
  intro earlier skipped after path reason hservices hskipped
  induction earlier generalizing services tree table outcomes with
  | nil =>
    rw [hservices, List.nil_append] at h
    obtain ⟨outcome, later, rfl, hmerge, -⟩ := answer_mergeServices_cons_eq_ok_iff.mp h
    rw [List.length_nil, List.getElem?_cons_zero, Option.some.injEq] at hskipped
    rw [List.nil_append, tree_mergeServices_cons hmerge, tree_mergeServices_nil,
      tree_mergeServices_nil]
    exact (left_of_skipped (hskipped ▸ hmerge)).2 hall
  | cons first earlier ih =>
    rw [hservices, List.cons_append] at h
    obtain ⟨outcome, later, rfl, hmerge, hrest⟩ := answer_mergeServices_cons_eq_ok_iff.mp h
    rw [List.cons_append, tree_mergeServices_cons hmerge, tree_mergeServices_cons hmerge]
    exact ih hrest rfl hskipped

/-- A merge that does not succeed leaves the table as it was, and the tree unless a write to the
opened file has failed: then a first part of the preamble is left of a service that is skipped, or a
first part of the stubs of one that stops the run. The generation of a file gives the same tree, the
same table and the same outcomes without the services that it has skipped, if they have left the
tree as it was. -/
theorem generateFile_withoutSkipped (disk : Disk) :
    (∀ scan dir service preamble tree table,
      (∀ summary,
        (merge scan dir service preamble tree table disk).answer ≠ .ok (.merged summary)) →
        (merge scan dir service preamble tree table disk).table = table ∧
          ((merge scan dir service preamble tree table disk).tree = tree ∨
            CutShort scan dir service preamble tree disk
              (merge scan dir service preamble tree table disk).asked
              (merge scan dir service preamble tree table disk).tree
              (merge scan dir service preamble tree table disk).answer) ∧
          (disk.TakesAll → (merge scan dir service preamble tree table disk).tree = tree)) ∧
    ∀ (generator : Generator) (file : SourceFile) (tree : FileTree) (report : FileReport),
      (generator.generateFile file tree disk).answer = .ok report →
      (disk.TakesAll ∨ SkipsCleanly generator file file.services report.outcomes .empty
        (tree.makeDirectories generator.settings.handlerPath).tree disk) →
        (generator.generateFile (file.withoutSkipped report.outcomes) tree disk).answer =
            .ok report.withoutSkipped ∧
          (generator.generateFile (file.withoutSkipped report.outcomes) tree disk).tree =
            (generator.generateFile file tree disk).tree := by
  constructor
  · intro scan dir service preamble tree table hnot
    obtain ⟨htable, hleft⟩ := left_of_not_merged hnot
    exact ⟨htable, hleft, fun hall => unchanged_of_not_merged hall hnot⟩
  intro generator file tree report h hclean
  obtain ⟨made, outcomes, table, place, hparts, rfl⟩ := generates_of_answer h
  rw [hparts.directory] at hclean
  obtain ⟨hanswer, htree⟩ := mergeServices_mergedServices hparts.merged
    (hclean.elim (fun hall => skipsCleanly_of_takesAll hall hparts.merged) id)
  rw [← mergeServices_with_services generator file (mergedServices file.services outcomes) _ _ _
    disk] at hanswer htree
  have hopened := hparts.opened
  have htaken := hparts.taken
  rw [← htree] at hopened htaken
  have hkept : Generates generator (file.withoutSkipped outcomes) tree made
      (outcomes.filter Outcome.isMerged) table place disk :=
    ⟨hparts.directory, hanswer, hopened, htaken⟩
  refine ⟨hkept.answer, ?_⟩
  rw [hkept.tree_eq, hparts.tree_eq, ← htree]
  rfl

def storeSource : SourceFile :=
  { ordersSource with services := ordersSource.services ++ paymentsSource.services }

/-- A directory stands where the handler file of the orders belongs. -/
theorem generateFile_withoutSkipped_store : ∃ report,
    (plainGenerator.generateFile storeSource ⟨[(["order.go"], .directory)], []⟩).answer =
      .ok report ∧
    report.outcomes.map Outcome.isMerged = [false, true] ∧
    (plainGenerator.generateFile (storeSource.withoutSkipped report.outcomes)
      ⟨[(["order.go"], .directory)], []⟩).answer = .ok report.withoutSkipped := by
  have hanswer : (plainGenerator.generateFile storeSource
      ⟨[(["order.go"], .directory)], []⟩).answer.map
        (fun report => report.outcomes.map Outcome.isMerged) = .ok [false, true] := by
    decide +kernel
  obtain ⟨report, hreport, hmerged⟩ := map_eq_ok_iff.mp hanswer
  exact ⟨report, hreport, hmerged, ((generateFile_withoutSkipped .sound).2 _ _ _ _ hreport
    (Or.inl Disk.takesAll_sound)).1⟩

/-- The disk runs full while a new handler file is made: the service is reported as skipped, and yet
the file is there with the beginning of its preamble, which it is not without the service. -/
theorem skipped_service_left_behind : ∃ report,
    (plainGenerator.generateFile ordersSource ⟨[], []⟩ (.fullAt ["order.go"] 10)).answer =
      .ok report ∧
    report.outcomes = [.skipped "order.go" .noSpace] ∧
    (plainGenerator.generateFile ordersSource ⟨[], []⟩ (.fullAt ["order.go"] 10)).tree.read
      "order.go" = .ok (Utf8.ofString "// Code ge") ∧
    (plainGenerator.generateFile (ordersSource.withoutSkipped report.outcomes) ⟨[], []⟩
      (.fullAt ["order.go"] 10)).tree.exists? "order.go" = false := by
  have hanswer : (plainGenerator.generateFile ordersSource ⟨[], []⟩
      (.fullAt ["order.go"] 10)).answer.map FileReport.outcomes =
        .ok [.skipped "order.go" .noSpace] := by
    decide +kernel
  obtain ⟨report, hreport, houtcomes⟩ := map_eq_ok_iff.mp hanswer
  refine ⟨report, hreport, houtcomes, by decide +kernel, ?_⟩
  rw [houtcomes]
  decide +kernel

end Generator
end ServiceScaffold
