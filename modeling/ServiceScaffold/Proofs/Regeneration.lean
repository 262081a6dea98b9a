import Mathlib
import ServiceScaffold.Proofs.Routes
import ServiceScaffold.Proofs.SettledTrees

/-!
# Running again

A run over the tree that a successful run has left succeeds as well and leaves the tree as it is.
In between, only the text of the routing table may differ, because the table is written again for
each file.
-/

namespace ServiceScaffold

open FileTree Handler

/-- Three lists of one length whose corresponding elements are related. -/
inductive Forall₃ {α β γ : Type} (R : α → β → γ → Prop) : List α → List β → List γ → Prop
  | nil : Forall₃ R [] [] []
  | cons {a : α} {b : β} {c : γ} {as : List α} {bs : List β} {cs : List γ} (head : R a b c)
      (tail : Forall₃ R as bs cs) : Forall₃ R (a :: as) (b :: bs) (c :: cs)

namespace Handler.Outcome

def path : Outcome → String
  | .merged summary => summary.path
  | .skipped path _ => path

/-- What becomes of an outcome when the file holds everything already. -/
def repeated (service : ServicePlan) : Outcome → Outcome
  | .merged summary =>
    .merged ⟨summary.path, false, false, [], service.methods.map MethodPlan.name⟩
  | .skipped path reason => .skipped path reason

end Handler.Outcome

/-- A second outcome repeats the first, unless it is about the routing table. -/
def RepeatsOutcome (tableFile : String) (service : ServicePlan) (first second : Outcome) : Prop :=
  second.path ≠ tableFile → second = first.repeated service

/-- A second report of a file repeats the first. -/
structure RepeatsReport (tableFile : String) (file : SourceFile) (first second : FileReport) :
    Prop where
  source : second.source = first.source
  table : second.table = first.table
  tablePath : second.tablePath = first.tablePath
  outcomes : Forall₃ (fun service => RepeatsOutcome tableFile (ServicePlan.of file service))
    file.services first.outcomes second.outcomes

/-- The tree with this text in the routing table of the directory at `place`. -/
def FileTree.withTable (settled : FileTree) (place : Location) (content : Bytes) : FileTree :=
  settled.put (place ++ [routingFileName]) (.file content)

namespace Generator

variable {generator : Generator} {file : SourceFile} {paths : List String} {settled : FileTree}
  {place : Location}

theorem withTable_appends (hprepared : Prepared generator settled place)
    (hfree : settled.node? (place ++ [routingFileName]) ≠ some .directory) (content : Bytes) :
    Appends generator.tablePath paths settled (settled.withTable place content) :=
  Appends.put_file List.mem_cons_self hfree
    (find_put_of_openFresh (hprepared.openFresh_eq hfree) content) fun _ _ => Or.inl rfl

/-- A service at rest goes the same way again, and only the routing table can change. -/
theorem mergeOf_again (hscan : generator.scan = scanLines) (hsteady : Steady generator paths)
    (hprepared : Prepared generator settled place)
    (hfree : settled.node? (place ++ [routingFileName]) ≠ some .directory) {service : Service}
    (hs : Recognizable (ServicePlan.of file service)) {outcome : Outcome}
    (h : Rests generator settled file (ServicePlan.of file service) outcome)
    (table : Routing.Table) (content : Bytes) :
    ∃ again content',
      (generator.mergeOf file service table (settled.withTable place content)).answer = .ok again ∧
      (generator.mergeOf file service table (settled.withTable place content)).tree =
        settled.withTable place content' ∧
      (generator.mergeOf file service table (settled.withTable place content)).table =
        outcome.register (ServicePlan.of file service) table ∧
      RepeatsOutcome generator.tablePath (ServicePlan.of file service) outcome again := by
  have happends : Appends generator.tablePath paths settled (settled.withTable place content) :=
    withTable_appends hprepared hfree content
  have htable : (settled.withTable place content).find generator.tablePath =
      .ok (place ++ [routingFileName], .file content) :=
    find_put_of_openFresh (hprepared.openFresh_eq hfree) content
  rw [mergeOf, hscan]
  cases h.appends hs hsteady happends with
  | blocked found =>
    rw [merge_of_directory found]
    exact ⟨_, content, rfl, rfl, rfl, fun _ => rfl⟩
  | refused asked unfit =>
    have hentry := isEntry_of_recognizable hs
    have hinto := happends.keeps.leadsInto hprepared.into
    rw [merge_of_refused (unfit.exists?_eq_false hentry _) asked (unfit.openFresh_eq hinto hentry)]
    exact ⟨_, content, rfl, rfl, rfl, fun _ => rfl⟩
  | @merged summary reached old path found declares =>
    rw [merge_of_find found, answer_extend, tree_extend, table_extend]
    by_cases hne : filePath generator.settings.handlerPath (ServicePlan.of file service) =
        generator.tablePath
    · -- The service's handler file is the routing table, which is written anew afterwards.
      rw [hne, htable, Except.ok.injEq, Prod.mk.injEq] at found
      refine ⟨_, old ++ Utf8.ofString (missingText (scanLines old) (ServicePlan.of file service)),
        rfl, ?_, rfl, fun hpath => ?_⟩
      · rw [← found.1, withTable, put_put, withTable]
      · simp only [Outcome.path, summarize] at hpath
        exact absurd hne hpath
    · obtain ⟨-, hdeclares⟩ := declares hne
      obtain ⟨-, -, -, hnode⟩ := find_eq_ok_iff.mp found
      have hfile : (settled.withTable place content).node? reached ≠ some .directory := by
        simp [hnode]
      have hempty : Utf8.ofString "" = [] := rfl
      refine ⟨_, content, rfl, ?_, rfl, fun _ => ?_⟩
      · rw [hdeclares.missingText_eq, hempty, List.append_nil,
          put_of_node? (ne_nil_of_not_directory hfile) hnode]
      · rw [hdeclares.summarize_eq, Outcome.repeated, path]

theorem mergeServices_again (hscan : generator.scan = scanLines)
    (hsteady : Steady generator paths) (hprepared : Prepared generator settled place)
    (hfree : settled.node? (place ++ [routingFileName]) ≠ some .directory)
    {services : List Service}
    (hplain : ∀ service ∈ services, Recognizable (ServicePlan.of file service))
    {outcomes : List Outcome}
    (hrests : List.Forall₂ (fun service outcome =>
      Rests generator settled file (ServicePlan.of file service) outcome) services outcomes)
    {start : FileTree} {table last : Routing.Table}
    (hfirst : (generator.mergeServices file services table start).answer = .ok (outcomes, last))
    (content : Bytes) :
    ∃ again content',
      (generator.mergeServices file services table (settled.withTable place content)).answer =
        .ok (again, last) ∧
      (generator.mergeServices file services table (settled.withTable place content)).tree =
        settled.withTable place content' ∧
      Forall₃ (fun service => RepeatsOutcome generator.tablePath (ServicePlan.of file service))
        services outcomes again := by
  induction hrests generalizing start table content with
  | nil =>
    rw [mergeServices, Run.done, Except.ok.injEq, Prod.mk.injEq] at hfirst
    rw [← hfirst.2]
    exact ⟨[], content, rfl, rfl, .nil⟩
  | @cons service outcome rest later hrests _ ih =>
    obtain ⟨_, _, heq, hmerge, hrest⟩ := answer_mergeServices_cons_eq_ok_iff.mp hfirst
    obtain ⟨rfl, rfl⟩ := List.cons.inj heq
    rw [table_mergeOf hmerge] at hrest
    obtain ⟨again, middle, hanswer, htree, htable, hrepeats⟩ := mergeOf_again hscan hsteady
      hprepared hfree (hplain service List.mem_cons_self) hrests table content
    obtain ⟨laters, content', hlater, htree', hforall⟩ :=
      ih (fun s hs => hplain s (List.mem_cons_of_mem service hs)) hrest middle
    refine ⟨again :: laters, content', ?_, ?_, .cons hrepeats hforall⟩
    · rw [answer_mergeServices_cons_eq_ok_iff]
      refine ⟨again, laters, rfl, hanswer, ?_⟩
      rw [htree, htable]
      exact hlater
    · rw [tree_mergeServices_cons hanswer, htree, htable]
      exact htree'

theorem generateFile_again (hscan : generator.scan = scanLines) (hsteady : Steady generator paths)
    (hprepared : Prepared generator settled place)
    (hfree : settled.node? (place ++ [routingFileName]) ≠ some .directory)
    (hplain : ∀ service ∈ file.services, Recognizable (ServicePlan.of file service))
    {report : FileReport} (h : FileRests generator settled file report) (content : Bytes) :
    ∃ again,
      (generator.generateFile file (settled.withTable place content)).answer = .ok again ∧
      (generator.generateFile file (settled.withTable place content)).tree =
        settled.withTable place (Utf8.ofString (report.table.render generator.settings)) ∧
      RepeatsReport generator.tablePath file report again := by
  obtain ⟨start, hfirst⟩ := h.merged
  obtain ⟨outcomes, content', hanswer, htree, hforall⟩ := mergeServices_again hscan hsteady
    hprepared hfree hplain h.outcomes hfirst content
  have hkeeps (text : Bytes) : Keeps settled (settled.withTable place text) :=
    Keeps.put_file hfree text
  have hfree' : (settled.withTable place content').node? (place ++ [routingFileName]) ≠
      some .directory := by
    rw [withTable, node?_put_self (by simp)]
    simp
  have hparts : Generates generator file (settled.withTable place content)
      (settled.withTable place content) outcomes report.table (place ++ [routingFileName]) := by
    refine ⟨(hprepared.keeps (hkeeps content)).makeDirectories_eq, hanswer, ?_, rfl⟩
    rw [htree]
    exact (hprepared.keeps (hkeeps content')).openFresh_eq hfree'
  refine ⟨_, hparts.answer, ?_, ⟨h.source.symm, rfl, h.tablePath.symm, hforall⟩⟩
  rw [hparts.tree_eq, htree, withTable, put_put, withTable]

/-- Files at rest are generated again, and what is left is the last routing table. -/
theorem generate_again_of_rests (hscan : generator.scan = scanLines)
    (hsteady : Steady generator paths) (hprepared : Prepared generator settled place)
    (hfree : settled.node? (place ++ [routingFileName]) ≠ some .directory)
    {files : List SourceFile} (heligible : ∀ file ∈ files, file.eligible = true)
    (hplain : ∀ file ∈ files, ∀ service ∈ file.services,
      Recognizable (ServicePlan.of file service))
    {reports : List FileReport}
    (hrests : List.Forall₂ (FileRests generator settled) files reports) (content : Bytes) :
    ∃ again, (generator.generate files (settled.withTable place content)).answer = .ok again ∧
      (generator.generate files (settled.withTable place content)).tree =
        settled.withTable place (lastTable generator content reports) ∧
      Forall₃ (RepeatsReport generator.tablePath) files reports again := by
  induction hrests generalizing content with
  | nil => exact ⟨[], rfl, rfl, .nil⟩
  | @cons file report rest later hfile _ ih =>
    have hasked := heligible file List.mem_cons_self
    obtain ⟨again, hanswer, htree, hrepeats⟩ := generateFile_again hscan hsteady hprepared hfree
      (hplain file List.mem_cons_self) hfile content
    obtain ⟨laters, hlater, htree', hforall⟩ :=
      ih (fun f hf => heligible f (List.mem_cons_of_mem file hf))
        (fun f hf => hplain f (List.mem_cons_of_mem file hf))
        (Utf8.ofString (report.table.render generator.settings))
    refine ⟨again :: laters, ?_, ?_, .cons hrepeats hforall⟩
    · rw [answer_generate_cons_eq_ok_iff hasked]
      refine ⟨again, laters, rfl, hanswer, ?_⟩
      rw [htree]
      exact hlater
    · rw [tree_generate_cons hasked hanswer, htree, htree', lastTable_cons]

/-- Regeneration is idempotent: after a successful run, a second one succeeds, changes nothing, and
reports that every handler file holds its whole service already. The handler files that are there
when the handler directory has been made have to be text. -/
theorem generate_again {generator : Generator} (hscan : generator.scan = scanLines)
    {files : List SourceFile} (hsteady : Steady generator (generator.handlerPaths files))
    (hplain : ∀ file ∈ files, ∀ service ∈ file.services,
      Recognizable (ServicePlan.of file service))
    {tree : FileTree}
    (ht : TextAt {path | path ∈ generator.handlerPaths files}
      (tree.makeDirectories generator.settings.handlerPath).tree)
    {first : List FileReport} (h : (generator.generate files tree).answer = .ok first) :
    ∃ second,
      (generator.generate files (generator.generate files tree).tree).answer = .ok second ∧
      (generator.generate files (generator.generate files tree).tree).tree =
        (generator.generate files tree).tree ∧
      Forall₃ (RepeatsReport generator.tablePath) (files.filter SourceFile.eligible) first
        second := by
  have hpaths : generator.handlerPaths (files.filter SourceFile.eligible) =
      generator.handlerPaths files := by
    simp [handlerPaths]
  have heligible : ∀ file ∈ files.filter SourceFile.eligible, file.eligible = true :=
    fun file hfile => (List.mem_filter.mp hfile).2
  have hplain' : ∀ file ∈ files.filter SourceFile.eligible, ∀ service ∈ file.services,
      Recognizable (ServicePlan.of file service) :=
    fun file hfile => hplain file (List.mem_filter.mp hfile).1
  simp only [← generate_filter_eligible generator files] at h ⊢
  obtain ⟨hrests, htable⟩ := generate_rests hscan hsteady heligible hplain'
    (fun path hpath => hpaths ▸ hpath) ht h
  generalize (generator.generate (files.filter SourceFile.eligible) tree).tree = settled
    at hrests htable ⊢
  generalize files.filter SourceFile.eligible = asked at *
  cases asked with
  | nil =>
    cases hrests
    exact ⟨[], rfl, rfl, .nil⟩
  | cons file rest =>
    obtain ⟨place, hprepared, hlast⟩ := htable (List.cons_ne_nil file rest)
    -- The tree is the one in which the last table has just been written.
    have hsame (content : Bytes) :
        settled.withTable place (lastTable generator content first) = settled :=
      put_of_node? (by simp) (hlast content)
    have hfree : settled.node? (place ++ [routingFileName]) ≠ some .directory := by
      rw [hlast []]
      simp
    obtain ⟨second, hanswer, htree, hforall⟩ := generate_again_of_rests hscan hsteady hprepared
      hfree heligible hplain' hrests (lastTable generator [] first)
    rw [hsame] at hanswer htree
    exact ⟨second, hanswer, htree.trans (hsame _), hforall⟩

def shopTree : FileTree :=
  ⟨[(["go.mod"], .file (Utf8.ofString "module shop\n")),
    (["order.go"], .file (Utf8.ofString "func (s *Order) Get("))], []⟩

def moduleGenerator : Generator where
  settings := { handlerPath := "" }

/-- The handler file is extended by the type, and then never again. -/
theorem generate_again_shop : ∃ first second,
    (moduleGenerator.generate [ordersSource] shopTree).answer = .ok first ∧
    first.map (fun report => report.table.services) = [["Order"]] ∧
    (moduleGenerator.generate [ordersSource]
      (moduleGenerator.generate [ordersSource] shopTree).tree).answer = .ok second ∧
    (moduleGenerator.generate [ordersSource]
      (moduleGenerator.generate [ordersSource] shopTree).tree).tree =
        (moduleGenerator.generate [ordersSource] shopTree).tree ∧
    Forall₃ (RepeatsReport "zzconfig.go") [ordersSource] first second := by
  have hanswer : (moduleGenerator.generate [ordersSource] shopTree).answer.map
      (fun first => first.map fun report => report.table.services) = .ok [["Order"]] := by
    decide +kernel
  obtain ⟨first, hfirst, hservices⟩ := map_eq_ok_iff.mp hanswer
  have hpaths : moduleGenerator.handlerPaths [ordersSource] = ["order.go"] := by decide +kernel
  have hplain : ∀ file ∈ [ordersSource], ∀ service ∈ file.services,
      Recognizable (ServicePlan.of file service) := by
    intro file hfile service hservice
    rw [List.mem_singleton.mp hfile] at hservice ⊢
    rw [List.mem_singleton.mp hservice]
    exact ⟨by decide, by decide, by decide⟩
  have hfind : shopTree.find "order.go" =
      .ok (["order.go"], .file (Utf8.ofString "func (s *Order) Get(")) := by decide +kernel
  have htext : TextAt {path | path ∈ moduleGenerator.handlerPaths [ordersSource]} shopTree := by
    intro path hpath place content hfound
    rw [hpaths] at hpath
    rw [List.mem_singleton.mp hpath, hfind, Except.ok.injEq, Prod.mk.injEq, Node.file.injEq]
      at hfound
    rw [← hfound.2]
    exact Utf8.isText_encode _
  have hscan : moduleGenerator.scan = scanLines := rfl
  obtain ⟨second, hsecond, htree, hrepeats⟩ :=
    generate_again hscan (steady_moduleFile rfl hplain) hplain htext hfirst
  exact ⟨first, second, hfirst, hservices, hsecond, htree, hrepeats⟩

end Generator
end ServiceScaffold
