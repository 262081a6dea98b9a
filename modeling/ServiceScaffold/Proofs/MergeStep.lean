import Mathlib
import ServiceScaffold.Handler.Merge
import ServiceScaffold.Proofs.Declarations
import ServiceScaffold.Proofs.TreeGrowth

/-!
# What one merge can do

If no write fails, then a merge ends in one of five ways, and each says what was found at the
handler file's path and what the merge made of it. A write that fails leaves a first part of what it
was given. After a merge the file declares the whole service, and a file that declares the whole
service is left as it is.
-/

namespace ServiceScaffold
namespace Handler

open FileTree

def filePath (dir : String) (service : ServicePlan) : String :=
  Path.join dir (fileName service.receiver)

/-- The ways in which a merge ends if no write to its handler file fails. -/
inductive MergeStep (scan : SymbolScanner) (dir : String) (service : ServicePlan)
    (preamble : Unit → Except Fault String) (tree : FileTree) (table : Routing.Table) :
    Merge → Prop
  | stopped {fault : Fault} (absent : tree.exists? (filePath dir service) = false)
      (asked : preamble () = .error fault) :
      MergeStep scan dir service preamble tree table ⟨tree, table, true, .error fault⟩
  | blocked {place : Location}
      (found : tree.find (filePath dir service) = .ok (place, .directory)) :
      MergeStep scan dir service preamble tree table
        ⟨tree, table, false, .ok (.skipped (filePath dir service) .isDirectory)⟩
  | refused {text : String} {refusal : Refusal}
      (absent : tree.exists? (filePath dir service) = false) (asked : preamble () = .ok text)
      (opened : tree.openFresh (filePath dir service) = .error refusal) :
      MergeStep scan dir service preamble tree table
        ⟨tree, table, true, .ok (.skipped (filePath dir service) refusal)⟩
  | created {text : String} {place : Location}
      (absent : tree.exists? (filePath dir service) = false) (asked : preamble () = .ok text)
      (opened : tree.openFresh (filePath dir service) = .ok place) :
      MergeStep scan dir service preamble tree table
        (extend service (filePath dir service) true (scan []) place (Utf8.ofString text) tree table)
  | extended {place : Location} {content : Bytes}
      (found : tree.find (filePath dir service) = .ok (place, .file content)) :
      MergeStep scan dir service preamble tree table
        (extend service (filePath dir service) false (scan content) place content tree table)

/-- What a service's merge writes to: a handler file that is there with these contents, or one that
is not there and begins with its preamble. `start` is the tree in which the stubs are added. -/
inductive Opened (scan : SymbolScanner) (dir : String) (service : ServicePlan)
    (preamble : Unit → Except Fault String) (tree : FileTree) :
    Bool → SymbolSet → Location → Bytes → FileTree → Prop
  | created {text : String} {place : Location}
      (absent : tree.exists? (filePath dir service) = false) (asked : preamble () = .ok text)
      (opened : tree.openFresh (filePath dir service) = .ok place) :
      Opened scan dir service preamble tree true (scan []) place (Utf8.ofString text)
        (tree.put place (.file (Utf8.ofString text)))
  | extended {place : Location} {content : Bytes}
      (found : tree.find (filePath dir service) = .ok (place, .file content)) :
      Opened scan dir service preamble tree false (scan content) place content tree

/-- The ways in which a write of a merge fails, what is left then, and the answer: with a preamble
that is cut short the service is skipped, and stubs that are cut short are a fault. -/
inductive CutShort (scan : SymbolScanner) (dir : String) (service : ServicePlan)
    (preamble : Unit → Except Fault String) (tree : FileTree) (disk : Disk) :
    Bool → FileTree → Except Fault Outcome → Prop
  | preamble {text : String} {place : Location} {fault : WriteFault}
      (absent : tree.exists? (filePath dir service) = false) (asked : preamble () = .ok text)
      (opened : tree.openFresh (filePath dir service) = .ok place)
      (failed : disk.fault (tree.put place (.file [])) place (Utf8.ofString text) = some fault) :
      CutShort scan dir service preamble tree disk true
        (tree.put place (.file ((Utf8.ofString text).take fault.taken)))
        (.ok (.skipped (filePath dir service) fault.reason))
  | stubs {created : Bool} {symbols : SymbolSet} {place : Location} {content : Bytes}
      {start : FileTree} {fault : WriteFault}
      (opened : Opened scan dir service preamble tree created symbols place content start)
      (failed : disk.fault start place (Utf8.ofString (missingText symbols service)) = some fault) :
      CutShort scan dir service preamble tree disk created
        (tree.put place (.file (content ++
          (Utf8.ofString (missingText symbols service)).take fault.taken)))
        (.error ⟨.io, fault.reason.message⟩)

/-- The ways in which a merge ends on any disk. -/
inductive DiskStep (scan : SymbolScanner) (dir : String) (service : ServicePlan)
    (preamble : Unit → Except Fault String) (tree : FileTree) (table : Routing.Table)
    (disk : Disk) : Merge → Prop
  | whole {merge : Merge} (step : MergeStep scan dir service preamble tree table merge) :
      DiskStep scan dir service preamble tree table disk merge
  | cut {asked : Bool} {left : FileTree} {answer : Except Fault Outcome}
      (short : CutShort scan dir service preamble tree disk asked left answer) :
      DiskStep scan dir service preamble tree table disk ⟨left, table, asked, answer⟩

section

variable {scan : SymbolScanner} {dir : String} {service : ServicePlan}
  {preamble : Unit → Except Fault String} {tree start : FileTree} {created : Bool}
  {symbols : SymbolSet} {place : Location} {content : Bytes}

theorem Opened.put_eq
    (h : Opened scan dir service preamble tree created symbols place content start) (node : Node) :
    start.put place node = tree.put place node := by
  cases h with
  | created => exact put_put ..
  | extended => rfl

theorem Opened.mergeStep
    (h : Opened scan dir service preamble tree created symbols place content start)
    (table : Routing.Table) :
    MergeStep scan dir service preamble tree table
      (extend service (filePath dir service) created symbols place content tree table) := by
  cases h with
  | created absent asked opened => exact .created absent asked opened
  | extended found => exact .extended found

theorem Opened.diskStep
    (h : Opened scan dir service preamble tree created symbols place content start)
    (table : Routing.Table) (disk : Disk) :
    DiskStep scan dir service preamble tree table disk
      (extend service (filePath dir service) created symbols place content start table disk) := by
  cases hfault : disk.fault start place (Utf8.ofString (missingText symbols service)) with
  | none =>
    rw [extend, append_of_taken hfault, h.put_eq]
    exact .whole (h.mergeStep table)
  | some fault =>
    rw [extend, append_of_fault hfault, h.put_eq]
    exact .cut (.stubs h hfault)

theorem CutShort.not_takesAll {left : FileTree} {disk : Disk} {asked : Bool}
    {answer : Except Fault Outcome}
    (h : CutShort scan dir service preamble tree disk asked left answer) : ¬disk.TakesAll := by
  intro hall
  cases h with
  | preamble absent asked opened failed => simp [hall _ _ _] at failed
  | stubs opened failed => simp [hall _ _ _] at failed

end

theorem diskStep_merge (scan : SymbolScanner) (dir : String) (service : ServicePlan)
    (preamble : Unit → Except Fault String) (tree : FileTree) (table : Routing.Table)
    (disk : Disk) :
    DiskStep scan dir service preamble tree table disk
      (merge scan dir service preamble tree table disk) := by
  have hpath : Path.join dir (fileName service.receiver) = filePath dir service := rfl
  simp only [merge, hpath]
  cases hexists : tree.exists? (filePath dir service) with
  | true =>
    obtain ⟨place, node, hfind⟩ := exists?_eq_true_iff.mp hexists
    rw [if_pos rfl]
    cases node with
    | directory =>
      rw [openExisting_of_directory hfind]
      exact .whole (.blocked hfind)
    | file content =>
      rw [openExisting_eq_ok_iff.mpr hfind]
      exact (Opened.extended hfind).diskStep table disk
  | false =>
    rw [if_neg Bool.false_ne_true]
    cases hasked : preamble () with
    | error fault => exact .whole (.stopped hexists hasked)
    | ok text =>
      cases hopen : tree.openFresh (filePath dir service) with
      | error refusal => exact .whole (.refused hexists hasked hopen)
      | ok place =>
        cases hfault : disk.fault (tree.put place (.file [])) place (Utf8.ofString text) with
        | none =>
          simp only [append_of_taken hfault, put_put, List.nil_append]
          exact (Opened.created hexists hasked hopen).diskStep table disk
        | some fault =>
          simp only [append_of_fault hfault, put_put, List.nil_append]
          exact .cut (.preamble hexists hasked hopen hfault)

theorem mergeStep_merge (scan : SymbolScanner) (dir : String) (service : ServicePlan)
    (preamble : Unit → Except Fault String) (tree : FileTree) (table : Routing.Table) :
    MergeStep scan dir service preamble tree table
      (merge scan dir service preamble tree table) := by
  have hstep := diskStep_merge scan dir service preamble tree table .sound
  generalize merge scan dir service preamble tree table = result at hstep ⊢
  cases hstep with
  | whole step => exact step
  | cut short => exact (short.not_takesAll Disk.takesAll_sound).elim

@[simp] theorem answer_extend (service : ServicePlan) (path : String) (created : Bool)
    (symbols : SymbolSet) (place : Location) (content : Bytes) (tree : FileTree)
    (table : Routing.Table) :
    (extend service path created symbols place content tree table).answer =
      .ok (.merged (summarize symbols service path created)) := rfl

@[simp] theorem tree_extend (service : ServicePlan) (path : String) (created : Bool)
    (symbols : SymbolSet) (place : Location) (content : Bytes) (tree : FileTree)
    (table : Routing.Table) :
    (extend service path created symbols place content tree table).tree =
      tree.put place (.file (content ++ Utf8.ofString (missingText symbols service))) := rfl

@[simp] theorem table_extend (service : ServicePlan) (path : String) (created : Bool)
    (symbols : SymbolSet) (place : Location) (content : Bytes) (tree : FileTree)
    (table : Routing.Table) :
    (extend service path created symbols place content tree table).table =
      table.register service := rfl

/-- What is reported of a file that was not skipped depends on the symbols found in it. -/
theorem eq_summarize_of_merged {scan : SymbolScanner} {dir : String} {service : ServicePlan}
    {preamble : Unit → Except Fault String} {tree : FileTree} {table : Routing.Table}
    {summary : Summary}
    (h : (merge scan dir service preamble tree table).answer = .ok (.merged summary)) :
    ∃ symbols created, summary = summarize symbols service (filePath dir service) created := by
  have hstep := mergeStep_merge scan dir service preamble tree table
  generalize merge scan dir service preamble tree table = result at h hstep
  cases hstep with
  | stopped | blocked | refused => cases h
  | created | extended =>
    rw [answer_extend, Except.ok.injEq, Outcome.merged.injEq] at h
    exact ⟨_, _, h.symm⟩

theorem table_of_merged {scan : SymbolScanner} {dir : String} {service : ServicePlan}
    {preamble : Unit → Except Fault String} {tree : FileTree} {table : Routing.Table}
    {summary : Summary}
    (h : (merge scan dir service preamble tree table).answer = .ok (.merged summary)) :
    (merge scan dir service preamble tree table).table = table.register service := by
  have hstep := mergeStep_merge scan dir service preamble tree table
  generalize merge scan dir service preamble tree table = result at h hstep ⊢
  cases hstep with
  | stopped | blocked | refused => cases h
  | created | extended => rfl

/-- A merge that does not succeed leaves the table as it was, and the tree unless a write failed. -/
theorem left_of_not_merged {scan : SymbolScanner} {dir : String} {service : ServicePlan}
    {preamble : Unit → Except Fault String} {tree : FileTree} {table : Routing.Table} {disk : Disk}
    (h : ∀ summary,
      (merge scan dir service preamble tree table disk).answer ≠ .ok (.merged summary)) :
    (merge scan dir service preamble tree table disk).table = table ∧
      ((merge scan dir service preamble tree table disk).tree = tree ∨
        CutShort scan dir service preamble tree disk
          (merge scan dir service preamble tree table disk).asked
          (merge scan dir service preamble tree table disk).tree
          (merge scan dir service preamble tree table disk).answer) := by
  have hstep := diskStep_merge scan dir service preamble tree table disk
  generalize merge scan dir service preamble tree table disk = result at h hstep ⊢
  cases hstep with
  | whole step =>
    cases step with
    | stopped | blocked | refused => exact ⟨rfl, Or.inl rfl⟩
    | created | extended => exact absurd (answer_extend ..) (h _)
  | cut short => exact ⟨rfl, Or.inr short⟩

theorem unchanged_of_not_merged {scan : SymbolScanner} {dir : String} {service : ServicePlan}
    {preamble : Unit → Except Fault String} {tree : FileTree} {table : Routing.Table} {disk : Disk}
    (hall : disk.TakesAll)
    (h : ∀ summary,
      (merge scan dir service preamble tree table disk).answer ≠ .ok (.merged summary)) :
    (merge scan dir service preamble tree table disk).tree = tree :=
  (left_of_not_merged h).2.resolve_right fun short => short.not_takesAll hall

theorem left_of_skipped {scan : SymbolScanner} {dir : String} {service : ServicePlan}
    {preamble : Unit → Except Fault String} {tree : FileTree} {table : Routing.Table} {disk : Disk}
    {path : String} {reason : Refusal}
    (h : (merge scan dir service preamble tree table disk).answer = .ok (.skipped path reason)) :
    (merge scan dir service preamble tree table disk).table = table ∧
      (disk.TakesAll → (merge scan dir service preamble tree table disk).tree = tree) := by
  have hskipped (summary : Summary) :
      (merge scan dir service preamble tree table disk).answer ≠ .ok (.merged summary) := by
    simp [h]
  exact ⟨(left_of_not_merged hskipped).1, fun hall => unchanged_of_not_merged hall hskipped⟩

theorem unchanged_of_skipped {scan : SymbolScanner} {dir : String} {service : ServicePlan}
    {preamble : Unit → Except Fault String} {tree : FileTree} {table : Routing.Table}
    {path : String} {reason : Refusal}
    (h : (merge scan dir service preamble tree table).answer = .ok (.skipped path reason)) :
    (merge scan dir service preamble tree table).tree = tree ∧
      (merge scan dir service preamble tree table).table = table :=
  ⟨(left_of_skipped h).2 Disk.takesAll_sound, (left_of_skipped h).1⟩

theorem cases_of_skipped {scan : SymbolScanner} {dir : String} {service : ServicePlan}
    {preamble : Unit → Except Fault String} {tree : FileTree} {table : Routing.Table}
    {path : String} {reason : Refusal}
    (h : (merge scan dir service preamble tree table).answer = .ok (.skipped path reason)) :
    path = filePath dir service ∧
      ((reason = .isDirectory ∧ ∃ place, tree.find path = .ok (place, .directory)) ∨
        (tree.exists? path = false ∧ (∃ text, preamble () = .ok text) ∧
          tree.openFresh path = .error reason)) := by
  have hstep := mergeStep_merge scan dir service preamble tree table
  generalize merge scan dir service preamble tree table = result at h hstep
  cases hstep with
  | stopped => cases h
  | blocked found =>
    rw [Except.ok.injEq, Outcome.skipped.injEq] at h
    obtain ⟨rfl, rfl⟩ := h
    exact ⟨rfl, Or.inl ⟨rfl, _, found⟩⟩
  | refused absent asked opened =>
    rw [Except.ok.injEq, Outcome.skipped.injEq] at h
    obtain ⟨rfl, rfl⟩ := h
    exact ⟨rfl, Or.inr ⟨absent, ⟨_, asked⟩, opened⟩⟩
  | created | extended =>
    rw [answer_extend, Except.ok.injEq] at h
    cases h

theorem merge_of_find {scan : SymbolScanner} {dir : String} {service : ServicePlan}
    {preamble : Unit → Except Fault String} {tree : FileTree} {table : Routing.Table}
    {place : Location} {content : Bytes}
    (h : tree.find (filePath dir service) = .ok (place, .file content)) :
    merge scan dir service preamble tree table =
      extend service (filePath dir service) false (scan content) place content tree table := by
  have hpath : Path.join dir (fileName service.receiver) = filePath dir service := rfl
  have hexists : tree.exists? (filePath dir service) = true :=
    exists?_eq_true_iff.mpr ⟨place, .file content, h⟩
  simp only [merge, hpath, hexists, if_true, openExisting_eq_ok_iff.mpr h]

theorem merge_of_directory {scan : SymbolScanner} {dir : String} {service : ServicePlan}
    {preamble : Unit → Except Fault String} {tree : FileTree} {table : Routing.Table}
    {place : Location} (h : tree.find (filePath dir service) = .ok (place, .directory)) :
    merge scan dir service preamble tree table =
      ⟨tree, table, false, .ok (.skipped (filePath dir service) .isDirectory)⟩ := by
  have hpath : Path.join dir (fileName service.receiver) = filePath dir service := rfl
  have hexists : tree.exists? (filePath dir service) = true :=
    exists?_eq_true_iff.mpr ⟨place, .directory, h⟩
  simp only [merge, hpath, hexists, if_true, openExisting_of_directory h]

theorem merge_of_refused {scan : SymbolScanner} {dir : String} {service : ServicePlan}
    {preamble : Unit → Except Fault String} {tree : FileTree} {table : Routing.Table}
    {text : String} {reason : Refusal} (habsent : tree.exists? (filePath dir service) = false)
    (hasked : preamble () = .ok text)
    (hopen : tree.openFresh (filePath dir service) = .error reason) :
    merge scan dir service preamble tree table =
      ⟨tree, table, true, .ok (.skipped (filePath dir service) reason)⟩ := by
  have hpath : Path.join dir (fileName service.receiver) = filePath dir service := rfl
  simp only [merge, hpath, habsent, Bool.false_eq_true, if_false, hasked, hopen]

theorem merge_of_opened {scan : SymbolScanner} {dir : String} {service : ServicePlan}
    {preamble : Unit → Except Fault String} {tree : FileTree} {table : Routing.Table}
    {text : String} {place : Location} (habsent : tree.exists? (filePath dir service) = false)
    (hasked : preamble () = .ok text)
    (hopen : tree.openFresh (filePath dir service) = .ok place) :
    merge scan dir service preamble tree table =
      extend service (filePath dir service) true (scan []) place (Utf8.ofString text) tree
        table := by
  have hpath : Path.join dir (fileName service.receiver) = filePath dir service := rfl
  have htaken : (tree.put place (.file [])).append place [] (Utf8.ofString text) =
      ⟨tree.put place (.file (Utf8.ofString text)), none⟩ := by
    rw [append_of_taken rfl, put_put, List.nil_append]
  simp only [merge, hpath, habsent, Bool.false_eq_true, if_false, hasked, hopen, htaken]
  rw [extend, extend, append_of_taken rfl, append_of_taken rfl, put_put]

/-- What the paths lead to is text. -/
def TextAt (paths : Set String) (tree : FileTree) : Prop :=
  ∀ path ∈ paths, ∀ place content, tree.find path = .ok (place, .file content) →
    Utf8.IsText content

theorem TextAt.put_file {paths : Set String} {tree : FileTree} {place : Location} {content : Bytes}
    (h : TextAt paths tree) (hfree : tree.node? place ≠ some .directory)
    (ht : Utf8.IsText content) : TextAt paths (tree.put place (.file content)) := by
  intro path hpath reached new hfind
  rcases find_put_file hfree hfind with ⟨-, hnew⟩ | hbefore
  · cases hnew
    exact ht
  · exact h path hpath reached new hbefore

theorem TextAt.merge {paths : Set String} {tree : FileTree} (h : TextAt paths tree)
    (scan : SymbolScanner) {dir : String} {service : ServicePlan}
    (hpath : filePath dir service ∈ paths) (preamble : Unit → Except Fault String)
    (table : Routing.Table) :
    TextAt paths (Handler.merge scan dir service preamble tree table).tree := by
  have hstep := mergeStep_merge scan dir service preamble tree table
  generalize Handler.merge scan dir service preamble tree table = result at hstep ⊢
  cases hstep with
  | stopped | blocked | refused => exact h
  | @created text place absent asked opened =>
    refine h.put_file (by simp [node?_eq_none_of_openFresh absent opened]) ?_
    exact (continues_missingText _ _ service).isText (Utf8.isText_encode text.toList)
  | @extended place content found =>
    obtain ⟨-, -, -, hnode⟩ := find_eq_ok_iff.mp found
    refine h.put_file (by simp [hnode]) ?_
    exact (continues_missingText _ _ service).isText (h _ hpath place content found)

theorem lacksMethod_eq_false_iff {symbols : SymbolSet} {receiver : String} {method : MethodPlan} :
    lacksMethod symbols receiver method = false ↔ methodKey receiver method.name ∈ symbols := by
  simp [lacksMethod]

theorem declares_missingText {service : ServicePlan} (hs : Recognizable service) {content : Bytes}
    (ht : Utf8.IsText content) {symbols : SymbolSet}
    (hsymbols : ∀ key ∈ symbols, key ∈ scanLines content) :
    Declares (content ++ Utf8.ofString (missingText symbols service)) service := by
  have hcontinues := continues_missingText content symbols service
  obtain ⟨text, rfl⟩ := ht
  have hold {key : String} (hkey : '\r' ∉ key.toList) (hmem : key ∈ symbols) :
      key ∈ scanLines (Utf8.encode text ++ Utf8.ofString (missingText symbols service)) :=
    hcontinues.mem_scanLines ⟨text, rfl⟩ hkey (hsymbols key hmem)
  rw [Utf8.ofString, ← Utf8.encode_append, missingText_toList] at hold ⊢
  constructor
  · by_cases hmem : service.receiver ∈ symbols
    · exact hold hs.carriage_not_mem.1 hmem
    · rw [if_neg (by simpa using hmem)]
      exact mem_scanLines_typeStub hs.receiver hs.noType _ _
  · intro method hmethod
    cases hlacks : lacksMethod symbols service.receiver method with
    | false =>
      exact hold (hs.carriage_not_mem.2 method hmethod) (lacksMethod_eq_false_iff.mp hlacks)
    | true =>
      have hmissing : method ∈ service.methods.filter (lacksMethod symbols service.receiver) :=
        List.mem_filter.mpr ⟨hmethod, hlacks⟩
      obtain ⟨first, last, hsplit⟩ := List.append_of_mem hmissing
      rw [hsplit, List.flatMap_append, List.flatMap_cons, ← List.append_assoc, ← List.append_assoc]
      exact mem_scanLines_methodStub hs.receiver (hs.methods method hmethod) _ _

/-- After a merge that was not skipped, the handler file declares the whole service. -/
theorem declares_of_merged {paths : Set String} {dir : String} {service : ServicePlan}
    {preamble : Unit → Except Fault String} {tree : FileTree} {table : Routing.Table}
    {summary : Summary} (hs : Recognizable service) (ht : TextAt paths tree)
    (hpath : filePath dir service ∈ paths)
    (hm : (merge scanLines dir service preamble tree table).answer = .ok (.merged summary)) :
    ∃ place content, (merge scanLines dir service preamble tree table).tree.find
      (filePath dir service) = .ok (place, .file content) ∧ Declares content service := by
  have hstep := mergeStep_merge scanLines dir service preamble tree table
  generalize merge scanLines dir service preamble tree table = result at hm hstep ⊢
  cases hstep with
  | stopped | blocked | refused => cases hm
  | @created text place absent asked opened =>
    refine ⟨place, _, find_put_of_openFresh opened _, ?_⟩
    exact declares_missingText hs (Utf8.isText_encode text.toList)
      (by simp [scanLines, textLines, Text.lines])
  | @extended place content found =>
    refine ⟨place, _, find_put_of_find found _, ?_⟩
    exact declares_missingText hs (ht _ hpath place content found) fun _ => id

theorem Declares.lacksMethod_eq_false {content : Bytes} {service : ServicePlan}
    (h : Declares content service) {method : MethodPlan} (hmethod : method ∈ service.methods) :
    lacksMethod (scanLines content) service.receiver method = false :=
  lacksMethod_eq_false_iff.mpr (h.methods method hmethod)

theorem Declares.missingText_eq {content : Bytes} {service : ServicePlan}
    (h : Declares content service) : missingText (scanLines content) service = "" := by
  have hnone : service.methods.filter (lacksMethod (scanLines content) service.receiver) = [] := by
    rw [List.filter_eq_nil_iff]
    intro method hmethod
    simp [h.lacksMethod_eq_false hmethod]
  simp [missingText, h.receiver, hnone]

theorem Declares.summarize_eq {content : Bytes} {service : ServicePlan}
    (h : Declares content service) (path : String) :
    summarize (scanLines content) service path false =
      ⟨path, false, false, [], service.methods.map MethodPlan.name⟩ := by
  have hnone : service.methods.filter (lacksMethod (scanLines content) service.receiver) = [] := by
    rw [List.filter_eq_nil_iff]
    intro method hmethod
    simp [h.lacksMethod_eq_false hmethod]
  have hall : service.methods.filter (!lacksMethod (scanLines content) service.receiver ·) =
      service.methods := by
    rw [List.filter_eq_self]
    intro method hmethod
    simp [h.lacksMethod_eq_false hmethod]
  simp [summarize, h.receiver, hnone, hall]

end Handler
end ServiceScaffold
