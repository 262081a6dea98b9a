import Mathlib
import ServiceScaffold.Storage.FileTree

/-!
# Trees that grow

A run adds directories and writes files, and it removes nothing. A path that led somewhere before
leads to the same place afterwards, so what a step of a run does to a path can be told from the
directories of the tree before it.
-/

namespace ServiceScaffold

theorem bind_eq_ok_iff {ε α β : Type} {x : Except ε α} {f : α → Except ε β} {b : β} :
    x >>= f = .ok b ↔ ∃ a, x = .ok a ∧ f a = .ok b := by
  cases x <;> simp [bind, Except.bind]

namespace FileTree

/-- Directories stay directories, files stay files, and relative paths start where they did. -/
structure Keeps (before after : FileTree) : Prop where
  here : after.here = before.here
  directory {place : Location} : before.node? place = some .directory →
    after.node? place = some .directory
  file {place : Location} {old : Bytes} : before.node? place = some (.file old) →
    ∃ new, after.node? place = some (.file new)

theorem Keeps.refl (tree : FileTree) : Keeps tree tree :=
  ⟨rfl, id, fun {_ old} h => ⟨old, h⟩⟩

theorem Keeps.trans {first second third : FileTree} (h : Keeps first second)
    (h' : Keeps second third) : Keeps first third where
  here := h'.here.trans h.here
  directory hd := h'.directory (h.directory hd)
  file hf := by
    obtain ⟨middle, hmiddle⟩ := h.file hf
    exact h'.file hmiddle

theorem Keeps.isSome {before after : FileTree} (h : Keeps before after) {place : Location}
    (hp : (before.node? place).isSome) : (after.node? place).isSome := by
  obtain ⟨node, hnode⟩ := Option.isSome_iff_exists.mp hp
  cases node with
  | directory => simp [h.directory hnode]
  | file old =>
    obtain ⟨new, hnew⟩ := h.file hnode
    simp [hnew]

theorem ne_nil_of_not_directory {tree : FileTree} {place : Location}
    (h : tree.node? place ≠ some .directory) : place ≠ [] := by
  rintro rfl
  simp [node?] at h

/-- Writing a file where no directory is keeps everything. -/
theorem Keeps.put_file {tree : FileTree} {place : Location}
    (h : tree.node? place ≠ some .directory) (content : Bytes) :
    Keeps tree (tree.put place (.file content)) where
  here := rfl
  directory {other} hd := by
    have hne : other ≠ place := by rintro rfl; exact h hd
    rw [node?_put_of_ne hne, hd]
  file {other old} hf := by
    by_cases hne : other = place
    · subst hne
      exact ⟨content, node?_put_self (ne_nil_of_not_directory h) tree _⟩
    · exact ⟨old, by rw [node?_put_of_ne hne, hf]⟩

theorem putNode_of_lookup {place : Location} {node : Node} {nodes : List (Location × Node)}
    (h : nodes.lookup place = some node) : putNode place node nodes = nodes := by
  induction nodes with
  | nil => cases h
  | cons entry rest ih =>
    obtain ⟨p, n⟩ := entry
    by_cases hp : p = place
    · subst hp
      rw [List.lookup_cons_self, Option.some.injEq] at h
      simp [putNode, h]
    · have hb : (place == p) = false := beq_eq_false_iff_ne.2 (Ne.symm hp)
      rw [List.lookup_cons, hb] at h
      rw [putNode, if_neg hp, ih h]

theorem putNode_putNode (place : Location) (old new : Node) (nodes : List (Location × Node)) :
    putNode place new (putNode place old nodes) = putNode place new nodes := by
  induction nodes with
  | nil => simp [putNode]
  | cons entry rest ih =>
    obtain ⟨p, n⟩ := entry
    by_cases hp : p = place
    · simp [putNode, hp]
    · simp [putNode, hp, ih]

theorem put_of_node? {tree : FileTree} {place : Location} {node : Node} (hne : place ≠ [])
    (h : tree.node? place = some node) : tree.put place node = tree := by
  rw [node?, if_neg hne] at h
  rw [put, putNode_of_lookup h]

@[simp] theorem put_put (tree : FileTree) (place : Location) (old new : Node) :
    (tree.put place old).put place new = tree.put place new := by
  simp [put, putNode_putNode]

theorem requireDirectory_eq_ok_iff {tree : FileTree} {place : Location} {u : Unit} :
    tree.requireDirectory place = .ok u ↔ tree.node? place = some .directory := by
  unfold requireDirectory
  split
  · simp_all
  · simp_all

theorem child_of_directory {tree : FileTree} {place : Location}
    (h : tree.node? place = some .directory) (name : String) :
    tree.child place name =
      if name = "." then .ok place
      else if name = ".." then .ok place.dropLast
      else if Path.maxNameSize < Path.size name then .error .nameTooLong
      else .ok (place ++ [name]) := by
  simp only [child, requireDirectory, h]
  rfl

theorem directory_of_child {tree : FileTree} {place next : Location} {name : String}
    (h : tree.child place name = .ok next) : tree.node? place = some .directory := by
  unfold child requireDirectory at h
  split at h
  · assumption
  · cases h

theorem step_eq_ok_iff {tree : FileTree} {place next : Location} {name : String} :
    tree.step place name = .ok next ↔
      tree.child place name = .ok next ∧ (tree.node? next).isSome := by
  simp only [step, bind_eq_ok_iff]
  constructor
  · rintro ⟨reached, hchild, h⟩
    split at h
    · cases h
      exact ⟨hchild, ‹_›⟩
    · cases h
  · rintro ⟨hchild, hsome⟩
    exact ⟨next, hchild, if_pos hsome⟩

@[simp] theorem walk_nil (tree : FileTree) (start : Location) : tree.walk start [] = .ok start :=
  rfl

theorem walk_cons_eq_ok_iff {tree : FileTree} {start place : Location} {name : String}
    {steps : List String} :
    tree.walk start (name :: steps) = .ok place ↔
      ∃ next, tree.step start name = .ok next ∧ tree.walk next steps = .ok place := by
  simp only [walk, List.foldlM_cons, bind_eq_ok_iff]

theorem walk_append_eq_ok_iff {tree : FileTree} {start place : Location}
    {first last : List String} :
    tree.walk start (first ++ last) = .ok place ↔
      ∃ middle, tree.walk start first = .ok middle ∧ tree.walk middle last = .ok place := by
  induction first generalizing start with
  | nil => simp
  | cons name rest ih =>
    simp only [List.cons_append, walk_cons_eq_ok_iff, ih]
    constructor
    · rintro ⟨next, hstep, middle, hrest, hlast⟩
      exact ⟨middle, ⟨next, hstep, hrest⟩, hlast⟩
    · rintro ⟨middle, ⟨next, hstep, hrest⟩, hlast⟩
      exact ⟨next, hstep, middle, hrest, hlast⟩

theorem Keeps.step {before after : FileTree} (h : Keeps before after) {place next : Location}
    {name : String} (hs : before.step place name = .ok next) :
    after.step place name = .ok next := by
  obtain ⟨hchild, hsome⟩ := step_eq_ok_iff.mp hs
  have hdir := directory_of_child hchild
  rw [child_of_directory hdir] at hchild
  exact step_eq_ok_iff.mpr ⟨by rw [child_of_directory (h.directory hdir), hchild], h.isSome hsome⟩

theorem Keeps.walk {before after : FileTree} (h : Keeps before after) {start place : Location}
    {steps : List String} (hw : before.walk start steps = .ok place) :
    after.walk start steps = .ok place := by
  induction steps generalizing start with
  | nil => exact hw
  | cons name rest ih =>
    obtain ⟨next, hstep, hrest⟩ := walk_cons_eq_ok_iff.mp hw
    exact walk_cons_eq_ok_iff.mpr ⟨next, h.step hstep, ih hrest⟩

theorem Keeps.origin {before after : FileTree} (h : Keeps before after) (path : String) :
    after.origin path = before.origin path := by
  simp [FileTree.origin, h.here]

theorem find_eq_ok_iff {tree : FileTree} {path : String} {place : Location} {node : Node} :
    tree.find path = .ok (place, node) ↔
      checkPath path = .ok () ∧ tree.walk (tree.origin path) (Path.steps path) = .ok place ∧
        (Path.endsInSlash path → node = .directory) ∧ tree.node? place = some node := by
  simp only [FileTree.find, bind_eq_ok_iff]
  constructor
  · rintro ⟨_, hcheck, reached, hwalk, h⟩
    refine ⟨hcheck, ?_⟩
    cases hn : tree.node? reached with
    | none => cases hs : Path.endsInSlash path <;> simp [hs, hn, bind_eq_ok_iff] at h
    | some found =>
      cases hs : Path.endsInSlash path with
      | false =>
        simp only [hs, hn] at h
        cases h
        exact ⟨hwalk, by simp, hn⟩
      | true =>
        simp only [hs, if_true, hn, bind_eq_ok_iff, requireDirectory_eq_ok_iff] at h
        obtain ⟨_, hd, h⟩ := h
        cases h
        exact ⟨hwalk, fun _ => by simpa using hd, hn⟩
  · rintro ⟨hcheck, hwalk, hslash, hn⟩
    refine ⟨(), hcheck, place, hwalk, ?_⟩
    cases hs : Path.endsInSlash path with
    | false => simp [hn, pure, Except.pure]
    | true =>
      obtain rfl := hslash hs
      simp only [if_true, hn, bind_eq_ok_iff]
      exact ⟨(), requireDirectory_eq_ok_iff.mpr hn, rfl⟩

theorem Keeps.find {before after : FileTree} (h : Keeps before after) {path : String}
    {place : Location} {node : Node} (hf : before.find path = .ok (place, node)) :
    ∃ node', after.node? place = some node' ∧ after.find path = .ok (place, node') := by
  obtain ⟨hcheck, hwalk, hslash, hnode⟩ := find_eq_ok_iff.mp hf
  have hwalk' : after.walk (after.origin path) (Path.steps path) = .ok place := by
    rw [h.origin]
    exact h.walk hwalk
  cases node with
  | directory =>
    have hnode' := h.directory hnode
    exact ⟨.directory, hnode', find_eq_ok_iff.mpr ⟨hcheck, hwalk', fun _ => rfl, hnode'⟩⟩
  | file old =>
    obtain ⟨new, hnode'⟩ := h.file hnode
    refine ⟨.file new, hnode', find_eq_ok_iff.mpr ⟨hcheck, hwalk', fun hs => ?_, hnode'⟩⟩
    cases hslash hs

/-- The path leads to the place. -/
def Leads (tree : FileTree) (path : String) (place : Location) : Prop :=
  ∃ node, tree.find path = .ok (place, node)

theorem Keeps.leads {before after : FileTree} (h : Keeps before after) {path : String}
    {place : Location} (hl : before.Leads path place) : after.Leads path place := by
  obtain ⟨node, hf⟩ := hl
  obtain ⟨node', -, hf'⟩ := h.find hf
  exact ⟨node', hf'⟩

theorem Leads.unique {tree : FileTree} {path : String} {place other : Location}
    (h : tree.Leads path place) (h' : tree.Leads path other) : place = other := by
  obtain ⟨node, hfind⟩ := h
  obtain ⟨node', hfind'⟩ := h'
  rw [hfind, Except.ok.injEq, Prod.mk.injEq] at hfind'
  exact hfind'.1

theorem exists?_eq_true_iff {tree : FileTree} {path : String} :
    tree.exists? path = true ↔ ∃ place, tree.Leads path place := by
  unfold exists? Leads
  cases tree.find path with
  | error refusal => simp [Except.isOk, Except.toBool]
  | ok found =>
    obtain ⟨place, node⟩ := found
    simp [Except.isOk, Except.toBool]

theorem openExisting_eq_ok_iff {tree : FileTree} {path : String} {place : Location}
    {content : Bytes} :
    tree.openExisting path = .ok (place, content) ↔ tree.find path = .ok (place, .file content) := by
  unfold openExisting
  rcases tree.find path with refusal | ⟨found, _ | old⟩ <;>
    simp [bind, Except.bind, pure, Except.pure]

theorem openExisting_of_directory {tree : FileTree} {path : String} {place : Location}
    (h : tree.find path = .ok (place, .directory)) :
    tree.openExisting path = .error .isDirectory := by
  simp only [openExisting, h]
  rfl

theorem read_eq_ok_iff {tree : FileTree} {path : String} {content : Bytes} :
    tree.read path = .ok content ↔ ∃ place, tree.find path = .ok (place, .file content) := by
  simp only [FileTree.read, bind_eq_ok_iff, Prod.exists, openExisting_eq_ok_iff]
  constructor
  · rintro ⟨place, old, hfind, heq⟩
    cases heq
    exact ⟨place, hfind⟩
  · rintro ⟨place, hfind⟩
    exact ⟨place, content, hfind, rfl⟩

/-- Followed to its last step, the path stands for the entry `name` of the directory at `dir`. -/
structure Slot (tree : FileTree) (path : String) (dir : Location) (name : String) : Prop where
  checked : checkPath path = .ok ()
  walked : ∃ steps, Path.steps path = steps ++ [name] ∧
    tree.walk (tree.origin path) steps = .ok dir
  directory : tree.node? dir = some .directory
  proper : name ≠ "." ∧ name ≠ ".."
  fits : Path.size name ≤ Path.maxNameSize

theorem Keeps.slot {before after : FileTree} (h : Keeps before after) {path name : String}
    {dir : Location} (hs : before.Slot path dir name) : after.Slot path dir name where
  checked := hs.checked
  walked := by
    obtain ⟨steps, hsteps, hwalk⟩ := hs.walked
    exact ⟨steps, hsteps, by rw [h.origin]; exact h.walk hwalk⟩
  directory := h.directory hs.directory
  proper := hs.proper
  fits := hs.fits

theorem holder_eq_ok_iff {tree : FileTree} {path name : String} {dir : Location}
    {atRoot : Refusal} :
    tree.holder path atRoot = .ok (dir, name) ↔
      checkPath path = .ok () ∧ (∃ steps, Path.steps path = steps ++ [name] ∧
        tree.walk (tree.origin path) steps = .ok dir) ∧ tree.node? dir = some .directory := by
  simp only [holder, bind_eq_ok_iff]
  constructor
  · rintro ⟨_, hcheck, h⟩
    refine ⟨hcheck, ?_⟩
    rcases List.eq_nil_or_concat (Path.steps path) with hnil | ⟨steps, last, hsteps⟩
    · simp [hnil] at h
    · rw [hsteps] at h ⊢
      simp only [List.concat_eq_append, List.reverse_append, List.reverse_cons, List.reverse_nil,
        List.nil_append, List.singleton_append, List.reverse_reverse, bind_eq_ok_iff,
        requireDirectory_eq_ok_iff] at h
      obtain ⟨reached, hwalk, _, hd, heq⟩ := h
      cases heq
      exact ⟨⟨steps, by simp, hwalk⟩, hd⟩
  · rintro ⟨hcheck, ⟨steps, hsteps, hwalk⟩, hd⟩
    refine ⟨(), hcheck, ?_⟩
    simp only [hsteps, List.reverse_append, List.reverse_cons, List.reverse_nil,
      List.nil_append, List.singleton_append, List.reverse_reverse, bind_eq_ok_iff]
    exact ⟨dir, hwalk, (), requireDirectory_eq_ok_iff.mpr hd, rfl⟩

theorem Slot.child {tree : FileTree} {path name : String} {dir : Location}
    (h : tree.Slot path dir name) : tree.child dir name = .ok (dir ++ [name]) := by
  rw [child_of_directory h.directory, if_neg h.proper.1, if_neg h.proper.2,
    if_neg (Nat.not_lt.mpr h.fits)]

theorem Slot.find {tree : FileTree} {path name : String} {dir : Location}
    (h : tree.Slot path dir name) {node : Node} (hn : tree.node? (dir ++ [name]) = some node)
    (hslash : Path.endsInSlash path → node = .directory) :
    tree.find path = .ok (dir ++ [name], node) := by
  obtain ⟨steps, hsteps, hwalk⟩ := h.walked
  have hlast : tree.walk dir [name] = .ok (dir ++ [name]) :=
    walk_cons_eq_ok_iff.mpr ⟨_, step_eq_ok_iff.mpr ⟨h.child, by simp [hn]⟩, rfl⟩
  refine find_eq_ok_iff.mpr ⟨h.checked, ?_, hslash, hn⟩
  rw [hsteps]
  exact walk_append_eq_ok_iff.mpr ⟨dir, hwalk, hlast⟩

theorem openFresh_eq_ok_iff {tree : FileTree} {path : String} {place : Location} :
    tree.openFresh path = .ok place ↔
      ∃ dir name, tree.Slot path dir name ∧ place = dir ++ [name] ∧
        Path.endsInSlash path = false ∧ tree.node? place ≠ some .directory := by
  simp only [openFresh, bind_eq_ok_iff, Prod.exists, holder_eq_ok_iff]
  constructor
  · rintro ⟨dir, name, ⟨hcheck, hwalked, hd⟩, target, hchild, h⟩
    split at h
    · cases h
    split at h
    · cases h
    rename_i hname hfree
    cases h
    simp only [not_or, Bool.not_eq_true] at hname
    rw [child_of_directory hd, if_neg hname.1, if_neg hname.2.1] at hchild
    split at hchild
    · cases hchild
    rename_i hfits
    cases hchild
    exact ⟨dir, name, ⟨hcheck, hwalked, hd, ⟨hname.1, hname.2.1⟩, Nat.not_lt.mp hfits⟩, rfl,
      hname.2.2, hfree⟩
  · rintro ⟨dir, name, hs, rfl, hslash, hfree⟩
    refine ⟨dir, name, ⟨hs.checked, hs.walked, hs.directory⟩, dir ++ [name], hs.child, ?_⟩
    simp [hs.proper.1, hs.proper.2, hslash, hfree, pure, Except.pure]

theorem not_directory_of_openFresh {tree : FileTree} {path : String} {place : Location}
    (h : tree.openFresh path = .ok place) : tree.node? place ≠ some .directory := by
  obtain ⟨-, -, -, -, -, hfree⟩ := openFresh_eq_ok_iff.mp h
  exact hfree

theorem append_of_taken {tree : FileTree} {disk : Disk} {place : Location} {added : Bytes}
    (h : disk.fault tree place added = none) (content : Bytes) :
    tree.append place content added disk = ⟨tree.put place (.file (content ++ added)), none⟩ := by
  simp only [FileTree.append, h]

theorem append_of_fault {tree : FileTree} {disk : Disk} {place : Location} {added : Bytes}
    {fault : WriteFault} (h : disk.fault tree place added = some fault) (content : Bytes) :
    tree.append place content added disk =
      ⟨tree.put place (.file (content ++ added.take fault.taken)), some fault.reason⟩ := by
  simp only [FileTree.append, h]

theorem write_of_refused {tree : FileTree} {path : String} {refusal : Refusal}
    (h : tree.openFresh path = .error refusal) (content : Bytes) (disk : Disk) :
    tree.write path content disk = ⟨tree, some refusal⟩ := by
  simp only [FileTree.write, h]

theorem write_of_taken {tree : FileTree} {disk : Disk} {path : String} {place : Location}
    {content : Bytes} (h : tree.openFresh path = .ok place)
    (htaken : disk.fault (tree.put place (.file [])) place content = none) :
    tree.write path content disk = ⟨tree.put place (.file content), none⟩ := by
  simp only [FileTree.write, h, append_of_taken htaken, put_put, List.nil_append]

theorem write_of_fault {tree : FileTree} {disk : Disk} {path : String} {place : Location}
    {content : Bytes} {fault : WriteFault} (h : tree.openFresh path = .ok place)
    (hfault : disk.fault (tree.put place (.file [])) place content = some fault) :
    tree.write path content disk =
      ⟨tree.put place (.file (content.take fault.taken)), some fault.reason⟩ := by
  simp only [FileTree.write, h, append_of_fault hfault, put_put, List.nil_append]

theorem find_put_of_openFresh {tree : FileTree} {path : String} {place : Location}
    (h : tree.openFresh path = .ok place) (content : Bytes) :
    (tree.put place (.file content)).find path = .ok (place, .file content) := by
  obtain ⟨dir, name, hslot, rfl, hslash, hfree⟩ := openFresh_eq_ok_iff.mp h
  refine ((Keeps.put_file hfree content).slot hslot).find ?_ (by simp [hslash])
  exact node?_put_self (by simp) tree _

theorem find_put_of_find {tree : FileTree} {path : String} {place : Location} {old : Bytes}
    (h : tree.find path = .ok (place, .file old)) (content : Bytes) :
    (tree.put place (.file content)).find path = .ok (place, .file content) := by
  obtain ⟨-, -, -, hn⟩ := find_eq_ok_iff.mp h
  have hfree : tree.node? place ≠ some .directory := by simp [hn]
  obtain ⟨node, hnode, hfind⟩ := (Keeps.put_file hfree content).find h
  rw [node?_put_self (ne_nil_of_not_directory hfree)] at hnode
  cases hnode
  exact hfind

theorem node?_put_eq_directory_iff {tree : FileTree} {place other : Location} {content : Bytes}
    (hfree : tree.node? place ≠ some .directory) :
    (tree.put place (.file content)).node? other = some .directory ↔
      tree.node? other = some .directory := by
  by_cases hne : other = place
  · subst hne
    simp [node?_put_self (ne_nil_of_not_directory hfree), hfree]
  · rw [node?_put_of_ne hne]

theorem walk_put_file {tree : FileTree} {place start reached : Location} {content : Bytes}
    {steps : List String} (hfree : tree.node? place ≠ some .directory)
    (hw : (tree.put place (.file content)).walk start steps = .ok reached) :
    reached = place ∨ tree.walk start steps = .ok reached := by
  induction steps generalizing start with
  | nil => exact Or.inr hw
  | cons name rest ih =>
    obtain ⟨next, hstep, hrest⟩ := walk_cons_eq_ok_iff.mp hw
    obtain ⟨hchild, hsome⟩ := step_eq_ok_iff.mp hstep
    have hstart := directory_of_child hchild
    have hstart' := (node?_put_eq_directory_iff hfree).mp hstart
    rw [child_of_directory hstart, ← child_of_directory hstart'] at hchild
    by_cases hnext : next = place
    · subst hnext
      cases rest with
      | nil =>
        cases hrest
        exact Or.inl rfl
      | cons name' rest' =>
        obtain ⟨_, hstep', -⟩ := walk_cons_eq_ok_iff.mp hrest
        have hdir := directory_of_child (step_eq_ok_iff.mp hstep').1
        exact absurd ((node?_put_eq_directory_iff hfree).mp hdir) hfree
    · rw [node?_put_of_ne hnext] at hsome
      refine (ih hrest).imp_right fun hwalk => ?_
      exact walk_cons_eq_ok_iff.mpr ⟨next, step_eq_ok_iff.mpr ⟨hchild, hsome⟩, hwalk⟩

/-- After a file has been written, a path leads to it or to what it led to before. -/
theorem find_put_file {tree : FileTree} {place reached : Location} {content : Bytes} {path : String}
    {node : Node} (hfree : tree.node? place ≠ some .directory)
    (hf : (tree.put place (.file content)).find path = .ok (reached, node)) :
    (reached = place ∧ node = .file content) ∨ tree.find path = .ok (reached, node) := by
  obtain ⟨hcheck, hwalk, hslash, hnode⟩ := find_eq_ok_iff.mp hf
  rw [(Keeps.put_file hfree content).origin] at hwalk
  by_cases hreached : reached = place
  · subst hreached
    rw [node?_put_self (ne_nil_of_not_directory hfree), Option.some.injEq] at hnode
    exact Or.inl ⟨rfl, hnode.symm⟩
  · rw [node?_put_of_ne hreached] at hnode
    have hwalk' := (walk_put_file hfree hwalk).resolve_left hreached
    exact Or.inr (find_eq_ok_iff.mpr ⟨hcheck, hwalk', hslash, hnode⟩)

/-- Looking a path up and opening it for writing agree: what can be written through a path that
leads nowhere is a new entry. -/
theorem node?_eq_none_of_openFresh {tree : FileTree} {path : String} {place : Location}
    (habsent : tree.exists? path = false) (h : tree.openFresh path = .ok place) :
    tree.node? place = none := by
  obtain ⟨dir, name, hslot, rfl, hslash, -⟩ := openFresh_eq_ok_iff.mp h
  cases hn : tree.node? (dir ++ [name]) with
  | none => rfl
  | some node =>
    have hexists := exists?_eq_true_iff.mpr ⟨_, node, hslot.find hn (by simp [hslash])⟩
    simp [habsent] at hexists

/-- The same files, and no fewer directories. -/
structure AddsDirectories (before after : FileTree) : Prop where
  here : after.here = before.here
  directory {place : Location} : before.node? place = some .directory →
    after.node? place = some .directory
  file (place : Location) (content : Bytes) :
    after.node? place = some (.file content) ↔ before.node? place = some (.file content)

theorem AddsDirectories.refl (tree : FileTree) : AddsDirectories tree tree :=
  ⟨rfl, id, fun _ _ => Iff.rfl⟩

theorem AddsDirectories.trans {first second third : FileTree} (h : AddsDirectories first second)
    (h' : AddsDirectories second third) : AddsDirectories first third where
  here := h'.here.trans h.here
  directory hd := h'.directory (h.directory hd)
  file place content := (h'.file place content).trans (h.file place content)

theorem AddsDirectories.makeDirectory {tree made : FileTree} {path : String}
    (h : tree.makeDirectory path = .ok made) : AddsDirectories tree made := by
  simp only [FileTree.makeDirectory, bind_eq_ok_iff, Prod.exists, holder_eq_ok_iff] at h
  obtain ⟨dir, name, ⟨-, -, hd⟩, place, hchild, h⟩ := h
  split at h
  · cases h
  rename_i hname
  cases h
  simp only [not_or, Bool.not_eq_true, Option.isSome_eq_false_iff, Option.isNone_iff_eq_none]
    at hname
  have hfree : tree.node? place ≠ some .directory := by simp [hname.2.2]
  have hroot := ne_nil_of_not_directory hfree
  refine ⟨rfl, fun {other} hother => ?_, fun other content => ?_⟩
  · have hne : other ≠ place := by
      rintro rfl
      simp [hname.2.2] at hother
    rw [node?_put_of_ne hne, hother]
  · by_cases hne : other = place
    · subst hne
      simp [node?_put_self hroot, hname.2.2]
    · rw [node?_put_of_ne hne]

@[simp] theorem Attempt.tree_orDirectory (tree : FileTree) (path : String) (refusal : Refusal) :
    (Attempt.orDirectory tree path refusal).tree = tree := by
  unfold Attempt.orDirectory
  split <;> rfl

theorem AddsDirectories.thenMake {tree : FileTree} {first : Attempt}
    (h : AddsDirectories tree first.tree) (path : String) :
    AddsDirectories tree (first.thenMake path).tree := by
  unfold Attempt.thenMake
  split
  · exact h
  · split
    · rename_i made hmade
      exact h.trans (.makeDirectory hmade)
    · simpa using h

theorem AddsDirectories.makeUnder {tree : FileTree} {above : Attempt}
    (h : AddsDirectories tree above.tree) (path : String) :
    AddsDirectories tree (tree.makeUnder path above).tree := by
  unfold FileTree.makeUnder
  split
  · rename_i made hmade
    exact .makeDirectory hmade
  · exact h.thenMake path
  · simp [AddsDirectories.refl]

theorem AddsDirectories.ensureDirectory (absolute : Bool) (tree : FileTree) (path : String)
    (above : List String) :
    AddsDirectories tree (ensureDirectory absolute tree path above).tree := by
  induction above generalizing path with
  | nil => exact (AddsDirectories.refl tree).makeUnder path
  | cons name rest ih => exact (ih (pathOf absolute (name :: rest).reverse)).makeUnder path

/-- Making a directory and what leads to it changes no file. -/
theorem AddsDirectories.makeDirectories (tree : FileTree) (path : String) :
    AddsDirectories tree (tree.makeDirectories path).tree := by
  unfold FileTree.makeDirectories
  split
  · exact .refl tree
  · exact .ensureDirectory _ tree path _

end FileTree
end ServiceScaffold
