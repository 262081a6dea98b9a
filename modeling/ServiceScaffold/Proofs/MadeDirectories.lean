import Mathlib
import ServiceScaffold.Proofs.HandlerDirectory

/-!
# Directories that are made

Making a directory makes what leads there first, and it can stop on the way. Wherever it stops, it
has added directories only, each of them at the end of a first part of the path.
-/

namespace ServiceScaffold

open FileTree

namespace Path

/-- Steps as they stand between slashes. -/
def AreSteps (names : List String) : Prop :=
  ∀ name ∈ names, '/' ∉ name.toList ∧ name ≠ ""

theorem areSteps_steps (path : String) : AreSteps (steps path) := by
  intro name hname
  obtain ⟨piece, hpiece, rfl⟩ := List.mem_map.mp hname
  obtain ⟨hpiece, hnonempty⟩ := List.mem_filter.mp hpiece
  rw [String.toList_ofList]
  refine ⟨Text.not_mem_of_mem_pieces hpiece, fun hempty => ?_⟩
  simp [String.ofList_eq_empty_iff.mp hempty] at hnonempty

theorem sublist_movingSteps (path : String) : (movingSteps path).Sublist (steps path) := by
  unfold movingSteps
  split
  · rename_i hnil
    rw [hnil]
  · rename_i first rest hcons
    rw [hcons]
    have hrest := List.filter_sublist (p := fun name => decide (name ≠ ".")) (l := rest)
    split
    · exact hrest.cons first
    · exact hrest.cons_cons first

theorem areSteps_movingSteps (path : String) : AreSteps (movingSteps path) :=
  fun name hname => areSteps_steps path name ((sublist_movingSteps path).mem hname)

theorem AreSteps.of_isPrefix {names first : List String} (h : AreSteps names)
    (hfirst : first <+: names) : AreSteps first :=
  fun name hname => h name (hfirst.subset hname)

theorem steps_join_slash {names : List String} (h : AreSteps names) :
    steps (Text.join "/" names) = names := by
  cases names with
  | nil => rfl
  | cons first rest =>
    have hnonempty : ((first :: rest).map String.toList).filter (!·.isEmpty) =
        (first :: rest).map String.toList := by
      rw [List.filter_eq_self]
      intro piece hpiece
      obtain ⟨name, hname, rfl⟩ := List.mem_map.mp hpiece
      simpa using (h name hname).2
    rw [steps, Text.pieces_join (by decide) first rest fun name hname => (h name hname).1,
      hnonempty, List.map_map]
    simp

theorem steps_pathOf (absolute : Bool) {names : List String} (h : AreSteps names) :
    steps (pathOf absolute names) = names := by
  cases absolute with
  | false => rw [pathOf, if_neg Bool.false_ne_true, String.empty_append, steps_join_slash h]
  | true =>
    -- The slash at the beginning has an empty piece before it.
    have hslash : (pathOf true names).toList = '/' :: (Text.join "/" names).toList := by
      simp [pathOf]
    rw [steps, hslash, Text.pieces, if_pos rfl]
    exact steps_join_slash h

theorem isAbsolute_pathOf (absolute : Bool) {names : List String} (h : AreSteps names) :
    isAbsolute (pathOf absolute names) = absolute := by
  cases absolute with
  | true => simp [pathOf, isAbsolute]
  | false =>
    rw [pathOf, if_neg Bool.false_ne_true, String.empty_append]
    rcases names with _ | ⟨name, _ | ⟨second, rest⟩⟩
    · rfl
    · exact not_isAbsolute_of_not_mem (h name List.mem_cons_self).1
    · obtain ⟨hslash, hnonempty⟩ := h name List.mem_cons_self
      have hname : name.toList ≠ [] := by simpa using hnonempty
      obtain ⟨c, cs, hcs⟩ := List.exists_cons_of_ne_nil hname
      rw [hcs, List.mem_cons, not_or] at hslash
      simp [isAbsolute, Text.join, hcs, Ne.symm hslash.1]

end Path

namespace FileTree

variable {tree before after : FileTree} {path : String} {place start : Location}

theorem AddsDirectories.keeps (h : AddsDirectories before after) : Keeps before after where
  here := h.here
  directory := h.directory
  file {place old} hf := ⟨old, (h.file place old).mpr hf⟩

theorem AddsDirectories.new (h : AddsDirectories before after)
    (hne : after.node? place ≠ before.node? place) :
    before.node? place = none ∧ after.node? place = some .directory := by
  have hbefore : before.node? place = none := by
    cases hnode : before.node? place with
    | none => rfl
    | some node =>
      cases node with
      | directory => exact absurd ((h.directory hnode).trans hnode.symm) hne
      | file content => exact absurd (((h.file place content).mpr hnode).trans hnode.symm) hne
  refine ⟨hbefore, ?_⟩
  cases hnode : after.node? place with
  | none => exact absurd (hnode.trans hbefore.symm) hne
  | some node =>
    cases node with
    | directory => rfl
    | file content =>
      rw [(h.file place content).mp hnode] at hbefore
      cases hbefore

theorem exists_place_of_makeDirectory {made : FileTree} (h : tree.makeDirectory path = .ok made) :
    ∃ place, made = tree.put place .directory ∧
      made.walk (made.origin path) (Path.steps path) = .ok place := by
  have hkeeps := (AddsDirectories.makeDirectory h).keeps
  simp only [makeDirectory, bind_eq_ok_iff, Prod.exists, holder_eq_ok_iff] at h
  obtain ⟨dir, name, ⟨-, ⟨steps, hsteps, hwalk⟩, hd⟩, place, hchild, h⟩ := h
  split at h
  · cases h
  rename_i hname
  cases h
  simp only [not_or, Bool.not_eq_true, Option.isSome_eq_false_iff, Option.isNone_iff_eq_none]
    at hname
  refine ⟨place, rfl, ?_⟩
  rw [child_of_directory hd, ← child_of_directory (hkeeps.directory hd)] at hchild
  have hroot : place ≠ [] := by
    rintro rfl
    simp [node?] at hname
  rw [hsteps, walk_append_eq_ok_iff]
  refine ⟨dir, by rw [hkeeps.origin]; exact hkeeps.walk hwalk, ?_⟩
  refine walk_cons_eq_ok_iff.mpr ⟨place, step_eq_ok_iff.mpr ⟨hchild, ?_⟩, rfl⟩
  rw [node?_put_self hroot]
  rfl

/-- A walk ends in the same place without the steps that stay where they are. -/
theorem walk_filter_ne_dot {steps : List String} (h : tree.walk start steps = .ok place) :
    tree.walk start (steps.filter (· ≠ ".")) = .ok place := by
  induction steps generalizing start with
  | nil => exact h
  | cons name rest ih =>
    obtain ⟨next, hstep, hrest⟩ := walk_cons_eq_ok_iff.mp h
    by_cases hdot : name = "."
    · subst hdot
      obtain ⟨hchild, -⟩ := step_eq_ok_iff.mp hstep
      rw [child_of_directory (directory_of_child hchild), if_pos rfl] at hchild
      cases hchild
      rw [List.filter_cons_of_neg (by simp)]
      exact ih hrest
    · rw [List.filter_cons_of_pos (by simpa using hdot)]
      exact walk_cons_eq_ok_iff.mpr ⟨next, hstep, ih hrest⟩

theorem walk_movingSteps (h : tree.walk (tree.origin path) (Path.steps path) = .ok place) :
    tree.walk (tree.origin path) (Path.movingSteps path) = .ok place := by
  unfold Path.movingSteps
  split
  · rename_i hnil
    rwa [hnil] at h
  · rename_i first rest hcons
    rw [hcons] at h
    split
    · rename_i hdot
      have hshort := walk_filter_ne_dot h
      rwa [List.filter_cons_of_neg (by simpa using hdot.2)] at hshort
    · obtain ⟨next, hstep, hrest⟩ := walk_cons_eq_ok_iff.mp h
      exact walk_cons_eq_ok_iff.mpr ⟨next, hstep, walk_filter_ne_dot hrest⟩

/-- What is added are directories, each where some first part of the path leads. -/
structure AddsWay (path : String) (before after : FileTree) : Prop extends
    AddsDirectories before after where
  way {place : Location} : after.node? place ≠ before.node? place →
    ∃ steps, steps <+: Path.movingSteps path ∧
      after.walk (after.origin path) steps = .ok place

/-- The other path leads where a first part of the path leads, in every tree. -/
def OnWay (path other : String) : Prop :=
  ∀ tree place, FileTree.walk tree (tree.origin other) (Path.steps other) = .ok place →
    ∃ steps, steps <+: Path.movingSteps path ∧ tree.walk (tree.origin path) steps = .ok place

theorem onWay_self (path : String) : OnWay path path :=
  fun _ _ h => ⟨_, List.prefix_refl _, walk_movingSteps h⟩

theorem onWay_pathOf {names : List String} (h : names <+: Path.movingSteps path) :
    OnWay path (pathOf (Path.isAbsolute path) names) := by
  have hnames := (Path.areSteps_movingSteps path).of_isPrefix h
  intro tree place hwalk
  rw [Path.steps_pathOf _ hnames, origin, Path.isAbsolute_pathOf _ hnames] at hwalk
  exact ⟨names, h, hwalk⟩

namespace AddsWay

theorem refl (path : String) (tree : FileTree) : AddsWay path tree tree :=
  ⟨.refl tree, fun hne => absurd rfl hne⟩

theorem trans {first second third : FileTree} (h : AddsWay path first second)
    (h' : AddsWay path second third) : AddsWay path first third where
  toAddsDirectories := h.toAddsDirectories.trans h'.toAddsDirectories
  way {place} hne := by
    by_cases hthird : third.node? place = second.node? place
    · obtain ⟨steps, hsteps, hwalk⟩ := h.way (hthird ▸ hne)
      have hkeeps := h'.toAddsDirectories.keeps
      exact ⟨steps, hsteps, by rw [hkeeps.origin]; exact hkeeps.walk hwalk⟩
    · exact h'.way hthird

theorem makeDirectory {other : String} {made : FileTree} (hway : OnWay path other)
    (h : tree.makeDirectory other = .ok made) : AddsWay path tree made where
  toAddsDirectories := .makeDirectory h
  way {place} hne := by
    obtain ⟨reached, rfl, hwalk⟩ := exists_place_of_makeDirectory h
    have heq : place = reached := by
      by_contra hother
      exact hne (node?_put_of_ne hother tree _)
    exact hway _ _ (heq ▸ hwalk)

theorem thenMake {other : String} {first : Attempt} (hway : OnWay path other)
    (h : AddsWay path tree first.tree) : AddsWay path tree (first.thenMake other).tree := by
  unfold Attempt.thenMake
  split
  · exact h
  · split
    · rename_i made hmade
      exact h.trans (.makeDirectory hway hmade)
    · simpa using h

theorem makeUnder {other : String} {above : Attempt} (hway : OnWay path other)
    (h : AddsWay path tree above.tree) : AddsWay path tree (tree.makeUnder other above).tree := by
  unfold FileTree.makeUnder
  split
  · rename_i made hmade
    exact .makeDirectory hway hmade
  · exact h.thenMake hway
  · simpa using refl path tree

theorem ensureDirectory {other : String} {above : List String} (hway : OnWay path other)
    (habove : above.reverse <+: Path.movingSteps path) (tree : FileTree) :
    AddsWay path tree (ensureDirectory (Path.isAbsolute path) tree other above).tree := by
  induction above generalizing other with
  | nil => exact (refl path tree).makeUnder hway
  | cons name rest ih =>
    have hrest : rest.reverse <+: Path.movingSteps path := by
      rw [List.reverse_cons] at habove
      exact (List.prefix_append _ _).trans habove
    exact (ih (onWay_pathOf habove) hrest).makeUnder hway

/-- Making a directory adds directories on the way to it, wherever it stops. -/
theorem makeDirectories (path : String) (tree : FileTree) :
    AddsWay path tree (tree.makeDirectories path).tree := by
  unfold FileTree.makeDirectories
  split
  · exact refl path tree
  · refine ensureDirectory (onWay_self path) ?_ tree
    rw [List.reverse_reverse]
    exact List.dropLast_prefix _

end AddsWay

end FileTree
end ServiceScaffold
