import ServiceScaffold.Fault
import ServiceScaffold.Storage.FileTree

/-!
# Runs

Work on a file tree that can stop at a fault. What was done before the fault stays done, so a run
has a tree whether it succeeds or not.
-/

namespace ServiceScaffold

/-- What a run leaves behind: the tree, the directories whose module was asked for, and the
answer. -/
structure Run (α : Type) where
  tree : FileTree
  consulted : List String
  answer : Except Fault α

namespace Run

variable {α β γ : Type}

def done (tree : FileTree) (answer : α) : Run α :=
  ⟨tree, [], .ok answer⟩

def failed (tree : FileTree) (fault : Fault) : Run α :=
  ⟨tree, [], .error fault⟩

/-- Goes on with `next` in the tree that the first part left; a fault ends the run there. -/
def andThen (first : Run α) (next : α → FileTree → Run β) : Run β :=
  match first.answer with
  | .error fault => ⟨first.tree, first.consulted, .error fault⟩
  | .ok answer =>
    let second := next answer first.tree
    ⟨second.tree, first.consulted ++ second.consulted, second.answer⟩

def map (f : α → β) (run : Run α) : Run β :=
  ⟨run.tree, run.consulted, run.answer.map f⟩

theorem andThen_of_ok {first : Run α} {answer : α} (h : first.answer = .ok answer)
    (next : α → FileTree → Run β) :
    first.andThen next =
      ⟨(next answer first.tree).tree, first.consulted ++ (next answer first.tree).consulted,
        (next answer first.tree).answer⟩ := by
  simp [andThen, h]

theorem andThen_of_error {first : Run α} {fault : Fault} (h : first.answer = .error fault)
    (next : α → FileTree → Run β) :
    first.andThen next = ⟨first.tree, first.consulted, .error fault⟩ := by
  simp [andThen, h]

@[simp] theorem done_andThen (tree : FileTree) (answer : α) (next : α → FileTree → Run β) :
    (done tree answer).andThen next = next answer tree := by
  simp [andThen, done]

@[simp] theorem failed_andThen (tree : FileTree) (fault : Fault) (next : α → FileTree → Run β) :
    (failed tree fault).andThen next = failed tree fault := by
  simp [andThen, failed]

theorem andThen_assoc (first : Run α) (next : α → FileTree → Run β)
    (last : β → FileTree → Run γ) :
    (first.andThen next).andThen last =
      first.andThen fun answer tree => (next answer tree).andThen last := by
  cases h : first.answer with
  | error fault => simp [andThen, h]
  | ok answer => cases hn : (next answer first.tree).answer <;> simp [andThen, h, hn]

theorem map_id (run : Run α) : (run.map fun answer => answer) = run := by
  obtain ⟨tree, consulted, answer⟩ := run
  cases answer <;> rfl

theorem map_map (f : α → β) (g : β → γ) (run : Run α) :
    (run.map f).map g = run.map fun answer => g (f answer) := by
  cases hanswer : run.answer <;> simp [map, hanswer, Except.map]

theorem map_andThen (f : α → β) (first : Run α) (next : β → FileTree → Run γ) :
    (first.map f).andThen next = first.andThen fun answer tree => next (f answer) tree := by
  cases hanswer : first.answer <;> simp [andThen, map, hanswer, Except.map]

theorem andThen_map (f : β → γ) (first : Run α) (next : α → FileTree → Run β) :
    (first.andThen next).map f = first.andThen fun answer tree => (next answer tree).map f := by
  cases hanswer : first.answer <;> simp [andThen, map, hanswer, Except.map]

end Run
end ServiceScaffold
