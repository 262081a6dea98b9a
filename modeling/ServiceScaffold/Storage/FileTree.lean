import ServiceScaffold.Storage.Path

/-!
# File trees

The directories and files that a run can see, as a value. A path is followed name by name from
the root or from the working directory; there are no links. A path that cannot be followed or opened
is refused and nothing changes, but a write to a file that has been opened can fail part-way.
-/

namespace ServiceScaffold

inductive Refusal
  | noEntry
  | alreadyExists
  | notDirectory
  | isDirectory
  | nameTooLong
  | nulByte
  | notText
  /-- Any other answer of the system, in its words. -/
  | system (message : String)
  deriving DecidableEq, Repr

def Refusal.message : Refusal → String
  | .noEntry => "No such file or directory (os error 2)"
  | .alreadyExists => "File exists (os error 17)"
  | .notDirectory => "Not a directory (os error 20)"
  | .isDirectory => "Is a directory (os error 21)"
  | .nameTooLong => "File name too long (os error 36)"
  | .nulByte => "file name contained an unexpected NUL byte"
  | .notText => "stream did not contain valid UTF-8"
  | .system message => message

inductive Node
  | directory
  | file (content : Bytes)
  deriving DecidableEq, Repr

/-- The names that lead from the root to a place. -/
abbrev Location := List String

/-- The nodes below the root, and the directory from which relative paths start. -/
structure FileTree where
  nodes : List (Location × Node)
  here : Location
  deriving DecidableEq, Repr

/-- How a write to an open file fails: after how many bytes, and why. -/
structure WriteFault where
  taken : Nat
  reason : Refusal
  deriving DecidableEq, Repr

/-- What becomes of writes to open files, which can depend on all that the tree holds. -/
structure Disk where
  fault : FileTree → Location → Bytes → Option WriteFault
  fault_nil : ∀ tree place, fault tree place [] = none

def Disk.sound : Disk where
  fault _ _ _ := none
  fault_nil _ _ := rfl

def Disk.TakesAll (disk : Disk) : Prop :=
  ∀ tree place added, disk.fault tree place added = none

theorem Disk.takesAll_sound : Disk.sound.TakesAll := fun _ _ _ => rfl

namespace FileTree

/-- What became of an attempt that may have changed the tree before it was refused. -/
structure Attempt where
  tree : FileTree
  refusal : Option Refusal
  deriving DecidableEq, Repr

/-- What is at a place; the root is always a directory. -/
def node? (tree : FileTree) (place : Location) : Option Node :=
  if place = [] then some .directory else tree.nodes.lookup place

/-- The list with `node` at `place`: in the place of what was there, or at the end. -/
def putNode (place : Location) (node : Node) : List (Location × Node) → List (Location × Node)
  | [] => [(place, node)]
  | (p, n) :: rest =>
    if p = place then (place, node) :: rest else (p, n) :: putNode place node rest

def put (tree : FileTree) (place : Location) (node : Node) : FileTree :=
  { tree with nodes := putNode place node tree.nodes }

theorem lookup_putNode_self (place : Location) (node : Node) (nodes : List (Location × Node)) :
    (putNode place node nodes).lookup place = some node := by
  induction nodes with
  | nil => simp [putNode]
  | cons entry rest ih =>
    obtain ⟨p, n⟩ := entry
    by_cases h : p = place
    · simp [putNode, h]
    · have hb : (place == p) = false := beq_eq_false_iff_ne.2 (Ne.symm h)
      simp [putNode, h, List.lookup_cons, hb, ih]

theorem lookup_putNode_of_ne {place other : Location} (h : other ≠ place) (node : Node)
    (nodes : List (Location × Node)) :
    (putNode place node nodes).lookup other = nodes.lookup other := by
  have hb : (other == place) = false := beq_eq_false_iff_ne.2 h
  induction nodes with
  | nil => simp [putNode, List.lookup_cons, hb]
  | cons entry rest ih =>
    obtain ⟨p, n⟩ := entry
    by_cases hp : p = place
    · simp [putNode, hp, List.lookup_cons, hb]
    · simp [putNode, hp, List.lookup_cons, ih]

theorem node?_put_self {place : Location} (h : place ≠ []) (tree : FileTree) (node : Node) :
    (tree.put place node).node? place = some node := by
  simp [node?, put, h, lookup_putNode_self]

theorem node?_put_of_ne {place other : Location} (h : other ≠ place) (tree : FileTree)
    (node : Node) : (tree.put place node).node? other = tree.node? other := by
  simp [node?, put, lookup_putNode_of_ne h]

def requireDirectory (tree : FileTree) (place : Location) : Except Refusal Unit :=
  match tree.node? place with
  | some .directory => .ok ()
  | _ => .error .notDirectory

/-- The place that one name leads to, whether or not anything is there. -/
def child (tree : FileTree) (place : Location) (name : String) : Except Refusal Location := do
  tree.requireDirectory place
  if name = "." then pure place
  else if name = ".." then pure place.dropLast
  else if Path.maxNameSize < Path.size name then .error .nameTooLong
  else pure (place ++ [name])

/-- One step of a walk: something has to be there. -/
def step (tree : FileTree) (place : Location) (name : String) : Except Refusal Location := do
  let next ← tree.child place name
  if (tree.node? next).isSome then pure next else .error .noEntry

def walk (tree : FileTree) (start : Location) (steps : List String) : Except Refusal Location :=
  steps.foldlM tree.step start

def origin (tree : FileTree) (path : String) : Location :=
  if Path.isAbsolute path then [] else tree.here

def checkPath (path : String) : Except Refusal Unit :=
  if path.toList.contains '\x00' then .error .nulByte
  else if path.isEmpty then .error .noEntry
  else if Path.maxSize < Path.size path then .error .nameTooLong
  else .ok ()

def find (tree : FileTree) (path : String) : Except Refusal (Location × Node) := do
  checkPath path
  let place ← tree.walk (tree.origin path) (Path.steps path)
  if Path.endsInSlash path then tree.requireDirectory place
  match tree.node? place with
  | some node => pure (place, node)
  | none => .error .noEntry

def exists? (tree : FileTree) (path : String) : Bool :=
  (tree.find path).isOk

def isDirectory (tree : FileTree) (path : String) : Bool :=
  match tree.find path with
  | .ok (_, .directory) => true
  | _ => false

/-- The directory that holds the last step of a path, and that step. A path without steps is
refused with `atRoot`. -/
def holder (tree : FileTree) (path : String) (atRoot : Refusal) :
    Except Refusal (Location × String) := do
  checkPath path
  match (Path.steps path).reverse with
  | [] => .error atRoot
  | name :: before =>
    let dir ← tree.walk (tree.origin path) before.reverse
    tree.requireDirectory dir
    pure (dir, name)

def openExisting (tree : FileTree) (path : String) : Except Refusal (Location × Bytes) := do
  match ← tree.find path with
  | (place, .file content) => pure (place, content)
  | (_, .directory) => .error .isDirectory

def read (tree : FileTree) (path : String) : Except Refusal Bytes := do
  pure (← tree.openExisting path).2

def readText (tree : FileTree) (path : String) : Except Refusal String := do
  match Utf8.toString? (← tree.read path) with
  | some text => pure text
  | none => .error .notText

def openFresh (tree : FileTree) (path : String) : Except Refusal Location := do
  let (dir, name) ← tree.holder path .isDirectory
  let place ← tree.child dir name
  if name = "." ∨ name = ".." ∨ Path.endsInSlash path then .error .isDirectory
  else if tree.node? place = some .directory then .error .isDirectory
  else pure place

/-- Writes to the end of the open file at `place`. A write that fails leaves what was taken. -/
def append (tree : FileTree) (place : Location) (content added : Bytes) (disk : Disk := .sound) :
    Attempt :=
  match disk.fault tree place added with
  | none => ⟨tree.put place (.file (content ++ added)), none⟩
  | some fault =>
    ⟨tree.put place (.file (content ++ added.take fault.taken)), some fault.reason⟩

/-- Gives a file these contents and no others: it is made or emptied before it is written. -/
def write (tree : FileTree) (path : String) (content : Bytes) (disk : Disk := .sound) : Attempt :=
  match tree.openFresh path with
  | .ok place => (tree.put place (.file [])).append place [] content disk
  | .error refusal => ⟨tree, some refusal⟩

/-- The tree with one more directory; the directory that holds it must be there. -/
def makeDirectory (tree : FileTree) (path : String) : Except Refusal FileTree := do
  let (dir, name) ← tree.holder path .alreadyExists
  let place ← tree.child dir name
  if name = "." ∨ name = ".." ∨ (tree.node? place).isSome then .error .alreadyExists
  else pure (tree.put place .directory)

def pathOf (absolute : Bool) (steps : List String) : String :=
  (if absolute then "/" else "") ++ Text.join "/" steps

def Attempt.orDirectory (tree : FileTree) (path : String) (refusal : Refusal) : Attempt :=
  if tree.isDirectory path then ⟨tree, none⟩ else ⟨tree, some refusal⟩

def Attempt.thenMake (first : Attempt) (path : String) : Attempt :=
  match first.refusal with
  | some _ => first
  | none =>
    match first.tree.makeDirectory path with
    | .ok made => ⟨made, none⟩
    | .error refusal => Attempt.orDirectory first.tree path refusal

/-- Makes `path`, after the attempt `above` to make what leads there only if that is missing. -/
def makeUnder (tree : FileTree) (path : String) (above : Attempt) : Attempt :=
  match tree.makeDirectory path with
  | .ok made => ⟨made, none⟩
  | .error .noEntry => above.thenMake path
  | .error refusal => Attempt.orDirectory tree path refusal

/-- Makes `path`, and first, where it is missing, what leads there. `above` are the steps to the
directory that holds `path`, the last one first. -/
def ensureDirectory (absolute : Bool) (tree : FileTree) (path : String) (above : List String) :
    Attempt :=
  match above with
  | [] => tree.makeUnder path ⟨tree, none⟩
  | name :: rest =>
    tree.makeUnder path
      (ensureDirectory absolute tree (pathOf absolute (name :: rest).reverse) rest)

/-- The tree with the directory and all that leads there. The empty path is the working
directory. -/
def makeDirectories (tree : FileTree) (path : String) : Attempt :=
  if path.isEmpty then ⟨tree, none⟩
  else
    ensureDirectory (Path.isAbsolute path) tree path (Path.movingSteps path).dropLast.reverse

end FileTree
end ServiceScaffold
