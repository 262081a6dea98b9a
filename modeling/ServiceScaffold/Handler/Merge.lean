import ServiceScaffold.Storage.FileTree
import ServiceScaffold.Fault
import ServiceScaffold.Handler.FileName
import ServiceScaffold.Handler.Symbols
import ServiceScaffold.Handler.Stub
import ServiceScaffold.Routing.Table

/-!
# Merging a service into its handler file

A handler file is created with a preamble or added to at its end, and nothing that it holds is
ever changed. What it declares already is left alone, so code written by hand stays.
-/

namespace ServiceScaffold
namespace Handler

structure Summary where
  path : String
  created : Bool
  typeAppended : Bool
  appended : List String
  preserved : List String
  deriving DecidableEq, Repr

inductive Outcome
  | merged (summary : Summary)
  | skipped (path : String) (reason : Refusal)
  deriving DecidableEq, Repr

def lacksMethod (symbols : SymbolSet) (receiver : String) (method : MethodPlan) : Bool :=
  !symbols.contains (methodKey receiver method.name)

/-- The declarations of a service that a file with these symbols lacks, as one text. -/
def missingText (symbols : SymbolSet) (service : ServicePlan) : String :=
  let stubs := (service.methods.filter (lacksMethod symbols service.receiver)).map
    (methodStub service.receiver)
  (if symbols.contains service.receiver then "" else typeStub service.receiver)
  ++ stubs.foldr (· ++ ·) ""

def summarize (symbols : SymbolSet) (service : ServicePlan) (path : String) (created : Bool) :
    Summary :=
  let lacking := lacksMethod symbols service.receiver
  { path := path
    created := created
    typeAppended := !symbols.contains service.receiver
    appended := (service.methods.filter lacking).map MethodPlan.name
    preserved := (service.methods.filter (!lacking ·)).map MethodPlan.name }

/-- What a merge leaves behind. `asked` says whether the preamble was wanted. -/
structure Merge where
  tree : FileTree
  table : Routing.Table
  asked : Bool
  answer : Except Fault Outcome

/-- Extends the open file with these contents at `place` by what the service lacks in it. A write
that fails stops the run. -/
def extend (service : ServicePlan) (path : String) (created : Bool) (symbols : SymbolSet)
    (place : Location) (content : Bytes) (tree : FileTree) (table : Routing.Table)
    (disk : Disk := .sound) : Merge :=
  match tree.append place content (Utf8.ofString (missingText symbols service)) disk with
  | ⟨extended, none⟩ =>
    ⟨extended, table.register service, created,
      .ok (.merged (summarize symbols service path created))⟩
  | ⟨left, some refusal⟩ => ⟨left, table, created, .error ⟨.io, refusal.message⟩⟩

/-- Merges a service into its file in the directory. A file that is not there yet begins with
the preamble, and its symbols are those of the nothing that follows the preamble. A file that
cannot be opened, or made with its preamble, is skipped, and the service then has no route. -/
def merge (scan : SymbolScanner) (dir : String) (service : ServicePlan)
    (preamble : Unit → Except Fault String) (tree : FileTree) (table : Routing.Table)
    (disk : Disk := .sound) : Merge :=
  let path := Path.join dir (fileName service.receiver)
  if tree.exists? path then
    match tree.openExisting path with
    | .ok (place, content) =>
      extend service path false (scan content) place content tree table disk
    | .error refusal => ⟨tree, table, false, .ok (.skipped path refusal)⟩
  else
    match preamble () with
    | .error fault => ⟨tree, table, true, .error fault⟩
    | .ok text =>
      match tree.openFresh path with
      | .error refusal => ⟨tree, table, true, .ok (.skipped path refusal)⟩
      | .ok place =>
        match (tree.put place (.file [])).append place [] (Utf8.ofString text) disk with
        | ⟨begun, none⟩ =>
          extend service path true (scan []) place (Utf8.ofString text) begun table disk
        | ⟨begun, some refusal⟩ => ⟨begun, table, true, .ok (.skipped path refusal)⟩

end Handler
end ServiceScaffold
