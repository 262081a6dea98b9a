import ServiceScaffold.Handler.Header
import ServiceScaffold.Handler.Merge
import ServiceScaffold.Routing.Source
import ServiceScaffold.Run

/-!
# Generation

A run over description files: for each file the handlers of its services are merged in order,
and then the routing table is written. The first fault ends the run, and what was done before it
stays done.
-/

namespace ServiceScaffold

structure Generator where
  settings : Settings
  resolve : Go.ModuleResolver := Go.moduleFile
  scan : Handler.SymbolScanner := Handler.scanLines

structure FileReport where
  source : String
  outcomes : List Handler.Outcome
  table : Routing.Table
  tablePath : String
  deriving DecidableEq, Repr

def routingFileName : String := "zzconfig.go"

def Routing.Table.emit (table : Table) (settings : Settings) (dir : String) (tree : FileTree)
    (disk : Disk := .sound) : Run String :=
  let path := Path.join dir routingFileName
  match tree.write path (Utf8.ofString (table.render settings)) disk with
  | ⟨written, none⟩ => .done written path
  | ⟨left, some refusal⟩ =>
    .failed left ⟨.generation, "Failed to write " ++ path ++ ": " ++ refusal.message⟩

namespace Generator

def makeHandlerDirectory (generator : Generator) (tree : FileTree) : Run Unit :=
  let dir := generator.settings.handlerPath
  match tree.makeDirectories dir with
  | ⟨made, none⟩ => .done made ()
  | ⟨made, some refusal⟩ =>
    .failed made ⟨.generation,
      "Failed to create handler directory " ++ dir ++ ": " ++ refusal.message⟩

def preamble (generator : Generator) (file : SourceFile) (tree : FileTree) :
    Except Fault String :=
  (Go.messageImport generator.settings generator.resolve tree file.goPackage).map
    (Handler.header generator.settings)

/-- Merges one service of a file, and registers it unless it is skipped. -/
def mergeService (generator : Generator) (file : SourceFile) (service : Service)
    (table : Routing.Table) (tree : FileTree) (disk : Disk := .sound) :
    Run (Handler.Outcome × Routing.Table) :=
  let merge := Handler.merge generator.scan generator.settings.handlerPath
    (ServicePlan.of file service) (fun _ => generator.preamble file tree) tree table disk
  { tree := merge.tree
    consulted := if merge.asked then Go.consulted generator.settings else []
    answer := merge.answer.map fun outcome => (outcome, merge.table) }

def mergeServices (generator : Generator) (file : SourceFile) (services : List Service)
    (table : Routing.Table) (tree : FileTree) (disk : Disk := .sound) :
    Run (List Handler.Outcome × Routing.Table) :=
  match services with
  | [] => .done tree ([], table)
  | service :: rest =>
    (generator.mergeService file service table tree disk).andThen fun (outcome, table) tree =>
      (generator.mergeServices file rest table tree disk).map fun (outcomes, table) =>
        (outcome :: outcomes, table)

/-- Generates one file: makes the handler directory, merges the services, and writes the routing
table of those that were merged. -/
def generateFile (generator : Generator) (file : SourceFile) (tree : FileTree)
    (disk : Disk := .sound) : Run FileReport :=
  (generator.makeHandlerDirectory tree).andThen fun _ tree =>
    (generator.mergeServices file file.services .empty tree disk).andThen
      fun (outcomes, table) tree =>
        (table.emit generator.settings generator.settings.handlerPath tree disk).map fun path =>
          ⟨file.name, outcomes, table, path⟩

/-- Generates files one after another; those that are not eligible are passed over. -/
def generate (generator : Generator) (files : List SourceFile) (tree : FileTree)
    (disk : Disk := .sound) : Run (List FileReport) :=
  match files with
  | [] => .done tree []
  | file :: rest =>
    if file.eligible then
      (generator.generateFile file tree disk).andThen fun report tree =>
        (generator.generate rest tree disk).map (report :: ·)
    else generator.generate rest tree disk

end Generator
end ServiceScaffold
