import ServiceScaffold.Text.Blank
import ServiceScaffold.Storage.FileTree
import ServiceScaffold.Fault
import ServiceScaffold.Settings

/-!
# Go modules

The path of the module that a directory belongs to, read from its `go.mod`, and the import path
of the generated messages, which is derived from it.
-/

namespace ServiceScaffold
namespace Go

abbrev ModuleResolver := FileTree → String → Except Fault String

/-- The rest of the first line that, trimmed, begins with `module`. -/
def directiveRest? (text : List Char) : Option (List Char) :=
  ((Text.lines '\n' '\r' text).map Text.trimBlank).findSome? (Text.dropStart? "module".toList)

/-- The argument of a directive: what stands between white space and, inside it, quotes. The
directive's word must end there. -/
def directiveArgument? (rest : List Char) : Option (List Char) :=
  if rest.head?.all Text.isBlank then
    some (Text.trim (· = '"') (Text.trimBlank rest))
  else none

def declaredModule? (text : List Char) : Option (List Char) :=
  ((directiveRest? text).bind directiveArgument?).filter (!·.isEmpty)

def moduleFile : ModuleResolver := fun tree dir =>
  let path := Path.join dir "go.mod"
  match tree.readText path with
  | .error refusal => .error ⟨.module, "Failed to read " ++ path ++ ": " ++ refusal.message⟩
  | .ok text =>
    match declaredModule? text.toList with
    | some name => .ok (String.ofList name)
    | none => .error ⟨.module, "No module directive in " ++ path⟩

/-- Whether the run takes place in a directory of descriptions, beside the Go code. -/
def worksInProto (settings : Settings) : Bool :=
  (Text.dropEnding? "proto".toList
    (Text.dropEndWhile (· = '/') settings.workDir.toList)).isSome

def messageModuleDir (settings : Settings) : String :=
  if worksInProto settings then Path.join settings.handlerPath ".." else settings.workDir

/-- The directories that a derivation of the import path asks the resolver about: one, or none
where the settings decide. -/
def consulted (settings : Settings) : List String :=
  if settings.protoImportPath.isSome || settings.module.isSome then []
  else [messageModuleDir settings]

def messageImport (settings : Settings) (resolve : ModuleResolver) (tree : FileTree)
    (package : String) : Except Fault String :=
  match settings.protoImportPath with
  | some path => .ok path
  | none => do
    let name ← match settings.module with
      | some name => .ok name
      | none => resolve tree (messageModuleDir settings)
    if worksInProto settings then pure (name ++ "/proto/" ++ package)
    else pure (name ++ "/" ++ package)

end Go
end ServiceScaffold
