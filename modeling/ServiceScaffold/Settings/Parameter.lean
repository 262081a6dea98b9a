import ServiceScaffold.Text.Blank
import ServiceScaffold.Settings.Document

/-!
# Plugin parameters

Settings as a compiler passes them on to its plugin: entries `key=value` between commas. A
settings file among them is read before everything else, wherever it is named.
-/

namespace ServiceScaffold
namespace Settings

/-- The entries of a parameter: the stretches between commas, trimmed, without empty ones. -/
def parameterEntries (parameter : String) : List (List Char) :=
  ((Text.pieces ',' parameter.toList).map Text.trimBlank).filter (!·.isEmpty)

def parameterEntry (entry : List Char) : Except Fault (String × String) :=
  match Text.cut? '=' entry with
  | some (key, value) => .ok (String.ofList key, String.ofList value)
  | none =>
    .error ⟨.config, "Plugin parameter without a value: " ++ String.ofList entry⟩

def withParameter (settings : Settings) (key value : String) : Except Fault Settings :=
  match key with
  | "config" => .ok settings
  | "handler_path" => .ok { settings with handlerPath := value }
  | "module" => .ok { settings with module := some value }
  | "proto_import_path" => .ok { settings with protoImportPath := some value }
  | "package" => .ok { settings with packageName := value }
  | "framework_import" => .ok { settings with frameworkImport := value }
  | "import" => .ok { settings with extraImports := settings.extraImports ++ [value] }
  | _ => .error ⟨.config, "Unknown plugin parameter: " ++ key⟩

/-- The settings that the remaining entries are applied to: those of the first settings file that
is named, for the version and the directory of this run. -/
def parameterBase (settings : Settings) (tree : FileTree) (entries : List (String × String)) :
    Except Fault Settings :=
  match entries.lookup "config" with
  | none => .ok settings
  | some path => do
    let loaded ← load tree path
    pure { loaded with version := settings.version, workDir := settings.workDir }

def applyParameter (settings : Settings) (tree : FileTree) (parameter : String) :
    Except Fault Settings := do
  let entries ← (parameterEntries parameter).mapM parameterEntry
  let base ← settings.parameterBase tree entries
  entries.foldlM (fun settings (key, value) => settings.withParameter key value) base

end Settings
end ServiceScaffold
