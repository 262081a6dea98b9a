import ServiceScaffold.Yaml.Node
import ServiceScaffold.Text.Quoted
import ServiceScaffold.Storage.FileTree
import ServiceScaffold.Settings
import ServiceScaffold.Fault

/-!
# Settings files

Settings as a YAML document: a mapping from the names of the settings to their values. Names that
mean nothing here are passed over, and what is not given keeps its default.
-/

namespace ServiceScaffold
namespace Settings

def text? : Yaml.Node → Option String
  | .scalar text _ _ => some text
  | _ => none

def absences : List String :=
  ["~", "null", "Null", "NULL"]

def absenceTag : String := "tag:yaml.org,2002:null"

def optionalText? : Yaml.Node → Option (Option String)
  | .scalar text false _ => some (some text)
  | .scalar text true none =>
    if text.isEmpty || absences.contains text then some none else some (some text)
  | .scalar text true (some tag) =>
    if tag = absenceTag then if absences.contains text then some none else none
    else some (some text)
  | _ => none

/-- The texts of a list of scalars; nothing at all is an empty list. -/
def texts? : Yaml.Node → Option (List String)
  | .sequence items => items.mapM text?
  | .scalar text plain _ => if text.isEmpty && plain then some [] else none
  | .mapping _ => none

def names : List String :=
  ["handler_path", "module", "proto_import_path", "package_name", "framework_import",
   "extra_imports", "version", "work_dir"]

/-- The settings with one more value; none if the value is not of the right form. -/
def withEntry (settings : Settings) (name : String) (value : Yaml.Node) : Option Settings :=
  match name with
  | "handler_path" => (text? value).map fun path => { settings with handlerPath := path }
  | "module" => (optionalText? value).map fun module => { settings with module }
  | "proto_import_path" =>
    (optionalText? value).map fun path => { settings with protoImportPath := path }
  | "package_name" => (text? value).map fun name => { settings with packageName := name }
  | "framework_import" => (text? value).map fun path => { settings with frameworkImport := path }
  | "extra_imports" => (texts? value).map fun paths => { settings with extraImports := paths }
  | "version" => (text? value).map fun version => { settings with version }
  | "work_dir" => (text? value).map fun path => { settings with workDir := path }
  | _ => some settings

/-- The settings of a mapping. A name that means something may occur once. -/
def ofEntries? (entries : List (Yaml.Node × Yaml.Node)) : Option Settings := do
  let named ← entries.mapM fun (key, value) => (text? key).map fun name => (name, value)
  if ((named.map Prod.fst).filter names.contains).Nodup then
    named.foldlM (fun settings (name, value) => settings.withEntry name value) {}
  else none

/-- The settings of a document; an empty one gives the defaults. -/
def ofNode? : Yaml.Node → Option Settings
  | .mapping entries => ofEntries? entries
  | .scalar text plain _ => if text.isEmpty && plain then some {} else none
  | .sequence _ => none

def load (tree : FileTree) (path : String) : Except Fault Settings :=
  match tree.readText path with
  | .error refusal =>
    .error ⟨.config,
      "Failed to read config file " ++ Text.quoted path ++ ": " ++ refusal.message⟩
  | .ok text =>
    match (Yaml.Node.ofString? text).bind ofNode? with
    | some settings => .ok settings
    | none =>
      .error ⟨.config,
        "Failed to parse config YAML from " ++ Text.quoted path ++ ": no settings document"⟩

end Settings
end ServiceScaffold
