import ServiceScaffold.Text.Pieces
import ServiceScaffold.Schema.Declaration

/-!
# Scopes

The names that a set of description files defines, and what a name means where it is used. A
name is looked for in the scope that uses it and then in the scopes around that one.
-/

namespace ServiceScaffold
namespace Schema

inductive DefinitionKind
  | package
  | message
  | field
  | oneof
  | service
  | method
  | enumeration
  | enumValue
  | extension
  deriving DecidableEq, Repr

def DefinitionKind.isScope : DefinitionKind → Bool
  | .package | .message | .service | .enumeration => true
  | _ => false

structure Definition where
  name : String
  kind : DefinitionKind
  /-- The position of the file that defines the name. -/
  file : Nat
  deriving DecidableEq, Repr

abbrev Definitions := List Definition

def Definitions.find (definitions : Definitions) (name : String) : Option Definition :=
  definitions.find? fun definition => definition.name = name

/-- The texts that end before a dot of the name, from the shortest on, and then the name. -/
def enclosing (name : String) : List String :=
  let pieces := (Text.pieces '.' name.toList).map String.ofList
  (List.range pieces.length).map fun n => Text.join "." (pieces.take (n + 1))

/-- The scopes in which a name used in `scope` is looked for, the innermost first. -/
def searchScopes (scope : String) : List String :=
  (enclosing scope).reverse ++ [""]

namespace File

def packageDefinitions (file : File) (position : Nat) : List Definition :=
  if file.package.isEmpty then []
  else (enclosing file.package).map fun name => ⟨name, .package, position⟩

def messageDefinitions (position : Nat) (message : Message) : List Definition :=
  ⟨message.fullName, .message, position⟩
  :: message.fields.map (fun field => ⟨field.fullName, .field, position⟩)
  ++ message.oneofs.map (fun oneof => ⟨oneof.fullName, .oneof, position⟩)

def enumerationDefinitions (position : Nat) (enumeration : Enumeration) : List Definition :=
  ⟨enumeration.fullName, .enumeration, position⟩
  :: enumeration.values.map fun value => ⟨value.fullName, .enumValue, position⟩

def serviceDefinitions (position : Nat) (service : ServiceDeclaration) : List Definition :=
  ⟨service.fullName, .service, position⟩
  :: service.methods.map fun method => ⟨method.fullName, .method, position⟩

/-- Every name that a file defines, its package and the packages around it included. -/
def definitions (file : File) (position : Nat) : List Definition :=
  file.packageDefinitions position
  ++ file.messages.flatMap (messageDefinitions position)
  ++ file.enumerations.flatMap (enumerationDefinitions position)
  ++ file.services.flatMap (serviceDefinitions position)
  ++ file.extensions.map fun field => ⟨field.fullName, .extension, position⟩

end File

abbrev Wanted := DefinitionKind → Bool

def wantsMessage : Wanted
  | .message => true
  | _ => false

def wantsFieldType : Wanted
  | .message | .enumeration => true
  | _ => false

def Definitions.visible? (definitions : Definitions) (files : List Nat) (wanted : Wanted)
    (name : String) : Option Definition :=
  (definitions.find name).filter fun definition =>
    wanted definition.kind && files.contains definition.file

/-- Looks for a relative name in scopes in turn. A name with a dot is decided by the first scope
in which its first part is itself a scope. -/
def Definitions.search (definitions : Definitions) (files : List Nat) (wanted : Wanted)
    (first name : String) : List String → Option Definition
  | [] => none
  | scope :: scopes =>
    if first = name then
      match definitions.visible? files wanted (qualify scope name) with
      | some definition => some definition
      | none => definitions.search files wanted first name scopes
    else
      match definitions.find (qualify scope first) with
      | some { kind, .. } =>
        if kind.isScope then definitions.visible? files wanted (qualify scope name)
        else definitions.search files wanted first name scopes
      | none => definitions.search files wanted first name scopes

/-- What a name means when it is used in `scope`: after a leading dot it is a full name. -/
def Definitions.resolve (definitions : Definitions) (files : List Nat) (wanted : Wanted)
    (scope name : String) : Option Definition :=
  match Text.dropStart? ['.'] name.toList with
  | some fullName => definitions.visible? files wanted (String.ofList fullName)
  | none =>
    let first := String.ofList ((Text.pieces '.' name.toList).headD [])
    definitions.search files wanted first name (searchScopes scope)

end Schema
end ServiceScaffold
