import ServiceScaffold.Schema.Pool
import ServiceScaffold.Wire.Request
import ServiceScaffold.Wire.HttpRule
import ServiceScaffold.Go.Name
import ServiceScaffold.Service
import ServiceScaffold.Fault
import ServiceScaffold.Storage.FileTree

/-!
# Sources

What a run works on: a pool of description files in the order in which they arrived, and which of
them code is asked for. From it come the services with their Go names and bindings.
-/

namespace ServiceScaffold

open Schema (Definition File Pool ResolvedFile ResolvedMethod ResolvedService)

structure Source where
  pool : Pool
  /-- The names of the files in their order. -/
  files : List String
  /-- The files that code is asked for; every file if there is no such list. -/
  targets : Option (List String)
  parameter : Option String

namespace Source

def undecodable (what detail : String) : Fault :=
  ⟨.parse, "Failed to decode " ++ what ++ ": " ++ detail⟩

def readFile (bytes : Bytes) : Except Fault File :=
  match Wire.readItems? bytes with
  | some items =>
    if Schema.fitsStandard Wire.nestingLimit items then .ok (File.ofItems items)
    else .error (undecodable "FileDescriptorProto" "a field does not fit")
  | none => .error (undecodable "FileDescriptorProto" "malformed message")

/-- Inside a set the files are one level deeper, which those at the limit do not survive. -/
def fitsInSet (bytes : Bytes) : Bool :=
  match Wire.readItems? bytes with
  | some items => Schema.fitsStandard (Wire.nestingLimit - 1) items
  | none => false

def noPool (fault : Schema.PoolFault) : Fault :=
  ⟨.parse, "Failed to create DescriptorPool: " ++ fault.message⟩

def readPool (payloads : List Bytes) : Except Fault (Pool × List String) := do
  let files ← payloads.mapM readFile
  if payloads.all fitsInSet then
    match Pool.ofFiles files with
    | .ok pool => pure (pool, files.map File.name)
    | .error fault => .error (noPool fault)
  else .error (noPool .malformed)

/-- The source of a plugin request; an empty parameter is none. -/
def ofRequest (bytes : Bytes) : Except Fault Source :=
  match Wire.Request.decode? bytes with
  | none => .error (undecodable "CodeGeneratorRequest" "malformed message")
  | some request => do
    let (pool, files) ← readPool request.files
    pure ⟨pool, files, some request.filesToGenerate, request.parameter.filter (!·.isEmpty)⟩

/-- The source of a set of description files; code is asked for all of them. -/
def ofSet (bytes : Bytes) : Except Fault Source :=
  match Wire.FileSet.decode? bytes with
  | none => .error (undecodable "FileDescriptorSet" "malformed message")
  | some set => do
    let (pool, files) ← readPool set.files
    pure ⟨pool, files, none, none⟩

def ofFile (tree : FileTree) (path : String) : Except Fault Source :=
  match tree.read path with
  | .error refusal =>
    .error ⟨.parse,
      "Failed to read FileDescriptorSet file " ++ path ++ ": " ++ refusal.message⟩
  | .ok bytes => ofSet bytes

def withTargets (source : Source) (targets : List String) : Source :=
  { source with targets := some targets }

def isTarget (source : Source) (name : String) : Bool :=
  source.targets.all fun targets => targets.contains name

def httpOption : String := "google.api.http"

/-- The binding that a rule describes; a rule without pattern describes none. -/
def bindingOf (rule : Wire.HttpRule) : Option Binding :=
  let body := if rule.body.isEmpty then none else some rule.body
  rule.pattern.map fun
    | .get path => ⟨.get, path, body⟩
    | .put path => ⟨.put, path, body⟩
    | .post path => ⟨.post, path, body⟩
    | .delete path => ⟨.delete, path, body⟩
    | .patch path => ⟨.patch, path, body⟩
    | .custom kind path => ⟨.custom kind, path, body⟩

/-- The binding in the options of a method. The value of the option is read as its declared type
first, and what that makes of it is read as a rule. -/
def methodBinding (pool : Pool) (method : Schema.Method) : Except Fault (Option Binding) :=
  match pool.extension? httpOption, method.options with
  | some extension, some options =>
    match pool.optionMessage? "MethodOptions" extension.shape.number options with
    | none => .ok none
    | some bytes =>
      match Wire.HttpRule.decode? bytes with
      | some rule => .ok (bindingOf rule)
      | none =>
        .error ⟨.parse, "Invalid " ++ httpOption ++ " option on " ++ method.fullName
          ++ ": malformed message"⟩
  | _, _ => .ok none

def localName (package fullName : String) : String :=
  match Text.dropStart? (package.toList ++ ['.']) fullName.toList with
  | some rest => String.ofList rest
  | none => fullName

def messageName (pool : Pool) (message : Definition) : String :=
  Go.camelCase (localName (pool.packageOf message) message.name)

def rpcOf (pool : Pool) (resolved : ResolvedMethod) : Except Fault Rpc := do
  let method := resolved.method
  pure
    { name := method.name
      goName := Go.camelCase method.name
      inputType := messageName pool resolved.input
      outputType := messageName pool resolved.output
      clientStreaming := method.clientStreaming
      serverStreaming := method.serverStreaming
      binding := ← methodBinding pool method }

def serviceOf (pool : Pool) (resolved : ResolvedService) : Except Fault Service := do
  pure
    { goName := Go.camelCase resolved.service.name
      fullName := resolved.service.fullName
      methods := ← resolved.methods.mapM (rpcOf pool) }

def sourceFileOf (pool : Pool) (generate : Bool) (resolved : ResolvedFile) :
    Except Fault SourceFile := do
  let file := resolved.file
  pure
    { name := file.name
      package := file.package
      goPackage := Go.packageName file.goPackage file.package file.name
      generate
      services := ← resolved.services.mapM (serviceOf pool) }

def parse (source : Source) : Except Fault (List SourceFile) :=
  source.files.mapM fun name =>
    match source.pool.file? name with
    | none => .error ⟨.parse, "File " ++ name ++ " missing from descriptor pool"⟩
    | some file => sourceFileOf source.pool (source.isTarget name) file

end Source
end ServiceScaffold
