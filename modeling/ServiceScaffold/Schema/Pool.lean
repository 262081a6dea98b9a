import ServiceScaffold.Schema.Scope

/-!
# Pools

A set of description files whose names all mean something. Building a pool checks that names are
unique, that dependencies are there, that field numbers are in order, that every type that is
used is visible where it is used, and that options have the form that their type declares.
-/

namespace ServiceScaffold
namespace Schema

open Wire (FieldKind FieldShape Item MessageShape Scalar)

inductive PoolFault
  | malformed
  | duplicateFile (name : String)
  | unknownLanguage (file : String)
  | duplicateName (name : String)
  | missingDependency (file dependency : String)
  | publicDependencyOutOfRange (file : String)
  | fieldNumber (field : String)
  | duplicateFieldNumber (message : String)
  | extensionNumber (extension : String)
  | oneofOutOfRange (field : String)
  | unresolved (scope name : String)
  | missingTypeName (field : String)
  | emptyEnumeration (name : String)
  | enumerationNumber (name : String)
  | options (owner : String)
  deriving DecidableEq, Repr

def PoolFault.message : PoolFault → String
  | .malformed => "the files are nested too deeply"
  | .duplicateFile name => "there are two files " ++ name
  | .unknownLanguage file => "the language of " ++ file ++ " is not known"
  | .duplicateName name => name ++ " is defined twice"
  | .missingDependency file dependency =>
    file ++ " depends on " ++ dependency ++ ", which is missing"
  | .publicDependencyOutOfRange file => file ++ " passes on a dependency that it does not have"
  | .fieldNumber field => field ++ " has a number that no field may have"
  | .duplicateFieldNumber message => message ++ " uses a field number twice"
  | .extensionNumber extension => extension ++ " has a number that is not open to extensions"
  | .oneofOutOfRange field => field ++ " belongs to no oneof of its message"
  | .unresolved scope name => name ++ " means nothing in " ++ scope
  | .missingTypeName field => field ++ " does not name its type"
  | .emptyEnumeration name => name ++ " has no value"
  | .enumerationNumber name => name ++ " uses a number that it may not use"
  | .options owner => "the options of " ++ owner ++ " are malformed"

abbrev Checked (α : Type) := Except PoolFault α

def require (condition : Bool) (fault : PoolFault) : Checked Unit :=
  if condition then .ok () else .error fault

/-- Adds a name. Only packages may be defined more than once. -/
def define (known : Definitions) (definition : Definition) : Checked Definitions :=
  match known.find definition.name with
  | none => .ok (known ++ [definition])
  | some earlier =>
    if earlier.kind = .package ∧ definition.kind = .package then .ok known
    else .error (.duplicateName definition.name)

def languages : List (Option String) :=
  [none, some "proto2", some "proto3"]

def File.isThird (file : File) : Bool :=
  file.language = some "proto3"

def numbered (files : List File) : List (File × Nat) :=
  files.zipIdx

def position? (files : List File) (name : String) : Option Nat :=
  files.findIdx? fun file => file.name = name

def collectNames (files : List File) : Checked Definitions := do
  files.forM fun file => do
    require ((files.filter fun other => other.name = file.name).length = 1)
      (.duplicateFile file.name)
    require (languages.contains file.language) (.unknownLanguage file.name)
  ((numbered files).flatMap fun (file, position) => file.definitions position).foldlM define []

/-- The files that a file passes on to those that depend on it. -/
def passedOn (files : List File) (position : Nat) : List Nat :=
  match files[position]? with
  | none => []
  | some file =>
    file.dependencies.zipIdx.filterMap fun (dependency, n) =>
      if file.publicDependencies.contains (n : Int) then position? files dependency else none

/-- Adds what a file passes on to the visible files. What had been visible before is followed
further; what is new is not. No chain of files is longer than there are files. -/
def addPassedOn (files : List File) : Nat → List Nat → Nat → List Nat
  | 0, visible, _ => visible
  | room + 1, visible, position =>
    (passedOn files position).foldl (fun visible next =>
      if visible.contains next then addPassedOn files room visible next
      else visible ++ [next]) visible

def visibleFiles (files : List File) (file : File) (position : Nat) : Checked (List Nat) := do
  require
    (file.publicDependencies.all fun n => 0 ≤ n && n < (file.dependencies.length : Int))
    (.publicDependencyOutOfRange file.name)
  file.dependencies.foldlM (fun visible dependency =>
    match position? files dependency with
    | none => .error (.missingDependency file.name dependency)
    | some n =>
      let visible := if visible.contains n then visible else visible ++ [n]
      .ok (addPassedOn files (files.length + 1) visible n)) [position]

structure Context where
  file : File
  definitions : Definitions
  visible : List Nat

def Context.resolve (context : Context) (wanted : Wanted) (scope name : String) :
    Checked Definition :=
  match context.definitions.resolve context.visible wanted scope name with
  | some definition => .ok definition
  | none => .error (.unresolved scope name)

def scalarOfCode? : Int → Option Scalar
  | 2 => some .float
  | 3 => some .int64
  | 4 => some .uint64
  | 5 => some .int32
  | 6 => some .fixed64
  | 7 => some .fixed32
  | 8 => some .bool
  | 9 => some .string
  | 10 | 11 | 14 => none
  | 12 => some .bytes
  | 13 => some .uint32
  | 15 => some .sfixed32
  | 16 => some .sfixed64
  | 17 => some .sint32
  | 18 => some .sint64
  | _ => some .double

def Context.fieldKind (context : Context) (field : Field) : Checked FieldKind :=
  if field.typeName.isEmpty then
    match scalarOfCode? field.type with
    | some scalar => .ok (.scalar scalar)
    | none => .error (.missingTypeName field.fullName)
  else do
    let definition ← context.resolve wantsFieldType field.fullName field.typeName
    if definition.kind = .enumeration then pure (.scalar .int32)
    else if field.type = 10 then pure (.group definition.name)
    else pure (.message definition.name)

/-- Whether the values of a repeated field share a record, unless its options decide. -/
def Context.packs (context : Context) (field : Field) : Bool :=
  field.packed.getD context.file.isThird

def isFieldNumber (n : Int) : Bool :=
  1 ≤ n && n ≤ 536870911 && !(19000 ≤ n && n ≤ 19999)

def Context.fieldShape (context : Context) (field : Field) (presence : Bool) :
    Checked FieldShape := do
  require (isFieldNumber field.number) (.fieldNumber field.fullName)
  let kind ← context.fieldKind field
  let scalar := match kind with
    | .scalar _ => true
    | _ => false
  pure
    { number := field.number.toNat
      kind
      repeated := field.repeated
      presence := presence || !scalar || field.explicitPresence || field.oneof.isSome
        || !context.file.isThird
      oneof := field.oneof.map Int.toNat
      packed := field.repeated && context.packs field }

def Message.openTo (message : Message) (n : Int) : Bool :=
  message.extensionRanges.any fun range => range.first ≤ n && n < range.stop

def Message.reserves (message : Message) (n : Int) : Bool :=
  message.reserved.any fun (first, stop) => first ≤ n && n < stop

def Context.messageShape (context : Context) (message : Message) : Checked MessageShape := do
  let fields ← message.fields.mapM (context.fieldShape · false)
  message.fields.forM fun field => do
    require (!message.openTo field.number && !message.reserves field.number)
      (.fieldNumber field.fullName)
    require
      (field.oneof.all fun n => 0 ≤ n && n < (message.oneofs.length : Int))
      (.oneofOutOfRange field.fullName)
  require (decide (message.fields.map Field.number).Nodup) (.duplicateFieldNumber message.fullName)
  pure ⟨message.fullName, fields⟩

def Context.checkEnumeration (context : Context) (enumeration : Enumeration) : Checked Unit := do
  let numbers := enumeration.values.map EnumValue.number
  require (!numbers.isEmpty) (.emptyEnumeration enumeration.fullName)
  require (!context.file.isThird || numbers.head? = some 0)
    (.enumerationNumber enumeration.fullName)
  require (enumeration.allowAlias || decide numbers.Nodup)
    (.enumerationNumber enumeration.fullName)
  require
    (numbers.all fun n => !enumeration.reserved.any fun (first, last) => first ≤ n && n ≤ last)
    (.enumerationNumber enumeration.fullName)

structure Extension where
  fullName : String
  extendee : String
  shape : FieldShape

def Context.extension (context : Context) (messages : List Message) (field : Field) :
    Checked Extension := do
  let extendee ← context.resolve wantsMessage field.fullName field.extendee
  let shape ← context.fieldShape field true
  require
    (messages.any fun message => message.fullName = extendee.name && message.openTo field.number)
    (.extensionNumber field.fullName)
  pure ⟨field.fullName, extendee.name, { shape with oneof := none }⟩

structure ResolvedMethod where
  method : Method
  input : Definition
  output : Definition

structure ResolvedService where
  service : ServiceDeclaration
  methods : List ResolvedMethod

def Context.method (context : Context) (method : Method) : Checked ResolvedMethod := do
  let input ← context.resolve wantsMessage method.fullName method.input
  let output ← context.resolve wantsMessage method.fullName method.output
  pure ⟨method, input, output⟩

def Context.service (context : Context) (service : ServiceDeclaration) :
    Checked ResolvedService := do
  pure ⟨service, ← service.methods.mapM context.method⟩

def File.optionLists (file : File) : List (String × String × Option (List Item)) :=
  let field (field : Field) := ("FieldOptions", field.fullName, field.options)
  [("FileOptions", file.name, file.options)]
  ++ (file.messages.flatMap fun message =>
    ("MessageOptions", message.fullName, message.options)
    :: message.fields.map field
    ++ message.oneofs.map (fun oneof => ("OneofOptions", oneof.fullName, oneof.options))
    ++ message.extensionRanges.map
      (fun range => ("ExtensionRangeOptions", message.fullName, range.options)))
  ++ (file.enumerations.flatMap fun enumeration =>
    ("EnumOptions", enumeration.fullName, enumeration.options)
    :: enumeration.values.map
      (fun value => ("EnumValueOptions", value.fullName, value.options)))
  ++ file.extensions.map field
  ++ (file.services.flatMap fun service =>
    ("ServiceOptions", service.fullName, service.options)
    :: service.methods.map
      (fun method => ("MethodOptions", method.fullName, method.options)))

structure ResolvedFile where
  file : File
  services : List ResolvedService

structure Pool where
  files : List ResolvedFile
  /-- Every declared message type, its extensions included. -/
  shapes : Wire.Shapes
  extensions : List Extension

namespace Pool

/-- The type of a kind of options: the pool's own, or else the standard one with its own
companions. -/
def optionShape (shapes : Wire.Shapes) (kind : String) : Wire.Shapes × MessageShape :=
  match shapes.find (standardName kind) with
  | some shape => (shapes, shape)
  | none =>
    (standardShapes, (Wire.Shapes.find standardShapes (standardName kind)).getD ⟨kind, []⟩)

def canonicalOptions? (shapes : Wire.Shapes) (kind : String) (options : List Item) :
    Option (List Wire.Record) :=
  let (shapes, shape) := optionShape shapes kind
  Wire.canonical? shapes (fun limit item => item.keepable limit) Wire.nestingLimit shape options

def checkOptions (shapes : Wire.Shapes) (files : List File) : Checked Unit :=
  files.forM fun file => file.optionLists.forM fun (kind, owner, options) =>
    match options with
    | none => .ok ()
    | some options =>
      require (canonicalOptions? shapes kind options).isSome (.options owner)

def extendShapes (shapes : Wire.Shapes) (extensions : List Extension) : Wire.Shapes :=
  shapes.map fun shape =>
    { shape with
      fields := shape.fields ++ (extensions.filter fun extension =>
        extension.extendee = shape.name).map Extension.shape }

def ofFiles (files : List File) : Checked Pool := do
  let definitions ← collectNames files
  let contexts ← (numbered files).mapM fun (file, position) => do
    pure (⟨file, definitions, ← visibleFiles files file position⟩ : Context)
  let shapes ← contexts.mapM fun context => context.file.messages.mapM context.messageShape
  contexts.forM fun context => context.file.enumerations.forM context.checkEnumeration
  let messages := files.flatMap File.messages
  let extensions ← contexts.mapM fun context =>
    context.file.extensions.mapM (context.extension messages)
  let resolved ← contexts.mapM fun context => do
    pure (⟨context.file, ← context.file.services.mapM context.service⟩ : ResolvedFile)
  let shapes := extendShapes shapes.flatten extensions.flatten
  checkOptions shapes files
  pure ⟨resolved, shapes, extensions.flatten⟩

def file? (pool : Pool) (name : String) : Option ResolvedFile :=
  pool.files.find? fun resolved => resolved.file.name = name

def extension? (pool : Pool) (name : String) : Option Extension :=
  pool.extensions.find? fun extension => extension.fullName = name

def packageOf (pool : Pool) (definition : Definition) : String :=
  (pool.files[definition.file]?).elim "" fun resolved => resolved.file.package

/-- The message that options hold under a number, encoded again; none if the options' type
declares no single message there, or if it is not set. -/
def optionMessage? (pool : Pool) (kind : String) (number : Nat) (options : List Item) :
    Option Bytes := do
  let (_, shape) := optionShape pool.shapes kind
  let field ← shape.field? number
  match field.kind, field.repeated with
  | .message _, false | .group _, false =>
    let records ← canonicalOptions? pool.shapes kind options
    let own := ((← Wire.items? records).filter fun item => item.number = number)
    match own with
    | [.plain ⟨_, .bytes bytes⟩] => some bytes
    | [.group _ inside] => some (Wire.encode inside)
    | _ => none
  | _, _ => none

end Pool
end Schema
end ServiceScaffold
