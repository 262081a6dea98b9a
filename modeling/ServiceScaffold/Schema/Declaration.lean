import ServiceScaffold.Schema.Standard

/-!
# Declarations

What a description file declares. Messages inside messages stand beside the outer ones, each with
its full name; options are kept as the items that they consist of.
-/

namespace ServiceScaffold
namespace Schema

open Wire (Item)

structure Field where
  name : String
  fullName : String
  extendee : String
  number : Int
  repeated : Bool
  type : Int
  typeName : String
  oneof : Option Int
  explicitPresence : Bool
  packed : Option Bool
  options : Option (List Item)

structure Oneof where
  fullName : String
  options : Option (List Item)

structure EnumValue where
  fullName : String
  number : Int
  options : Option (List Item)

structure Enumeration where
  fullName : String
  values : List EnumValue
  /-- Numbers that no value may have: first and last of each range. -/
  reserved : List (Int × Int)
  allowAlias : Bool
  options : Option (List Item)

structure ExtensionRange where
  first : Int
  /-- The number after the last. -/
  stop : Int
  options : Option (List Item)

structure Message where
  fullName : String
  fields : List Field
  oneofs : List Oneof
  extensionRanges : List ExtensionRange
  /-- Numbers that no field may have: the first and the one after the last of each range. -/
  reserved : List (Int × Int)
  options : Option (List Item)

structure Method where
  name : String
  fullName : String
  input : String
  output : String
  clientStreaming : Bool
  serverStreaming : Bool
  options : Option (List Item)

structure ServiceDeclaration where
  name : String
  fullName : String
  methods : List Method
  options : Option (List Item)

structure File where
  name : String
  package : String
  language : Option String
  goPackage : Option String
  dependencies : List String
  publicDependencies : List Int
  messages : List Message
  enumerations : List Enumeration
  extensions : List Field
  services : List ServiceDeclaration
  options : Option (List Item)

def qualify (scope name : String) : String :=
  if scope.isEmpty then name else scope ++ "." ++ name

def itemsOf (number : Nat) (items : List Item) : List Item :=
  items.filter fun item => item.number = number

def texts (number : Nat) (items : List Item) : List String :=
  (itemsOf number items).filterMap Item.text?

def lastText? (number : Nat) (items : List Item) : Option String :=
  (texts number items).getLast?

def lastText (number : Nat) (items : List Item) : String :=
  (lastText? number items).getD ""

def signed32 (n : Nat) : Int :=
  let low := Wire.wrap32 n
  if low < UInt32.size / 2 then low else (low : Int) - UInt32.size

def integers (number : Nat) (items : List Item) : List Int :=
  (itemsOf number items).flatMap fun item =>
    ((Wire.Scalar.int32.values? item).getD []).filterMap fun
      | .varint n => some (signed32 n)
      | _ => none

def lastInteger? (number : Nat) (items : List Item) : Option Int :=
  (integers number items).getLast?

def lastInteger (number : Nat) (items : List Item) : Int :=
  (lastInteger? number items).getD 0

/-- A truth value may be any number; all but zero are true. -/
def lastFlag? (number : Nat) (items : List Item) : Option Bool :=
  ((itemsOf number items).filterMap fun
    | .plain ⟨_, .varint n⟩ => some (decide (n ≠ 0))
    | _ => none).getLast?

def lastFlag (number : Nat) (items : List Item) : Bool :=
  (lastFlag? number items).getD false

def parts (number : Nat) (items : List Item) : List (List Item) :=
  (itemsOf number items).filterMap Item.inner?

/-- The message inside; its occurrences are one message. -/
def merged? (number : Nat) (items : List Item) : Option (List Item) :=
  match parts number items with
  | [] => none
  | inners => some inners.flatten

def Field.ofItems (scope : String) (items : List Item) : Field :=
  let name := lastText 1 items
  let options := merged? 8 items
  { name
    fullName := qualify scope name
    extendee := lastText 2 items
    number := lastInteger 3 items
    repeated := lastInteger? 4 items = some 3
    type := lastInteger 5 items
    typeName := lastText 6 items
    oneof := lastInteger? 9 items
    explicitPresence := lastFlag 17 items
    packed := options.bind (lastFlag? 2)
    options }

def Oneof.ofItems (scope : String) (items : List Item) : Oneof :=
  { fullName := qualify scope (lastText 1 items), options := merged? 2 items }

def EnumValue.ofItems (scope : String) (items : List Item) : EnumValue :=
  { fullName := qualify scope (lastText 1 items)
    number := lastInteger 2 items
    options := merged? 3 items }

def range (items : List Item) : Int × Int :=
  (lastInteger 1 items, lastInteger 2 items)

/-- The values of an enumeration are named in the scope of the enumeration itself. -/
def Enumeration.ofItems (scope : String) (items : List Item) : Enumeration :=
  let options := merged? 3 items
  { fullName := qualify scope (lastText 1 items)
    values := (parts 2 items).map (EnumValue.ofItems scope)
    reserved := (parts 4 items).map range
    allowAlias := (options.map (lastFlag 2)).getD false
    options }

def ExtensionRange.ofItems (items : List Item) : ExtensionRange :=
  { first := lastInteger 1 items, stop := lastInteger 2 items, options := merged? 3 items }

def Message.ofItems (scope : String) (items : List Item) : Message :=
  let fullName := qualify scope (lastText 1 items)
  { fullName
    fields := (parts 2 items).map (Field.ofItems fullName)
    oneofs := (parts 8 items).map (Oneof.ofItems fullName)
    extensionRanges := (parts 5 items).map ExtensionRange.ofItems
    reserved := (parts 9 items).map range
    options := merged? 7 items }

structure Declarations where
  messages : List Message := []
  enumerations : List Enumeration := []
  extensions : List Field := []

def Declarations.append (a b : Declarations) : Declarations :=
  ⟨a.messages ++ b.messages, a.enumerations ++ b.enumerations, a.extensions ++ b.extensions⟩

/-- A message with all that is declared inside it, `limit` levels deep. -/
def Declarations.ofMessage : Nat → String → List Item → Declarations
  | limit, scope, items =>
    let message := Message.ofItems scope items
    let own : Declarations :=
      { messages := [message]
        enumerations := (parts 4 items).map (Enumeration.ofItems message.fullName)
        extensions := (parts 6 items).map (Field.ofItems message.fullName) }
    match limit with
    | 0 => own
    | limit + 1 =>
      ((parts 3 items).map (Declarations.ofMessage limit message.fullName)).foldl
        Declarations.append own

def Method.ofItems (scope : String) (items : List Item) : Method :=
  let name := lastText 1 items
  { name
    fullName := qualify scope name
    input := lastText 2 items
    output := lastText 3 items
    clientStreaming := lastFlag 5 items
    serverStreaming := lastFlag 6 items
    options := merged? 4 items }

def ServiceDeclaration.ofItems (scope : String) (items : List Item) : ServiceDeclaration :=
  let name := lastText 1 items
  let fullName := qualify scope name
  { name
    fullName
    methods := (parts 2 items).map (Method.ofItems fullName)
    options := merged? 3 items }

def File.ofItems (items : List Item) : File :=
  let package := lastText 2 items
  let outer : Declarations :=
    { enumerations := (parts 5 items).map (Enumeration.ofItems package)
      extensions := (parts 7 items).map (Field.ofItems package) }
  let declared := ((parts 4 items).map
    (Declarations.ofMessage Wire.nestingLimit package)).foldl Declarations.append outer
  let options := merged? 8 items
  { name := lastText 1 items
    package
    language := lastText? 12 items
    goPackage := options.bind (lastText? 11)
    dependencies := texts 3 items
    publicDependencies := integers 10 items
    messages := declared.messages
    enumerations := declared.enumerations
    extensions := declared.extensions
    services := (parts 6 items).map (ServiceDeclaration.ofItems package)
    options }

/-- Whether the items fit the standard description file, with `limit` levels of nesting to
go. -/
def fitsStandard (limit : Nat) (items : List Item) : Bool :=
  (Wire.canonical? standardShapes (fun limit item => item.skippable limit) limit fileShape
    items).isSome

end Schema
end ServiceScaffold
