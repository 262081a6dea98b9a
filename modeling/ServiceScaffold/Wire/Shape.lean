import ServiceScaffold.Wire.Item

/-!
# Messages of a declared type

What a type declaration makes of the items of a message. `MessageShape.canonical?` checks every
item against its declaration and gives the records in which the message would be written again:
fields in ascending order, numbers in their declared width, of a singular field the last value,
of a oneof the last member, and fields that the type does not declare as they were.
-/

namespace ServiceScaffold
namespace Wire

inductive Scalar
  | double
  | float
  | int64
  | uint64
  | int32
  | fixed64
  | fixed32
  | bool
  | string
  | bytes
  | uint32
  | sfixed32
  | sfixed64
  | sint32
  | sint64
  deriving DecidableEq, Repr

inductive FieldKind
  | scalar (scalar : Scalar)
  | message (type : String)
  | group (type : String)
  deriving DecidableEq, Repr

structure FieldShape where
  number : Nat
  kind : FieldKind
  repeated : Bool := false
  /-- Whether a value is written even if it is the default. -/
  presence : Bool := true
  /-- The position of the oneof that the field is a member of. -/
  oneof : Option Nat := none
  /-- Whether the values of a repeated field share one record. -/
  packed : Bool := false
  deriving DecidableEq, Repr

structure MessageShape where
  name : String
  fields : List FieldShape
  deriving DecidableEq, Repr

abbrev Shapes := List MessageShape

def Shapes.find (shapes : Shapes) (name : String) : Option MessageShape :=
  shapes.find? fun shape => shape.name = name

def MessageShape.field? (shape : MessageShape) (number : Nat) : Option FieldShape :=
  shape.fields.find? fun field => field.number = number

def wrap32 (n : Nat) : Nat :=
  n % UInt32.size

/-- The number in 32 bits with its sign carried on to 64. -/
def signExtend32 (n : Nat) : Nat :=
  let low := wrap32 n
  if low < UInt32.size / 2 then low else low + (UInt64.size - UInt32.size)

namespace Scalar

/-- The payload that a value of the type is written with; none if the payload has another
form. -/
def normalize? : Scalar → Payload → Option Payload
  | .double, .fixed64 value | .fixed64, .fixed64 value | .sfixed64, .fixed64 value =>
    some (.fixed64 value)
  | .float, .fixed32 value | .fixed32, .fixed32 value | .sfixed32, .fixed32 value =>
    some (.fixed32 value)
  | .int64, .varint n | .uint64, .varint n | .sint64, .varint n => some (.varint n)
  | .int32, .varint n => some (.varint (signExtend32 n))
  | .uint32, .varint n | .sint32, .varint n => some (.varint (wrap32 n))
  | .bool, .varint n => some (.varint (if n = 0 then 0 else 1))
  | .string, .bytes value => if (Utf8.decode? value).isSome then some (.bytes value) else none
  | .bytes, .bytes value => some (.bytes value)
  | _, _ => none

/-- Whether the value is the one that an absent field has. Both zeros of a floating-point type
count. -/
def isDefault (scalar : Scalar) : Payload → Bool
  | .varint n => n = 0
  | .bytes value => value.isEmpty
  | .fixed64 value | .fixed32 value =>
    let floating := scalar = .double ∨ scalar = .float
    value.dropLast.all (· = 0) && value.getLast?.all fun b => b = 0 || (floating && b = 0x80)
  | _ => false

/-- The form of payload in which several values may share a record. -/
def packedForm? : Scalar → Option Nat
  | .double | .fixed64 | .sfixed64 => some 1
  | .float | .fixed32 | .sfixed32 => some 5
  | .string | .bytes => none
  | _ => some 0

/-- The payloads of one form that the bytes consist of, `room` of them at most. -/
def unpackFrom (form : Nat) : Nat → Bytes → Option (List Payload)
  | _, [] => some []
  | 0, _ :: _ => none
  | room + 1, b :: packed => do
    let (payload, rest) ← readPayload? form (b :: packed)
    pure (payload :: (← unpackFrom form room rest))

def values? (scalar : Scalar) (item : Item) : Option (List Payload) :=
  match item with
  | .group _ _ => none
  | .plain record =>
    match record.payload, scalar.packedForm? with
    | .bytes packed, some form => do
      (← unpackFrom form packed.length packed).mapM scalar.normalize?
    | payload, _ => do pure [← scalar.normalize? payload]

def value? (scalar : Scalar) : Item → Option Payload
  | .plain record => scalar.normalize? record.payload
  | .group _ _ => none

end Scalar

def singularRecords (field : FieldShape) (scalar : Scalar) (values : List Payload) :
    List Record :=
  match values.getLast? with
  | none => []
  | some value =>
    if field.presence || !scalar.isDefault value then [⟨field.number, value⟩] else []

def repeatedRecords (field : FieldShape) (scalar : Scalar) (values : List Payload) :
    List Record :=
  if field.packed && scalar.packedForm?.isSome then
    if values.isEmpty then [] else [⟨field.number, .bytes (values.flatMap Payload.encode)⟩]
  else values.map fun value => ⟨field.number, value⟩

def FieldKind.inner? : FieldKind → Item → Option (List Item)
  | .group _, .group _ inside => items? inside
  | .group _, .plain _ => none
  | _, item => item.inner?

def FieldKind.wrap (kind : FieldKind) (number : Nat) (inside : List Record) : List Record :=
  match kind with
  | .group _ => ⟨number, .groupStart⟩ :: inside ++ [⟨number, .groupEnd⟩]
  | _ => [⟨number, .bytes (Wire.encode inside)⟩]

/-- Whether a later item sets another member of the same oneof. -/
def MessageShape.superseded (shape : MessageShape) (item : Item) (later : List Item) : Bool :=
  match shape.field? item.number with
  | some { oneof := some oneof, .. } =>
    later.any fun other => other.number ≠ item.number &&
      ((shape.field? other.number).bind FieldShape.oneof) = some oneof
  | _ => false

/-- The items that stay, and those that a later member of their oneof displaces. -/
def MessageShape.settle (shape : MessageShape) : List Item → List Item × List Item
  | [] => ([], [])
  | item :: rest =>
    let (kept, displaced) := shape.settle rest
    if shape.superseded item rest then (kept, item :: displaced)
    else (item :: kept, displaced)

def insertNumber (n : Nat) : List Nat → List Nat
  | [] => [n]
  | first :: rest =>
    if n < first then n :: first :: rest
    else if n = first then first :: rest
    else first :: insertNumber n rest

/-- The distinct numbers of the items in ascending order. -/
def itemNumbers (items : List Item) : List Nat :=
  items.foldr (fun item => insertNumber item.number) []

/-- How the items inside a message or group of a named type are made canonical. -/
abbrev Inside := String → List Item → Option (List Record)

/-- The canonical records of a declared field with these items. The occurrences of a singular
message are one message. -/
def fieldRecords? (inside : Inside) (field : FieldShape) (items : List Item) :
    Option (List Record) :=
  match field.kind with
  | .scalar scalar =>
    if field.repeated then
      (items.mapM scalar.values?).map fun values =>
        repeatedRecords field scalar values.flatten
    else (items.mapM scalar.value?).map (singularRecords field scalar)
  | .message type | .group type => do
    let inners ← items.mapM field.kind.inner?
    if field.repeated then
      let each ← inners.mapM (inside type)
      pure (each.flatMap (field.kind.wrap field.number))
    else
      let merged ← inside type inners.flatten
      pure (field.kind.wrap field.number merged)

def numberRecords? (inside : Inside) (unread : Item → Bool) (shape : MessageShape)
    (items : List Item) (number : Nat) : Option (List Record) :=
  let own := items.filter fun item => item.number = number
  match shape.field? number with
  | some field => fieldRecords? inside field own
  | none => if own.all unread then some (own.flatMap Item.records) else none

/-- The canonical records of a message; the items that are displaced have to fit as well. -/
def messageRecords? (inside : Inside) (unread : Item → Bool) (shape : MessageShape)
    (items : List Item) : Option (List Record) := do
  let (kept, displaced) := shape.settle items
  let _ ← displaced.mapM fun item => numberRecords? inside unread shape [item] item.number
  let each ← (itemNumbers kept).mapM (numberRecords? inside unread shape kept)
  pure each.flatten

/-- The canonical records of a message of a declared type, with `limit` levels of nesting to go;
none if an item does not fit its declaration. `unread` says which undeclared items are let
through. -/
def canonical? (shapes : Shapes) (unread : Nat → Item → Bool) :
    Nat → MessageShape → List Item → Option (List Record)
  | 0 => messageRecords? (fun _ _ => none) (unread 0)
  | limit + 1 =>
    messageRecords?
      (fun type inner => (shapes.find type).bind fun shape =>
        canonical? shapes unread limit shape inner)
      (unread (limit + 1))

end Wire
end ServiceScaffold
