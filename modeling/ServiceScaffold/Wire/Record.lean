import ServiceScaffold.Wire.Varint

/-!
# Records

A message on the wire is a sequence of records: a field number with a payload whose form the key
tells. A group is bracketed by two records with the same number. Here the sequence is flat; a
message inside a message is still bytes.
-/

namespace ServiceScaffold
namespace Wire

inductive Payload
  | varint (n : Nat)
  | fixed64 (value : Bytes)
  | bytes (value : Bytes)
  | groupStart
  | groupEnd
  | fixed32 (value : Bytes)
  deriving DecidableEq, Repr

structure Record where
  number : Nat
  payload : Payload
  deriving DecidableEq, Repr

/-- The number that stands for the form of a payload in a key. -/
def Payload.form : Payload → Nat
  | .varint _ => 0
  | .fixed64 _ => 1
  | .bytes _ => 2
  | .groupStart => 3
  | .groupEnd => 4
  | .fixed32 _ => 5

def Payload.encode : Payload → Bytes
  | .varint n => Wire.varint n
  | .fixed64 value => value
  | .bytes value => Wire.varint value.length ++ value
  | .groupStart => []
  | .groupEnd => []
  | .fixed32 value => value

def Record.encode (record : Record) : Bytes :=
  Wire.varint (record.number * 8 + record.payload.form) ++ record.payload.encode

def encode (records : List Record) : Bytes :=
  records.flatMap Record.encode

def take? (n : Nat) (bytes : Bytes) : Option (Bytes × Bytes) :=
  if n ≤ bytes.length then some (bytes.take n, bytes.drop n) else none

def readPayload? (form : Nat) (bytes : Bytes) : Option (Payload × Bytes) :=
  match form with
  | 0 => (readVarint? bytes).map fun (n, rest) => (.varint n, rest)
  | 1 => (take? 8 bytes).map fun (value, rest) => (.fixed64 value, rest)
  | 2 => do
    let (n, rest) ← readVarint? bytes
    let (value, rest) ← take? n rest
    pure (.bytes value, rest)
  | 3 => some (.groupStart, bytes)
  | 4 => some (.groupEnd, bytes)
  | 5 => (take? 4 bytes).map fun (value, rest) => (.fixed32 value, rest)
  | _ => none

/-- The record at the beginning, and what follows it. A key has 32 bits, and no field has the
number zero. -/
def readRecord? (bytes : Bytes) : Option (Record × Bytes) := do
  let (key, rest) ← readVarint? bytes
  if UInt32.size ≤ key ∨ key < 8 then none
  else
    let (payload, rest) ← readPayload? (key % 8) rest
    pure (⟨key / 8, payload⟩, rest)

def readRecordsFrom : Nat → Bytes → Option (List Record)
  | _, [] => some []
  | 0, _ :: _ => none
  | room + 1, b :: bytes => do
    let (record, rest) ← readRecord? (b :: bytes)
    pure (record :: (← readRecordsFrom room rest))

/-- The records that the bytes consist of; there are no more of them than bytes. -/
def readRecords? (bytes : Bytes) : Option (List Record) :=
  readRecordsFrom bytes.length bytes

end Wire
end ServiceScaffold
