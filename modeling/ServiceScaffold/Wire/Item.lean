import ServiceScaffold.Wire.Record

/-!
# Items

The fields of a message: single records, and groups with the records between their brackets.
-/

namespace ServiceScaffold
namespace Wire

inductive Item
  | plain (record : Record)
  | group (number : Nat) (inside : List Record)
  deriving DecidableEq, Repr

namespace Item

def number : Item → Nat
  | .plain record => record.number
  | .group number _ => number

def records : Item → List Record
  | .plain record => [record]
  | .group number inside => ⟨number, .groupStart⟩ :: inside ++ [⟨number, .groupEnd⟩]

end Item

/-- Groups the records. `opened` are the numbers of the groups that are open, the innermost
first, and `inside` are the records since the outermost of them began. -/
def itemsFrom (opened : List Nat) (inside : List Record) : List Record → Option (List Item)
  | [] => if opened.isEmpty then some [] else none
  | record :: rest =>
    match record.payload, opened with
    | .groupStart, [] => itemsFrom [record.number] [] rest
    | .groupStart, numbers => itemsFrom (record.number :: numbers) (inside ++ [record]) rest
    | .groupEnd, [] => none
    | .groupEnd, [number] =>
      if number = record.number then (itemsFrom [] [] rest).map (.group number inside :: ·)
      else none
    | .groupEnd, number :: numbers =>
      if number = record.number then itemsFrom numbers (inside ++ [record]) rest else none
    | _, [] => (itemsFrom [] [] rest).map (.plain record :: ·)
    | _, numbers => itemsFrom numbers (inside ++ [record]) rest

/-- The items that the records consist of, if every group is closed by its own number. -/
def items? (records : List Record) : Option (List Item) :=
  itemsFrom [] [] records

def readItems? (bytes : Bytes) : Option (List Item) :=
  (readRecords? bytes).bind items?

/-- How many groups each record stands in, brackets that end a group left out. -/
def levels : Nat → List Record → List Nat
  | _, [] => []
  | level, record :: rest =>
    match record.payload with
    | .groupStart => level :: levels (level + 1) rest
    | .groupEnd => levels (level - 1) rest
    | _ => level :: levels level rest

/-- How many groups each group stands in. -/
def groupLevels : Nat → List Record → List Nat
  | _, [] => []
  | level, record :: rest =>
    match record.payload with
    | .groupStart => level :: groupLevels (level + 1) rest
    | .groupEnd => groupLevels (level - 1) rest
    | _ => groupLevels level rest

/-- How deep messages and groups may be nested. -/
def nestingLimit : Nat := 100

namespace Item

/-- Whether an item may be passed over with `limit` levels to go: passing over counts every
record as a level. -/
def skippable (limit : Nat) (item : Item) : Bool :=
  (levels 0 item.records).all (· < limit)

/-- Whether an item may be kept unread with `limit` levels to go: only groups count. -/
def keepable (limit : Nat) (item : Item) : Bool :=
  (groupLevels 0 item.records).all (· < limit)

def bytes? : Item → Option Bytes
  | .plain ⟨_, .bytes bytes⟩ => some bytes
  | _ => none

def text? (item : Item) : Option String :=
  item.bytes?.bind Utf8.toString?

/-- The items of a message inside a message. -/
def inner? (item : Item) : Option (List Item) :=
  item.bytes?.bind readItems?

end Item
end Wire
end ServiceScaffold
