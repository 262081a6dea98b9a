import ServiceScaffold.Text.Utf8
import ServiceScaffold.Yaml.Token

/-!
# Marks and directives

What stands beside the text of a document: the names of anchors and aliases, tags, and the
directives before a document.
-/

namespace ServiceScaffold
namespace Yaml

def readName (cursor : Cursor) : Option (String × Cursor) :=
  let (name, after) := cursor.next.takeWhile isWordChar
  let ends := after.blankAt 0 || after.peek.any fun c => "?:,]\x7d%@\x60".toList.contains c
  if name.isEmpty || !ends then none else some (String.ofList name, after)

def isTagChar (bracketed : Bool) (c : Char) : Bool :=
  isWordChar c || ";/?:@&=+$.!~*'()".toList.contains c
    || (bracketed && (c = ',' || c = '[' || c = ']'))

/-- The byte of a percent sign and two hexadecimal digits. -/
def percentByte? (cursor : Cursor) : Option UInt8 :=
  match cursor.rest with
  | '%' :: a :: b :: _ => (hexNumber? [a, b]).map UInt8.ofNat
  | _ => none

/-- The bytes that stand here as percent signs with digits, `room` of them at most. -/
def readPercentBytes : Nat → Bytes → Cursor → Bytes × Cursor
  | 0, bytes, cursor => (bytes, cursor)
  | room + 1, bytes, cursor =>
    match percentByte? cursor with
    | some b => readPercentBytes room (bytes ++ [b]) (cursor.skip 3)
    | none => (bytes, cursor)

/-- The rest of a tag, `room` steps at most. A percent sign has to begin the bytes of a
character. -/
def readTagText (bracketed : Bool) : Nat → List Char → Cursor → Option (List Char × Cursor)
  | 0, text, cursor => some (text, cursor)
  | room + 1, text, cursor =>
    if cursor.isAt '%' then do
      let (bytes, after) := readPercentBytes cursor.rest.length [] cursor
      let decoded ← Utf8.decode? bytes
      if decoded.isEmpty then none else readTagText bracketed room (text ++ decoded) after
    else
      match cursor.peek.filter (isTagChar bracketed) with
      | some c => readTagText bracketed room (text ++ [c]) cursor.next
      | none => some (text, cursor)

/-- A part of a tag that must not be empty. -/
def readTagPart (bracketed : Bool) (cursor : Cursor) : Option (List Char × Cursor) :=
  (readTagText bracketed (cursor.rest.length + 1) [] cursor).filter (!·.1.isEmpty)

/-- The handle and the suffix of a tag, and the place after it. The sign alone is a tag
without handle. -/
def readTagParts (cursor : Cursor) : Option (String × String × Cursor) :=
  if cursor.next.isAt '<' then do
    let (text, after) ← readTagPart true (cursor.skip 2)
    if after.isAt '>' then pure ("", String.ofList text, after.next) else none
  else
    let (word, after) := cursor.next.takeWhile isWordChar
    if after.isAt '!' then do
      let (text, after) ← readTagPart false after.next
      pure ("!" ++ String.ofList word ++ "!", String.ofList text, after)
    else do
      let (text, after) ← readTagText false (after.rest.length + 1) word after
      if text.isEmpty then pure ("", "!", after) else pure ("!", String.ofList text, after)

def readTag (inFlow : Bool) (cursor : Cursor) : Option (Token × Cursor) := do
  let (handle, suffix, after) ← readTagParts cursor
  if after.blankAt 0 || (inFlow && after.isAt ',') then pure (.tag handle suffix, after) else none

def maxVersionDigits : Nat := 9

def readVersionNumber (cursor : Cursor) : Option (Nat × Cursor) :=
  let (digits, after) := cursor.takeWhile Char.isDigit
  if digits.isEmpty || maxVersionDigits < digits.length then none
  else some (digits.foldl (fun n c => n * 10 + (c.toNat - '0'.toNat)) 0, after)

def readVersion (cursor : Cursor) : Option (Token × Cursor) := do
  let (major, after) ← readVersionNumber cursor
  if after.isAt '.' then
    let (minor, after) ← readVersionNumber after.next
    pure (.version major minor, after)
  else none

def readTagHandle (cursor : Cursor) : Option (Token × Cursor) := do
  if cursor.isAt '!' then
    let (word, after) := cursor.next.takeWhile isWordChar
    let (handle, after) ←
      if after.isAt '!' then pure ('!' :: word ++ ['!'], after.next)
      else if word.isEmpty then pure (['!'], after)
      else none
    if after.atBlank then
      let (text, after) ← readTagPart true (after.skipWhile isSpaceOrTab)
      if after.blankAt 0 then
        pure (.tagHandle (String.ofList handle) (String.ofList text), after)
      else none
    else none
  else none

/-- The place after white space and a comment; none if anything else is left on the line. -/
def endLine (cursor : Cursor) : Option Cursor :=
  let after := cursor.skipWhile isSpaceOrTab
  let after := if after.isAt '#' then after.skipToBreak else after
  if !after.blankAt 0 then none
  else if after.atBreak then some after.nextLine
  else some after

def readDirective (cursor : Cursor) : Option (Token × Cursor) := do
  let (name, after) := cursor.next.takeWhile isWordChar
  if !after.blankAt 0 then none
  else
    let after := after.skipWhile isSpaceOrTab
    let (token, after) ←
      if name = "YAML".toList then readVersion after
      else if name = "TAG".toList then readTagHandle after
      else none
    pure (token, ← endLine after)

end Yaml
end ServiceScaffold
