import ServiceScaffold.Yaml.Scalar
import ServiceScaffold.Yaml.Mark

/-!
# Layout

How the characters of a text become tokens. Indentation opens and closes block collections, and
brackets open and close flow collections. That something was the key of a mapping shows only at
the colon after it, so the place where a key may have begun is remembered, and the tokens that
announce the key are put there later.
-/

namespace ServiceScaffold
namespace Yaml

structure Candidate where
  /-- Whether nothing but a key may begin there. -/
  required : Bool
  /-- The number of tokens before it. -/
  position : Nat
  index : Nat
  line : Nat
  column : Nat

structure Layout where
  cursor : Cursor
  tokens : List Token := []
  /-- The column of the innermost block collection. -/
  indent : Int := -1
  /-- The columns of the block collections around it. -/
  outer : List Int := []
  /-- The candidate inside the innermost flow collection, or outside of all. -/
  candidate : Option Candidate := none
  /-- The candidates around the innermost flow collection. -/
  around : List (Option Candidate) := []
  /-- Whether a key may begin here. -/
  mayBeKey : Bool := true

/-- The furthest that a colon may be from the beginning of its key. -/
def maxKeySize : Nat := 1024

def Candidate.isPast (candidate : Candidate) (cursor : Cursor) : Bool :=
  candidate.line < cursor.line || candidate.index + maxKeySize < cursor.index

/-- What is left of a candidate at a place; none if it had to be a key and is not. -/
def remaining? (cursor : Cursor) : Option Candidate → Option (Option Candidate)
  | none => some none
  | some candidate =>
    if candidate.isPast cursor then
      if candidate.required then none else some none
    else some (some candidate)

/-- Closes the block collections that are indented deeper than `column`: how many there are, and
the indentations that are left. -/
def closeDeeper (column : Int) : Int → List Int → Nat × Int × List Int
  | indent, [] => (0, indent, [])
  | indent, next :: rest =>
    if column < indent then
      let (closed, indent, rest) := closeDeeper column next rest
      (closed + 1, indent, rest)
    else (0, indent, next :: rest)

namespace Layout

def inFlow (layout : Layout) : Bool :=
  !layout.around.isEmpty

def column (layout : Layout) : Int :=
  layout.cursor.column

def emit (layout : Layout) (token : Token) : Layout :=
  { layout with tokens := layout.tokens ++ [token] }

def emitTo (layout : Layout) (token : Token) (cursor : Cursor) : Layout :=
  { layout.emit token with cursor }

def emitOver (layout : Layout) (token : Token) (size : Nat) : Layout :=
  layout.emitTo token (layout.cursor.skip size)

def withKeys (layout : Layout) (mayBeKey : Bool) : Layout :=
  { layout with mayBeKey }

def dropPast (layout : Layout) : Option Layout := do
  let candidate ← remaining? layout.cursor layout.candidate
  let around ← layout.around.mapM (remaining? layout.cursor)
  pure { layout with candidate, around }

def dropCandidate (layout : Layout) : Option Layout :=
  if layout.candidate.any Candidate.required then none
  else some { layout with candidate := none }

def here (layout : Layout) : Candidate :=
  { required := !layout.inFlow && layout.indent = layout.column
    position := layout.tokens.length
    index := layout.cursor.index
    line := layout.cursor.line
    column := layout.cursor.column }

/-- Remembers this place if a key may begin here. -/
def offerKey (layout : Layout) : Option Layout :=
  if layout.mayBeKey then do
    let layout ← layout.dropCandidate
    pure { layout with candidate := some layout.here }
  else some layout

/-- Opens a block collection at `column` unless it is open; its token goes to `position`. -/
def openBlock (layout : Layout) (token : Token) (column position : Nat) : Layout :=
  if layout.inFlow || (column : Int) ≤ layout.indent then layout
  else
    { layout with
      tokens := layout.tokens.insertIdx position token
      indent := column
      outer := layout.indent :: layout.outer }

/-- Opens a block collection here unless it is open. Outside of flow collections a key has to be
possible here. -/
def openHere (layout : Layout) (token : Token) : Option Layout :=
  if !layout.inFlow && !layout.mayBeKey then none
  else some (layout.openBlock token layout.cursor.column layout.tokens.length)

def closeBlocks (layout : Layout) (column : Int) : Layout :=
  if layout.inFlow then layout
  else
    let (closed, indent, outer) := closeDeeper column layout.indent layout.outer
    { layout with
      tokens := layout.tokens ++ List.replicate closed .blockEnd
      indent
      outer }

/-- Ends everything that is open before a directive or the sign of a document. -/
def endDocument (layout : Layout) : Option Layout := do
  pure ((← (layout.closeBlocks (-1)).dropCandidate).withKeys false)

def endText (layout : Layout) : Option Layout := do
  pure ((← layout.endDocument).emit .streamEnd)

def readDirectiveLine (layout : Layout) : Option Layout := do
  let layout ← layout.endDocument
  let (token, after) ← readDirective layout.cursor
  pure (layout.emitTo token after)

def readDocumentSign (layout : Layout) (token : Token) : Option Layout := do
  pure ((← layout.endDocument).emitOver token 3)

def openFlow (layout : Layout) (token : Token) : Option Layout := do
  let layout ← layout.offerKey
  let layout := { layout with
    candidate := none, around := layout.candidate :: layout.around, mayBeKey := true }
  pure (layout.emitOver token 1)

def leaveFlow (layout : Layout) : Layout :=
  match layout.around with
  | [] => layout
  | candidate :: around => { layout with candidate, around }

def closeFlow (layout : Layout) (token : Token) : Option Layout := do
  let layout ← layout.dropCandidate
  pure ((layout.leaveFlow.withKeys false).emitOver token 1)

def readFlowEntry (layout : Layout) : Option Layout := do
  pure (((← layout.dropCandidate).withKeys true).emitOver .flowEntry 1)

def readBlockEntry (layout : Layout) : Option Layout := do
  let layout ← layout.openHere .blockSequenceStart
  pure (((← layout.dropCandidate).withKeys true).emitOver .blockEntry 1)

def readKeySign (layout : Layout) : Option Layout := do
  let layout ← layout.openHere .blockMappingStart
  pure (((← layout.dropCandidate).withKeys !layout.inFlow).emitOver .key 1)

/-- A colon: what began at the candidate was a key, and if there is none, the key is empty or
was announced. -/
def readValueSign (layout : Layout) : Option Layout :=
  match layout.candidate with
  | some candidate =>
    let keyed := { layout with
      tokens := layout.tokens.insertIdx candidate.position .key
      candidate := none
      mayBeKey := false }
    some ((keyed.openBlock .blockMappingStart candidate.column candidate.position).emitOver
      .value 1)
  | none => do
    let layout ← layout.openHere .blockMappingStart
    pure ((layout.withKeys !layout.inFlow).emitOver .value 1)

def readNamed (layout : Layout) (token : String → Token) : Option Layout := do
  let layout ← layout.offerKey
  let (name, after) ← readName layout.cursor
  pure ((layout.withKeys false).emitTo (token name) after)

def readTagMark (layout : Layout) : Option Layout := do
  let layout ← layout.offerKey
  let (token, after) ← readTag layout.inFlow layout.cursor
  pure ((layout.withKeys false).emitTo token after)

def readBlockScalar (layout : Layout) (literal : Bool) : Option Layout := do
  let layout ← layout.dropCandidate
  let (text, after) ← readBlock literal layout.indent layout.cursor
  pure ((layout.withKeys true).emitTo (.scalar text false) after)

def readQuotedScalar (layout : Layout) (single : Bool) : Option Layout := do
  let layout ← layout.offerKey
  let (text, after) ← readQuoted single layout.cursor
  pure ((layout.withKeys false).emitTo (.scalar text false) after)

/-- After a plain scalar a key may begin only if a line has ended. -/
def readPlainScalar (layout : Layout) : Option Layout := do
  let layout ← layout.offerKey
  let (text, after, broken) ←
    readPlain layout.inFlow (layout.indent + 1).toNat layout.cursor
  pure ((layout.withKeys broken).emitTo (.scalar text true) after)

def startsPlain (layout : Layout) : Bool :=
  match layout.cursor.peek with
  | none => false
  | some c =>
    let blankNext := (layout.cursor.peekAt 1).any isSpaceOrTab
    let indicators := "-?:,[]\x7b\x7d#&*!|>'\"%@\x60".toList
    !indicators.contains c && !layout.cursor.blankAt 0
      || c = '-' && !blankNext
      || !layout.inFlow && (c = '?' || c = ':') && !layout.cursor.blankAt 1

/-- Past white space, comments and line ends, `room` of these at most. A tab may stand only where
no key may begin. -/
def skipSpace : Nat → Layout → Layout
  | 0, layout => layout
  | room + 1, layout =>
    let after := layout.cursor.skipWhile fun c =>
      c = ' ' || (c = '\t' && (layout.inFlow || !layout.mayBeKey))
    let after := if after.isAt '#' then after.skipToBreak else after
    if after.atBreak then
      skipSpace room
        { layout with cursor := after.nextLine, mayBeKey := layout.mayBeKey || !layout.inFlow }
    else { layout with cursor := after }

/-- The token that begins with the character here. -/
def readTokenAt (layout : Layout) (c : Char) : Option Layout :=
  let standsAlone := layout.cursor.blankAt 1
  if layout.column = 0 && c = '%' then layout.readDirectiveLine
  else if layout.cursor.atIndicator '-' then layout.readDocumentSign .documentStart
  else if layout.cursor.atIndicator '.' then layout.readDocumentSign .documentEnd
  else if c = '[' then layout.openFlow .flowSequenceStart
  else if c = '{' then layout.openFlow .flowMappingStart
  else if c = ']' then layout.closeFlow .flowSequenceEnd
  else if c = '}' then layout.closeFlow .flowMappingEnd
  else if c = ',' then layout.readFlowEntry
  else if c = '-' && standsAlone then layout.readBlockEntry
  else if c = '?' && (layout.inFlow || standsAlone) then layout.readKeySign
  else if c = ':' && (layout.inFlow || standsAlone) then layout.readValueSign
  else if c = '*' then layout.readNamed .reference
  else if c = '&' then layout.readNamed .anchor
  else if c = '!' then layout.readTagMark
  else if c = '|' && !layout.inFlow then layout.readBlockScalar true
  else if c = '>' && !layout.inFlow then layout.readBlockScalar false
  else if c = '\'' then layout.readQuotedScalar true
  else if c = '"' then layout.readQuotedScalar false
  else if layout.startsPlain then layout.readPlainScalar
  else none

def readToken (layout : Layout) : Option Layout := do
  let layout ← (layout.skipSpace (layout.cursor.rest.length + 1)).dropPast
  let layout := layout.closeBlocks layout.column
  match layout.cursor.peek with
  | none => layout.endText
  | some c => layout.readTokenAt c

def readAll : Nat → Layout → Option (List Token)
  | 0, _ => none
  | room + 1, layout => do
    let layout ← layout.readToken
    if layout.tokens.getLast? = some .streamEnd then pure layout.tokens
    else readAll room layout

/-- The beginning of a text; a byte order mark takes up a column. -/
def start (text : List Char) : Layout :=
  let cursor : Cursor := { rest := text }
  { cursor := if cursor.isAt '\ufeff' then cursor.next else cursor }

end Layout

def tokens? (text : List Char) : Option (List Token) :=
  if text.all isAllowed then (Layout.start text).readAll (text.length + 1) else none

end Yaml
end ServiceScaffold
