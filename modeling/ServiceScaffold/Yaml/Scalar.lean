import ServiceScaffold.Yaml.Token

/-!
# Scalars

The text of quoted, plain and block scalars. A line end between two lines of a quoted or plain
scalar becomes a space, and of several line ends the first is dropped.
-/

namespace ServiceScaffold
namespace Yaml

structure Gap where
  blanks : List Char := []
  /-- The first line end; none before it. -/
  first : List Char := []
  others : List Char := []
  broken : Bool := false

namespace Gap

def isEmpty (gap : Gap) : Bool :=
  !gap.broken && gap.blanks.isEmpty

def fold (gap : Gap) : List Char :=
  if gap.broken then
    if gap.first.head? = some '\n' then
      if gap.others.isEmpty then [' '] else gap.others
    else gap.first ++ gap.others
  else gap.blanks

end Gap

/-- Reads white space and line ends, `room` of them at most. A tab that stands in the
indentation of a continued line, left of column `indent`, is refused. -/
def readGap (indent : Nat) : Nat → Gap → Cursor → Option (Gap × Cursor)
  | 0, gap, cursor => some (gap, cursor)
  | room + 1, gap, cursor =>
    if cursor.atBlank then
      if gap.broken && cursor.column < indent && cursor.isAt '\t' then none
      else if gap.broken then readGap indent room gap cursor.next
      else
        readGap indent room { gap with blanks := gap.blanks ++ cursor.peek.toList } cursor.next
    else if cursor.atBreak then
      if gap.broken then
        readGap indent room { gap with others := gap.others ++ cursor.breakText } cursor.nextLine
      else
        readGap indent room { gap with blanks := [], first := cursor.breakText, broken := true }
          cursor.nextLine
    else some (gap, cursor)

def shortEscape? : Char → Option Char
  | '0' => some '\x00'
  | 'a' => some '\x07'
  | 'b' => some '\x08'
  | 't' => some '\t'
  | '\t' => some '\t'
  | 'n' => some '\n'
  | 'v' => some '\x0b'
  | 'f' => some '\x0c'
  | 'r' => some '\r'
  | 'e' => some '\x1b'
  | ' ' => some ' '
  | '"' => some '"'
  | '/' => some '/'
  | '\\' => some '\\'
  | 'N' => some '\u0085'
  | '_' => some '\u00a0'
  | 'L' => some '\u2028'
  | 'P' => some '\u2029'
  | _ => none

def escapeDigits? : Char → Option Nat
  | 'x' => some 2
  | 'u' => some 4
  | 'U' => some 8
  | _ => none

/-- The character of an escape that begins after a backslash, and the place after it. -/
def readEscape? (cursor : Cursor) : Option (Char × Cursor) := do
  let c ← cursor.peek
  match escapeDigits? c with
  | some count =>
    let digits := cursor.next.rest.take count
    if digits.length < count then none
    else
      let n ← hexNumber? digits
      if n.isValidChar then pure (Char.ofNat n, cursor.skip (count + 1)) else none
  | none => do pure (← shortEscape? c, cursor.next)

/-- Reads a quoted scalar up to its closing quote, `room` steps at most. `text` is what it holds
so far. -/
def readQuotedFrom (single : Bool) : Nat → List Char → Cursor → Option (String × Cursor)
  | 0, _, _ => none
  | room + 1, text, cursor =>
    let quote := if single then '\'' else '"'
    let continueAfter (gap : Gap) (cursor : Cursor) : Option (String × Cursor) := do
      let (gap, cursor) ← readGap 0 cursor.rest.length gap cursor
      if cursor.atDocumentIndicator then none
      else readQuotedFrom single room (text ++ gap.fold) cursor
    match cursor.peek with
    | none => none
    | some c =>
      if isSpaceOrTab c || isBreak c then continueAfter {} cursor
      else if single && c = quote && cursor.peekAt 1 = some quote then
        readQuotedFrom single room (text ++ [quote]) (cursor.skip 2)
      else if c = quote then some (String.ofList text, cursor.next)
      else if !single && c = '\\' then
        if cursor.next.atBreak then continueAfter { broken := true } cursor.next.nextLine
        else do
          let (c, cursor) ← readEscape? cursor.next
          readQuotedFrom single room (text ++ [c]) cursor
      else readQuotedFrom single room (text ++ [c]) cursor.next

def readQuoted (single : Bool) (cursor : Cursor) : Option (String × Cursor) :=
  let inside := cursor.next
  if inside.atDocumentIndicator then none
  else readQuotedFrom single (inside.rest.length + 1) [] inside

def isFlowIndicator (c : Char) : Bool :=
  c = ',' || c = '[' || c = ']' || c = '{' || c = '}'

def endsPlain (inFlow : Bool) (cursor : Cursor) : Bool :=
  (cursor.isAt ':' && cursor.blankAt 1) || (inFlow && cursor.peek.any isFlowIndicator)

/-- Whether a colon stands here that a flow collection does not allow inside a plain scalar. -/
def isMisplacedColon (inFlow : Bool) (cursor : Cursor) : Bool :=
  inFlow && cursor.isAt ':'
    && (cursor.peekAt 1).any fun c => isFlowIndicator c || c = '?'

/-- Characters of a plain scalar up to white space, a line end or its own end; none if there is
a misplaced colon among them. -/
def readPlainWord (inFlow : Bool) : Nat → List Char → Cursor → Option (List Char × Cursor)
  | 0, word, cursor => some (word, cursor)
  | room + 1, word, cursor =>
    if cursor.blankAt 0 then some (word, cursor)
    else if isMisplacedColon inFlow cursor then none
    else if endsPlain inFlow cursor then some (word, cursor)
    else readPlainWord inFlow room (word ++ cursor.peek.toList) cursor.next

/-- Reads a plain scalar whose continued lines have to reach column `indent`. The last component
says whether a line end was passed after it. -/
def readPlainFrom (inFlow : Bool) (indent : Nat) :
    Nat → List Char → Gap → Cursor → Option (String × Cursor × Bool)
  | 0, text, gap, cursor => some (String.ofList text, cursor, gap.broken)
  | room + 1, text, gap, cursor =>
    if cursor.atDocumentIndicator || cursor.isAt '#' then
      some (String.ofList text, cursor, gap.broken)
    else do
      let (word, after) ← readPlainWord inFlow cursor.rest.length [] cursor
      let text := if word.isEmpty then text else text ++ gap.fold ++ word
      let gap := if word.isEmpty then gap else {}
      if after.atBlank || after.atBreak then
        let (gap, after) ← readGap indent after.rest.length gap after
        if !inFlow && after.column < indent then
          some (String.ofList text, after, gap.broken)
        else readPlainFrom inFlow indent room text gap after
      else some (String.ofList text, after, gap.broken)

def readPlain (inFlow : Bool) (indent : Nat) (cursor : Cursor) :
    Option (String × Cursor × Bool) :=
  readPlainFrom inFlow indent (cursor.rest.length + 1) [] {} cursor

/-- What becomes of the line ends at the end of a block scalar. -/
inductive Chomping
  | clip
  | strip
  | keep
  deriving DecidableEq, Repr

def chomping? : Char → Option Chomping
  | '-' => some .strip
  | '+' => some .keep
  | _ => none

def indentDigit? (c : Char) : Option Nat :=
  if c.isDigit then some (c.toNat - '0'.toNat) else none

/-- The signs after the indicator of a block scalar: chomping and an indentation of its own, in
either order. An indentation of zero is refused. -/
def readBlockHeader (cursor : Cursor) : Option (Chomping × Nat × Cursor) :=
  let digit (cursor : Cursor) : Option (Nat × Cursor) :=
    match cursor.peek.bind indentDigit? with
    | some 0 => none
    | some n => some (n, cursor.next)
    | none => some (0, cursor)
  let sign (cursor : Cursor) : Chomping × Cursor :=
    match cursor.peek.bind chomping? with
    | some chomping => (chomping, cursor.next)
    | none => (.clip, cursor)
  if (cursor.peek.bind chomping?).isSome then
    let (chomping, cursor) := sign cursor
    (digit cursor).map fun (n, cursor) => (chomping, n, cursor)
  else
    (digit cursor).map fun (n, after) =>
      if n = 0 then (.clip, 0, after)
      else
        let (chomping, after) := sign after
        (chomping, n, after)

/-- Empty lines before a line of a block scalar: their line ends, the deepest column reached and
the place after them. `indent` is the indentation of the scalar, or zero if the first line
decides it. -/
def readBlockBreaks (indent : Nat) :
    Nat → List Char → Nat → Cursor → Option (List Char × Nat × Cursor)
  | 0, breaks, deepest, cursor => some (breaks, deepest, cursor)
  | room + 1, breaks, deepest, cursor =>
    let spaces := (cursor.rest.takeWhile (· = ' ')).length
    let wanted := if indent = 0 then spaces else min spaces (indent - cursor.column)
    let cursor := cursor.skip wanted
    let deepest := max deepest cursor.column
    if (indent = 0 || cursor.column < indent) && cursor.isAt '\t' then none
    else if cursor.atBreak then
      readBlockBreaks indent room (breaks ++ cursor.breakText) deepest cursor.nextLine
    else some (breaks, deepest, cursor)

structure BlockText where
  text : List Char := []
  /-- The line end after the last line. -/
  last : List Char := []
  /-- The line ends of the empty lines after it. -/
  trailing : List Char := []
  /-- Whether the last line began with white space. -/
  indented : Bool := false

/-- The text once another line follows. Between two lines that do not begin with white space, a
folded scalar has a space for a single line end, and drops one of several. -/
def BlockText.joined (block : BlockText) (literal indented : Bool) : List Char :=
  if !literal && block.last.head? = some '\n' && !block.indented && !indented then
    block.text ++ (if block.trailing.isEmpty then [' '] else block.trailing)
  else block.text ++ block.last ++ block.trailing

/-- Reads the lines of a block scalar, `room` of them at most. -/
def readBlockLines (literal : Bool) (indent : Nat) :
    Nat → BlockText → Cursor → Option (BlockText × Cursor)
  | 0, block, cursor => some (block, cursor)
  | room + 1, block, cursor =>
    if cursor.column = indent && cursor.peek.isSome then do
      let indented := cursor.atBlank
      let (line, after) := cursor.takeWhile fun c => !isBreak c
      let text := block.joined literal indented ++ line
      let last := after.breakText
      let after := if after.atBreak then after.nextLine else after
      let (trailing, _, after) ← readBlockBreaks indent (after.rest.length + 1) [] 0 after
      readBlockLines literal indent room ⟨text, last, trailing, indented⟩ after
    else some (block, cursor)

def blockIndent (outer : Int) (own deepest : Nat) : Nat :=
  if own = 0 then max deepest (max (outer + 1) 1).toNat
  else ((max outer 0) + own).toNat

def readBlock (literal : Bool) (outer : Int) (cursor : Cursor) : Option (String × Cursor) := do
  let (chomping, own, cursor) ← readBlockHeader cursor.next
  let cursor := cursor.skipWhile isSpaceOrTab
  let cursor := if cursor.isAt '#' then cursor.skipToBreak else cursor
  if !cursor.blankAt 0 then none
  else
    let cursor := if cursor.atBreak then cursor.nextLine else cursor
    let known := if own = 0 then 0 else blockIndent outer own 0
    let (breaks, deepest, cursor) ← readBlockBreaks known (cursor.rest.length + 1) [] 0 cursor
    let indent := if own = 0 then blockIndent outer 0 deepest else known
    let (block, cursor) ←
      readBlockLines literal indent (cursor.rest.length + 1) { trailing := breaks } cursor
    let ending := match chomping with
      | .strip => []
      | .clip => block.last
      | .keep => block.last ++ block.trailing
    pure (String.ofList (block.text ++ ending), cursor)

end Yaml
end ServiceScaffold
