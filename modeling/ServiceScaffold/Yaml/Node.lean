import ServiceScaffold.Yaml.Layout

/-!
# Nodes

The value that a YAML text describes. A text holds one document; an empty one describes an empty
plain scalar.
-/

namespace ServiceScaffold
namespace Yaml

inductive Node
  /-- A plain scalar is one without quotes; only such a one can mean nothing at all. -/
  | scalar (text : String) (plain : Bool) (tag : Option String)
  | sequence (items : List Node)
  | mapping (entries : List (Node × Node))

namespace Node

def empty : Node :=
  .scalar "" true none

/-- What is left of the tokens, and the nodes that aliases can refer to, the latest first. -/
structure Reading where
  tokens : List Token
  anchors : List (String × Node) := []
  /-- What the handles of tags stand for. -/
  handles : List (String × String) := []

abbrev Reader := StateT Reading Option

def peek : Reader (Option Token) := do
  pure (← get).tokens.head?

def advance : Reader Unit :=
  modify fun reading => { reading with tokens := reading.tokens.tail }

def isNext (tokens : List Token) : Reader Bool := do
  pure ((← peek).any tokens.contains)

def passOver (token : Token) : Reader Bool := do
  if ← isNext [token] then
    advance
    pure true
  else pure false

def expect (token : Token) : Reader Unit := do
  if ← passOver token then pure () else failure

def readAnchor : Reader (Option String) := do
  match ← peek with
  | some (.anchor name) => do
    advance
    pure (some name)
  | _ => pure none

/-- The full tag; the sign alone stands for no tag. -/
def fullTag (handle suffix : String) : Reader (Option String) := do
  if handle.isEmpty then pure (if suffix = "!" then none else some suffix)
  else
    match (← get).handles.lookup handle with
    | some expansion => pure (some (expansion ++ suffix))
    | none => failure

def readTagMark : Reader (Option (Option String)) := do
  match ← peek with
  | some (.tag handle suffix) => do
    advance
    pure (some (← fullTag handle suffix))
  | _ => pure none

/-- The anchor and the tag before a node, in either order. The last component says whether there
was any of them. -/
def readProperties : Reader (Option String × Option String × Bool) := do
  let before ← readAnchor
  let tag ← readTagMark
  let anchor ← if before.isSome then pure before else readAnchor
  pure (anchor, tag.join, anchor.isSome || tag.isSome)

def note (anchor : Option String) (node : Node) : Reader Node := do
  match anchor with
  | some name => modify fun reading => { reading with anchors := (name, node) :: reading.anchors }
  | none => pure ()
  pure node

/-- Makes a collection known under its anchor. Inside the collection an alias of it is an empty
mapping. -/
def noteAround (anchor : Option String) (read : Reader Node) : Reader Node := do
  let before := (← get).anchors.length
  let _ ← note anchor (.mapping [])
  let node ← read
  match anchor with
  | some name =>
    modify fun reading =>
      { reading with
        anchors := reading.anchors.set (reading.anchors.length - 1 - before) (name, node) }
  | none => pure ()
  pure node

def findAlias (name : String) : Reader Node := do
  match (← get).anchors.lookup name with
  | some node => pure node
  | none => failure

inductive Place
  /-- In a flow collection. -/
  | flow
  /-- In a block collection. -/
  | block
  /-- Beside a key, where a block sequence need not be indented. -/
  | besideKey
  deriving DecidableEq, Repr

def unlessNext (ends : List Token) (read : Reader Node) : Reader Node := do
  if ← isNext ends then pure empty else read

mutual

def read : Nat → Place → Reader Node
  | 0, _ => failure
  | room + 1, place => do
    match ← peek with
    | some (.reference name) => do
      advance
      findAlias name
    | _ => do
      let (anchor, tag, marked) ← readProperties
      match ← peek with
      | some (.scalar text plain) => do
        advance
        note anchor (.scalar text plain tag)
      | some .flowSequenceStart => do
        advance
        noteAround anchor (.sequence <$> flowItems room true)
      | some .flowMappingStart => do
        advance
        noteAround anchor (.mapping <$> flowEntries room true)
      | some .blockSequenceStart => do
        if place = .flow then failure
        advance
        noteAround anchor (.sequence <$> blockItems room)
      | some .blockMappingStart => do
        if place = .flow then failure
        advance
        noteAround anchor (.mapping <$> blockEntries room)
      | next => do
        if place = .besideKey ∧ next = some .blockEntry then
          noteAround anchor (.sequence <$> looseItems room)
        else if marked then note anchor (.scalar "" true tag)
        else failure

def blockItems : Nat → Reader (List Node)
  | 0 => failure
  | room + 1 => do
    if ← passOver .blockEntry then
      let item ← unlessNext [.blockEntry, .blockEnd] (read room .block)
      pure (item :: (← blockItems room))
    else do
      expect .blockEnd
      pure []

/-- The items of a block sequence that is not indented; it ends where no item begins. -/
def looseItems : Nat → Reader (List Node)
  | 0 => failure
  | room + 1 => do
    if ← passOver .blockEntry then
      let item ← unlessNext [.blockEntry, .key, .value, .blockEnd] (read room .block)
      pure (item :: (← looseItems room))
    else pure []

/-- The entries of a block mapping; a key without value has an empty one, and a value without
key too. -/
def blockEntries : Nat → Reader (List (Node × Node))
  | 0 => failure
  | room + 1 => do
    if ← passOver .key then
      let key ← unlessNext [.key, .value, .blockEnd] (read room .besideKey)
      let value ← blockValue room
      pure ((key, value) :: (← blockEntries room))
    else do
      expect .blockEnd
      pure []

def blockValue : Nat → Reader Node
  | 0 => failure
  | room + 1 => do
    if ← passOver .value then
      unlessNext [.key, .value, .blockEnd] (read room .besideKey)
    else pure empty

/-- The items of a flow sequence; an item may be a mapping with a single entry. -/
def flowItems : Nat → Bool → Reader (List Node)
  | 0, _ => failure
  | room + 1, isFirst => do
    if ← passOver .flowSequenceEnd then pure []
    else do
      if !isFirst then expect .flowEntry
      if ← passOver .flowSequenceEnd then pure []
      else do
        let item ← flowItem room
        pure (item :: (← flowItems room false))

def flowItem : Nat → Reader Node
  | 0 => failure
  | room + 1 => do
    if ← passOver .key then
      let key ← unlessNext [.value, .flowEntry, .flowSequenceEnd] (read room .flow)
      let value ← flowValue room .flowSequenceEnd
      pure (.mapping [(key, value)])
    else read room .flow

/-- The entries of a flow mapping; an entry may be a key alone. -/
def flowEntries : Nat → Bool → Reader (List (Node × Node))
  | 0, _ => failure
  | room + 1, isFirst => do
    if ← passOver .flowMappingEnd then pure []
    else do
      if !isFirst then expect .flowEntry
      if ← passOver .flowMappingEnd then pure []
      else if ← passOver .key then
        let key ← unlessNext [.value, .flowEntry, .flowMappingEnd] (read room .flow)
        let value ← flowValue room .flowMappingEnd
        pure ((key, value) :: (← flowEntries room false))
      else do
        let key ← read room .flow
        pure ((key, empty) :: (← flowEntries room false))

def flowValue : Nat → Token → Reader Node
  | 0, _ => failure
  | room + 1, closing => do
    if ← passOver .value then unlessNext [.flowEntry, closing] (read room .flow)
    else pure empty

end

/-- What handles stand for unless a directive says otherwise. -/
def standardHandles : List (String × String) :=
  [("!", "!"), ("!!", "tag:yaml.org,2002:")]

/-- Reads directives, `room` of them at most. A version or a handle may be given once. -/
def readDirectives : Nat → Bool → List (String × String) → Reader (List (String × String))
  | 0, _, _ => failure
  | room + 1, versioned, handles => do
    match ← peek with
    | some (.version major minor) => do
      if versioned || major ≠ 1 || (minor ≠ 1 && minor ≠ 2) then failure
      advance
      readDirectives room true handles
    | some (.tagHandle handle expansion) => do
      if (handles.lookup handle).isSome then failure
      advance
      readDirectives room versioned (handles ++ [(handle, expansion)])
    | _ => pure handles

def isDirective : Token → Bool
  | .version _ _ => true
  | .tagHandle _ _ => true
  | _ => false

def readContent (room : Nat) : Reader Node := do
  match ← peek with
  | some .documentStart | some .documentEnd | some .streamEnd => pure empty
  | some token => if isDirective token then pure empty else read room .block
  | none => failure

def readDocument (room : Nat) : Reader Node := do
  match ← peek with
  | some .streamEnd => pure empty
  | some token =>
    if token = .documentStart || isDirective token then
      let handles ← readDirectives room false []
      modify fun reading => { reading with handles := handles ++ standardHandles }
      expect .documentStart
      readContent room
    else read room .block
  | none => failure

/-- Passes over closing signs; after them nothing may follow. -/
def readEnd : Nat → Reader Unit
  | 0 => failure
  | room + 1 => do
    if ← passOver .documentEnd then readEnd room else expect .streamEnd

/-- The node that the tokens of a single document describe. Every token costs a few steps. -/
def ofTokens? (tokens : List Token) : Option Node :=
  let room := 4 * tokens.length + 4
  let whole : Reader Node := do
    let node ← readDocument room
    readEnd room
    pure node
  (whole.run { tokens, handles := standardHandles }).map Prod.fst

end Node

def Node.ofString? (text : String) : Option Node :=
  (tokens? text.toList).bind Node.ofTokens?

end Yaml
end ServiceScaffold
