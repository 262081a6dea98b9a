import ServiceScaffold.Text.Pieces

/-!
# JSON text

Values of which a summary consists, written over several lines: each member of an object and
each item of a list has a line, indented by two spaces for every level.
-/

namespace ServiceScaffold
namespace Text

inductive Json
  | bool (b : Bool)
  | string (s : String)
  | list (items : List Json)
  | object (members : List (String × Json))

namespace Json

/-- The escape of a control character that has no short one: its code in four digits. -/
def codeEscape (c : Char) : List Char :=
  let digits := Nat.toDigits 16 c.toNat
  ['\\', 'u'] ++ List.replicate (4 - digits.length) '0' ++ digits

def escapeChar (c : Char) : List Char :=
  if c = '"' then ['\\', '"']
  else if c = '\\' then ['\\', '\\']
  else if c = '\x08' then ['\\', 'b']
  else if c = '\t' then ['\\', 't']
  else if c = '\n' then ['\\', 'n']
  else if c = '\x0c' then ['\\', 'f']
  else if c = '\r' then ['\\', 'r']
  else if c.toNat < 0x20 then codeEscape c
  else [c]

def quote (s : String) : String :=
  String.ofList ('"' :: s.toList.flatMap escapeChar ++ ['"'])

def newLine (level : Nat) : String :=
  "\n" ++ String.ofList (List.replicate (2 * level) ' ')

/-- The lines of a list or of an object at a level, between its brackets. -/
def enclose (level : Nat) (opening closing : String) (lines : List String) : String :=
  if lines.isEmpty then opening ++ closing
  else
    opening ++ newLine (level + 1) ++ join ("," ++ newLine (level + 1)) lines
      ++ newLine level ++ closing

mutual

/-- The text of a value that stands at a level. -/
def renderAt : Nat → Json → String
  | _, .bool b => if b then "true" else "false"
  | _, .string s => quote s
  | level, .list items => enclose level "[" "]" (renderItems (level + 1) items)
  | level, .object members => enclose level "\x7b" "\x7d" (renderMembers (level + 1) members)

def renderItems : Nat → List Json → List String
  | _, [] => []
  | level, item :: rest => renderAt level item :: renderItems level rest

def renderMembers : Nat → List (String × Json) → List String
  | _, [] => []
  | level, (name, value) :: rest =>
    (quote name ++ ": " ++ renderAt level value) :: renderMembers level rest

end

def render (value : Json) : String :=
  renderAt 0 value

end Json
end Text
end ServiceScaffold
