import ServiceScaffold.Text.Pieces
import ServiceScaffold.Text.Alphanumeric

/-!
# Names in generated Go code

The identifier that stands for a name of a service description, and the name of the Go package
that holds the messages of a description file.
-/

namespace ServiceScaffold
namespace Go

/-- Camel case, character by character. `atStart` says that nothing or a dot comes before;
`inWord` says that the text before ends in a letter which lower-case letters continue. -/
def camelFrom (atStart inWord : Bool) : List Char → List Char
  | [] => []
  | c :: cs =>
    let beforeLower := cs.head?.any Char.isLower
    if inWord && c.isLower then c :: camelFrom false true cs
    else if c = '.' then
      if beforeLower then camelFrom true false cs else '_' :: camelFrom true false cs
    else if c = '_' then
      if atStart then 'X' :: camelFrom false false cs
      else if beforeLower then camelFrom false false cs
      else '_' :: camelFrom false false cs
    else if c.isDigit then c :: camelFrom false false cs
    else c.toUpper :: camelFrom false true cs

/-- The exported identifier of a name: words joined by underscores or dots become capitalised,
a leading underscore becomes `X`, and any other dot an underscore. Only ASCII letters change. -/
def camelCase (name : String) : String :=
  String.ofList (camelFrom true false name.toList)

def keywords : List String :=
  ["break", "case", "chan", "const", "continue", "default", "defer", "else", "fallthrough",
   "for", "func", "go", "goto", "if", "import", "interface", "map", "package", "range",
   "return", "select", "struct", "switch", "type", "var"]

def isNameChar (c : Char) : Bool :=
  Text.isAlphanumeric c || c = '_'

/-- The text with every other character turned into an underscore, and with an underscore in
front if it would be empty, begin with an ASCII digit, or be a reserved word. -/
def sanitize (text : String) : String :=
  let kept := text.toList.map fun c => if isNameChar c then c else '_'
  if kept.isEmpty || kept.head?.any Char.isDigit || keywords.contains (String.ofList kept) then
    String.ofList ('_' :: kept)
  else String.ofList kept

/-- The package name of a description file: what follows the first semicolon of the import path
that it declares, else that path's last segment, else its own package, else its file name. -/
def packageName (importPath : Option String) (package fileName : String) : String :=
  match importPath.filter (!·.isEmpty) with
  | some path =>
    match Text.cut? ';' path.toList with
    | some (_, name) => sanitize (String.ofList name)
    | none => sanitize (String.ofList (Text.lastPiece '/' path.toList))
  | none =>
    if package.isEmpty then
      let base := Text.lastPiece '/' fileName.toList
      let stem := (Text.dropEnding? ".proto".toList base).getD base
      sanitize (String.ofList stem)
    else sanitize package

end Go
end ServiceScaffold
