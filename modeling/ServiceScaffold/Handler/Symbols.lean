import ServiceScaffold.Text.Pieces
import ServiceScaffold.Text.Utf8

/-!
# Declared symbols

Which types and methods a Go file declares already, read off the beginnings of its lines. A type
is known by its name, and method `M` of type `T` by the key `T)M`, which is what stands between
the asterisk and the opening parenthesis of `func (s *T) M(`.
-/

namespace ServiceScaffold
namespace Handler

/-- The keys found in a file; only membership counts. -/
abbrev SymbolSet := List String

abbrev SymbolScanner := Bytes → SymbolSet

def methodKey (receiver method : String) : String :=
  receiver ++ ")" ++ method

/-- The key of a line that begins with `func `: what stands between the first asterisk, or the
beginning, and the next opening parenthesis, without spaces. -/
def functionKey? (line : List Char) : Option (List Char) :=
  let rest := match Text.cut? '*' line with
    | some (_, after) => after
    | none => line
  (Text.cut? '(' rest).map fun (before, _) => before.filter (· ≠ ' ')

/-- The key of a line that begins with `type `: the line without `struct {`, without every
`type`, and without spaces. -/
def typeKey (line : List Char) : List Char :=
  let shorter := Text.replaceAll "type".toList [] (Text.replaceAll "struct \x7b".toList [] line)
  shorter.filter (· ≠ ' ')

def lineKey? (line : List Char) : Option (List Char) :=
  if (Text.dropStart? "func ".toList line).isSome then functionKey? line
  else if (Text.dropStart? "type ".toList line).isSome then some (typeKey line)
  else none

/-- The lines of a file up to the first that is not text. -/
def textLines (content : Bytes) : List (List Char) :=
  ((Text.lines 10 13 content).map Utf8.decode?).takeWhile Option.isSome |>.filterMap id

def scanLines : SymbolScanner := fun content =>
  (textLines content).filterMap fun line => (lineKey? line).map String.ofList

end Handler
end ServiceScaffold
