import ServiceScaffold.Text.Pieces
import ServiceScaffold.Text.Utf8

/-!
# Paths

A path is text: names between slashes, absolute if it begins with one.
-/

namespace ServiceScaffold
namespace Path

def isAbsolute (path : String) : Bool :=
  path.toList.head? = some '/'

def endsInSlash (path : String) : Bool :=
  path.toList.getLast? = some '/'

/-- The path of `name` inside `dir`; an absolute name stands for itself. -/
def join (dir name : String) : String :=
  if isAbsolute name || dir.isEmpty then name
  else if endsInSlash dir then dir ++ name
  else dir ++ "/" ++ name

def steps (path : String) : List String :=
  ((Text.pieces '/' path.toList).filter (!·.isEmpty)).map String.ofList

/-- The steps without those that stay where they are, except at the beginning. -/
def movingSteps (path : String) : List String :=
  match steps path with
  | [] => []
  | first :: rest =>
    let rest := rest.filter (· ≠ ".")
    if isAbsolute path ∧ first = "." then rest else first :: rest

def size (path : String) : Nat :=
  (Utf8.ofString path).length

def maxNameSize : Nat := 255

def maxSize : Nat := 4095

end Path
end ServiceScaffold
