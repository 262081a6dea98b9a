import ServiceScaffold.Text.Pieces
import ServiceScaffold.Text.LetterCase

/-!
# Handler file names

Each service has its file: the service's name in lower case, words joined by underscores,
without the word `Service` at its end.
-/

namespace ServiceScaffold
namespace Handler

/-- The name without a final `Service`, unless nothing else is left. -/
def shortName (receiver : List Char) : List Char :=
  match Text.dropEnding? "Service".toList receiver with
  | some (c :: cs) => c :: cs
  | _ => receiver

def snakeChar (first : Bool) (c : Char) : List Char :=
  if Text.isUppercase c then
    if first then Text.lowercase c else '_' :: Text.lowercase c
  else [c]

def snakeCase : List Char → List Char
  | [] => []
  | c :: cs => snakeChar true c ++ cs.flatMap (snakeChar false)

def fileName (receiver : String) : String :=
  String.ofList (snakeCase (shortName receiver.toList) ++ ".go".toList)

end Handler
end ServiceScaffold
