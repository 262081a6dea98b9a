import ServiceScaffold.Handler.Template

/-!
# Stubs

The Go text that is added to a handler file: a declaration for the receiver type and one stub
for each method. A stub is the text of a template whose placeholders are replaced one after
another, each over the whole result of the one before.
-/

namespace ServiceScaffold
namespace Handler

def typeStub (receiver : String) : String :=
  "\ntype " ++ receiver ++ " struct \x7b\n\x7d\n"

/-- The text after the placeholders of `holes` have been replaced in turn. -/
def replaceInTurn (value : Hole → List Char) (holes : List Hole) (text : List Char) :
    List Char :=
  holes.foldl (fun text hole => Text.replaceAll hole.placeholder (value hole) text) text

def methodStub (receiver : String) (method : MethodPlan) : String :=
  String.ofList
    (replaceInTurn (Hole.value receiver method) Hole.all (Template.of method.mode).source)

end Handler
end ServiceScaffold
