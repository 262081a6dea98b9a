/-!
# Settings

What a run is told about its surroundings: where handlers go, what they are called, and how
generated code refers to other packages.
-/

namespace ServiceScaffold

structure Settings where
  /-- The directory that holds the handler files. -/
  handlerPath : String := "./handler"
  /-- The path of the Go module; without it the module file is read. -/
  module : Option String := none
  /-- The import path of the message package; without it the path is derived. -/
  protoImportPath : Option String := none
  packageName : String := "handler"
  frameworkImport : String := "github.com/visonlv/go-vkit/grpcx"
  extraImports : List String := []
  version : String := "v0.1.0"
  /-- The directory that the run is taken to work in. -/
  workDir : String := "."
  deriving DecidableEq, Repr

end ServiceScaffold
