import ServiceScaffold.Go.Module

/-!
# Handler file headers

What a new handler file begins with: who wrote it, its package, and the imports of its stubs.
-/

namespace ServiceScaffold
namespace Handler

def header (settings : Settings) (messages : String) : String :=
  "// Code generated by protoc-gen-vkit.\n// versions:\n// - protoc-gen-vkit "
  ++ settings.version
  ++ "\n\npackage " ++ settings.packageName
  ++ "\n\nimport (\n\tcontext \"context\"\n\tpb \"" ++ messages ++ "\"\n)\n"

end Handler
end ServiceScaffold
