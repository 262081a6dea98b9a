import ServiceScaffold.Text.Pieces
import ServiceScaffold.Routing.Table
import ServiceScaffold.Settings

/-!
# The routing table as Go source

The text of the file from which the gateway learns the services and their endpoints.
-/

namespace ServiceScaffold
namespace Routing

/-- The name by which Go code refers to an imported package: the last segment of its path. -/
def importAlias (importPath : String) : String :=
  String.ofList (Text.lastPiece '/' (Text.dropEndWhile (· = '/') importPath.toList))

def importLine (importPath : String) : String :=
  "\n\t\"" ++ importPath ++ "\""

def serviceLine (receiver : String) : String :=
  "\n\tlist = append(list, &" ++ receiver ++ "\x7b\x7d)"

def flag (b : Bool) : String :=
  if b then "true" else "false"

def endpointLine (endpoint : Endpoint) : String :=
  "\n\t\t\x7bMethod:\"" ++ endpoint.methodKey ++ "\", Url:\"" ++ endpoint.url
  ++ "\", ClientStream:" ++ flag endpoint.clientStream
  ++ ", ServerStream:" ++ flag endpoint.serverStream ++ "\x7d,"

def block (lines : List String) : String :=
  lines.foldr (· ++ ·) ""

def Table.render (table : Table) (settings : Settings) : String :=
  let framework := importAlias settings.frameworkImport
  "// Code generated by protoc-gen-vkit. DO NOT EDIT.\n// versions:\n// - protoc-gen-vkit "
  ++ settings.version
  ++ "\n\npackage " ++ settings.packageName
  ++ "\n\nimport (" ++ importLine settings.frameworkImport
  ++ block (settings.extraImports.map importLine)
  ++ "\n)\n\nfunc GetList() []interface\x7b\x7d \x7b\n\tlist := make([]interface\x7b\x7d, 0)"
  ++ block (table.services.map serviceLine)
  ++ "\n\treturn list\n\x7d\n\nfunc GetApiEndpoint() []*" ++ framework ++ ".ApiEndpoint \x7b"
  ++ "\n\treturn []*" ++ framework ++ ".ApiEndpoint\x7b"
  ++ block (table.endpoints.map endpointLine)
  ++ "\n\t\x7d\n\x7d\n"

end Routing
end ServiceScaffold
