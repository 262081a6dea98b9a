import ServiceScaffold.Routing.Table
import ServiceScaffold.Text.Json

/-!
# Summaries

What a run would put into the routing tables, without running: for each eligible file the table
in which all its services are registered.
-/

namespace ServiceScaffold

structure FileSummary where
  source : String
  package : String
  table : Routing.Table
  deriving DecidableEq, Repr

def summarize (files : List SourceFile) : List FileSummary :=
  (files.filter SourceFile.eligible).map fun file =>
    ⟨file.name, file.package, .ofFile file⟩

def StreamMode.label : StreamMode → String
  | .unary => "unary"
  | .clientStreaming => "client-stream"
  | .serverStreaming => "server-stream"
  | .bidirectional => "bidi-stream"

def Routing.Endpoint.line (endpoint : Routing.Endpoint) : String :=
  "  • " ++ endpoint.methodKey ++ " " ++ endpoint.url ++ " ["
    ++ (StreamMode.of endpoint.clientStream endpoint.serverStream).label ++ "]\n"

def FileSummary.text (summary : FileSummary) : String :=
  "\n" ++ summary.source ++ " (" ++ summary.package ++ ")\n"
    ++ "  Services: " ++ Text.join ", " summary.table.services ++ "\n"
    ++ String.join (summary.table.endpoints.map Routing.Endpoint.line)

def Routing.Endpoint.json (endpoint : Routing.Endpoint) : Text.Json :=
  .object
    [("method_key", .string endpoint.methodKey), ("url", .string endpoint.url),
     ("client_stream", .bool endpoint.clientStream),
     ("server_stream", .bool endpoint.serverStream)]

def FileSummary.json (summary : FileSummary) : Text.Json :=
  .object
    [("proto_file", .string summary.source), ("package", .string summary.package),
     ("services", .list (summary.table.services.map .string)),
     ("endpoints", .list (summary.table.endpoints.map Routing.Endpoint.json))]

end ServiceScaffold
