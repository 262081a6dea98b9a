import ServiceScaffold.Service

/-!
# Routing table

The services of a run and one endpoint for each of their methods, in the order in which the
services were registered.
-/

namespace ServiceScaffold
namespace Routing

structure Endpoint where
  methodKey : String
  url : String
  clientStream : Bool
  serverStream : Bool
  deriving DecidableEq, Repr

structure Table where
  services : List String
  endpoints : List Endpoint
  deriving DecidableEq, Repr

def Endpoint.of (receiver : String) (method : MethodPlan) : Endpoint :=
  { methodKey := receiver ++ "." ++ method.name
    url := method.path
    clientStream := method.clientStream
    serverStream := method.serverStream }

namespace Table

def empty : Table := ⟨[], []⟩

def register (table : Table) (service : ServicePlan) : Table :=
  { services := table.services ++ [service.receiver]
    endpoints := table.endpoints ++ service.methods.map (Endpoint.of service.receiver) }

@[simp] theorem services_register (table : Table) (service : ServicePlan) :
    (table.register service).services = table.services ++ [service.receiver] := rfl

@[simp] theorem endpoints_register (table : Table) (service : ServicePlan) :
    (table.register service).endpoints
      = table.endpoints ++ service.methods.map (Endpoint.of service.receiver) := rfl

/-- The table of a file in which every service is registered. -/
def ofFile (file : SourceFile) : Table :=
  (file.services.map (ServicePlan.of file)).foldl register empty

end Table
end Routing
end ServiceScaffold
