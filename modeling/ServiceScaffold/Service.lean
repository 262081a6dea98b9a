import ServiceScaffold.Text.Utf8

/-!
# Services and what is generated for them

`SourceFile`, `Service` and `Rpc` are what a description file declares. `ServicePlan` and
`MethodPlan` are what the generator works from: every method has its verb, its path and its Go
names settled.
-/

namespace ServiceScaffold

inductive Verb
  | get
  | put
  | post
  | delete
  | patch
  | custom (name : String)
  deriving DecidableEq, Repr

def Verb.display : Verb → String
  | .get => "GET"
  | .put => "PUT"
  | .post => "POST"
  | .delete => "DELETE"
  | .patch => "PATCH"
  | .custom name => name

structure Binding where
  verb : Verb
  path : String
  body : Option String
  deriving DecidableEq, Repr

structure Rpc where
  name : String
  goName : String
  inputType : String
  outputType : String
  clientStreaming : Bool
  serverStreaming : Bool
  binding : Option Binding
  deriving DecidableEq, Repr

structure Service where
  goName : String
  fullName : String
  methods : List Rpc
  deriving DecidableEq, Repr

/-- A description file. `generate` says whether code is asked for. -/
structure SourceFile where
  name : String
  package : String
  goPackage : String
  generate : Bool
  services : List Service
  deriving DecidableEq, Repr

/-- Files without services, and files that only others depend on, get no code. -/
def SourceFile.eligible (file : SourceFile) : Bool :=
  file.generate && !file.services.isEmpty

structure MethodPlan where
  name : String
  verb : Verb
  path : String
  requestType : String
  replyType : String
  clientStream : Bool
  serverStream : Bool
  body : Option String
  deriving DecidableEq, Repr

structure ServicePlan where
  /-- The Go type that the methods belong to. -/
  receiver : String
  fullName : String
  source : String
  methods : List MethodPlan
  deriving DecidableEq, Repr

/-- The path of a method without annotation: its service and its own name. -/
def defaultPath (serviceName methodName : String) : String :=
  "/" ++ serviceName ++ "/" ++ methodName

/-- An annotation decides verb, path and body; without one the method is posted to at its
default path. -/
def MethodPlan.of (service : Service) (rpc : Rpc) : MethodPlan :=
  let binding := rpc.binding.getD ⟨.post, defaultPath service.fullName rpc.name, none⟩
  { name := rpc.goName
    verb := binding.verb
    path := binding.path
    requestType := rpc.inputType
    replyType := rpc.outputType
    clientStream := rpc.clientStreaming
    serverStream := rpc.serverStreaming
    body := binding.body }

def ServicePlan.of (file : SourceFile) (service : Service) : ServicePlan :=
  { receiver := service.goName
    fullName := service.fullName
    source := file.name
    methods := service.methods.map (MethodPlan.of service) }

/-- Which sides of a call send more than one message. -/
inductive StreamMode
  | unary
  | clientStreaming
  | serverStreaming
  | bidirectional
  deriving DecidableEq, Repr

def StreamMode.of (clientStream serverStream : Bool) : StreamMode :=
  match clientStream, serverStream with
  | false, false => .unary
  | true, false => .clientStreaming
  | false, true => .serverStreaming
  | true, true => .bidirectional

def MethodPlan.mode (method : MethodPlan) : StreamMode :=
  StreamMode.of method.clientStream method.serverStream

end ServiceScaffold
