import ServiceScaffold.Text.Pieces
import ServiceScaffold.Service

/-!
# Method templates

The Go text of a stub with holes for what differs from method to method. As text, a hole is a
placeholder: its name in braces after a dollar sign. `fill` puts a value into every hole at once.
-/

namespace ServiceScaffold
namespace Handler

inductive Hole
  | serviceName
  | methodName
  | requestType
  | replyType
  | methodPath
  deriving DecidableEq, Repr

namespace Hole

def name : Hole → String
  | .serviceName => "serviceName"
  | .methodName => "methodName"
  | .requestType => "req"
  | .replyType => "resp"
  | .methodPath => "methodPath"

def placeholder (hole : Hole) : List Char :=
  '$' :: '{' :: hole.name.toList ++ ['}']

/-- Every hole, in the order in which placeholders are replaced. -/
def all : List Hole :=
  [.serviceName, .methodName, .requestType, .replyType, .methodPath]

def value (receiver : String) (method : MethodPlan) : Hole → List Char
  | .serviceName => receiver.toList
  | .methodName => method.name.toList
  | .requestType => method.requestType.toList
  | .replyType => method.replyType.toList
  | .methodPath => method.path.toList

end Hole

inductive Segment
  | text (s : String)
  | hole (h : Hole)
  deriving DecidableEq, Repr

abbrev Template := List Segment

namespace Template

def source (template : Template) : List Char :=
  template.flatMap fun
    | .text s => s.toList
    | .hole h => h.placeholder

def fill (template : Template) (value : Hole → List Char) : List Char :=
  template.flatMap fun
    | .text s => s.toList
    | .hole h => value h

def opening : Template :=
  [.text "\n// ", .hole .methodName, .text " ", .hole .methodPath,
   .text "\nfunc (s *", .hole .serviceName, .text ") ", .hole .methodName, .text "("]

/-- The stream type that the generated service code declares for the method. -/
def streamType : Template :=
  [.text "stream pb.", .hole .serviceName, .text "_", .hole .methodName, .text "Server"]

def unary : Template :=
  opening
  ++ [.text "ctx context.Context, req *pb.", .hole .requestType,
      .text ") (*pb.", .hole .replyType, .text ", error) \x7b\n",
      .text "\tresp := &pb.", .hole .replyType, .text "\x7b\x7d\n",
      .text "\treturn resp, nil\n\x7d\n"]

def clientStreaming : Template :=
  opening ++ streamType
  ++ [.text ") error \x7b\n",
      .text "\tfor \x7b\n\t\treq, err := stream.Recv()\n\t\tif err != nil \x7b\n",
      .text "\t\t\treturn stream.SendAndClose(&pb.", .hole .replyType,
      .text "\x7b\x7d)\n\t\t\x7d\n",
      .text "\t\t_ = req // *pb.", .hole .requestType,
      .text "\n\t\x7d\n\x7d\n"]

def serverStreaming : Template :=
  opening
  ++ [.text "req *pb.", .hole .requestType, .text ", "] ++ streamType
  ++ [.text ") error \x7b\n",
      .text "\treturn stream.Send(&pb.", .hole .replyType, .text "\x7b\x7d)\n\x7d\n"]

def bidirectional : Template :=
  opening ++ streamType
  ++ [.text ") error \x7b\n",
      .text "\tfor \x7b\n\t\treq, err := stream.Recv()\n\t\tif err != nil \x7b\n",
      .text "\t\t\treturn nil\n\t\t\x7d\n",
      .text "\t\t_ = req // *pb.", .hole .requestType,
      .text "\n\t\tif err := stream.Send(&pb.", .hole .replyType,
      .text "\x7b\x7d); err != nil \x7b\n\t\t\treturn err\n\t\t\x7d\n\t\x7d\n\x7d\n"]

def of : StreamMode → Template
  | .unary => unary
  | .clientStreaming => clientStreaming
  | .serverStreaming => serverStreaming
  | .bidirectional => bidirectional

def text (mode : StreamMode) : String :=
  String.ofList (of mode).source

end Template
end Handler
end ServiceScaffold
