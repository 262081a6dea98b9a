import ServiceScaffold.Wire.Item

/-!
# Requests and file sets

What arrives from outside: the request of a compiler to its plugin, and a set of description
files. Description files stay bytes here.
-/

namespace ServiceScaffold
namespace Wire

structure Request where
  filesToGenerate : List String := []
  parameter : Option String := none
  files : List Bytes := []
  deriving DecidableEq, Repr

namespace Request

def merge (request : Request) (item : Item) : Option Request :=
  match item.number with
  | 1 => item.text?.map fun name =>
    { request with filesToGenerate := request.filesToGenerate ++ [name] }
  | 2 => item.text?.map fun text => { request with parameter := some text }
  | 15 => item.bytes?.map fun file => { request with files := request.files ++ [file] }
  | _ => if item.skippable nestingLimit then some request else none

def decode? (bytes : Bytes) : Option Request := do
  (← readItems? bytes).foldlM merge {}

def records (request : Request) : List Record :=
  request.filesToGenerate.map (fun name => ⟨1, .bytes (Utf8.ofString name)⟩)
  ++ request.parameter.toList.map (fun text => ⟨2, .bytes (Utf8.ofString text)⟩)
  ++ request.files.map (fun file => ⟨15, .bytes file⟩)

def encode (request : Request) : Bytes :=
  Wire.encode request.records

end Request

structure FileSet where
  files : List Bytes := []
  deriving DecidableEq, Repr

namespace FileSet

def merge (set : FileSet) (item : Item) : Option FileSet :=
  match item.number with
  | 1 => item.bytes?.map fun file => { set with files := set.files ++ [file] }
  | _ => if item.skippable nestingLimit then some set else none

def decode? (bytes : Bytes) : Option FileSet := do
  (← readItems? bytes).foldlM merge {}

def records (set : FileSet) : List Record :=
  set.files.map fun file => ⟨1, .bytes file⟩

def encode (set : FileSet) : Bytes :=
  Wire.encode set.records

end FileSet

/-- The answer to a request: no files, since handlers are written in place, and the statement
that optional fields are understood. -/
def response : Bytes :=
  Wire.encode [⟨2, .varint 1⟩]

end Wire
end ServiceScaffold
