import ServiceScaffold.CommandLine.Run

/-!
# The program

Takes a picture of the part of the file system that a run can come to, runs, and carries out what
the run did to the picture.
-/

namespace ServiceScaffold
namespace Program

def mentioned (words : List String) (input : Bytes) : List String :=
  let attached := words.filterMap fun word =>
    (Text.cut? '=' word.toList).map fun (_, value) => String.ofList value
  let entries := ((Wire.Request.decode? input).bind Wire.Request.parameter).elim []
    Settings.parameterEntries
  let values := entries.filterMap fun entry =>
    (Text.cut? '=' entry).map fun (_, value) => String.ofList value
  words ++ attached ++ values

def reached (settings : Settings) : List String :=
  [settings.handlerPath, Path.join (Go.messageModuleDir settings) "go.mod"]

/-- The settings of a run, as far as they are known before it. -/
def settingsOf (words : List String) (input : Bytes) (tree : FileTree) : Settings :=
  let known : Except CommandLine.Problem Settings :=
    match CommandLine.Invocation.ofWords words with
    | .ok ⟨.generate options, _⟩ => options.settings tree
    | .ok ⟨.plugin, _⟩ => (CommandLine.readRequest input tree).map Prod.fst
    | _ => .ok {}
  match known with
  | .ok settings => settings
  | .error _ => {}

def placeOf (here : Location) (path : String) : Location :=
  (Path.steps path).foldl
    (fun place name =>
      if name = "." then place else if name = ".." then place.dropLast else place ++ [name])
    (if Path.isAbsolute path then [] else here)

def entryAt (place : Location) : IO.FS.DirEntry :=
  { root := "/" ++ Text.join "/" place.dropLast, fileName := place.getLastD "" }

def isLink (entry : IO.FS.DirEntry) : IO Bool := do
  pure ((← entry.path.symlinkMetadata).type == .symlink)

/-- Adds what stands at a place and below it. Links to directories are not followed. -/
partial def addBelow (tree : FileTree) (place : Location) : IO FileTree := do
  let entry := entryAt place
  try
    if ← entry.path.isDir then
      let tree := tree.put place .directory
      if ← isLink entry then pure tree
      else
        (← entry.path.readDir).foldlM
          (fun tree inner => addBelow tree (place ++ [inner.fileName])) tree
    else pure (tree.put place (.file (← IO.FS.readBinFile entry.path).toList))
  catch _ => pure tree

def addAbove (tree : FileTree) (place : Location) : IO FileTree :=
  (List.range place.length).foldlM (fun tree n => do
    let above := place.take n
    if n ≠ 0 && (← (entryAt above).path.isDir) then pure (tree.put above .directory)
    else pure tree) tree

/-- The picture of the places that paths lead to, seen from `here`. -/
def picture (here : Location) (paths : List String) : IO FileTree := do
  let start ← addAbove ⟨[], here⟩ here
  let start := if here.isEmpty then start else start.put here .directory
  paths.foldlM (fun tree path => do
    let place := placeOf here path
    let tree ← addAbove tree place
    if place = [] then pure tree else addBelow tree place) start

/-- Carries out what distinguishes a later picture from an earlier one. -/
def carryOut (before after : FileTree) : IO Unit :=
  after.nodes.forM fun (place, node) => do
    if before.node? place ≠ some node then
      let path := (entryAt place).path
      match node with
      | .directory => IO.FS.createDir path
      | .file content => IO.FS.writeBinFile path ⟨content.toArray⟩

/-- Everything that is left on a stream. -/
partial def readAll (stream : IO.FS.Stream) (soFar : ByteArray) : IO ByteArray := do
  let more ← stream.read 65536
  if more.isEmpty then pure soFar else readAll stream (soFar ++ more)

/-- Only a plugin has input. -/
def wantsInput (words : List String) : Bool :=
  match CommandLine.Invocation.ofWords words with
  | .ok ⟨.plugin, _⟩ => true
  | _ => false

def execute (words : List String) : IO UInt32 := do
  let here := Path.steps (← IO.currentDir).toString
  let input ← if wantsInput words then readAll (← IO.getStdin) .empty else pure .empty
  let input := input.toList
  let paths := mentioned words input
  let settings := settingsOf words input (← picture here paths)
  let before ← picture here (paths ++ reached settings)
  let outcome := CommandLine.run words input before
  carryOut before outcome.tree
  (← IO.getStdout).write ⟨outcome.output.toArray⟩
  (← IO.getStderr).putStr outcome.complaints
  pure (UInt32.ofNat outcome.status)

end Program
end ServiceScaffold

def main (words : List String) : IO UInt32 :=
  ServiceScaffold.Program.execute words
