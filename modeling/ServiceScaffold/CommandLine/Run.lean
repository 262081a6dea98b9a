import ServiceScaffold.CommandLine.Invocation
import ServiceScaffold.CommandLine.Report
import ServiceScaffold.Schema.Source
import ServiceScaffold.Settings.Parameter

/-!
# Running the program

From the words of a command line, the standard input and a file tree to what the program prints,
how it ends and what the tree is afterwards.
-/

namespace ServiceScaffold
namespace CommandLine

def release : String := "0.1.0"

def programName : String := "protoc-gen-vkit"

structure Outcome where
  status : Nat
  output : Bytes
  complaints : String
  tree : FileTree

def succeeded (tree : FileTree) (output complaints : String) : Outcome :=
  ⟨0, Utf8.ofString output, complaints, tree⟩

/-- The end of a command that a problem stopped after it had printed `output`. -/
def stopped (tree : FileTree) (output : String) (problem : Problem) : Outcome :=
  ⟨1, Utf8.ofString output, problem.message, tree⟩

def during {α : Type} (context : String) (answer : Except Fault α) : Except Problem α :=
  answer.mapError (Problem.mk context)

def workingDirectory (tree : FileTree) : String :=
  "/" ++ Text.join "/" tree.here

def forThisRun (settings : Settings) (tree : FileTree) : Settings :=
  { settings with version := "v" ++ release, workDir := workingDirectory tree }

/-- The settings that options ask for: those of the settings file, if one is named, and over
them those that are given themselves. -/
def GenerateOptions.settings (options : GenerateOptions) (tree : FileTree) :
    Except Problem Settings := do
  let base ← match options.config with
    | some path => during ("Failed to load config " ++ path) (Settings.load tree path)
    | none => pure {}
  pure
    { forThisRun base tree with
      handlerPath := options.handlerPath.getD base.handlerPath
      module := options.module.or base.module
      protoImportPath := options.protoImportPath.or base.protoImportPath }

/-- The files of a set; code is asked for those that are named, or for all of them. -/
def sourceFiles (tree : FileTree) (descriptorSet : String) (targets : List String) :
    Except Problem (List SourceFile) := do
  let source ← during "Failed to load FileDescriptorSet" (Source.ofFile tree descriptorSet)
  let source := if targets.isEmpty then source else source.withTargets targets
  during "Failed to parse FileDescriptorSet" source.parse

def generate (options : GenerateOptions) (verbose : Bool) (tree : FileTree) : Outcome :=
  match options.settings tree with
  | .error problem => stopped tree "" problem
  | .ok settings =>
    let heading := runHeading options.descriptorSet settings verbose
    match sourceFiles tree options.descriptorSet options.files with
    | .error problem => stopped tree heading problem
    | .ok files =>
      let run := Generator.generate { settings } files tree
      match run.answer with
      | .error fault => stopped run.tree heading ⟨"Failed to generate handlers", fault⟩
      | .ok reports =>
        succeeded run.tree (heading ++ runText verbose reports) (runWarnings reports)

def parse (descriptorSet : String) (json : Bool) (tree : FileTree) : Outcome :=
  match sourceFiles tree descriptorSet [] with
  | .error problem => stopped tree "" problem
  | .ok files => succeeded tree (summaryText json (summarize files)) ""

def readRequest (input : Bytes) (tree : FileTree) :
    Except Problem (Settings × List SourceFile) := do
  let source ← during "Failed to parse CodeGeneratorRequest" (Source.ofRequest input)
  let base := forThisRun {} tree
  let settings ← match source.parameter with
    | some parameter =>
      during "Invalid plugin parameters" (base.applyParameter tree parameter)
    | none => pure base
  pure (settings, ← during "Failed to read proto descriptors" source.parse)

/-- Answers a request. Handlers are written in place, so the answer lists no files. -/
def plugin (input : Bytes) (tree : FileTree) : Outcome :=
  match readRequest input tree with
  | .error problem => stopped tree "" problem
  | .ok (settings, files) =>
    let run := Generator.generate { settings } files tree
    match run.answer with
    | .error fault => stopped run.tree "" ⟨"Failed to generate handlers", fault⟩
    | .ok _ => ⟨0, Wire.response, "", run.tree⟩

def usage : String :=
  "Usage: protoc-gen-vkit [-v] [generate -d SET [-c CONFIG] [--handler-path DIR] [--module PATH]\n"
    ++ "       [--proto-import-path PATH] [-f FILE]... | parse -d SET [--json]]\n"

def interrupted (tree : FileTree) : Interruption → Outcome
  | .help => succeeded tree usage ""
  | .version => succeeded tree (programName ++ " " ++ release ++ "\n") ""
  | .misuse => ⟨2, [], usage, tree⟩

def run (words : List String) (input : Bytes) (tree : FileTree) : Outcome :=
  match Invocation.ofWords words with
  | .error interruption => interrupted tree interruption
  | .ok invocation =>
    match invocation.command with
    | .plugin => plugin input tree
    | .generate options => generate options invocation.verbose tree
    | .parse descriptorSet json => parse descriptorSet json tree

end CommandLine
end ServiceScaffold
