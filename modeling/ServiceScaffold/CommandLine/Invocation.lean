import ServiceScaffold.CommandLine.Option

/-!
# Invocations

What the words of a command line ask for. Without a command the program works as a plugin of a
compiler.
-/

namespace ServiceScaffold
namespace CommandLine

structure GenerateOptions where
  descriptorSet : String
  config : Option String
  handlerPath : Option String
  module : Option String
  protoImportPath : Option String
  /-- The files that code is asked for; all of them if none is named. -/
  files : List String
  deriving DecidableEq, Repr

inductive Command
  | plugin
  | generate (options : GenerateOptions)
  | parse (descriptorSet : String) (json : Bool)
  deriving DecidableEq, Repr

structure Invocation where
  command : Command
  verbose : Bool
  deriving DecidableEq, Repr

/-- Options that stand before a command and after it. -/
def commonShapes : List OptionShape :=
  [⟨"verbose", some 'v', .nothing⟩, ⟨helpName, some 'h', .nothing⟩]

def outerShapes : List OptionShape :=
  ⟨versionName, some 'V', .nothing⟩ :: commonShapes

def generateShapes : List OptionShape :=
  [⟨"descriptor-set", some 'd', .path⟩, ⟨"config", some 'c', .path⟩,
   ⟨"handler-path", none, .path⟩, ⟨"module", none, .text⟩, ⟨"proto-import-path", none, .text⟩,
   ⟨"file", some 'f', .texts⟩] ++ commonShapes

def parseShapes : List OptionShape :=
  [⟨"descriptor-set", some 'd', .path⟩, ⟨"json", none, .nothing⟩] ++ commonShapes

/-- The options after a command; no other word may follow. -/
def commandOptions (shapes : List OptionShape) (words : List String) : Reading (List Given) := do
  match ← readOptions shapes [] words with
  | ⟨given, none⟩ => pure given
  | ⟨_, some _⟩ => .error .misuse

def required (given : List Given) (name : String) : Reading String :=
  match value? given name with
  | some value => .ok value
  | none => .error .misuse

def generateOptions (given : List Given) : Reading GenerateOptions := do
  pure
    { descriptorSet := ← required given "descriptor-set"
      config := value? given "config"
      handlerPath := value? given "handler-path"
      module := value? given "module"
      protoImportPath := value? given "proto-import-path"
      files := values given "file" }

/-- The words after the command `help` name a command, or nothing. -/
def helpCommand (words : List String) : Reading Invocation :=
  match words with
  | [] => .error .help
  | [word] =>
    if ["generate", "parse", "help"].contains word then .error .help else .error .misuse
  | _ => .error .misuse

def Invocation.ofWords (words : List String) : Reading Invocation := do
  let ⟨outer, command⟩ ← readOptions outerShapes [] words
  let verbose := isGiven outer "verbose"
  match command with
  | none => pure ⟨.plugin, verbose⟩
  | some ("generate", rest) => do
    let given ← commandOptions generateShapes rest
    pure ⟨.generate (← generateOptions given), verbose || isGiven given "verbose"⟩
  | some ("parse", rest) => do
    let given ← commandOptions parseShapes rest
    pure ⟨.parse (← required given "descriptor-set") (isGiven given "json"),
      verbose || isGiven given "verbose"⟩
  | some ("help", rest) => helpCommand rest
  | some _ => .error .misuse

end CommandLine
end ServiceScaffold
