/-!
# Options

How the words of a command line become options with values. An option has a long name, written
after two dashes, and may have a letter, written after one. Letters of options without value can
be written together.
-/

namespace ServiceScaffold
namespace CommandLine

inductive Takes
  | nothing
  /-- A path, which must not be empty. -/
  | path
  | text
  /-- A text, and the option may be given again. -/
  | texts
  deriving DecidableEq, Repr

structure OptionShape where
  name : String
  letter : Option Char
  takes : Takes
  deriving DecidableEq, Repr

structure Given where
  name : String
  value : String
  deriving DecidableEq, Repr

/-- Why reading ends before a command is known. -/
inductive Interruption
  | help
  | version
  | misuse
  deriving DecidableEq, Repr

abbrev Reading (α : Type) := Except Interruption α

def helpName : String := "help"

def versionName : String := "version"

/-- The options so far with one more. Help and version interrupt; an option without a list of
values may be given once. -/
def accept (given : List Given) (shape : OptionShape) (value : String) : Reading (List Given) :=
  if shape.name = helpName then .error .help
  else if shape.name = versionName then .error .version
  else if shape.takes ≠ .texts ∧ given.any (·.name = shape.name) then .error .misuse
  else if shape.takes = .path ∧ value.isEmpty then .error .misuse
  else .ok (given ++ [⟨shape.name, value⟩])

/-- Whether a word is an option and cannot be the value of another one. -/
def isOptionWord (word : String) : Bool :=
  word.toList.head? = some '-' && word ≠ "-"

/-- What is read of a word: the options in it, and the option that still waits for a value. -/
structure WordReading where
  given : List Given
  waiting : Option OptionShape

def readLong (shapes : List OptionShape) (given : List Given) (word : List Char) :
    Reading WordReading := do
  let (name, value) := match word.span (· ≠ '=') with
    | (name, _ :: value) => (name, some (String.ofList value))
    | (name, []) => (name, none)
  match shapes.find? (·.name = String.ofList name), value with
  | none, _ => .error .misuse
  | some shape, none =>
    if shape.takes = .nothing then pure ⟨← accept given shape "", none⟩
    else pure ⟨given, some shape⟩
  | some shape, some value =>
    if shape.takes = .nothing then .error .misuse
    else pure ⟨← accept given shape value, none⟩

/-- The options of the letters after one dash. What follows the letter of an option with a value
is that value, with or without an equals sign before it. -/
def readLetters (shapes : List OptionShape) : List Given → List Char → Reading WordReading
  | given, [] => .ok ⟨given, none⟩
  | given, c :: rest =>
    match shapes.find? (·.letter = some c) with
    | none => .error .misuse
    | some shape =>
      if shape.takes = .nothing then do
        readLetters shapes (← accept given shape "") rest
      else
        match rest with
        | [] => .ok ⟨given, some shape⟩
        | '=' :: value => do pure ⟨← accept given shape (String.ofList value), none⟩
        | value => do pure ⟨← accept given shape (String.ofList value), none⟩

def readOptionWord (shapes : List OptionShape) (given : List Given) (word : String) :
    Reading WordReading :=
  match word.toList with
  | '-' :: '-' :: name => readLong shapes given name
  | letters => readLetters shapes given letters.tail

/-- What the words begin with: options, and then perhaps a word that is none, with the words
after it. -/
structure Parted where
  given : List Given
  command : Option (String × List String)

/-- Reads options up to the first word that is neither an option nor the value of one. After two
dashes alone nothing may follow, since no word stands for itself here. -/
def readOptions (shapes : List OptionShape) : List Given → List String → Reading Parted
  | given, [] => .ok ⟨given, none⟩
  | given, word :: rest =>
    if word = "--" then
      if rest.isEmpty then .ok ⟨given, none⟩ else .error .misuse
    else if isOptionWord word then
      match readOptionWord shapes given word with
      | .error interruption => .error interruption
      | .ok ⟨given, none⟩ => readOptions shapes given rest
      | .ok ⟨given, some shape⟩ =>
        match rest with
        | [] => .error .misuse
        | value :: rest =>
          if isOptionWord value then .error .misuse
          else
            match accept given shape value with
            | .error interruption => .error interruption
            | .ok given => readOptions shapes given rest
    else .ok ⟨given, some (word, rest)⟩

def isGiven (given : List Given) (name : String) : Bool :=
  given.any (·.name = name)

def value? (given : List Given) (name : String) : Option String :=
  (given.find? (·.name = name)).map Given.value

def values (given : List Given) (name : String) : List String :=
  (given.filter (·.name = name)).map Given.value

end CommandLine
end ServiceScaffold
