import ServiceScaffold.Wire.Shape

/-!
# The standard description messages

The message types in which description files themselves are written. They say what a description
file may look like before any type that it declares is known, and they are the types of options
wherever a set of files does not bring its own.
-/

namespace ServiceScaffold
namespace Schema

open Wire (FieldShape MessageShape Scalar)

def standardName (name : String) : String :=
  "google.protobuf." ++ name

def one (number : Nat) (scalar : Scalar) : FieldShape :=
  { number, kind := .scalar scalar }

def many (number : Nat) (scalar : Scalar) : FieldShape :=
  { number, kind := .scalar scalar, repeated := true }

def oneMessage (number : Nat) (name : String) : FieldShape :=
  { number, kind := .message (standardName name) }

def manyMessages (number : Nat) (name : String) : FieldShape :=
  { number, kind := .message (standardName name), repeated := true }

def standardMessage (name : String) (fields : List FieldShape) : MessageShape :=
  ⟨standardName name, fields⟩

/-- Options that were written but not resolved; every kind of options has them. -/
def unresolvedOptions : FieldShape :=
  manyMessages 999 "UninterpretedOption"

def standardOptions : Wire.Shapes :=
  [standardMessage "FileOptions"
    [one 1 .string, one 8 .string, one 9 .int32, one 10 .bool, one 11 .string, one 16 .bool,
     one 17 .bool, one 18 .bool, one 20 .bool, one 23 .bool, one 27 .bool, one 31 .bool,
     one 36 .string, one 37 .string, one 39 .string, one 40 .string, one 41 .string, one 42 .bool,
     one 44 .string, one 45 .string, unresolvedOptions],
   standardMessage "MessageOptions"
    [one 1 .bool, one 2 .bool, one 3 .bool, one 7 .bool, unresolvedOptions],
   standardMessage "FieldOptions"
    [one 1 .int32, one 2 .bool, one 3 .bool, one 5 .bool, one 6 .int32, one 10 .bool,
     unresolvedOptions],
   standardMessage "OneofOptions" [unresolvedOptions],
   standardMessage "EnumOptions" [one 2 .bool, one 3 .bool, unresolvedOptions],
   standardMessage "EnumValueOptions" [one 1 .bool, unresolvedOptions],
   standardMessage "ServiceOptions" [one 33 .bool, unresolvedOptions],
   standardMessage "MethodOptions" [one 33 .bool, one 34 .int32, unresolvedOptions],
   standardMessage "ExtensionRangeOptions" [unresolvedOptions],
   standardMessage "UninterpretedOption"
    [manyMessages 2 "UninterpretedOption.NamePart", one 3 .string, one 4 .uint64, one 5 .int64,
     one 6 .double, one 7 .bytes, one 8 .string],
   standardMessage "UninterpretedOption.NamePart" [one 1 .string, one 2 .bool]]

def fileShape : MessageShape :=
  standardMessage "FileDescriptorProto"
    [one 1 .string, one 2 .string, many 3 .string, manyMessages 4 "DescriptorProto",
     manyMessages 5 "EnumDescriptorProto", manyMessages 6 "ServiceDescriptorProto",
     manyMessages 7 "FieldDescriptorProto", oneMessage 8 "FileOptions",
     oneMessage 9 "SourceCodeInfo", many 10 .int32, many 11 .int32, one 12 .string]

def standardShapes : Wire.Shapes :=
  [fileShape,
   standardMessage "DescriptorProto"
    [one 1 .string, manyMessages 2 "FieldDescriptorProto", manyMessages 3 "DescriptorProto",
     manyMessages 4 "EnumDescriptorProto", manyMessages 5 "DescriptorProto.ExtensionRange",
     manyMessages 6 "FieldDescriptorProto", oneMessage 7 "MessageOptions",
     manyMessages 8 "OneofDescriptorProto", manyMessages 9 "DescriptorProto.ReservedRange",
     many 10 .string],
   standardMessage "DescriptorProto.ExtensionRange"
    [one 1 .int32, one 2 .int32, oneMessage 3 "ExtensionRangeOptions"],
   standardMessage "DescriptorProto.ReservedRange" [one 1 .int32, one 2 .int32],
   standardMessage "FieldDescriptorProto"
    [one 1 .string, one 2 .string, one 3 .int32, one 4 .int32, one 5 .int32, one 6 .string,
     one 7 .string, oneMessage 8 "FieldOptions", one 9 .int32, one 10 .string, one 17 .bool],
   standardMessage "OneofDescriptorProto" [one 1 .string, oneMessage 2 "OneofOptions"],
   standardMessage "EnumDescriptorProto"
    [one 1 .string, manyMessages 2 "EnumValueDescriptorProto", oneMessage 3 "EnumOptions",
     manyMessages 4 "EnumDescriptorProto.EnumReservedRange", many 5 .string],
   standardMessage "EnumDescriptorProto.EnumReservedRange" [one 1 .int32, one 2 .int32],
   standardMessage "EnumValueDescriptorProto"
    [one 1 .string, one 2 .int32, oneMessage 3 "EnumValueOptions"],
   standardMessage "ServiceDescriptorProto"
    [one 1 .string, manyMessages 2 "MethodDescriptorProto", oneMessage 3 "ServiceOptions"],
   standardMessage "MethodDescriptorProto"
    [one 1 .string, one 2 .string, one 3 .string, oneMessage 4 "MethodOptions", one 5 .bool,
     one 6 .bool],
   standardMessage "SourceCodeInfo" [manyMessages 1 "SourceCodeInfo.Location"],
   standardMessage "SourceCodeInfo.Location"
    [many 1 .int32, many 2 .int32, one 3 .string, one 4 .string, many 6 .string]]
  ++ standardOptions

end Schema
end ServiceScaffold
