import Mathlib
import ServiceScaffold.Proofs.CanonicalRules
import ServiceScaffold.Proofs.PoolDeclarations

/-!
# Standard declarations

The standard declarations of rules, of custom patterns and of the option of methods that holds a
rule. In a pool of files with these declarations the shapes of both messages are the standard ones,
and the options of methods hold a rule under the number of that option.
-/

namespace ServiceScaffold

open Schema Wire

namespace Schema

/-- What of a declared field its shape depends on. -/
structure Signature where
  number : Int
  repeated : Bool := false
  type : Int
  typeName : String := ""
  oneof : Option Int := none
  deriving DecidableEq, Repr

def Signature.text (number : Int) : Signature :=
  { number, type := 9 }

def Signature.message (number : Int) (type : String) : Signature :=
  { number, type := 11, typeName := "." ++ type }

def Signature.inOneof (signature : Signature) : Signature :=
  { signature with oneof := some 0 }

def Signature.many (signature : Signature) : Signature :=
  { signature with repeated := true }

def Field.signature (field : Field) : Signature :=
  { number := field.number, repeated := field.repeated, type := field.type,
    typeName := field.typeName, oneof := field.oneof }

def ruleName : String := "google.api.HttpRule"

def customName : String := "google.api.CustomHttpPattern"

def ruleFields : List Signature :=
  [.text 1, (Signature.text 2).inOneof, (Signature.text 3).inOneof, (Signature.text 4).inOneof,
   (Signature.text 5).inOneof, (Signature.text 6).inOneof, .text 7,
   (Signature.message 8 customName).inOneof, (Signature.message 11 ruleName).many, .text 12]

def customFields : List Signature :=
  [.text 1, .text 2]

def httpNumber : Nat := 72295728

structure Message.Standard (message : Message) (name : String) (fields : List Signature) : Prop where
  name : message.fullName = name
  fields : (message.fields.map Field.signature).Perm fields
  closed : message.extensionRanges = []

/-- Some of the files declare rules, custom patterns and the option for rules as they are
standard. -/
structure Annotates (files : List File) : Prop where
  rule : ∃ message ∈ files.flatMap File.messages, message.Standard ruleName ruleFields
  custom : ∃ message ∈ files.flatMap File.messages, message.Standard customName customFields
  option : ∃ field ∈ files.flatMap File.extensions, field.fullName = Source.httpOption ∧
    field.extendee = "." ++ standardName "MethodOptions" ∧
    field.signature = .message httpNumber ruleName

section Shapes

variable {context : Context} {message : Message} {shape : MessageShape}

theorem exists_field?_of_messageShape (h : context.messageShape message = .ok shape)
    {field : Field} (hfield : field ∈ message.fields) :
    ∃ fieldShape, shape.field? field.number.toNat = some fieldShape ∧
      context.fieldShape field false = .ok fieldShape := by
  obtain ⟨-, hfields, -, hnodup⟩ := Context.of_messageShape h
  obtain ⟨fieldShape, hmem, hmade⟩ := exists_right_of_forall₂ hfields hfield
  have hshaped := (Context.shaped_of_fieldShape hmade).1
  refine ⟨fieldShape, find?_of_unique hmem (by simp [hshaped.number]) ?_, hmade⟩
  intro other hother hnumber
  rw [decide_eq_true_iff] at hnumber
  obtain ⟨declared, hdeclared, hotherMade⟩ := exists_left_of_forall₂ hfields hother
  have hotherShaped := (Context.shaped_of_fieldShape hotherMade).1
  have hvalid := hshaped.valid
  have hotherValid := hotherShaped.valid
  simp only [isFieldNumber, Bool.and_eq_true, decide_eq_true_eq] at hvalid hotherValid
  rw [hotherShaped.number] at hnumber
  have hsame : declared = field :=
    List.inj_on_of_nodup_map hnodup hdeclared hfield (by omega)
  rw [hsame, hmade] at hotherMade
  cases hotherMade
  rfl

theorem field?_eq_none_of_messageShape (h : context.messageShape message = .ok shape)
    {number : Nat} (hnumber : ∀ field ∈ message.fields, field.number ≠ number) :
    shape.field? number = none := by
  obtain ⟨-, hfields, -, -⟩ := Context.of_messageShape h
  rw [MessageShape.field?, List.find?_eq_none]
  intro fieldShape hmem heq
  rw [decide_eq_true_iff] at heq
  obtain ⟨field, hfield, hmade⟩ := exists_left_of_forall₂ hfields hmem
  have hshaped := (Context.shaped_of_fieldShape hmade).1
  have hvalid := hshaped.valid
  simp only [isFieldNumber, Bool.and_eq_true, decide_eq_true_eq] at hvalid
  rw [hshaped.number] at heq
  exact hnumber field hfield (by omega)

theorem hasText_of_signature (h : context.messageShape message = .ok shape) {number : Nat}
    (oneof : Option Nat) (hsignature :
      { Signature.text number with oneof := oneof.map Int.ofNat } ∈
        message.fields.map Field.signature) : HasText shape number oneof := by
  obtain ⟨field, hfield, hsame⟩ := List.mem_map.mp hsignature
  obtain ⟨fieldShape, hfound, hmade⟩ := exists_field?_of_messageShape h hfield
  obtain ⟨hshaped, honeof, hpresence⟩ := Context.shaped_of_fieldShape hmade
  simp only [Field.signature, Signature.text, Signature.mk.injEq] at hsame
  obtain ⟨hnumber, hrepeated, htype, htypeName, hfieldOneof⟩ := hsame
  refine ⟨fieldShape, ?_, Context.kind_of_text htype htypeName hshaped.kind, ?_, ?_, ?_⟩
  · rw [← hfound, hnumber, Int.toNat_natCast]
  · rw [hshaped.repeated, hrepeated]
  · rw [honeof, hfieldOneof]
    cases oneof <;> rfl
  · rw [hfieldOneof] at hpresence
    simpa using hpresence

theorem hasMessage_of_signature {definition : Definition} {type : String} {repeated : Bool}
    (h : context.messageShape message = .ok shape)
    (hfind : context.definitions.find type = some definition)
    (hdefinition : definition.name = type ∧ definition.kind = .message) {number : Nat}
    (oneof : Option Nat) (hsignature :
      { Signature.message number type with repeated, oneof := oneof.map Int.ofNat } ∈
        message.fields.map Field.signature) : HasMessage shape number type repeated oneof := by
  obtain ⟨field, hfield, hsame⟩ := List.mem_map.mp hsignature
  obtain ⟨fieldShape, hfound, hmade⟩ := exists_field?_of_messageShape h hfield
  obtain ⟨hshaped, honeof, -⟩ := Context.shaped_of_fieldShape hmade
  simp only [Field.signature, Signature.message, Signature.mk.injEq] at hsame
  obtain ⟨hnumber, hrepeated, htype, htypeName, hfieldOneof⟩ := hsame
  refine ⟨fieldShape, ?_,
    Context.kind_of_message htype htypeName hfind hdefinition hshaped.kind, ?_, ?_⟩
  · rw [← hfound, hnumber, Int.toNat_natCast]
  · rw [hshaped.repeated, hrepeated]
  · rw [honeof, hfieldOneof]
    cases oneof <;> rfl

end Shapes

/-- The pool knows rules, and options of methods hold them under one number. -/
structure Pool.HasRules (pool : Pool) : Prop where
  shapes : pool.shapes.KnowRules
  option : ∃ extension shape, pool.extension? Source.httpOption = some extension ∧
    extension.shape.number = httpNumber ∧
    pool.shapes.find (standardName "MethodOptions") = some shape ∧
    HasMessage shape httpNumber ruleName false none

variable {files : List File} {definitions : Definitions} {shapes : Shapes} {pool : Pool}

theorem Pool.Made.exists_standard (h : Made files definitions shapes pool) {message : Message}
    (hmessage : message ∈ files.flatMap File.messages) {name : String} {fields : List Signature}
    (hstandard : message.Standard name fields) :
    ∃ (context : Context) (shape : MessageShape), context.definitions = definitions ∧
      context.messageShape message = .ok shape ∧ pool.shapes.find name = some shape ∧
      (∀ signature ∈ fields, signature ∈ message.fields.map Field.signature) ∧
      ∀ number : Nat, (∀ signature ∈ fields, signature.number ≠ number) →
        shape.field? number = none := by
  obtain ⟨context, shape, hdefinitions, hshape, hfind⟩ := h.find_closed hmessage hstandard.closed
  refine ⟨context, shape, hdefinitions, hshape, hstandard.name ▸ hfind,
    fun signature hmem => hstandard.fields.mem_iff.mpr hmem,
    fun number hnumber => field?_eq_none_of_messageShape hshape fun field hfield => ?_⟩
  exact hnumber _ (hstandard.fields.mem_iff.mp (List.mem_map_of_mem hfield))

theorem Pool.Made.knowRules (h : Made files definitions shapes pool) (hannotates : Annotates files) :
    pool.shapes.KnowRules := by
  obtain ⟨rule, hrule, hruleStandard⟩ := hannotates.rule
  obtain ⟨custom, hcustom, hcustomStandard⟩ := hannotates.custom
  obtain ⟨ruleDefinition, hruleFind, hruleDefinition⟩ := find_of_collectNames h.names hrule
  obtain ⟨customDefinition, hcustomFind, hcustomDefinition⟩ := find_of_collectNames h.names hcustom
  rw [hruleStandard.name] at hruleFind hruleDefinition
  rw [hcustomStandard.name] at hcustomFind hcustomDefinition
  constructor
  · obtain ⟨context, shape, hdefinitions, hshape, hfind, hfields, hothers⟩ :=
      h.exists_standard hrule hruleStandard
    subst hdefinitions
    refine ⟨shape, hfind, ?_, ?_, ?_, ?_, ?_, ?_, ?_⟩
    · exact hasText_of_signature hshape none (hfields _ (by decide))
    · intro number hnumber hne
      simp only [patternNumbers, List.mem_cons, List.not_mem_nil, or_false, hne] at hnumber
      rcases hnumber with rfl | rfl | rfl | rfl | rfl <;>
        exact hasText_of_signature hshape (some 0) (hfields _ (by decide))
    · exact hasText_of_signature hshape none (hfields _ (by decide))
    · exact hasMessage_of_signature hshape hcustomFind hcustomDefinition (some 0)
        (hfields _ (by decide))
    · exact hasMessage_of_signature hshape hruleFind hruleDefinition none
        (hfields _ (by decide))
    · exact hasText_of_signature hshape none (hfields _ (by decide))
    · intro number hnumber
      refine hothers number fun signature hsignature heq => hnumber ?_
      have hknown : ∀ signature ∈ ruleFields,
          signature.number ∈ ([1, 2, 3, 4, 5, 6, 7, 8, 11, 12] : List Int) := by decide
      have hmem := hknown signature hsignature
      simp only [heq, List.mem_cons, List.not_mem_nil, or_false] at hmem ⊢
      omega
  · obtain ⟨context, shape, hdefinitions, hshape, hfind, hfields, hothers⟩ :=
      h.exists_standard hcustom hcustomStandard
    refine ⟨shape, hfind, ?_, ?_, ?_⟩
    · exact hasText_of_signature hshape none (hfields _ (by decide))
    · exact hasText_of_signature hshape none (hfields _ (by decide))
    · intro number hone htwo
      refine hothers number fun signature hsignature heq => ?_
      have hknown : ∀ signature ∈ customFields, signature.number ∈ ([1, 2] : List Int) := by decide
      have hmem := hknown signature hsignature
      simp only [heq, List.mem_cons, List.not_mem_nil, or_false] at hmem
      omega

theorem Pool.Made.hasRules (h : Made files definitions shapes pool) (hannotates : Annotates files)
    (honly : ∀ extension ∈ pool.extensions, extension.extendee = standardName "MethodOptions" →
      extension.shape.number = httpNumber → extension.fullName = Source.httpOption) :
    pool.HasRules := by
  refine ⟨h.knowRules hannotates, ?_⟩
  obtain ⟨rule, hrule, hruleStandard⟩ := hannotates.rule
  obtain ⟨ruleDefinition, hruleFind, hruleDefinition⟩ := find_of_collectNames h.names hrule
  rw [hruleStandard.name] at hruleFind hruleDefinition
  obtain ⟨field, hfield, hname, hextendee, hsignature⟩ := hannotates.option
  obtain ⟨context, extension, hdefinitions, hmade, hextension, hfind⟩ := h.find_extension hfield
  obtain ⟨hfullName, ⟨extendee, hresolve, hextends⟩, hshaped, honeof, message, hmessage, hopen, -⟩ :=
    Context.of_extension hmade
  simp only [Field.signature, Signature.message, Signature.mk.injEq] at hsignature
  obtain ⟨hnumber, hrepeated, htype, htypeName, -⟩ := hsignature
  have hshapeNumber : extension.shape.number = httpNumber := by
    rw [hshaped.number, hnumber, Int.toNat_natCast]
  have hoptions : extension.extendee = standardName "MethodOptions" := by
    rw [hextendee] at hresolve
    have hfound := Context.find_of_resolve hresolve
    rw [hextends]
    simpa [Definitions.find] using List.find?_some hfound
  obtain ⟨shape, hshape, hown⟩ := h.exists_field?_extension hextension
    fun other hother hotherExtendee hotherNumber => by
      rw [hfullName, hname]
      exact honly other hother (hotherExtendee.trans hoptions) (hotherNumber.trans hshapeNumber)
  refine ⟨extension, shape, hname ▸ hfind, hshapeNumber, hoptions ▸ hshape, extension.shape,
    hshapeNumber ▸ hown, ?_, ?_, honeof⟩
  · subst hdefinitions
    exact Context.kind_of_message htype htypeName hruleFind hruleDefinition hshaped.kind
  · rw [hshaped.repeated, hrepeated]

instance (message : Message) (name : String) (fields : List Signature) :
    Decidable (message.Standard name fields) :=
  decidable_of_iff (message.fullName = name ∧ (message.fields.map Field.signature).Perm fields ∧
    message.extensionRanges.isEmpty = true)
    ⟨fun ⟨hname, hfields, hclosed⟩ => ⟨hname, hfields, List.isEmpty_iff.mp hclosed⟩,
     fun h => ⟨h.name, h.fields, List.isEmpty_iff.mpr h.closed⟩⟩

def declaredFiles (payloads : List Bytes) : List File :=
  payloads.filterMap fun payload => (readItems? payload).map File.ofItems

/-- The declaration of a field with this name. -/
def Signature.records (signature : Signature) (name : String) : List Record :=
  [.text 1 name, ⟨3, .varint signature.number.toNat⟩,
   ⟨4, .varint (if signature.repeated then 3 else 1)⟩, ⟨5, .varint signature.type.toNat⟩]
  ++ (if signature.typeName.isEmpty then [] else [.text 6 signature.typeName])
  ++ signature.oneof.toList.map fun n => ⟨9, .varint n.toNat⟩

def descriptorPayload : Bytes := Wire.encode
  [.text 1 "google/protobuf/descriptor.proto", .text 2 "google.protobuf",
   .message 4 [.text 1 "MethodOptions",
     .message 2 (Signature.records { number := 33, type := 8 } "deprecated"),
     .message 5 [⟨1, .varint 1000⟩, ⟨2, .varint 536870912⟩]],
   .text 12 "proto2"]

def httpPayload : Bytes := Wire.encode
  [.text 1 "google/api/http.proto", .text 2 "google.api",
   .message 4 (.text 1 "HttpRule" :: .message 8 [.text 1 "pattern"] ::
     (List.zipWith Signature.records ruleFields
       ["selector", "get", "put", "post", "delete", "patch", "body", "custom",
        "additional_bindings", "response_body"]).map (.message 2)),
   .message 4 (.text 1 "CustomHttpPattern" ::
     (List.zipWith Signature.records customFields ["kind", "path"]).map (.message 2)),
   .text 12 "proto3"]

def annotationsPayload : Bytes := Wire.encode
  [.text 1 "google/api/annotations.proto", .text 2 "google.api", .text 3 "google/api/http.proto",
   .text 3 "google/protobuf/descriptor.proto",
   .message 7 (.text 2 ".google.protobuf.MethodOptions" ::
     (Signature.message httpNumber ruleName).records "http"),
   .text 12 "proto3"]

/-- The standard files declare what is standard. -/
theorem annotates_of_mem {payloads : List Bytes} (hhttp : httpPayload ∈ payloads)
    (hannotations : annotationsPayload ∈ payloads) : Annotates (declaredFiles payloads) := by
  have hrule : ∃ message ∈ (declaredFiles [httpPayload]).flatMap File.messages,
      message.Standard ruleName ruleFields := by decide +kernel
  have hcustom : ∃ message ∈ (declaredFiles [httpPayload]).flatMap File.messages,
      message.Standard customName customFields := by decide +kernel
  have hoption : ∃ field ∈ (declaredFiles [annotationsPayload]).flatMap File.extensions,
      field.fullName = Source.httpOption ∧ field.extendee = "." ++ standardName "MethodOptions" ∧
        field.signature = .message httpNumber ruleName := by decide +kernel
  have hsubset {α : Type} (f : File → List α) {payload : Bytes} (h : payload ∈ payloads) {a : α}
      (ha : a ∈ (declaredFiles [payload]).flatMap f) : a ∈ (declaredFiles payloads).flatMap f := by
    obtain ⟨file, hfile, hmem⟩ := List.mem_flatMap.mp ha
    obtain ⟨other, hother, hdeclared⟩ := List.mem_filterMap.mp hfile
    rw [List.mem_singleton] at hother
    subst hother
    exact List.mem_flatMap.mpr ⟨file, List.mem_filterMap.mpr ⟨other, h, hdeclared⟩, hmem⟩
  obtain ⟨rule, hrule, hruleStandard⟩ := hrule
  obtain ⟨custom, hcustom, hcustomStandard⟩ := hcustom
  obtain ⟨field, hfield, hfieldStandard⟩ := hoption
  exact ⟨⟨rule, hsubset _ hhttp hrule, hruleStandard⟩,
    ⟨custom, hsubset _ hhttp hcustom, hcustomStandard⟩,
    ⟨field, hsubset _ hannotations hfield, hfieldStandard⟩⟩

end Schema
end ServiceScaffold
