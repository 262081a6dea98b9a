import Mathlib
import ServiceScaffold.Proofs.ParsedFiles

/-!
# Declarations in a pool

What becomes of declared messages and extensions in a pool. Their names are unique, so each of them
is found by its name, and a name with a leading dot means what has that full name. A message that
is closed to extensions has the fields that are declared; one that is open has the extensions after
its own fields, under numbers that those do not use.
-/

namespace ServiceScaffold
namespace Schema

open Wire (FieldKind FieldShape Item MessageShape Scalar Shapes)

theorem find_of_define {known later : Definitions} {definition : Definition}
    (h : define known definition = .ok later) :
    (definition.kind ≠ .package → later.find definition.name = some definition) ∧
      ∀ name found, known.find name = some found → later.find name = some found := by
  unfold define at h
  split at h
  · rename_i hnone
    cases h
    constructor
    · intro _
      rw [Definitions.find, List.find?_append, ← Definitions.find, hnone]
      simp
    · intro name found hfound
      rw [Definitions.find, List.find?_append, ← Definitions.find, hfound, Option.some_or]
  · split at h
    · rename_i hpackages
      cases h
      exact ⟨fun hkind => absurd hpackages.2 hkind, fun _ _ => id⟩
    · cases h

/-- What is defined, and is no package, is found by its name. -/
theorem find_of_foldlM_define {definitions : List Definition} {known last : Definitions}
    (h : definitions.foldlM define known = .ok last) :
    (∀ definition ∈ definitions, definition.kind ≠ .package →
      last.find definition.name = some definition) ∧
      ∀ name found, known.find name = some found → last.find name = some found := by
  induction definitions generalizing known with
  | nil =>
    cases h
    exact ⟨fun _ hmem => absurd hmem List.not_mem_nil, fun _ _ => id⟩
  | cons first rest ih =>
    obtain ⟨later, hfirst, hrest⟩ := bind_eq_ok_iff.mp h
    obtain ⟨hnew, hkept⟩ := find_of_define hfirst
    obtain ⟨hlater, hlast⟩ := ih hrest
    exact ⟨List.forall_mem_cons.mpr ⟨fun hkind => hlast _ _ (hnew hkind), hlater⟩,
      fun name found hfound => hlast _ _ (hkept _ _ hfound)⟩

theorem find_of_collectNames {files : List File} {definitions : Definitions}
    (h : collectNames files = .ok definitions) {message : Message}
    (hmessage : message ∈ files.flatMap File.messages) :
    ∃ definition, definitions.find message.fullName = some definition ∧
      definition.name = message.fullName ∧ definition.kind = .message := by
  obtain ⟨⟨⟩, -, hdefine⟩ := bind_eq_ok_iff.mp h
  obtain ⟨file, hfile, hmessage⟩ := List.mem_flatMap.mp hmessage
  rw [← List.zipIdx_map_fst 0 files] at hfile
  obtain ⟨⟨file, position⟩, hentry, rfl⟩ := List.mem_map.mp hfile
  refine ⟨⟨message.fullName, .message, position⟩, ?_, rfl, rfl⟩
  refine (find_of_foldlM_define hdefine).1 ⟨message.fullName, .message, position⟩ ?_ (by simp)
  refine List.mem_flatMap.mpr ⟨(file, position), hentry, ?_⟩
  have hown : (⟨message.fullName, .message, position⟩ : Definition) ∈
      file.messages.flatMap (File.messageDefinitions position) :=
    List.mem_flatMap.mpr ⟨message, hmessage, by simp [File.messageDefinitions]⟩
  simp [File.definitions, hown]

theorem sublist_ownNames_messages (file : File) (position : Nat) :
    (file.messages.map Message.fullName).Sublist (file.ownNames position) := by
  have hmessages (messages : List Message) : (messages.map Message.fullName).Sublist
      (((messages.flatMap (File.messageDefinitions position)).filter fun definition =>
        definition.kind ≠ .package).map Definition.name) := by
    induction messages with
    | nil => simp
    | cons message rest ih =>
      rw [List.flatMap_cons, List.filter_append, List.map_append, File.messageDefinitions,
        List.cons_append, List.filter_cons_of_pos (by simp), List.map_cons, List.map_cons,
        List.cons_append]
      exact (ih.trans (List.sublist_append_right _ _)).cons_cons _
  refine (hmessages file.messages).trans ((List.Sublist.filter _ ?_).map _)
  rw [File.definitions, List.append_assoc, List.append_assoc, List.append_assoc]
  exact (List.sublist_append_left _ _).trans (List.sublist_append_right _ _)

theorem sublist_ownNames_extensions (file : File) (position : Nat) :
    (file.extensions.map Field.fullName).Sublist (file.ownNames position) := by
  have hextensions : file.extensions.map Field.fullName =
      ((file.extensions.map fun field => (⟨field.fullName, .extension, position⟩ : Definition)).filter
        fun definition => definition.kind ≠ .package).map Definition.name := by
    rw [List.filter_eq_self.mpr (by simp), List.map_map]
    rfl
  rw [hextensions]
  refine (List.Sublist.filter _ ?_).map _
  rw [File.definitions]
  exact List.sublist_append_right _ _

section Contexts

variable {context : Context}

theorem Context.find_of_resolve {wanted : Wanted} {scope name : String} {definition : Definition}
    (h : context.resolve wanted scope ("." ++ name) = .ok definition) :
    context.definitions.find name = some definition := by
  unfold Context.resolve at h
  split at h
  · rename_i found hfound
    cases h
    have hdrop : Text.dropStart? ['.'] ("." ++ name).toList = some name.toList :=
      Text.dropStart?_eq_some_iff.mpr (by simp)
    simp only [Definitions.resolve, hdrop, Definitions.visible?, String.ofList_toList] at hfound
    exact (Option.filter_eq_some_iff.mp hfound).1
  · cases h

theorem Context.kind_of_text {field : Field} {kind : FieldKind} (htype : field.type = 9)
    (hname : field.typeName = "") (h : context.fieldKind field = .ok kind) :
    kind = .scalar .string := by
  rw [fieldKind, hname, htype] at h
  cases h
  rfl

theorem Context.kind_of_message {field : Field} {kind : FieldKind} {name : String}
    (htype : field.type = 11) (hname : field.typeName = "." ++ name) {definition : Definition}
    (hfind : context.definitions.find name = some definition)
    (hdefinition : definition.name = name ∧ definition.kind = .message)
    (h : context.fieldKind field = .ok kind) : kind = .message name := by
  have hnonempty : ("." ++ name).isEmpty = false := by
    rw [← Bool.not_eq_true, String.isEmpty_iff]
    intro hempty
    simpa using congrArg String.toList hempty
  rw [fieldKind, hname, hnonempty, if_neg Bool.false_ne_true] at h
  obtain ⟨found, hfound, h⟩ := bind_eq_ok_iff.mp h
  have hsame := Context.find_of_resolve hfound
  rw [hfind, Option.some.injEq] at hsame
  subst hsame
  rw [hdefinition.2, if_neg (by decide), htype, if_neg (by decide), hdefinition.1] at h
  cases h
  rfl

structure Shaped (context : Context) (field : Field) (shape : FieldShape) : Prop where
  valid : isFieldNumber field.number = true
  number : shape.number = field.number.toNat
  kind : context.fieldKind field = .ok shape.kind
  repeated : shape.repeated = field.repeated

theorem Context.shaped_of_fieldShape {field : Field} {presence : Bool} {shape : FieldShape}
    (h : context.fieldShape field presence = .ok shape) :
    Shaped context field shape ∧ shape.oneof = field.oneof.map Int.toNat ∧
      (field.oneof.isSome → shape.presence = true) := by
  obtain ⟨⟨⟩, hnumber, h⟩ := bind_eq_ok_iff.mp h
  obtain ⟨kind, hkind, h⟩ := bind_eq_ok_iff.mp h
  cases h
  refine ⟨⟨require_eq_ok_iff.mp hnumber, rfl, hkind, rfl⟩, rfl, fun honeof => ?_⟩
  simp [honeof]

theorem Context.of_messageShape {message : Message} {shape : MessageShape}
    (h : context.messageShape message = .ok shape) :
    shape.name = message.fullName ∧
      List.Forall₂ (fun field fieldShape => context.fieldShape field false = .ok fieldShape)
        message.fields shape.fields ∧
      (∀ field ∈ message.fields, message.openTo field.number = false) ∧
      (message.fields.map Field.number).Nodup := by
  obtain ⟨fields, hfields, h⟩ := bind_eq_ok_iff.mp h
  obtain ⟨⟨⟩, hchecks, h⟩ := bind_eq_ok_iff.mp h
  obtain ⟨⟨⟩, hnodup, h⟩ := bind_eq_ok_iff.mp h
  cases h
  refine ⟨rfl, forall₂_of_mapM hfields, fun field hfield => ?_, ?_⟩
  · obtain ⟨⟨⟩, hopen, -⟩ := bind_eq_ok_iff.mp (of_forM hchecks field hfield)
    have hclosed := require_eq_ok_iff.mp hopen
    simp only [Bool.and_eq_true, Bool.not_eq_true'] at hclosed
    exact hclosed.1
  · simpa using require_eq_ok_iff.mp hnodup

theorem Context.of_extension {messages : List Message} {field : Field} {extension : Extension}
    (h : context.extension messages field = .ok extension) :
    extension.fullName = field.fullName ∧
      (∃ extendee, context.resolve wantsMessage field.fullName field.extendee = .ok extendee ∧
        extension.extendee = extendee.name) ∧
      Shaped context field extension.shape ∧ extension.shape.oneof = none ∧
      ∃ message ∈ messages, message.fullName = extension.extendee ∧
        message.openTo field.number = true := by
  obtain ⟨extendee, hextendee, h⟩ := bind_eq_ok_iff.mp h
  obtain ⟨shape, hshape, h⟩ := bind_eq_ok_iff.mp h
  obtain ⟨⟨⟩, hopen, h⟩ := bind_eq_ok_iff.mp h
  cases h
  obtain ⟨⟨hvalid, hnumber, hkind, hrepeated⟩, -⟩ := Context.shaped_of_fieldShape hshape
  refine ⟨rfl, ⟨extendee, hextendee, rfl⟩, ⟨hvalid, hnumber, hkind, hrepeated⟩, rfl, ?_⟩
  simpa using require_eq_ok_iff.mp hopen

end Contexts

/-- How a pool is made: from the names of its files and the shapes of their messages. -/
structure Pool.Made (files : List File) (definitions : Definitions) (shapes : Shapes)
    (pool : Pool) : Prop where
  names : collectNames files = .ok definitions
  messages : List.Forall₂ (fun message shape => ∃ context : Context,
    context.definitions = definitions ∧ context.messageShape message = .ok shape)
    (files.flatMap File.messages) shapes
  extensions : List.Forall₂ (fun field extension => ∃ context : Context,
    context.definitions = definitions ∧
      context.extension (files.flatMap File.messages) field = .ok extension)
    (files.flatMap File.extensions) pool.extensions
  shapes : pool.shapes = extendShapes shapes pool.extensions
  options : checkOptions pool.shapes files = .ok ()

theorem forall₂_flatten_of_mapM {α β : Type} {contexts : List Context} {files : List File}
    {definitions : Definitions} (hfiles : contexts.map Context.file = files)
    (hdefinitions : ∀ context ∈ contexts, context.definitions = definitions)
    {declared : File → List α} {make : Context → α → Checked β} {made : List (List β)}
    (h : contexts.mapM (fun context => (declared context.file).mapM (make context)) = .ok made) :
    List.Forall₂ (fun a b => ∃ context : Context, context.definitions = definitions ∧
      make context a = .ok b) (files.flatMap declared) made.flatten := by
  have hforall := forall₂_of_mapM h
  clear h
  subst hfiles
  induction hforall with
  | nil => exact .nil
  | @cons context first contexts made hfirst _ ih =>
    rw [List.forall_mem_cons] at hdefinitions
    rw [List.map_cons, List.flatMap_cons, List.flatten_cons]
    exact List.rel_append ((forall₂_of_mapM hfirst).imp
      fun _ _ hmake => ⟨context, hdefinitions.1, hmake⟩) (ih hdefinitions.2)

theorem Pool.exists_made {files : List File} {pool : Pool} (h : Pool.ofFiles files = .ok pool) :
    ∃ definitions shapes, Pool.Made files definitions shapes pool := by
  simp only [Pool.ofFiles, bind_eq_ok_iff] at h
  obtain ⟨definitions, hnames, contexts, hcontexts, shapes, hshapes, _, -, extensions, hextensions,
    _, -, ⟨⟩, hoptions, h⟩ := h
  cases h
  have hcontexts := forall₂_of_mapM hcontexts
  have hfiles : contexts.map Context.file = files := by
    rw [map_eq_of_forall₂ (f := Prod.fst) hcontexts fun entry context hcontext => ?_, numbered,
      List.zipIdx_map_fst]
    obtain ⟨visible, -, hcontext⟩ := bind_eq_ok_iff.mp hcontext
    cases hcontext
    rfl
  have hdefinitions : ∀ context ∈ contexts, context.definitions = definitions := by
    refine forall_of_forall₂ hcontexts fun entry context hcontext => ?_
    obtain ⟨visible, -, hcontext⟩ := bind_eq_ok_iff.mp hcontext
    cases hcontext
    rfl
  exact ⟨definitions, shapes.flatten, hnames,
    forall₂_flatten_of_mapM hfiles hdefinitions hshapes,
    forall₂_flatten_of_mapM hfiles hdefinitions hextensions, rfl, hoptions⟩

namespace Pool.Made

variable {files : List File} {definitions : Definitions} {shapes : Shapes} {pool : Pool}

theorem nodup_messages (h : Made files definitions shapes pool) :
    ((files.flatMap File.messages).map Message.fullName).Nodup := by
  rw [List.map_flatMap]
  exact nodup_flatMap_of_collectNames h.names sublist_ownNames_messages

theorem nodup_extensions (h : Made files definitions shapes pool) :
    (pool.extensions.map Extension.fullName).Nodup := by
  rw [map_eq_of_forall₂ (f := Field.fullName) h.extensions
    fun _ _ ⟨_, _, hextension⟩ => (Context.of_extension hextension).1, List.map_flatMap]
  exact nodup_flatMap_of_collectNames h.names sublist_ownNames_extensions

theorem find_message (h : Made files definitions shapes pool) {message : Message}
    (hmessage : message ∈ files.flatMap File.messages) :
    ∃ (context : Context) (shape : MessageShape), context.definitions = definitions ∧
      context.messageShape message = .ok shape ∧
      pool.shapes.find message.fullName = some ⟨message.fullName, shape.fields ++
        (pool.extensions.filter fun extension =>
          extension.extendee = message.fullName).map Extension.shape⟩ := by
  obtain ⟨shape, hshape, context, hdefinitions, hmade⟩ :=
    exists_right_of_forall₂ h.messages hmessage
  have hname := (Context.of_messageShape hmade).1
  refine ⟨context, shape, hdefinitions, hmade, ?_⟩
  have hnodup : (pool.shapes.map MessageShape.name).Nodup := by
    have hnames : pool.shapes.map MessageShape.name = shapes.map MessageShape.name := by
      rw [h.shapes, extendShapes, List.map_map]
      rfl
    rw [hnames, map_eq_of_forall₂ (f := Message.fullName) h.messages
      fun _ _ ⟨_, _, hmessage⟩ => (Context.of_messageShape hmessage).1]
    exact h.nodup_messages
  have hmem : (⟨shape.name, shape.fields ++ (pool.extensions.filter fun extension =>
      extension.extendee = shape.name).map Extension.shape⟩ : MessageShape) ∈ pool.shapes := by
    rw [h.shapes]
    exact List.mem_map_of_mem hshape
  rw [← hname]
  exact find?_of_nodup hnodup hmem

theorem find_extension (h : Made files definitions shapes pool) {field : Field}
    (hfield : field ∈ files.flatMap File.extensions) :
    ∃ (context : Context) (extension : Extension), context.definitions = definitions ∧
      context.extension (files.flatMap File.messages) field = .ok extension ∧
      extension ∈ pool.extensions ∧ pool.extension? field.fullName = some extension := by
  obtain ⟨extension, hextension, context, hdefinitions, hmade⟩ :=
    exists_right_of_forall₂ h.extensions hfield
  refine ⟨context, extension, hdefinitions, hmade, hextension, ?_⟩
  rw [← (Context.of_extension hmade).1]
  exact find?_of_nodup h.nodup_extensions hextension

theorem find_closed (h : Made files definitions shapes pool) {message : Message}
    (hmessage : message ∈ files.flatMap File.messages) (hclosed : message.extensionRanges = []) :
    ∃ (context : Context) (shape : MessageShape), context.definitions = definitions ∧
      context.messageShape message = .ok shape ∧
      pool.shapes.find message.fullName = some shape := by
  obtain ⟨context, shape, hdefinitions, hshape, hfind⟩ := h.find_message hmessage
  refine ⟨context, shape, hdefinitions, hshape, ?_⟩
  have hnone : (pool.extensions.filter fun extension =>
      extension.extendee = message.fullName) = [] := by
    rw [List.filter_eq_nil_iff]
    intro extension hextension hextendee
    rw [decide_eq_true_iff] at hextendee
    obtain ⟨field, -, other, -, hmade⟩ := exists_left_of_forall₂ h.extensions hextension
    obtain ⟨-, -, -, -, open', hopen, hname, hopenTo⟩ := Context.of_extension hmade
    have hsame : open' = message :=
      List.inj_on_of_nodup_map h.nodup_messages hopen hmessage (hname.trans hextendee)
    subst hsame
    simp [Message.openTo, hclosed] at hopenTo
  rw [hfind, hnone, List.map_nil, List.append_nil, ← (Context.of_messageShape hshape).1]

/-- A message that an extension belongs to has it under its number, if no other extension has
that number. -/
theorem exists_field?_extension (h : Made files definitions shapes pool) {extension : Extension}
    (hextension : extension ∈ pool.extensions)
    (honly : ∀ other ∈ pool.extensions, other.extendee = extension.extendee →
      other.shape.number = extension.shape.number → other.fullName = extension.fullName) :
    ∃ shape, pool.shapes.find extension.extendee = some shape ∧
      shape.field? extension.shape.number = some extension.shape := by
  obtain ⟨field, -, context, -, hmade⟩ := exists_left_of_forall₂ h.extensions hextension
  obtain ⟨-, -, hshaped, -, message, hmessage, hname, hopen⟩ := Context.of_extension hmade
  obtain ⟨context', shape, -, hshape, hfind⟩ := h.find_message hmessage
  refine ⟨_, hname ▸ hfind, ?_⟩
  obtain ⟨-, hfields, hclosed, -⟩ := Context.of_messageShape hshape
  have hmem : extension ∈ pool.extensions.filter fun other =>
      other.extendee = extension.extendee := List.mem_filter.mpr ⟨hextension, by simp⟩
  refine find?_of_unique (List.mem_append_right _ (List.mem_map_of_mem hmem)) (by simp) ?_
  intro found hfound hnumber
  rw [decide_eq_true_iff] at hnumber
  rcases List.mem_append.mp hfound with hown | hother
  · obtain ⟨declared, hdeclared, hmade⟩ := exists_left_of_forall₂ hfields hown
    have hownShaped := (Context.shaped_of_fieldShape hmade).1
    have hvalid := hshaped.valid
    have hownValid := hownShaped.valid
    simp only [isFieldNumber, Bool.and_eq_true, decide_eq_true_eq] at hvalid hownValid
    rw [hownShaped.number, hshaped.number] at hnumber
    have hsame : declared.number = field.number := by omega
    have hnot := hclosed declared hdeclared
    rw [hsame, hopen] at hnot
    cases hnot
  · obtain ⟨other, hfiltered, rfl⟩ := List.mem_map.mp hother
    obtain ⟨hother, hextendee⟩ := List.mem_filter.mp hfiltered
    rw [decide_eq_true_iff] at hextendee
    rw [List.inj_on_of_nodup_map h.nodup_extensions hother hextension
      (honly other hother hextendee hnumber)]

/-- The options of methods have passed their check. -/
theorem canonicalOptions?_isSome (h : Made files definitions shapes pool) {file : File}
    (hfile : file ∈ files) {service : ServiceDeclaration} (hservice : service ∈ file.services)
    {method : Method} (hmethod : method ∈ service.methods) {options : List Item}
    (hoptions : method.options = some options) :
    (canonicalOptions? pool.shapes "MethodOptions" options).isSome := by
  have hlist : ("MethodOptions", method.fullName, method.options) ∈ file.optionLists := by
    have hown : ("MethodOptions", method.fullName, method.options) ∈
        file.services.flatMap fun service =>
          ("ServiceOptions", service.fullName, service.options) ::
            service.methods.map fun method => ("MethodOptions", method.fullName, method.options) :=
      List.mem_flatMap.mpr ⟨service, hservice,
        List.mem_cons_of_mem _ (List.mem_map_of_mem hmethod)⟩
    exact List.mem_append_right _ hown
  have hcheck := of_forM (of_forM h.options file hfile) _ hlist
  rw [hoptions] at hcheck
  exact require_eq_ok_iff.mp hcheck

end Pool.Made

end Schema
end ServiceScaffold
