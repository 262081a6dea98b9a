import Mathlib
import ServiceScaffold.Proofs.RuleRoundTrip
import ServiceScaffold.Proofs.StandardDeclarations

/-!
# Annotated methods

Where the standard declarations of rules are among the description files, every method with the
option for rules is bound as its rule says, however the rule is nested and whatever else it holds.
-/

namespace ServiceScaffold

open Schema Wire

namespace Schema

theorem size_parts_le (number : Nat) (items : List Item) :
    size (parts number items).flatten ≤ size items := by
  have hinner (own : List Item) : size (own.filterMap Item.inner?).flatten ≤ size own := by
    induction own with
    | nil => exact Nat.le_refl _
    | cons item rest ih =>
      rw [size_cons]
      cases hitem : item.inner? with
      | none =>
        rw [List.filterMap_cons_none hitem]
        omega
      | some inner =>
        obtain ⟨value, hvalue, hsize⟩ := Item.of_inner? hitem
        rw [List.filterMap_cons_some hitem, List.flatten_cons, size_append, hvalue, Item.records,
          encode_singleton, length_encode_bytes]
        omega
  exact (hinner _).trans (size_le_of_sublist List.filter_sublist)

theorem sound_of_mem_parts {number : Nat} {items inner : List Item}
    (h : inner ∈ parts number items) : Sound inner := by
  obtain ⟨item, -, hinner⟩ := List.mem_filterMap.mp h
  obtain ⟨value, -, hread⟩ := Option.bind_eq_some_iff.mp hinner
  exact (of_readItems? hread).1

theorem sound_parts (number : Nat) (items : List Item) : Sound (parts number items).flatten := by
  intro item hitem
  obtain ⟨inner, hinner, hitem⟩ := List.mem_flatten.mp hitem
  exact sound_of_mem_parts hinner item hitem

theorem message_of_canonical? {shapes : Shapes} {unread : Nat → Item → Bool} {limit number : Nat}
    {shape : MessageShape} {type : String} {items : List Item} {records : List Record}
    (hmessage : HasMessage shape number type false none) (hitems : ∀ item ∈ items, item.Whole)
    (h : canonical? shapes unread limit shape items = some records) :
    ∃ written, items? records = some written ∧
      ((itemsOf number items = [] ∧ itemsOf number written = []) ∨
        ∃ merged, insideOf shapes unread limit type (parts number items).flatten = some merged ∧
          itemsOf number written = [.plain ⟨number, .bytes (encode merged)⟩]) := by
  rw [canonical?_eq] at h
  obtain ⟨written, hwritten⟩ := exists_written (balances_insideOf shapes unread limit) hitems h
  refine ⟨written, hwritten.read, ?_⟩
  rw [parts, ← itemsOf_settle hmessage.oneofOf]
  by_cases hnumber : number ∈ itemNumbers (shape.settle items).1
  · obtain ⟨inners, merged, hinners, hmerged, hown⟩ := hwritten.message hmessage hnumber
    rw [filterMap_of_mapM_eq_some hinners]
    exact .inr ⟨merged, hmerged, hown⟩
  · exact .inl ⟨Written.itemsOf_kept hnumber, hwritten.others number hnumber⟩

theorem Pool.optionMessage?_eq {pool : Pool} {kind type : String} {number : Nat}
    {options written : List Item} {shape : MessageShape} {records : List Record}
    (hshape : pool.shapes.find (standardName kind) = some shape)
    (hmessage : HasMessage shape number type false none)
    (hrecords : canonicalOptions? pool.shapes kind options = some records)
    (hwritten : items? records = some written) :
    (itemsOf number written = [] → pool.optionMessage? kind number options = none) ∧
      ∀ bytes, itemsOf number written = [.plain ⟨number, .bytes bytes⟩] →
        pool.optionMessage? kind number options = some bytes := by
  obtain ⟨field, hfield, hkind, hrepeated, -⟩ := hmessage
  constructor
  · intro hown
    rw [itemsOf] at hown
    simp [optionMessage?, optionShape, hshape, hfield, hkind, hrepeated, hrecords, hwritten, hown]
  · intro bytes hown
    rw [itemsOf] at hown
    simp [optionMessage?, optionShape, hshape, hfield, hkind, hrepeated, hrecords, hwritten, hown]

end Schema

namespace Source

theorem methodBinding_of_options {pool : Pool} (h : pool.HasRules) {method : Schema.Method}
    {options : List Item} (hoptions : method.options = some options)
    (hcanonical : (Pool.canonicalOptions? pool.shapes "MethodOptions" options).isSome)
    (hitems : Sound options) (hlength : size options < UInt64.size) :
    ∃ binding, methodBinding pool method = .ok binding ∧
      ∀ bytes rule, itemsOf httpNumber options = [.plain ⟨httpNumber, .bytes bytes⟩] →
        HttpRule.decode? bytes = some rule → binding = bindingOf rule := by
  obtain ⟨extension, shape, hextension, hnumber, hshape, hmessage⟩ := h.option
  obtain ⟨records, hrecords⟩ := Option.isSome_iff_exists.mp hcanonical
  have hmade : canonical? pool.shapes keeps nestingLimit shape options = some records := by
    rw [← hrecords, Pool.canonicalOptions?, Pool.optionShape, hshape]
  obtain ⟨written, hwritten, hcases⟩ :=
    message_of_canonical? hmessage (fun item hitem => (hitems item hitem).1) hmade
  obtain ⟨hnone, hsome⟩ := Pool.optionMessage?_eq hshape hmessage hrecords hwritten
  rcases hcases with ⟨hown, hempty⟩ | ⟨merged, hmerged, hone⟩
  · refine ⟨none, ?_, fun bytes rule hbytes _ => ?_⟩
    · simp only [methodBinding, hextension, hoptions, hnumber, hnone hempty]
    · rw [hown] at hbytes
      cases hbytes
  · obtain ⟨below, found, hlimit, hfound, hcanonical⟩ := of_insideOf hmerged
    obtain ⟨rule, hrule, hsame⟩ := decode?_of_canonical? h.shapes hfound hlimit.symm
      (sound_parts httpNumber options) ((size_parts_le httpNumber options).trans_lt hlength)
      hcanonical
    refine ⟨bindingOf rule, ?_, fun bytes other hbytes hother => ?_⟩
    · simp only [methodBinding, hextension, hoptions, hnumber, hsome _ hone, hrule]
    · obtain ⟨items, hread, hfold⟩ := Option.bind_eq_some_iff.mp hother
      have hflat : (parts httpNumber options).flatten = items := by
        simp [parts, hbytes, Item.inner?, Item.bytes?, hread]
      obtain ⟨hpattern, hbody⟩ := hsame other (hflat ▸ hfold)
      rw [bindingOf, bindingOf, hpattern, hbody]

theorem of_merged? {number : Nat} {items options : List Item}
    (h : merged? number items = some options) : options = (parts number items).flatten := by
  unfold merged? at h
  split at h
  · cases h
  · cases h
    rfl

theorem size_of_mem_parts {number : Nat} {items inner : List Item} (hitems : Sound items)
    (h : inner ∈ parts number items) : size inner < UInt64.size := by
  obtain ⟨item, hitem, hinner⟩ := List.mem_filterMap.mp h
  obtain ⟨value, hvalue, hsize⟩ := Item.of_inner? hinner
  have hfits := (hitems item (mem_itemsOf_iff.mp hitem).1).2
  rw [hvalue, Item.records, List.forall_mem_singleton] at hfits
  exact hsize.trans_lt hfits.payload

theorem Declares.sound_options {payload : Bytes} {items : List Item} {file : File}
    (h : Declares payload items file) {service : ServiceDeclaration}
    (hservice : service ∈ file.services) {method : Schema.Method} (hmethod : method ∈ service.methods)
    {options : List Item} (hoptions : method.options = some options) :
    Sound options ∧ size options < UInt64.size := by
  rw [h.file] at hservice
  obtain ⟨inside, hinside, rfl⟩ := List.mem_map.mp hservice
  obtain ⟨inner, hinner, rfl⟩ := List.mem_map.mp hmethod
  obtain rfl := of_merged? hoptions
  exact ⟨sound_parts 4 inner, (size_parts_le 4 inner).trans_lt
    (size_of_mem_parts (sound_of_mem_parts hinside) hinner)⟩

section Pools

variable {payloads : List Bytes} {declared : List File} {definitions : Definitions}
  {shapes : Shapes} {pool : Pool}

/-- Every declared method has a binding, and if its options hold a rule, the one that this rule
says. -/
theorem exists_methodBinding (hmade : Pool.Made declared definitions shapes pool)
    (hrules : pool.HasRules)
    (hdeclared : List.Forall₂ (fun payload file => ∃ items, Declares payload items file) payloads
      declared) {file : File} (hfile : file ∈ declared) {service : ServiceDeclaration}
    (hservice : service ∈ file.services) {method : Schema.Method}
    (hmethod : method ∈ service.methods) :
    ∃ binding, methodBinding pool method = .ok binding ∧
      ∀ options bytes rule, method.options = some options →
        itemsOf httpNumber options = [.plain ⟨httpNumber, .bytes bytes⟩] →
        HttpRule.decode? bytes = some rule → binding = bindingOf rule := by
  cases hoptions : method.options with
  | none =>
    refine ⟨none, ?_, fun options bytes rule h => by cases h⟩
    unfold methodBinding
    split
    · rename_i hsome
      rw [hoptions] at hsome
      cases hsome
    · rfl
  | some options =>
    obtain ⟨payload, -, items, hdeclares⟩ := exists_left_of_forall₂ hdeclared hfile
    obtain ⟨hsound, hlength⟩ := hdeclares.sound_options hservice hmethod hoptions
    obtain ⟨binding, hbinding, hrule⟩ := methodBinding_of_options hrules hoptions
      (hmade.canonicalOptions?_isSome hfile hservice hmethod hoptions) hsound hlength
    refine ⟨binding, hbinding, fun other bytes rule hother => ?_⟩
    cases hother
    exact hrule bytes rule

end Pools

end Source

namespace Wire

def Pattern.verb : Pattern → Verb
  | .get _ => .get
  | .put _ => .put
  | .post _ => .post
  | .delete _ => .delete
  | .patch _ => .patch
  | .custom kind _ => .custom kind

def Pattern.path : Pattern → String
  | .get path => path
  | .put path => path
  | .post path => path
  | .delete path => path
  | .patch path => path
  | .custom _ path => path

def HttpRule.body? (rule : HttpRule) : Option String :=
  if rule.body = "" then none else some rule.body

end Wire

/-- A method is bound to what the pattern and the body of a rule say, and without a pattern it is
posted to under its own name. -/
structure BoundBy (rule : HttpRule) (service : Service) (rpc : Rpc) : Prop where
  binding : rpc.binding = rule.pattern.map fun pattern => ⟨pattern.verb, pattern.path, rule.body?⟩
  verb : (MethodPlan.of service rpc).verb = rule.pattern.elim .post Pattern.verb
  path : (MethodPlan.of service rpc).path =
    rule.pattern.elim ("/" ++ service.fullName ++ "/" ++ rpc.name) Pattern.path
  body : (MethodPlan.of service rpc).body = rule.pattern.bind fun _ => rule.body?

theorem boundBy_of_bindingOf {rule : HttpRule} {service : Service} {rpc : Rpc}
    (h : rpc.binding = Source.bindingOf rule) : BoundBy rule service rpc := by
  have hbinding : rpc.binding =
      rule.pattern.map fun pattern => ⟨pattern.verb, pattern.path, rule.body?⟩ := by
    rw [h, Source.bindingOf]
    congr 1
    funext pattern
    cases pattern <;> simp [Pattern.verb, Pattern.path, HttpRule.body?, String.isEmpty_iff]
  refine ⟨hbinding, ?_, ?_, ?_⟩
  all_goals
    cases hpattern : rule.pattern <;> simp [MethodPlan.of, hbinding, hpattern, defaultPath]

namespace Schema

/-- The options of a method hold the option for rules once, with a value that is read as this
rule. -/
def Carries (method : List Item) (rule : HttpRule) : Prop :=
  ∃ options bytes, merged? 4 method = some options ∧
    itemsOf httpNumber options = [.plain ⟨httpNumber, .bytes bytes⟩] ∧
    HttpRule.decode? bytes = some rule

theorem carries_encode {method : List Item} {rule : HttpRule}
    (hoptions : merged? 4 method = some [.plain ⟨httpNumber, .bytes rule.encode⟩])
    (hdepth : rule.depth ≤ nestingLimit) (hlength : rule.encode.length < UInt64.size) :
    Carries method rule :=
  ⟨_, rule.encode, hoptions, rfl, HttpRule.decode?_encode hdepth hlength⟩

end Schema

namespace Source

variable {source : Source} {payloads : List Bytes} {targets : Option (List String)}

theorem declaredFiles_of_forall₂ {declared : List File} (h : List.Forall₂ (fun payload file =>
    ∃ items, Declares payload items file) payloads declared) : declaredFiles payloads = declared := by
  induction h with
  | nil => rfl
  | cons hfirst _ ih =>
    obtain ⟨items, hread, -, rfl⟩ := hfirst
    rw [declaredFiles] at ih
    rw [declaredFiles, List.filterMap_cons_some (by rw [hread, Option.map_some]), ih]

theorem mem_of_declares {declared : List File} (h : List.Forall₂ (fun payload file =>
    ∃ items, Declares payload items file) payloads declared) {payload : Bytes} {items : List Item}
    {file : File} (hpayload : payload ∈ payloads) (hdeclares : Declares payload items file) :
    file ∈ declared := by
  obtain ⟨other, hother, otherItems, hotherDeclares⟩ := exists_right_of_forall₂ h hpayload
  have hitems : items = otherItems :=
    Option.some.inj (hdeclares.read.symm.trans hotherDeclares.read)
  have hfile : file = other := by
    rw [hdeclares.file, hitems, hotherDeclares.file]
  exact hfile ▸ hother

/-- Where all declared methods have bindings, the parse succeeds. -/
theorem exists_parse_of_bindings {declared : List File} (hpooled : source.Pooled)
    (hpool : Pool.ofFiles declared = .ok source.pool)
    (hbindings : ∀ file ∈ declared, ∀ service ∈ file.services, ∀ method ∈ service.methods,
      ∃ binding, methodBinding source.pool method = .ok binding) :
    ∃ files, source.parse = .ok files := by
  obtain ⟨-, hfiles, hservices⟩ := files_of_ofFiles hpool
  cases hparse : source.parse with
  | ok files => exact ⟨files, rfl⟩
  | error fault =>
    obtain ⟨file, hfile, service, hservice, method, hmethod, hfault⟩ :=
      exists_of_parse_eq_error hpooled hparse
    have hfileMem : file.file ∈ declared := hfiles ▸ List.mem_map_of_mem hfile
    have hserviceMem : service.service ∈ file.file.services :=
      hservices file hfile ▸ List.mem_map_of_mem hservice
    have hmethodMem : method.method ∈ service.service.methods :=
      methods_of_ofFiles hpool file hfile service hservice ▸ List.mem_map_of_mem hmethod
    obtain ⟨binding, hbinding⟩ := hbindings _ hfileMem _ hserviceMem _ hmethodMem
    rw [hbinding] at hfault
    cases hfault

/-- Every payload is parsed, and each of its methods whose options carry a rule is bound as this
rule says. -/
def BindsAnnotated (source : Source) (payloads : List Bytes) : Prop :=
  ∃ files, source.parse = .ok files ∧
    List.Forall₂ (fun payload file => ∃ items, readItems? payload = some items ∧
      Parsed 6 (fun inside service =>
        service.fullName = qualify (lastText 2 items) (lastText 1 inside) ∧
        Parsed 2 (fun method rpc => rpc.name = lastText 1 method ∧
          ∀ rule, Carries method rule → BoundBy rule service rpc) inside service.methods)
        items file.services) payloads files

/-- Annotations arrive: where the standard declarations of rules are among the accepted files, and
no other option of methods has the number of the one for rules, every file is parsed, and each
method whose options carry a rule is bound as this rule says. Nothing but the pattern and the body
of the rule has an influence. -/
theorem parse_binds_annotated (h : Accepts payloads targets source)
    (hannotates : Annotates (declaredFiles payloads))
    (honly : ∀ extension ∈ source.pool.extensions,
      extension.extendee = standardName "MethodOptions" → extension.shape.number = httpNumber →
        extension.fullName = httpOption) :
    source.BindsAnnotated payloads := by
  obtain ⟨-, declared, hdeclared, hpool, -⟩ := h.pool
  rw [declaredFiles_of_forall₂ hdeclared] at hannotates
  obtain ⟨definitions, shapes, hmade⟩ := Pool.exists_made hpool
  have hrules := hmade.hasRules hannotates honly
  obtain ⟨files, hparse⟩ := exists_parse_of_bindings h.pooled hpool
    fun file hfile service hservice method hmethod =>
      (exists_methodBinding hmade hrules hdeclared hfile hservice hmethod).imp fun _ hbinding =>
        hbinding.1
  refine ⟨files, hparse, (mem_forall₂_left (h.renders hparse)).imp
    fun payload file ⟨hpayload, items, own, hdeclares, hrenders, _⟩ => ⟨items, hdeclares.read, ?_⟩⟩
  have hown : own ∈ declared := mem_of_declares hdeclared hpayload hdeclares
  refine (hrenders.parsed hdeclares).imp
    fun item hitem inside hinside service ⟨hfullName, _, hmethods⟩ => ⟨hfullName, hmethods.imp ?_⟩
  intro methodItem hmethodItem method hmethod rpc ⟨resolved, hresolved, hrpc⟩
  obtain ⟨hname, -, -, -, hbinding⟩ := rpcOf_eq_ok hrpc
  rw [hresolved] at hname hbinding
  refine ⟨hname, fun rule ⟨options, bytes, hoptions, honce, hrule⟩ => boundBy_of_bindingOf ?_⟩
  have hserviceMem : ServiceDeclaration.ofItems (lastText 2 items) inside ∈ own.services := by
    rw [hdeclares.file]
    exact List.mem_map_of_mem (List.mem_filterMap.mpr ⟨item, hitem, hinside⟩)
  have hmethodMem : Method.ofItems service.fullName method ∈
      (ServiceDeclaration.ofItems (lastText 2 items) inside).methods := by
    rw [hfullName]
    exact List.mem_map_of_mem (List.mem_filterMap.mpr ⟨methodItem, hmethodItem, hmethod⟩)
  obtain ⟨binding, hfound, hbound⟩ :=
    exists_methodBinding hmade hrules hdeclared hown hserviceMem hmethodMem
  rw [hbinding, Except.ok.injEq] at hfound
  rw [hfound]
  exact hbound options bytes rule hoptions honce hrule

def orderPayload (rule : HttpRule) : Bytes := Wire.encode
  [.text 1 "order.proto", .text 2 "shop", .text 3 "google/api/annotations.proto",
   .message 4 [.text 1 "Req"],
   .message 6 [.text 1 "Order", .message 2 [.text 1 "Get", .text 2 "Req", .text 3 "Req",
     .message 4 [⟨httpNumber, .bytes rule.encode⟩]]]]

/-- A rule with all that has no influence, and with a path that is empty. -/
def headRule : HttpRule :=
  .mk "shop.Order.Get" (some (.custom "HEAD" "")) "*" "note" [.mk "" (some (.get "/a")) "" "" []]

def headSet : FileSet :=
  ⟨[descriptorPayload, httpPayload, annotationsPayload, orderPayload headRule]⟩

def methodsIn (payload : Bytes) : List (List Item) :=
  ((readItems? payload).toList.flatMap (parts 6)).flatMap (parts 2)

theorem BindsAnnotated.exists_bound (h : source.BindsAnnotated payloads) {payload : Bytes}
    {method : List Item} {rule : HttpRule} (hpayload : payload ∈ payloads)
    (hmethod : method ∈ methodsIn payload) (hcarries : Carries method rule) :
    ∃ files, source.parse = .ok files ∧ ∃ file ∈ files, ∃ service ∈ file.services,
      ∃ rpc ∈ service.methods, BoundBy rule service rpc := by
  obtain ⟨files, hparse, hforall⟩ := h
  obtain ⟨file, hfile, items, hread, hservices⟩ := exists_right_of_forall₂ hforall hpayload
  rw [methodsIn, hread, Option.toList_some, List.flatMap_singleton] at hmethod
  obtain ⟨inside, hinside, hmethod⟩ := List.mem_flatMap.mp hmethod
  obtain ⟨item, hitem, hinner⟩ := List.mem_filterMap.mp hinside
  obtain ⟨service, hservice, other, hother, -, hmethods⟩ := exists_right_of_forall₂ hservices hitem
  rw [hinner, Option.some.injEq] at hother
  subst hother
  obtain ⟨methodItem, hmethodItem, hmethodInner⟩ := List.mem_filterMap.mp hmethod
  obtain ⟨rpc, hrpc, found, hfound, -, hbound⟩ := exists_right_of_forall₂ hmethods hmethodItem
  rw [hmethodInner, Option.some.injEq] at hfound
  subst hfound
  exact ⟨files, hparse, file, hfile, service, hservice, rpc, hrpc, hbound rule hcarries⟩

theorem parse_binds_annotated_head : ∃ source files, Accepts headSet.files none source ∧
    source.parse = .ok files ∧ ∃ file ∈ files, ∃ service ∈ file.services,
      ∃ rpc ∈ service.methods, BoundBy headRule service rpc ∧
        rpc.binding = some ⟨.custom "HEAD", "", some "*"⟩ := by
  have hdecoded : FileSet.decode? headSet.encode = some headSet :=
    FileSet.decode?_encode (by decide +kernel)
  have hextensions : (ofSet headSet.encode).map (fun source =>
      source.pool.extensions.map Extension.fullName) = .ok [httpOption] := by decide +kernel
  have hmethods : (methodsIn (orderPayload headRule)).map (merged? 4) =
      [some [.plain ⟨httpNumber, .bytes headRule.encode⟩]] := by decide +kernel
  obtain ⟨source, hsource, hnames⟩ := map_eq_ok_iff.mp hextensions
  have haccepts : Accepts headSet.files none source := .set hdecoded hsource
  have hbinds := parse_binds_annotated haccepts
    (annotates_of_mem (by simp [headSet]) (by simp [headSet])) fun extension hextension _ _ => by
      have hmem := List.mem_map_of_mem (f := Extension.fullName) hextension
      rwa [hnames, List.mem_singleton] at hmem
  obtain ⟨method, hmethod, hoptions⟩ := List.mem_map.mp (hmethods ▸ List.mem_singleton_self _)
  have hcarries : Carries method headRule :=
    carries_encode hoptions (by decide +kernel) (by decide +kernel)
  have hpayload : orderPayload headRule ∈ headSet.files := by simp [headSet]
  obtain ⟨files, hparse, file, hfile, service, hservice, rpc, hrpc, hbound⟩ :=
    hbinds.exists_bound hpayload hmethod hcarries
  exact ⟨source, files, haccepts, hparse, file, hfile, service, hservice, rpc, hrpc, hbound,
    hbound.binding⟩

/-- The file of another option of methods, a text under the number of the one for rules. -/
def notePayload : Bytes := Wire.encode
  [.text 1 "note.proto", .text 2 "note", .text 3 "google/protobuf/descriptor.proto",
   .message 7 (.text 2 ".google.protobuf.MethodOptions" ::
     (Signature.text httpNumber).records "note"),
   .text 12 "proto3"]

def getRule : HttpRule :=
  .mk "" (some (.get "/v1/orders")) "" "" []

def noteSet : FileSet :=
  ⟨[descriptorPayload, notePayload, httpPayload, annotationsPayload, orderPayload getRule]⟩

/-- Where another option of methods has the same number, a rule can be lost. -/
theorem parse_loses_annotation : ∃ source, Accepts noteSet.files none source ∧
    Annotates (declaredFiles noteSet.files) ∧ ¬ source.BindsAnnotated noteSet.files := by
  have hdecoded : FileSet.decode? noteSet.encode = some noteSet :=
    FileSet.decode?_encode (by decide +kernel)
  have hparses : (ofSet noteSet.encode).bind (fun source => source.parse.map fun files =>
      files.flatMap fun file => file.services.flatMap fun service =>
        service.methods.map Rpc.binding) = .ok [none] := by decide +kernel
  have hmethods : (methodsIn (orderPayload getRule)).map (merged? 4) =
      [some [.plain ⟨httpNumber, .bytes getRule.encode⟩]] := by decide +kernel
  obtain ⟨source, hsource, hbindings⟩ := bind_eq_ok_iff.mp hparses
  refine ⟨source, .set hdecoded hsource,
    annotates_of_mem (by simp [noteSet]) (by simp [noteSet]), fun hbinds => ?_⟩
  obtain ⟨method, hmethod, hoptions⟩ := List.mem_map.mp (hmethods ▸ List.mem_singleton_self _)
  have hcarries : Carries method getRule :=
    carries_encode hoptions (by decide +kernel) (by decide +kernel)
  have hpayload : orderPayload getRule ∈ noteSet.files := by simp [noteSet]
  obtain ⟨files, hparse, file, hfile, service, hservice, rpc, hrpc, hbound⟩ :=
    hbinds.exists_bound hpayload hmethod hcarries
  obtain ⟨found, hfound, hnone⟩ := map_eq_ok_iff.mp hbindings
  rw [hparse, Except.ok.injEq] at hfound
  subst hfound
  have hmem : rpc.binding ∈ files.flatMap fun file => file.services.flatMap fun service =>
      service.methods.map Rpc.binding :=
    List.mem_flatMap.mpr ⟨file, hfile, List.mem_flatMap.mpr
      ⟨service, hservice, List.mem_map_of_mem hrpc⟩⟩
  rw [hnone, List.mem_singleton, hbound.binding] at hmem
  cases hmem

end Source
end ServiceScaffold
