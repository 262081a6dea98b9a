import Mathlib
import ServiceScaffold.Proofs.CanonicalRecords
import ServiceScaffold.Proofs.SourceNames

/-!
# Parsed files

Description files are read twice, once for their names and once for the pool, and what is parsed
is looked up in the pool by name. Nothing is lost on the way: there is one parsed file for each
description file, in the same order, with the services and methods that stand in its bytes.
-/

namespace ServiceScaffold

open Schema Wire

theorem exists_of_mapM_eq_error {ε α β : Type} {f : α → Except ε β} {as : List α} {e : ε}
    (h : as.mapM f = .error e) : ∃ a ∈ as, f a = .error e := by
  induction as with
  | nil =>
    rw [List.mapM_nil] at h
    cases h
  | cons a as ih =>
    cases ha : f a with
    | error e' =>
      rw [List.mapM_cons, ha] at h
      cases h
      exact ⟨a, List.mem_cons_self, ha⟩
    | ok b =>
      cases hrest : as.mapM f with
      | ok bs =>
        rw [List.mapM_cons, ha, hrest] at h
        cases h
      | error e' =>
        rw [List.mapM_cons, ha, hrest] at h
        cases h
        obtain ⟨other, hother, hfound⟩ := ih hrest
        exact ⟨other, List.mem_cons_of_mem a hother, hfound⟩

theorem bind_eq_error_iff {ε α β : Type} {x : Except ε α} {f : α → Except ε β} {e : ε} :
    x >>= f = .error e ↔ x = .error e ∨ ∃ a, x = .ok a ∧ f a = .error e := by
  cases x <;> simp [bind, Except.bind]

theorem forall₂_trans {α β γ : Type} {R : α → β → Prop} {S : β → γ → Prop} {as : List α}
    {bs : List β} {cs : List γ} (hR : List.Forall₂ R as bs) (hS : List.Forall₂ S bs cs) :
    List.Forall₂ (fun a c => ∃ b, R a b ∧ S b c) as cs := by
  induction hR generalizing cs with
  | nil =>
    cases hS
    exact .nil
  | cons hhead _ ih =>
    cases hS with
    | cons hnext hrest => exact .cons ⟨_, hhead, hnext⟩ (ih hrest)

namespace Schema

/-- What is parsed of the messages under a number: each one as `R` says, in order. -/
def Parsed {α : Type} (number : Nat) (R : List Item → α → Prop) (items : List Item)
    (parsed : List α) : Prop :=
  List.Forall₂ (fun item result => ∃ inside, item.inner? = some inside ∧ R inside result)
    (itemsOf number items) parsed

theorem Parsed.imp {α : Type} {number : Nat} {R S : List Item → α → Prop} {items : List Item}
    {parsed : List α} (h : Parsed number R items parsed)
    (himp : ∀ item ∈ itemsOf number items, ∀ inside ∈ item.inner?, ∀ result,
      R inside result → S inside result) :
    Parsed number S items parsed := by
  refine (mem_forall₂_left h).imp fun item result ⟨hitem, inside, hinside, hR⟩ => ?_
  exact ⟨inside, hinside, himp item hitem inside hinside result hR⟩

structure DescribesRpc (items : List Item) (rpc : Rpc) : Prop where
  name : rpc.name = lastText 1 items
  goName : rpc.goName = Go.camelCase (lastText 1 items)
  clientStreaming : rpc.clientStreaming = lastFlag 5 items
  serverStreaming : rpc.serverStreaming = lastFlag 6 items

structure DescribesService (scope : String) (items : List Item) (service : Service) : Prop where
  fullName : service.fullName = qualify scope (lastText 1 items)
  goName : service.goName = Go.camelCase (lastText 1 items)
  methods : Parsed 2 DescribesRpc items service.methods

structure DescribesFile (items : List Item) (file : SourceFile) : Prop where
  name : file.name = lastText 1 items
  package : file.package = lastText 2 items
  services : Parsed 6 (DescribesService (lastText 2 items)) items file.services

theorem field?_services : fileShape.field? 6 = some (manyMessages 6 "ServiceDescriptorProto") := by
  decide

theorem field?_methods {shape : MessageShape}
    (h : Shapes.find standardShapes (standardName "ServiceDescriptorProto") = some shape) :
    shape.field? 2 = some (manyMessages 2 "MethodDescriptorProto") := by
  have hfound : (Shapes.find standardShapes (standardName "ServiceDescriptorProto")).bind
      (fun shape => shape.field? 2) = some (manyMessages 2 "MethodDescriptorProto") := by
    decide +kernel
  rwa [h] at hfound

/-- In an item list that fits, the services are messages, and so are their methods. -/
theorem isSome_inner?_of_fitsStandard {limit : Nat} {items : List Item}
    (h : fitsStandard limit items = true) : ∀ service ∈ itemsOf 6 items,
      service.inner?.isSome ∧ ∀ inside ∈ service.inner?, ∀ method ∈ itemsOf 2 inside,
        method.inner?.isSome := by
  intro service hservice
  obtain ⟨hmem, hnumber⟩ := List.mem_filter.mp hservice
  rw [decide_eq_true_iff] at hnumber
  obtain ⟨inside, shape, below, hinside, hshape, hfits⟩ :=
    exists_inner_of_canonical? h hmem (hnumber ▸ field?_services) rfl rfl
  refine ⟨Option.isSome_of_eq_some hinside, fun other hother method hmethod => ?_⟩
  rw [hinside, Option.mem_some_iff] at hother
  subst hother
  obtain ⟨hmem, hnumber⟩ := List.mem_filter.mp hmethod
  rw [decide_eq_true_iff] at hnumber
  obtain ⟨found, -, -, hfound, -⟩ :=
    exists_inner_of_canonical? hfits hmem (hnumber ▸ field?_methods hshape) rfl rfl
  exact Option.isSome_of_eq_some hfound

theorem parsed_of_forall₂ {α β : Type} {number : Nat} {items : List Item}
    (hread : ∀ item ∈ itemsOf number items, item.inner?.isSome) {declare : List Item → β}
    {S : β → α → Prop} {parsed : List α}
    (h : List.Forall₂ S ((parts number items).map declare) parsed) :
    Parsed number (fun inside => S (declare inside)) items parsed := by
  rw [List.forall₂_map_left_iff] at h
  exact forall₂_of_filterMap hread h

theorem methods_of_ofFiles {files : List File} {pool : Pool} (h : Pool.ofFiles files = .ok pool) :
    ∀ resolved ∈ pool.files, ∀ service ∈ resolved.services,
      service.methods.map ResolvedMethod.method = service.service.methods := by
  simp only [Pool.ofFiles, bind_eq_ok_iff] at h
  obtain ⟨_, -, contexts, -, _, -, _, -, _, -, resolved, hresolved, _, -, h⟩ := h
  cases h
  refine forall_of_forall₂ (forall₂_of_mapM hresolved) fun context file hfile => ?_
  obtain ⟨services, hservices, hfile⟩ := bind_eq_ok_iff.mp hfile
  cases hfile
  refine forall_of_forall₂ (forall₂_of_mapM hservices) fun declared service hservice => ?_
  obtain ⟨methods, hmethods, hservice⟩ := bind_eq_ok_iff.mp hservice
  cases hservice
  refine (map_eq_of_forall₂ (f := id) (forall₂_of_mapM hmethods) fun method found hfound => ?_).trans
    (List.map_id _)
  obtain ⟨input, -, hfound⟩ := bind_eq_ok_iff.mp hfound
  obtain ⟨output, -, hfound⟩ := bind_eq_ok_iff.mp hfound
  cases hfound
  rfl

end Schema

namespace Source

variable {source : Source} {payloads : List Bytes} {targets : Option (List String)}
  {files : List SourceFile}

/-- The description files that arrived in a source, and those that code is asked for; for all of
them if there are no targets. -/
inductive Accepts : List Bytes → Option (List String) → Source → Prop
  | request {bytes : Bytes} {request : Request} {source : Source}
      (decoded : Request.decode? bytes = some request) (accepted : ofRequest bytes = .ok source) :
      Accepts request.files (some request.filesToGenerate) source
  | set {bytes : Bytes} {set : FileSet} {source : Source}
      (decoded : FileSet.decode? bytes = some set) (accepted : ofSet bytes = .ok source) :
      Accepts set.files none source
  | withTargets {payloads : List Bytes} {targets : Option (List String)} {source : Source}
      (accepted : Accepts payloads targets source) (names : List String) :
      Accepts payloads (some names) (source.withTargets names)

/-- A payload that is the declaration of a file, down to its methods. -/
structure Declares (payload : Bytes) (items : List Item) (declared : File) : Prop where
  read : readItems? payload = some items
  fits : fitsStandard nestingLimit items = true
  file : declared = File.ofItems items

theorem declares_of_readFile {payload : Bytes} {declared : File}
    (h : readFile payload = .ok declared) : ∃ items, Declares payload items declared := by
  unfold readFile at h
  split at h
  · rename_i items hitems
    split at h
    · rename_i hfits
      cases h
      exact ⟨items, hitems, hfits, rfl⟩
    · cases h
  · cases h

theorem readPool_eq_ok {pool : Pool} {names : List String}
    (h : readPool payloads = .ok (pool, names)) : ∃ declared,
      List.Forall₂ (fun payload file => ∃ items, Declares payload items file) payloads declared ∧
      Pool.ofFiles declared = .ok pool ∧ names = declared.map File.name := by
  obtain ⟨declared, hdeclared, h⟩ := bind_eq_ok_iff.mp h
  split at h
  · split at h
    · rename_i hpool
      cases h
      exact ⟨declared, (forall₂_of_mapM hdeclared).imp fun _ _ => declares_of_readFile, hpool, rfl⟩
    · cases h
  · cases h

theorem Accepts.pool (h : Accepts payloads targets source) :
    source.targets = targets ∧ ∃ declared,
      List.Forall₂ (fun payload file => ∃ items, Declares payload items file) payloads declared ∧
      Pool.ofFiles declared = .ok source.pool ∧ source.files = declared.map File.name := by
  induction h with
  | request decoded accepted =>
    unfold ofRequest at accepted
    rw [decoded] at accepted
    obtain ⟨⟨pool, names⟩, hpool, hsource⟩ := bind_eq_ok_iff.mp accepted
    cases hsource
    exact ⟨rfl, readPool_eq_ok hpool⟩
  | set decoded accepted =>
    unfold ofSet at accepted
    rw [decoded] at accepted
    obtain ⟨⟨pool, names⟩, hpool, hsource⟩ := bind_eq_ok_iff.mp accepted
    cases hsource
    exact ⟨rfl, readPool_eq_ok hpool⟩
  | withTargets _ names ih => exact ⟨rfl, ih.2⟩

theorem Accepts.pooled (h : Accepts payloads targets source) : source.Pooled := by
  obtain ⟨-, declared, -, hpool, hnames⟩ := h.pool
  exact ⟨declared, hpool, hnames⟩

theorem rpcOf_eq_ok {pool : Pool} {resolved : ResolvedMethod} {rpc : Rpc}
    (h : rpcOf pool resolved = .ok rpc) :
    rpc.name = resolved.method.name ∧ rpc.goName = Go.camelCase resolved.method.name ∧
      rpc.clientStreaming = resolved.method.clientStreaming ∧
      rpc.serverStreaming = resolved.method.serverStreaming ∧
      methodBinding pool resolved.method = .ok rpc.binding := by
  obtain ⟨binding, hbinding, h⟩ := bind_eq_ok_iff.mp h
  cases h
  exact ⟨rfl, rfl, rfl, rfl, hbinding⟩

theorem methods_of_serviceOf {pool : Pool} {resolved : ResolvedService} {service : Service}
    (h : serviceOf pool resolved = .ok service) :
    List.Forall₂ (fun method rpc => rpcOf pool method = .ok rpc) resolved.methods
      service.methods := by
  obtain ⟨methods, hmethods, h⟩ := bind_eq_ok_iff.mp h
  cases h
  exact forall₂_of_mapM hmethods

/-- A parsed file is what its declaration says, each service and each method in its place. -/
structure Renders (pool : Pool) (declared : File) (file : SourceFile) : Prop where
  name : file.name = declared.name
  package : file.package = declared.package
  services : List.Forall₂ (fun (service : ServiceDeclaration) parsed =>
    parsed.fullName = service.fullName ∧ parsed.goName = Go.camelCase service.name ∧
      List.Forall₂ (fun method rpc => ∃ resolved : ResolvedMethod,
        resolved.method = method ∧ rpcOf pool resolved = .ok rpc) service.methods parsed.methods)
    declared.services file.services

theorem renders_of_sourceFileOf {declared : List File} {pool : Pool} {generate : Bool}
    {resolved : ResolvedFile} {file : SourceFile} (hpool : Pool.ofFiles declared = .ok pool)
    (hresolved : resolved ∈ pool.files) (h : sourceFileOf pool generate resolved = .ok file) :
    file.generate = generate ∧ Renders pool resolved.file file := by
  have hservices := sourceFileOf_eq_ok h
  obtain ⟨services, -, h⟩ := bind_eq_ok_iff.mp h
  cases h
  refine ⟨rfl, rfl, rfl, ?_⟩
  rw [← (files_of_ofFiles hpool).2.2 resolved hresolved, List.forall₂_map_left_iff]
  refine (mem_forall₂_left hservices).imp fun service parsed ⟨hservice, hparsed⟩ => ?_
  obtain ⟨hfullName, hgoName, -⟩ := serviceOf_eq_ok hparsed
  refine ⟨hfullName, hgoName, ?_⟩
  rw [← methods_of_ofFiles hpool resolved hresolved service hservice, List.forall₂_map_left_iff]
  exact (methods_of_serviceOf hparsed).imp fun method _ hrpc => ⟨method, rfl, hrpc⟩

theorem Renders.parsed {pool : Pool} {payload : Bytes} {items : List Item} {declared : File}
    {file : SourceFile} (h : Renders pool declared file) (hdeclares : Declares payload items declared) :
    Parsed 6 (fun inside service =>
      service.fullName = qualify (lastText 2 items) (lastText 1 inside) ∧
      service.goName = Go.camelCase (lastText 1 inside) ∧
      Parsed 2 (fun method rpc => ∃ resolved : ResolvedMethod,
        resolved.method = Method.ofItems service.fullName method ∧
          rpcOf pool resolved = .ok rpc) inside service.methods) items file.services := by
  have hread := isSome_inner?_of_fitsStandard hdeclares.fits
  have hservices := h.services
  rw [hdeclares.file] at hservices
  refine (parsed_of_forall₂ (fun item hitem => (hread item hitem).1) hservices).imp
    fun item hitem inside hinside service ⟨hfullName, hgoName, hmethods⟩ => ⟨hfullName, hgoName, ?_⟩
  rw [hfullName]
  exact parsed_of_forall₂ ((hread item hitem).2 inside hinside) hmethods

theorem describesFile_of_renders {pool : Pool} {payload : Bytes} {items : List Item}
    {declared : File} {file : SourceFile} (h : Renders pool declared file)
    (hdeclares : Declares payload items declared) : DescribesFile items file := by
  refine ⟨?_, ?_, (h.parsed hdeclares).imp
    fun _ _ _ _ _ ⟨hfullName, hgoName, hmethods⟩ => ⟨hfullName, hgoName, hmethods.imp ?_⟩⟩
  · rw [h.name, hdeclares.file, File.ofItems]
  · rw [h.package, hdeclares.file, File.ofItems]
  · rintro _ _ _ _ _ ⟨resolved, hresolved, hrpc⟩
    obtain ⟨hname, hgoName, hclient, hserver, -⟩ := rpcOf_eq_ok hrpc
    rw [hresolved] at hname hgoName hclient hserver
    exact ⟨hname, hgoName, hclient, hserver⟩

/-- One file is parsed for each payload. -/
theorem Accepts.renders (h : Accepts payloads targets source) (hparse : source.parse = .ok files) :
    List.Forall₂ (fun payload file => ∃ items declared, Declares payload items declared ∧
      Renders source.pool declared file ∧
      (file.generate = true ↔ ∀ names ∈ targets, file.name ∈ names)) payloads files := by
  obtain ⟨htargets, declared, hdeclared, hpool, -⟩ := h.pool
  have hparsed := mem_forall₂_left (forall₂_of_parse h.pooled hparse)
  rw [← (files_of_ofFiles hpool).2.1, List.forall₂_map_right_iff] at hdeclared
  refine (forall₂_trans hdeclared hparsed).imp
    fun payload file ⟨resolved, ⟨items, hdeclares⟩, hresolved, hfile⟩ => ?_
  obtain ⟨hgenerate, hrenders⟩ := renders_of_sourceFileOf hpool hresolved hfile
  refine ⟨items, resolved.file, hdeclares, hrenders, ?_⟩
  rw [hgenerate, isTarget, htargets, hrenders.name]
  cases targets <;> simp

/-- The file that is looked up is always there: parsing fails only at the binding of a method. -/
theorem exists_of_parse_eq_error (hpooled : source.Pooled) {fault : Fault}
    (h : source.parse = .error fault) :
    ∃ resolved ∈ source.pool.files, ∃ service ∈ resolved.services, ∃ method ∈ service.methods,
      methodBinding source.pool method.method = .error fault := by
  obtain ⟨declared, hpool, hnames⟩ := hpooled
  obtain ⟨⟨definitions, hdefinitions⟩, hfiles, -⟩ := files_of_ofFiles hpool
  have hnodup := (nodup_of_collectNames hdefinitions).1
  rw [← hfiles, List.map_map] at hnodup
  obtain ⟨name, hname, hfault⟩ := exists_of_mapM_eq_error h
  rw [hnames, ← hfiles, List.map_map] at hname
  obtain ⟨resolved, hresolved, rfl⟩ := List.mem_map.mp hname
  rw [Function.comp_apply, file?_of_mem hnodup hresolved] at hfault
  rcases bind_eq_error_iff.mp hfault with hservices | ⟨_, -, hrest⟩
  · obtain ⟨service, hservice, hfault⟩ := exists_of_mapM_eq_error hservices
    rcases bind_eq_error_iff.mp hfault with hmethods | ⟨_, -, hrest⟩
    · obtain ⟨method, hmethod, hfault⟩ := exists_of_mapM_eq_error hmethods
      rcases bind_eq_error_iff.mp hfault with hbinding | ⟨_, -, hrest⟩
      · exact ⟨resolved, hresolved, service, hservice, method, hmethod, hbinding⟩
      · cases hrest
    · cases hrest
  · cases hrest

theorem fault_of_methodBinding {pool : Pool} {method : Schema.Method} {fault : Fault}
    (h : methodBinding pool method = .error fault) :
    fault = ⟨.parse, "Invalid " ++ httpOption ++ " option on " ++ method.fullName
      ++ ": malformed message"⟩ := by
  unfold methodBinding at h
  split at h
  · split at h
    · cases h
    · split at h
      · cases h
      · cases h
        rfl
  · cases h

/-- Parsing is faithful and keeps the order: each accepted payload gives one file with its name
and package, whose services and methods are those of the payload, and code is asked for it unless
there are targets and it is none of them. No file is missing from the pool. -/
theorem parse_describes (h : Accepts payloads targets source) :
    (∀ name, source.parse ≠
      .error ⟨.parse, "File " ++ name ++ " missing from descriptor pool"⟩) ∧
    ∀ files, source.parse = .ok files →
      List.Forall₂ (fun payload file => ∃ items, readItems? payload = some items ∧
        DescribesFile items file ∧
        (file.generate = true ↔ ∀ names ∈ targets, file.name ∈ names)) payloads files := by
  refine ⟨fun name hmissing => ?_, fun files hparse => ?_⟩
  · obtain ⟨_, -, _, -, method, -, hfault⟩ := exists_of_parse_eq_error h.pooled hmissing
    have htexts := congrArg (fun fault => fault.detail.toList.head?) (fault_of_methodBinding hfault)
    simp [httpOption] at htexts
  · exact (h.renders hparse).imp fun payload file ⟨items, declared, hdeclares, hrenders, htarget⟩ =>
      ⟨items, hdeclares.read, describesFile_of_renders hrenders hdeclares, htarget⟩

end Source

def Wire.Record.text (number : Nat) (text : String) : Record :=
  ⟨number, .bytes (Utf8.ofString text)⟩

def Wire.Record.message (number : Nat) (inside : List Record) : Record :=
  ⟨number, .bytes (Wire.encode inside)⟩

namespace Source

def shopPayload : Bytes := Wire.encode
  [.text 1 "shop.proto", .text 2 "shop", .message 4 [.text 1 "Req"],
   .message 6 [.text 1 "Order",
     .message 2 [.text 1 "get_order", .text 2 ".shop.Req", .text 3 "Req", ⟨6, .varint 1⟩],
     .message 2 [.text 1 "list", .text 2 ".shop.Req", .text 3 "Req"]]]

def payPayload : Bytes := Wire.encode
  [.text 1 "pay.proto", .text 2 "pay", .message 4 [.text 1 "Req"],
   .message 6 [.text 1 "Pay", .message 2 [.text 1 "Charge", .text 2 "Req", .text 3 "Req"]],
   .message 6 [.text 1 "Refund"]]

def shopSet : FileSet := ⟨[shopPayload, payPayload]⟩

/-- Code is asked for the second of two files. -/
theorem parse_describes_shop : ∃ source shop pay,
    Accepts [shopPayload, payPayload] (some ["pay.proto"]) source ∧
    source.parse = .ok [shop, pay] ∧ shop.generate = false ∧ pay.generate = true ∧
    (∃ items, readItems? shopPayload = some items ∧ DescribesFile items shop) ∧
    ∃ items, readItems? payPayload = some items ∧ DescribesFile items pay := by
  have hdecoded : FileSet.decode? shopSet.encode = some shopSet := by decide +kernel
  have hparses : (ofSet shopSet.encode).bind (fun source =>
      ((source.withTargets ["pay.proto"]).parse).map
        (fun files => files.map SourceFile.generate)) = .ok [false, true] := by decide +kernel
  obtain ⟨source, hsource, hgenerate⟩ := bind_eq_ok_iff.mp hparses
  obtain ⟨files, hfiles, hgenerate⟩ := map_eq_ok_iff.mp hgenerate
  have haccepts : Accepts [shopPayload, payPayload] (some ["pay.proto"])
      (source.withTargets ["pay.proto"]) :=
    .withTargets (.set hdecoded hsource) _
  have hforall := (parse_describes haccepts).2 files hfiles
  obtain ⟨shop, pay, rfl⟩ := List.length_eq_two.mp hforall.length_eq.symm
  obtain ⟨⟨items, hitems, hshop, -⟩, hrest⟩ := List.forall₂_cons.mp hforall
  obtain ⟨⟨others, hothers, hpay, -⟩, -⟩ := List.forall₂_cons.mp hrest
  obtain ⟨hfirst, hsecond⟩ := List.cons.inj hgenerate
  exact ⟨_, shop, pay, haccepts, hfiles, hfirst, (List.cons.inj hsecond).1,
    ⟨items, hitems, hshop⟩, others, hothers, hpay⟩

end Source
end ServiceScaffold
