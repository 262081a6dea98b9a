import Mathlib
import ServiceScaffold.Proofs.ByteNames
import ServiceScaffold.Proofs.PoolDeclarations
import ServiceScaffold.Proofs.Replacement

/-!
# Go names of services, methods and messages

The Go name of a service or of a method is made of its own name. That of a message is made of the
path on which the message stands in the package of its own file: the names of the messages around
it and its own. The full name does not say where the package ends, but the file does.
-/

namespace ServiceScaffold

open Schema Wire

namespace Schema

/-- The names from an outer message down to a message that stands inside it. -/
inductive Nested : List (List Item) → List String → Prop
  | outer {messages : List (List Item)} {items : List Item} (h : items ∈ messages) :
      Nested messages [lastText 1 items]
  | inner {messages : List (List Item)} {items : List Item} {names : List String}
      (h : items ∈ messages) (rest : Nested (parts 3 items) names) :
      Nested messages (lastText 1 items :: names)

theorem Nested.mono {messages more : List (List Item)} {names : List String}
    (h : Nested messages names) (hmore : messages ⊆ more) : Nested more names := by
  cases h with
  | outer h => exact .outer (hmore h)
  | inner h rest => exact .inner (hmore h) rest

theorem Nested.ne_nil {messages : List (List Item)} {names : List String}
    (h : Nested messages names) : names ≠ [] := by
  cases h <;> simp

theorem mem_messages_foldl {message : Message} {inside : List Declarations} {own : Declarations} :
    message ∈ (inside.foldl Declarations.append own).messages ↔
      message ∈ own.messages ∨ ∃ declared ∈ inside, message ∈ declared.messages := by
  induction inside generalizing own with
  | nil => simp
  | cons declared inside ih => simp [ih, Declarations.append, or_assoc]

/-- A message is declared under the names of those around it, and its own. -/
theorem exists_nested_of_ofMessage {limit : Nat} {scope : String} {items : List Item}
    {message : Message} (h : message ∈ (Declarations.ofMessage limit scope items).messages) :
    ∃ names, Nested [items] names ∧ message.fullName = names.foldl qualify scope := by
  have hown : ∃ names, Nested [items] names ∧
      (Message.ofItems scope items).fullName = names.foldl qualify scope :=
    ⟨_, .outer List.mem_cons_self, rfl⟩
  induction limit generalizing scope items with
  | zero =>
    rw [Declarations.ofMessage, List.mem_singleton] at h
    exact h ▸ hown
  | succ limit ih =>
    rw [Declarations.ofMessage, mem_messages_foldl, List.mem_singleton] at h
    rcases h with rfl | ⟨_, hdeclared, hmessage⟩
    · exact hown
    · obtain ⟨inside, hinside, rfl⟩ := List.mem_map.mp hdeclared
      obtain ⟨names, hnested, hname⟩ := ih hmessage ⟨_, .outer List.mem_cons_self, rfl⟩
      exact ⟨_, .inner List.mem_cons_self (hnested.mono (by simpa using hinside)), hname⟩

theorem exists_nested_of_file {items : List Item} {message : Message}
    (h : message ∈ (File.ofItems items).messages) :
    ∃ names, Nested (parts 4 items) names ∧
      message.fullName = names.foldl qualify (lastText 2 items) := by
  rw [File.ofItems, mem_messages_foldl] at h
  rcases h with h | ⟨_, hdeclared, hmessage⟩
  · exact absurd h List.not_mem_nil
  · obtain ⟨inside, hinside, rfl⟩ := List.mem_map.mp hdeclared
    obtain ⟨names, hnested, hname⟩ := exists_nested_of_ofMessage hmessage
    exact ⟨names, hnested.mono (by simpa using hinside), hname⟩

/-- The path of a message inside its package: what its full name has after the package and a dot.
Without a package it is the full name, which may be spelled with a dot in front. -/
inductive InPackage (package : String) : String → String → Prop
  | below (path : String) : InPackage package (package ++ "." ++ path) path
  | alone {path : String} (hpackage : package = "") (hdot : path.toList.head? ≠ some '.') :
      InPackage package path path

theorem foldl_qualify_of_ne {package : String} (hpackage : package ≠ "") {names : List String}
    (hnames : names ≠ []) :
    names.foldl qualify package = package ++ "." ++ Text.join "." names := by
  induction names generalizing package with
  | nil => exact absurd rfl hnames
  | cons first rest ih =>
    have hfirst : qualify package first = package ++ "." ++ first := by
      simp [qualify, String.isEmpty_iff, hpackage]
    have hnext : package ++ "." ++ first ≠ "" := by
      simp
    cases rest with
    | nil => simp [hfirst, Text.join]
    | cons second rest =>
      rw [List.foldl_cons, hfirst, ih hnext (by simp)]
      simp [Text.join, String.append_assoc]

theorem foldl_qualify_empty {first : String} (hfirst : first ≠ "") (rest : List String) :
    (first :: rest).foldl qualify "" = Text.join "." (first :: rest) := by
  have hown : qualify "" first = first := by simp [qualify]
  cases rest with
  | nil => simp [hown, Text.join]
  | cons second rest =>
    rw [List.foldl_cons, hown, foldl_qualify_of_ne hfirst (by simp)]
    simp [Text.join]

theorem inPackage_localName (package : String) {names : List String} (hnames : names ≠ []) :
    InPackage package (names.foldl qualify package)
      (Source.localName package (names.foldl qualify package)) := by
  unfold Source.localName
  split
  · rename_i rest hrest
    have hfull : names.foldl qualify package = package ++ "." ++ String.ofList rest := by
      rw [← String.toList_inj, Text.dropStart?_eq_some_iff.mp hrest]
      simp
    rw [hfull]
    exact .below _
  · rename_i hnone
    rw [Text.dropStart?_eq_none_iff] at hnone
    have hpackage : package = "" := by
      by_contra hne
      refine hnone ⟨(Text.join "." names).toList, ?_⟩
      simp [foldl_qualify_of_ne hne hnames]
    subst hpackage
    refine .alone rfl fun hdot => hnone ?_
    obtain ⟨rest, hrest⟩ := List.head?_eq_some_iff.mp hdot
    exact ⟨rest, by simp [hrest]⟩

theorem ne_empty_of_isIdentifier {name : String} (h : IsIdentifier name) : name ≠ "" := by
  obtain ⟨c, cs, hchars, -⟩ := h.first
  rintro rfl
  simp at hchars

theorem InPackage.path_eq {package path : String} {names : List String} (hnames : names ≠ [])
    (hidentifiers : ∀ name ∈ names, IsIdentifier name)
    (h : InPackage package (names.foldl qualify package) path) :
    path = Text.join "." names := by
  generalize hfull : names.foldl qualify package = fullName at h
  by_cases hpackage : package = ""
  · subst hpackage
    obtain ⟨first, rest, rfl⟩ := List.exists_cons_of_ne_nil hnames
    rw [foldl_qualify_empty (ne_empty_of_isIdentifier (hidentifiers first List.mem_cons_self))]
      at hfull
    cases h with
    | alone => exact hfull.symm
    | below =>
      -- an identifier does not begin with a dot
      obtain ⟨⟨c, cs, hchars, hc⟩, -⟩ := Go.path_toList hidentifiers
      rw [hfull] at hchars
      obtain rfl : c = '.' := by simpa using (congrArg List.head? hchars).symm
      simp at hc
  · rw [foldl_qualify_of_ne hpackage hnames] at hfull
    cases h with
    | alone hempty => exact absurd hempty hpackage
    | below => simpa [← String.toList_inj] using hfull.symm

theorem Definitions.mem_of_visible? {definitions : Definitions} {files : List Nat}
    {wanted : Wanted} {name : String} {definition : Definition}
    (h : definitions.visible? files wanted name = some definition) :
    definition ∈ definitions ∧ wanted definition.kind = true := by
  obtain ⟨hfind, hwanted⟩ := Option.filter_eq_some_iff.mp h
  rw [Bool.and_eq_true] at hwanted
  exact ⟨List.mem_of_find?_eq_some hfind, hwanted.1⟩

theorem Definitions.mem_of_search {definitions : Definitions} {files : List Nat} {wanted : Wanted}
    {first name : String} {scopes : List String} {definition : Definition}
    (h : definitions.search files wanted first name scopes = some definition) :
    definition ∈ definitions ∧ wanted definition.kind = true := by
  induction scopes with
  | nil => cases h
  | cons scope scopes ih =>
    rw [Definitions.search] at h
    split at h
    · split at h
      · rename_i found hfound
        cases h
        exact mem_of_visible? hfound
      · exact ih h
    · split at h
      · split at h
        · exact mem_of_visible? h
        · exact ih h
      · exact ih h

theorem Context.mem_of_resolve {context : Context} {wanted : Wanted} {scope name : String}
    {definition : Definition} (h : context.resolve wanted scope name = .ok definition) :
    definition ∈ context.definitions ∧ wanted definition.kind = true := by
  unfold Context.resolve Definitions.resolve at h
  split at h
  · rename_i found hfound
    cases h
    split at hfound
    · exact Definitions.mem_of_visible? hfound
    · exact Definitions.mem_of_search hfound
  · cases h

theorem mem_of_foldlM_define {definitions : List Definition} {known last : Definitions}
    (h : definitions.foldlM define known = .ok last) :
    ∀ definition ∈ last, definition ∈ known ∨ definition ∈ definitions := by
  induction definitions generalizing known with
  | nil =>
    cases h
    exact fun _ => Or.inl
  | cons first rest ih =>
    obtain ⟨later, hfirst, hrest⟩ := bind_eq_ok_iff.mp h
    intro definition hmem
    rcases ih hrest definition hmem with hlater | hrest
    · unfold define at hfirst
      split at hfirst
      · cases hfirst
        rcases List.mem_append.mp hlater with hknown | hnew
        · exact Or.inl hknown
        · exact Or.inr (List.mem_cons.mpr (Or.inl (List.mem_singleton.mp hnew)))
      · split at hfirst
        · cases hfirst
          exact Or.inl hlater
        · cases hfirst
    · exact Or.inr (List.mem_cons_of_mem first hrest)

theorem exists_message_of_definitions {file : File} {position : Nat} {definition : Definition}
    (h : definition ∈ file.definitions position) (hkind : definition.kind = .message) :
    ∃ message ∈ file.messages, definition = ⟨message.fullName, .message, position⟩ := by
  have hpackages : definition ∉ file.packageDefinitions position := by
    intro hmem
    unfold File.packageDefinitions at hmem
    split at hmem
    · exact absurd hmem List.not_mem_nil
    · obtain ⟨_, -, rfl⟩ := List.mem_map.mp hmem
      cases hkind
  simp only [File.definitions, File.messageDefinitions, File.enumerationDefinitions,
    File.serviceDefinitions, List.mem_append, List.mem_flatMap, List.mem_cons, List.mem_map,
    hpackages, false_or] at h
  rcases h with ((⟨message, hmessage, (rfl | ⟨_, -, rfl⟩) | ⟨_, -, rfl⟩⟩ |
    ⟨_, -, rfl | ⟨_, -, rfl⟩⟩) | ⟨_, -, rfl | ⟨_, -, rfl⟩⟩) | ⟨_, -, rfl⟩
  · exact ⟨message, hmessage, rfl⟩
  all_goals cases hkind

theorem exists_message_of_mem {files : List File} {definitions : Definitions}
    (h : collectNames files = .ok definitions) {definition : Definition}
    (hmem : definition ∈ definitions) (hkind : definition.kind = .message) :
    ∃ file message, files[definition.file]? = some file ∧ message ∈ file.messages ∧
      definition.name = message.fullName := by
  obtain ⟨⟨⟩, -, hdefine⟩ := bind_eq_ok_iff.mp h
  rcases mem_of_foldlM_define hdefine definition hmem with hnone | hmem
  · exact absurd hnone List.not_mem_nil
  · obtain ⟨⟨file, position⟩, hfile, hmem⟩ := List.mem_flatMap.mp hmem
    rw [numbered, List.mem_zipIdx_iff_getElem?] at hfile
    obtain ⟨message, hmessage, rfl⟩ := exists_message_of_definitions hmem hkind
    exact ⟨file, message, hfile, hmessage, rfl⟩

theorem Pool.packageOf_eq {files : List File} {pool : Pool}
    (hfiles : pool.files.map ResolvedFile.file = files) {definition : Definition} {file : File}
    (h : files[definition.file]? = some file) : pool.packageOf definition = file.package := by
  rw [← hfiles, List.getElem?_map, Option.map_eq_some_iff] at h
  obtain ⟨own, hown, rfl⟩ := h
  rw [Pool.packageOf, hown, Option.elim_some]

theorem wantsMessage_iff {kind : DefinitionKind} : wantsMessage kind = true ↔ kind = .message := by
  cases kind <;> simp [wantsMessage]

theorem Context.messages_of_method {context : Context} {method : Method} {resolved : ResolvedMethod}
    (h : context.method method = .ok resolved) :
    ∀ definition ∈ [resolved.input, resolved.output],
      definition ∈ context.definitions ∧ definition.kind = .message := by
  obtain ⟨input, hinput, h⟩ := bind_eq_ok_iff.mp h
  obtain ⟨output, houtput, h⟩ := bind_eq_ok_iff.mp h
  cases h
  have hin := mem_of_resolve hinput
  have hout := mem_of_resolve houtput
  rw [wantsMessage_iff] at hin hout
  exact List.forall_mem_cons.mpr ⟨hin, List.forall_mem_singleton.mpr hout⟩

theorem exists_context_of_ofFiles {files : List File} {pool : Pool}
    (h : Pool.ofFiles files = .ok pool) :
    ∃ definitions, collectNames files = .ok definitions ∧
      ∀ resolved ∈ pool.files, ∀ service ∈ resolved.services, ∀ method ∈ service.methods,
        ∃ context : Context, context.definitions = definitions ∧
          context.method method.method = .ok method := by
  simp only [Pool.ofFiles, bind_eq_ok_iff] at h
  obtain ⟨definitions, hnames, contexts, hcontexts, _, -, _, -, _, -, resolved, hresolved, _, -, h⟩
    := h
  cases h
  have hdefinitions : ∀ context ∈ contexts, context.definitions = definitions := by
    refine forall_of_forall₂ (forall₂_of_mapM hcontexts) fun entry context hcontext => ?_
    obtain ⟨visible, -, hcontext⟩ := bind_eq_ok_iff.mp hcontext
    cases hcontext
    rfl
  refine ⟨definitions, hnames, ?_⟩
  refine forall_of_forall₂ (mem_forall₂_left (forall₂_of_mapM hresolved)) fun context file hfile => ?_
  obtain ⟨services, hservices, hmade⟩ := bind_eq_ok_iff.mp hfile.2
  cases hmade
  refine forall_of_forall₂ (forall₂_of_mapM hservices) fun declared service hservice => ?_
  obtain ⟨methods, hmethods, hservice⟩ := bind_eq_ok_iff.mp hservice
  cases hservice
  refine forall_of_forall₂ (forall₂_of_mapM hmethods) fun method found hfound => ?_
  have hown : found.method = method := by
    obtain ⟨input, -, hfound⟩ := bind_eq_ok_iff.mp hfound
    obtain ⟨output, -, hfound⟩ := bind_eq_ok_iff.mp hfound
    cases hfound
    rfl
  exact ⟨context, hdefinitions context hfile.1, hown.symm ▸ hfound⟩

/-- The methods of a pool take and return messages of its files. -/
theorem messages_of_ofFiles {files : List File} {pool : Pool} (h : Pool.ofFiles files = .ok pool) :
    ∀ resolved ∈ pool.files, ∀ service ∈ resolved.services, ∀ method ∈ service.methods,
      ∀ definition ∈ [method.input, method.output], ∃ file ∈ files, ∃ message ∈ file.messages,
        definition.name = message.fullName ∧ pool.packageOf definition = file.package := by
  obtain ⟨definitions, hnames, hmethods⟩ := exists_context_of_ofFiles h
  intro resolved hresolved service hservice method hmethod definition hdefinition
  obtain ⟨context, hcontext, hmade⟩ := hmethods resolved hresolved service hservice method hmethod
  obtain ⟨hmem, hkind⟩ := Context.messages_of_method hmade definition hdefinition
  rw [hcontext] at hmem
  obtain ⟨file, message, hat, hmessage, hname⟩ := exists_message_of_mem hnames hmem hkind
  exact ⟨file, List.mem_of_getElem? hat, message, hmessage, hname,
    Pool.packageOf_eq (files_of_ofFiles h).2.1 hat⟩

end Schema

def Go.IsNameOf (name goName : String) : Prop :=
  Utf8.ofString goName = Go.camelBytes (Utf8.ofString name)

namespace Source

variable {source : Source} {payloads : List Bytes} {targets : Option (List String)}
  {files : List SourceFile}

/-- In one of the payloads, which has this package, a message stands under these names. -/
def StandsIn (payloads : List Bytes) (package : String) (names : List String) : Prop :=
  ∃ payload ∈ payloads, ∃ items, readItems? payload = some items ∧ package = lastText 2 items ∧
    Nested (parts 4 items) names

/-- The Go name of the message with this full name is made of its path in its own package. -/
inductive NamesMessage (payloads : List Bytes) : String → String → Prop
  | of_path {package path goName : String} {names : List String}
      (stands : StandsIn payloads package names)
      (inside : InPackage package (names.foldl qualify package) path)
      (identifiers : (∀ name ∈ names, IsIdentifier name) → path = Text.join "." names)
      (named : Go.IsNameOf path goName) :
      NamesMessage payloads (names.foldl qualify package) goName

structure NamesMethod (payloads : List Bytes) (resolved : ResolvedMethod) (rpc : Rpc) : Prop where
  name : rpc.name = resolved.method.name
  goName : Go.IsNameOf resolved.method.name rpc.goName
  inputType : NamesMessage payloads resolved.input.name rpc.inputType
  outputType : NamesMessage payloads resolved.output.name rpc.outputType

structure NamesService (payloads : List Bytes) (resolved : ResolvedService) (service : Service) :
    Prop where
  goName : Go.IsNameOf resolved.service.name service.goName
  methods : List.Forall₂ (NamesMethod payloads) resolved.methods service.methods

/-- The names in a parsed file are those that protoc-gen-go makes. -/
structure NamesFile (payloads : List Bytes) (resolved : ResolvedFile) (file : SourceFile) :
    Prop where
  name : file.name = resolved.file.name
  services : List.Forall₂ (NamesService payloads) resolved.services file.services

theorem namesMessage_of_declared {declared : List File} (hdeclared : List.Forall₂ (fun payload file =>
      ∃ items, Declares payload items file) payloads declared) {pool : Pool} {definition : Definition}
    {file : File} (hfile : file ∈ declared) {message : Message} (hmessage : message ∈ file.messages)
    (hname : definition.name = message.fullName) (hpackage : pool.packageOf definition = file.package) :
    NamesMessage payloads definition.name (messageName pool definition) := by
  obtain ⟨payload, hpayload, items, hread, -, rfl⟩ := exists_left_of_forall₂ hdeclared hfile
  obtain ⟨names, hnested, hfullName⟩ := exists_nested_of_file hmessage
  have hinside := inPackage_localName (lastText 2 items) hnested.ne_nil
  have hidentifiers (h : ∀ name ∈ names, IsIdentifier name) := hinside.path_eq hnested.ne_nil h
  have hstands : StandsIn payloads (lastText 2 items) names :=
    ⟨payload, hpayload, items, hread, rfl, hnested⟩
  have hlocal : messageName pool definition =
      Go.camelCase (localName (lastText 2 items) (names.foldl qualify (lastText 2 items))) := by
    rw [messageName, hpackage, hname, hfullName]
    rfl
  rw [hlocal, hname, hfullName]
  exact .of_path hstands hinside hidentifiers (Go.ofString_camelCase _)

theorem types_of_rpcOf {pool : Pool} {resolved : ResolvedMethod} {rpc : Rpc}
    (h : rpcOf pool resolved = .ok rpc) :
    rpc.inputType = messageName pool resolved.input ∧
      rpc.outputType = messageName pool resolved.output := by
  obtain ⟨binding, -, h⟩ := bind_eq_ok_iff.mp h
  cases h
  exact ⟨rfl, rfl⟩

theorem namesMethod_of_rpcOf {pool : Pool} {resolved : ResolvedMethod} {rpc : Rpc}
    (hmessages : ∀ definition ∈ [resolved.input, resolved.output],
      NamesMessage payloads definition.name (messageName pool definition))
    (h : rpcOf pool resolved = .ok rpc) : NamesMethod payloads resolved rpc := by
  obtain ⟨hname, hgoName, -⟩ := rpcOf_eq_ok h
  obtain ⟨hinput, houtput⟩ := types_of_rpcOf h
  refine ⟨hname, ?_, ?_, ?_⟩
  · rw [hgoName]
    exact Go.ofString_camelCase _
  · rw [hinput]
    exact hmessages resolved.input (by simp)
  · rw [houtput]
    exact hmessages resolved.output (by simp)

theorem namesFile_of_sourceFileOf {pool : Pool} {generate : Bool} {resolved : ResolvedFile}
    {file : SourceFile}
    (hmessages : ∀ service ∈ resolved.services, ∀ method ∈ service.methods,
      ∀ definition ∈ [method.input, method.output],
        NamesMessage payloads definition.name (messageName pool definition))
    (h : sourceFileOf pool generate resolved = .ok file) : NamesFile payloads resolved file := by
  have hname : file.name = resolved.file.name := by
    obtain ⟨services, -, h⟩ := bind_eq_ok_iff.mp h
    cases h
    rfl
  refine ⟨hname, (mem_forall₂_left (sourceFileOf_eq_ok h)).imp fun service parsed hparsed => ?_⟩
  refine ⟨?_, (mem_forall₂_left (methods_of_serviceOf hparsed.2)).imp fun method rpc hrpc => ?_⟩
  · rw [(serviceOf_eq_ok hparsed.2).2.1]
    exact Go.ofString_camelCase _
  · exact namesMethod_of_rpcOf (hmessages service hparsed.1 method hrpc.1) hrpc.2

theorem namesFiles_of_parse (h : Accepts payloads targets source)
    (hparse : source.parse = .ok files) :
    List.Forall₂ (NamesFile payloads) source.pool.files files := by
  obtain ⟨-, declared, hdeclared, hpool, -⟩ := h.pool
  refine (mem_forall₂_left (forall₂_of_parse h.pooled hparse)).imp fun resolved file hfile => ?_
  refine namesFile_of_sourceFileOf (fun service hservice method hmethod definition hmem => ?_) hfile.2
  obtain ⟨own, hown, message, hmessage, hname, hpackage⟩ :=
    messages_of_ofFiles hpool resolved hfile.1 service hservice method hmethod definition hmem
  exact namesMessage_of_declared hdeclared hown hmessage hname hpackage

/-- Camel case of characters writes the bytes that protoc-gen-go's algorithm makes of the bytes of
the name, and so in a parsed file each Go name is what the algorithm makes: of the service's or
the method's own name, and of a message's path in its own package. -/
theorem names_of_bytes :
    (∀ name : String, Utf8.ofString (Go.camelCase name) = Go.camelBytes (Utf8.ofString name)) ∧
    ∀ (payloads : List Bytes) (targets : Option (List String)) (source : Source)
      (files : List SourceFile), Accepts payloads targets source → source.parse = .ok files →
        List.Forall₂ (NamesFile payloads) source.pool.files files :=
  ⟨Go.ofString_camelCase, fun _ _ _ _ h hparse => namesFiles_of_parse h hparse⟩

def itemsPayload : Bytes := Wire.encode
  [.text 1 "items.proto", .text 2 "shop",
   .message 4 [.text 1 "Order", .message 3 [.text 1 "line_item"]]]

def ordersPayload : Bytes := Wire.encode
  [.text 1 "orders.proto", .text 2 "shop.v1", .text 3 "items.proto", .message 4 [.text 1 "Order"],
   .message 6 [.text 1 "order_service", .message 2
     [.text 1 "_first_item", .text 2 "Order", .text 3 ".shop.Order.line_item"]]]

def ordersSet : FileSet := ⟨[itemsPayload, ordersPayload]⟩

theorem names_of_bytes_orders : ∃ source files,
    Accepts [itemsPayload, ordersPayload] none source ∧ source.parse = .ok files ∧
    (files.flatMap SourceFile.services).map (fun service => (service.goName,
      service.methods.map fun rpc => (rpc.goName, rpc.inputType, rpc.outputType))) =
        [("OrderService", [("XFirstItem", "Order", "OrderLineItem")])] ∧
    List.Forall₂ (NamesFile [itemsPayload, ordersPayload]) source.pool.files files := by
  have hdecoded : FileSet.decode? ordersSet.encode = some ordersSet := by decide +kernel
  have hparses : (ofSet ordersSet.encode).bind (fun source => source.parse.map fun files =>
      (files.flatMap SourceFile.services).map fun service => (service.goName,
        service.methods.map fun rpc => (rpc.goName, rpc.inputType, rpc.outputType))) =
          .ok [("OrderService", [("XFirstItem", "Order", "OrderLineItem")])] := by decide +kernel
  obtain ⟨source, hsource, hparsed⟩ := bind_eq_ok_iff.mp hparses
  obtain ⟨files, hfiles, hnames⟩ := map_eq_ok_iff.mp hparsed
  have haccepts : Accepts [itemsPayload, ordersPayload] none source := .set hdecoded hsource
  exact ⟨source, files, haccepts, hfiles, hnames, names_of_bytes.2 _ _ source files haccepts hfiles⟩

end Source
end ServiceScaffold
