import Mathlib
import ServiceScaffold.Proofs.AppendOnly

/-!
# Histories of a handler directory

Services are merged again and again, and between merges people edit the files. A declaration that
a merge has found or written is found by every later merge, so none is ever written twice.
-/

namespace ServiceScaffold
namespace Handler

open FileTree

def IsDeclaration (line : List Char) : Prop :=
  "func ".toList <+: line ∨ "type ".toList <+: line

instance (line : List Char) : Decidable (IsDeclaration line) :=
  inferInstanceAs (Decidable (_ ∨ _))

/-- What is done to handler files by hand: they stay text, and no line that begins like a
declaration gets lost. -/
structure Edit (paths : Set String) (before after : FileTree) : Prop where
  text : TextAt paths after
  lines : ∀ path ∈ paths, ∀ place content, before.find path = .ok (place, .file content) →
    ∀ line ∈ textLines content, IsDeclaration line →
      ∃ place' content', after.find path = .ok (place', .file content') ∧ line ∈ textLines content'

/-- What a merge adds to the account of a history: nothing if it stopped or skipped the file. -/
def Merge.account (service : ServicePlan) (merge : Merge) : List (ServicePlan × Summary) :=
  match merge.answer with
  | .ok (.merged summary) => [(service, summary)]
  | _ => []

/-- The histories of the handler files at `paths` in a directory, with their accounts: merges of
services, of which nothing is asked but plain and distinct names, and edits, in any order. -/
inductive History (dir : String) (paths : Set String) :
    FileTree → List (ServicePlan × Summary) → FileTree → Prop
  | nil (tree : FileTree) : History dir paths tree [] tree
  | merge {tree last : FileTree} {rest : List (ServicePlan × Summary)} {service : ServicePlan}
      (preamble : Unit → Except Fault String) (table : Routing.Table)
      (recognizable : Recognizable service) (distinct : (service.methods.map MethodPlan.name).Nodup)
      (path : filePath dir service ∈ paths)
      (later : History dir paths (merge scanLines dir service preamble tree table).tree rest last) :
      History dir paths tree
        ((merge scanLines dir service preamble tree table).account service ++ rest) last
  | edit {tree edited last : FileTree} {rest : List (ServicePlan × Summary)}
      (edit : Edit paths tree edited) (later : History dir paths edited rest last) :
      History dir paths tree rest last

/-- The scan of the file that the path leads to finds the key. -/
def Holds (tree : FileTree) (path key : String) : Prop :=
  ∃ place content, tree.find path = .ok (place, .file content) ∧ key ∈ scanLines content

theorem isDeclaration_of_lineKey? {line key : List Char} (h : lineKey? line = some key) :
    IsDeclaration line := by
  unfold lineKey? at h
  split at h
  · rename_i hfunc
    obtain ⟨rest, hrest⟩ := Option.isSome_iff_exists.mp hfunc
    exact Or.inl ⟨rest, (Text.dropStart?_eq_some_iff.mp hrest).symm⟩
  split at h
  · rename_i htype
    obtain ⟨rest, hrest⟩ := Option.isSome_iff_exists.mp htype
    exact Or.inr ⟨rest, (Text.dropStart?_eq_some_iff.mp hrest).symm⟩
  · cases h

theorem Holds.edit {paths : Set String} {before after : FileTree} (h : Edit paths before after)
    {path key : String} (hpath : path ∈ paths) (hk : Holds before path key) :
    Holds after path key := by
  obtain ⟨place, content, hfind, hkey⟩ := hk
  obtain ⟨line, hline, hfound⟩ := List.mem_filterMap.mp hkey
  obtain ⟨found, hlineKey, rfl⟩ := Option.map_eq_some_iff.mp hfound
  obtain ⟨place', content', hfind', hline'⟩ :=
    h.lines path hpath place content hfind line hline (isDeclaration_of_lineKey? hlineKey)
  exact ⟨place', content', hfind', List.mem_filterMap.mpr ⟨line, hline', hfound⟩⟩

theorem Holds.merge {paths : Set String} {tree : FileTree} {path key : String} {dir : String}
    (hk : Holds tree path key) (ht : TextAt paths tree) (hpath : path ∈ paths)
    (hkey : '\r' ∉ key.toList) (service : ServicePlan) (preamble : Unit → Except Fault String)
    (table : Routing.Table) :
    Holds (Handler.merge scanLines dir service preamble tree table).tree path key := by
  obtain ⟨place, content, hfind, hmem⟩ := hk
  -- The empty path leads nowhere, so there is no file that need not be continued.
  have happends : Appends "" [filePath dir service] tree
      (Handler.merge scanLines dir service preamble tree table).tree :=
    Appends.merge scanLines preamble tree table (List.mem_singleton_self _)
  generalize Handler.merge scanLines dir service preamble tree table = result at happends ⊢
  obtain ⟨node, hnode, hfind'⟩ := happends.keeps.find hfind
  obtain ⟨-, -, -, hold⟩ := find_eq_ok_iff.mp hfind
  obtain ⟨new, hnew, hgrown⟩ := happends.file hold
  rw [hnew, Option.some.injEq] at hnode
  subst hnode
  have hnowhere : ¬result.tree.Leads "" place := by
    rintro ⟨node, hleads⟩
    obtain ⟨hcheck, -, -, -⟩ := find_eq_ok_iff.mp hleads
    cases hcheck
  have hcontinues := (hgrown hnowhere).continues Disk.takesAll_sound
  exact ⟨place, new, hfind',
    hcontinues.mem_scanLines (ht path hpath place content hfind) hkey hmem⟩

structure HoldsService (tree : FileTree) (dir : String) (service : ServicePlan) : Prop where
  receiver : Holds tree (filePath dir service) service.receiver
  methods : ∀ method ∈ service.methods,
    Holds tree (filePath dir service) (methodKey service.receiver method.name)

theorem HoldsService.merge {paths : Set String} {tree : FileTree} {dir : String}
    {service : ServicePlan} (h : HoldsService tree dir service) (hs : Recognizable service)
    (ht : TextAt paths tree) (hpath : filePath dir service ∈ paths) (merged : ServicePlan)
    (preamble : Unit → Except Fault String) (table : Routing.Table) :
    HoldsService (Handler.merge scanLines dir merged preamble tree table).tree dir service where
  receiver := h.receiver.merge ht hpath hs.carriage_not_mem.1 merged preamble table
  methods method hmethod := (h.methods method hmethod).merge ht hpath
    (hs.carriage_not_mem.2 method hmethod) merged preamble table

/-- The entry declares nothing that the service had, and preserves what of it is still asked for. -/
def Settled (service : ServicePlan) (entry : ServicePlan × Summary) : Prop :=
  entry.1.receiver = service.receiver → entry.2.typeAppended = false ∧
    ∀ name ∈ service.methods.map MethodPlan.name, name ∉ entry.2.appended ∧
      (name ∈ entry.1.methods.map MethodPlan.name → name ∈ entry.2.preserved)

theorem mem_account_iff {service : ServicePlan} {merge : Merge} {entry : ServicePlan × Summary} :
    entry ∈ merge.account service ↔
      entry.1 = service ∧ merge.answer = .ok (.merged entry.2) := by
  unfold Merge.account
  split
  · rename_i summary hanswer
    rw [List.mem_singleton, hanswer, Except.ok.injEq, Outcome.merged.injEq, Prod.ext_iff]
    exact and_congr_right fun _ => eq_comm
  · rename_i hnot
    simp only [List.not_mem_nil, false_iff, not_and]
    exact fun _ h => hnot _ h

theorem holdsService_of_merged {paths : Set String} {dir : String} {service : ServicePlan}
    {preamble : Unit → Except Fault String} {tree : FileTree} {table : Routing.Table}
    {summary : Summary} (hs : Recognizable service) (ht : TextAt paths tree)
    (hpath : filePath dir service ∈ paths)
    (hm : (merge scanLines dir service preamble tree table).answer = .ok (.merged summary)) :
    HoldsService (merge scanLines dir service preamble tree table).tree dir service := by
  obtain ⟨place, content, hfind, hdeclares⟩ := declares_of_merged hs ht hpath hm
  exact ⟨⟨place, content, hfind, hdeclares.receiver⟩,
    fun method hmethod => ⟨place, content, hfind, hdeclares.methods method hmethod⟩⟩

theorem mem_appended_summarize {symbols : SymbolSet} {service : ServicePlan} {path name : String}
    {created : Bool} : name ∈ (summarize symbols service path created).appended ↔
      ∃ method ∈ service.methods, method.name = name ∧
        methodKey service.receiver name ∉ symbols := by
  simp only [summarize, List.mem_map, List.mem_filter]
  constructor
  · rintro ⟨method, ⟨hmethod, hlacks⟩, rfl⟩
    refine ⟨method, hmethod, rfl, fun hkey => ?_⟩
    rw [lacksMethod_eq_false_iff.mpr hkey] at hlacks
    cases hlacks
  · rintro ⟨method, hmethod, rfl, hkey⟩
    refine ⟨method, ⟨hmethod, ?_⟩, rfl⟩
    rwa [← lacksMethod_eq_false_iff, Bool.not_eq_false] at hkey

theorem mem_preserved_summarize {symbols : SymbolSet} {service : ServicePlan} {path name : String}
    {created : Bool} : name ∈ (summarize symbols service path created).preserved ↔
      ∃ method ∈ service.methods, method.name = name ∧
        methodKey service.receiver name ∈ symbols := by
  simp only [summarize, List.mem_map, List.mem_filter, Bool.not_eq_true']
  constructor
  · rintro ⟨method, ⟨hmethod, hlacks⟩, rfl⟩
    exact ⟨method, hmethod, rfl, lacksMethod_eq_false_iff.mp hlacks⟩
  · rintro ⟨method, hmethod, rfl, hkey⟩
    exact ⟨method, ⟨hmethod, lacksMethod_eq_false_iff.mpr hkey⟩, rfl⟩

/-- A merge finds what its file holds. -/
theorem settled_of_merge {dir : String} {service : ServicePlan} {tree : FileTree}
    (hk : HoldsService tree dir service) {preamble : Unit → Except Fault String}
    {table : Routing.Table} {entry : ServicePlan × Summary}
    (hm : (merge scanLines dir entry.1 preamble tree table).answer = .ok (.merged entry.2)) :
    Settled service entry := by
  intro hreceiver
  have hpath : filePath dir entry.1 = filePath dir service := by
    rw [filePath, hreceiver, filePath]
  obtain ⟨place, content, hfind, hmem⟩ := hk.receiver
  rw [← hpath] at hfind
  rw [merge_of_find hfind, answer_extend, Except.ok.injEq, Outcome.merged.injEq] at hm
  rw [← hm]
  refine ⟨by simp [summarize, hreceiver, hmem], fun name hname => ?_⟩
  obtain ⟨method, hmethod, rfl⟩ := List.mem_map.mp hname
  obtain ⟨place', content', hfind', hkey⟩ := hk.methods method hmethod
  rw [← hpath, hfind] at hfind'
  cases hfind'
  rw [← hreceiver] at hkey
  constructor
  · rintro happended
    obtain ⟨-, -, -, hlacks⟩ := mem_appended_summarize.mp happended
    exact hlacks hkey
  · intro hasked
    obtain ⟨asked, hmem', hname'⟩ := List.mem_map.mp hasked
    exact mem_preserved_summarize.mpr ⟨asked, hmem', hname', hkey⟩

namespace History

variable {dir : String} {paths : Set String} {start last : FileTree}
  {account : List (ServicePlan × Summary)}

/-- What a file holds at the beginning of a history is settled for all of it. -/
theorem settled (h : History dir paths start account last) (ht : TextAt paths start)
    {service : ServicePlan} (hs : Recognizable service) (hpath : filePath dir service ∈ paths)
    (hk : HoldsService start dir service) : ∀ entry ∈ account, Settled service entry := by
  induction h with
  | nil tree => simp
  | @merge tree last rest merged preamble table recognizable distinct path later ih =>
    intro entry hentry
    rcases List.mem_append.mp hentry with hfirst | hrest
    · obtain ⟨rfl, hanswer⟩ := mem_account_iff.mp hfirst
      exact settled_of_merge hk hanswer
    · exact ih (ht.merge scanLines path preamble table)
        (hk.merge hs ht hpath merged preamble table) entry hrest
  | @edit tree edited last rest edit later ih =>
    exact ih edit.text ⟨hk.receiver.edit edit hpath, fun method hmethod =>
      (hk.methods method hmethod).edit edit hpath⟩

theorem pairwise_settled (h : History dir paths start account last) (ht : TextAt paths start) :
    account.Pairwise fun earlier later => Settled earlier.1 later := by
  induction h with
  | nil tree => exact .nil
  | @merge tree last rest merged preamble table recognizable distinct path later ih =>
    have ht' := ht.merge scanLines path preamble table
    refine List.pairwise_append.mpr ⟨?_, ih ht', fun earlier hearlier entry hentry => ?_⟩
    · unfold Merge.account
      split
      · exact List.pairwise_singleton _ _
      · exact .nil
    · obtain ⟨rfl, hanswer⟩ := mem_account_iff.mp hearlier
      have hholds := holdsService_of_merged recognizable ht path hanswer
      exact later.settled ht' recognizable path hholds entry hentry
  | edit edit later ih => exact ih edit.text

theorem summarized (h : History dir paths start account last) :
    ∀ entry ∈ account, (entry.1.methods.map MethodPlan.name).Nodup ∧
      ∃ symbols created, entry.2 = summarize symbols entry.1 (filePath dir entry.1) created := by
  induction h with
  | nil tree => simp
  | @merge tree last rest merged preamble table recognizable distinct path later ih =>
    intro entry hentry
    rcases List.mem_append.mp hentry with hfirst | hrest
    · obtain ⟨rfl, hanswer⟩ := mem_account_iff.mp hfirst
      exact ⟨distinct, eq_summarize_of_merged hanswer⟩
    · exact ih entry hrest
  | edit edit later ih => exact ih

end History

/-- Over a whole history each type is declared at most once and each method of each type is
declared at most once. What one merge has declared or found, every later merge of a service with
the same type finds. -/
theorem history_declares_once {dir : String} {paths : Set String} {start last : FileTree}
    {account : List (ServicePlan × Summary)} (ht : TextAt paths start)
    (h : History dir paths start account last) :
    ((account.filter fun entry => entry.2.typeAppended).map fun entry =>
      entry.1.receiver).Nodup ∧
    (account.flatMap fun entry => entry.2.appended.map fun name =>
      (entry.1.receiver, name)).Nodup ∧
    account.Pairwise fun earlier later => later.1.receiver = earlier.1.receiver →
      ∀ name, name ∈ earlier.2.appended ∨ name ∈ earlier.2.preserved →
        name ∈ later.1.methods.map MethodPlan.name →
          name ∈ later.2.preserved ∧ name ∉ later.2.appended := by
  have hsettled := h.pairwise_settled ht
  have hsummarized := h.summarized
  have hasked : ∀ entry ∈ account, ∀ name, name ∈ entry.2.appended ∨ name ∈ entry.2.preserved →
      name ∈ entry.1.methods.map MethodPlan.name := by
    intro entry hentry name hname
    obtain ⟨-, symbols, created, hsummary⟩ := hsummarized entry hentry
    rw [hsummary, mem_appended_summarize, mem_preserved_summarize] at hname
    rcases hname with ⟨method, hmethod, heq, -⟩ | ⟨method, hmethod, heq, -⟩
    all_goals exact List.mem_map.mpr ⟨method, hmethod, heq⟩
  refine ⟨?_, ?_, ?_⟩
  · rw [List.Nodup, List.pairwise_map, List.pairwise_filter]
    refine hsettled.imp fun {earlier later} hlater _ happended hreceiver => ?_
    rw [(hlater hreceiver.symm).1] at happended
    cases happended
  · refine List.nodup_flatMap.mpr ⟨fun entry hentry => ?_, ?_⟩
    · obtain ⟨hdistinct, symbols, created, hsummary⟩ := hsummarized entry hentry
      have hnodup : entry.2.appended.Nodup := by
        rw [hsummary]
        exact hdistinct.sublist (List.filter_sublist.map MethodPlan.name)
      exact hnodup.map (Prod.mk_right_injective entry.1.receiver)
    · refine hsettled.imp_of_mem fun {earlier later} hearlier _ hlater => ?_
      rintro ⟨receiver, name⟩ hfirst hsecond
      obtain ⟨_, hname, heq⟩ := List.mem_map.mp hfirst
      obtain ⟨_, hname', heq'⟩ := List.mem_map.mp hsecond
      cases heq
      obtain ⟨hreceiver, rfl⟩ := Prod.mk.inj heq'
      exact ((hlater hreceiver).2 _ (hasked earlier hearlier _ (Or.inl hname))).1 hname'
  · refine hsettled.imp_of_mem fun {earlier later} hearlier _ hlater hreceiver name hname hmem => ?_
    have hfound := (hlater hreceiver).2 name (hasked earlier hearlier name hname)
    exact ⟨hfound.2 hmem, hfound.1⟩

def unaryService (receiver : String) (names : List String) : ServicePlan where
  receiver := receiver
  fullName := receiver
  source := ""
  methods := names.map fun name => ⟨name, .post, "/" ++ name, "Req", "Resp", false, false, none⟩

def ordersTree (text : String) : FileTree :=
  ⟨[(["order.go"], .file (Utf8.ofString text))], []⟩

theorem find_ordersTree (text : String) : (ordersTree text).find "order.go" =
    .ok (["order.go"], .file (Utf8.ofString text)) :=
  find_put_of_openFresh (show openFresh ⟨[], []⟩ "order.go" = .ok ["order.go"] by decide +kernel) _

theorem textAt_ordersTree (text : String) : TextAt {"order.go"} (ordersTree text) := by
  rintro path rfl place content hfind
  rw [find_ordersTree, Except.ok.injEq, Prod.mk.injEq, Node.file.injEq] at hfind
  rw [← hfind.2]
  exact Utf8.isText_encode text.toList

/-- A file written by hand is edited and then extended by one of two methods. -/
theorem history_declares_once_orders :
    ∃ account last, TextAt {"order.go"} (ordersTree "func (s *Order) Get(") ∧
      History "" {"order.go"} (ordersTree "func (s *Order) Get(") account last ∧
      account.length = 2 ∧ account.head?.map (fun entry => entry.2.appended) = some ["List"] ∧
      (account.flatMap fun entry => entry.2.appended.map fun name =>
        (entry.1.receiver, name)).Nodup := by
  have hlines : ∀ line ∈ textLines (Utf8.ofString "func (s *Order) Get("),
      line ∈ textLines (Utf8.ofString "// Orders\nfunc (s *Order) Get(") := by decide +kernel
  have hedit : Edit {"order.go"} (ordersTree "func (s *Order) Get(")
      (ordersTree "// Orders\nfunc (s *Order) Get(") := by
    constructor
    · exact textAt_ordersTree _
    · rintro path rfl place content hfound line hline -
      rw [find_ordersTree, Except.ok.injEq, Prod.mk.injEq, Node.file.injEq] at hfound
      rw [← hfound.2] at hline
      exact ⟨_, _, find_ordersTree _, hlines line hline⟩
  have hplain (names : List String) (hnames : ∀ name ∈ names, IsPlain name) :
      Recognizable (unaryService "Order" names) :=
    ⟨show IsPlain "Order" by decide, by simpa [unaryService] using hnames,
      show ¬"type".toList <:+: "Order".toList by decide⟩
  have hpath (names : List String) :
      filePath "" (unaryService "Order" names) ∈ ({"order.go"} : Set String) := by
    show Path.join "" (fileName "Order") = "order.go"
    decide
  have hhistory : History "" {"order.go"} (ordersTree "func (s *Order) Get(") _ _ :=
    .edit hedit
      (.merge (fun _ => .ok "") .empty (hplain ["List", "Get"] (by decide)) (by decide)
        (hpath ["List", "Get"])
        (.merge (fun _ => .ok "") .empty (hplain ["List"] (by decide)) (by decide)
          (hpath ["List"]) (.nil _)))
  exact ⟨_, _, textAt_ordersTree _, hhistory, by decide +kernel, by decide +kernel,
    (history_declares_once (textAt_ordersTree _) hhistory).2.1⟩

end Handler
end ServiceScaffold
