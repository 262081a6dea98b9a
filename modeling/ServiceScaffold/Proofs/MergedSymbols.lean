import Mathlib
import ServiceScaffold.Proofs.Routes
import ServiceScaffold.Proofs.StubSymbols

/-!
# Symbols of merged files

A merge adds the symbols of its service to those of the handler file, and the sets of symbols are
united: none gets lost and none appears besides. The header of a new file has no symbols, so it
makes no difference whether a merge makes the file or finds it there with its header and no more.
-/

namespace ServiceScaffold

open FileTree

def ServicePlan.symbols (service : ServicePlan) : Handler.SymbolSet :=
  service.receiver :: service.methods.map fun method =>
    Handler.methodKey service.receiver method.name

namespace Handler

open Text

/-- A text that begins a new line and ends no line with a carriage return alone. -/
structure IsBlock (text : List Char) : Prop where
  newline : ∃ rest, text = '\n' :: rest
  last : text.getLast? ≠ some '\r'

theorem isBlock_typeStub (receiver : String) : IsBlock (typeStub receiver).toList where
  newline := ⟨_, typeStub_toList receiver⟩
  last := by
    have hend : (typeStub receiver).toList =
        '\n' :: ("type ".toList ++ (receiver.toList ++ " struct \x7b".toList) ++ ['\n', '}']) ++
          ['\n'] := by
      simp [typeStub_toList]
    rw [hend, List.getLast?_concat]
    decide

theorem isBlock_methodStub (receiver : String) (method : MethodPlan) :
    IsBlock (methodStub receiver method).toList where
  newline := methodStub_newline receiver method
  last := by
    rw [getLast?_methodStub]
    decide

theorem IsBlock.getLast?_append {block : List Char} (h : IsBlock block) (s : List Char) :
    (s ++ block).getLast? ≠ some '\r' := by
  obtain ⟨rest, hrest⟩ := h.newline
  rw [List.getLast?_append_of_ne_nil s (by simp [hrest])]
  exact h.last

theorem scanLines_append_flatMap {β : Type} {block : β → List Char} (h : ∀ x, IsBlock (block x))
    {s : List Char} (hs : s.getLast? ≠ some '\r') (xs : List β) :
    scanLines (Utf8.encode (s ++ xs.flatMap block)) =
      scanLines (Utf8.encode s) ++ xs.flatMap fun x => scanLines (Utf8.encode (block x)) := by
  induction xs generalizing s with
  | nil => simp
  | cons x rest ih =>
    rw [List.flatMap_cons, ← List.append_assoc, ih ((h x).getLast?_append s),
      scanLines_append hs (Or.inr (h x).newline), List.flatMap_cons, List.append_assoc]

namespace Recognizable

variable {service : ServicePlan} (hs : Recognizable service)
include hs

theorem scanLines_typeStub :
    scanLines (Utf8.encode (typeStub service.receiver).toList) = [service.receiver] := by
  have hspace : ' ' ∉ service.receiver.toList := hs.receiver.not_mem (by decide)
  have hfeed : '\n' ∉ service.receiver.toList := hs.receiver.not_mem (by decide)
  have hstub := Handler.scanLines_typeStub hspace hfeed
  rwa [(replaceAll_eq_self_iff (by decide)).mpr hs.noType, String.ofList_toList] at hstub

theorem scanLines_missingStubs (hlines : ∀ method ∈ service.methods, OneLine method)
    (symbols : SymbolSet) :
    ((service.methods.filter (lacksMethod symbols service.receiver)).flatMap fun method =>
      scanLines (Utf8.encode (methodStub service.receiver method).toList)) =
      (service.methods.map fun method => methodKey service.receiver method.name).filter
        (!symbols.contains ·) := by
  rw [List.filter_map, List.map_eq_flatMap]
  refine List.flatMap_congr fun method hmethod => ?_
  obtain ⟨hmethod, -⟩ := List.mem_filter.mp hmethod
  exact scanLines_methodStub hs.receiver (hs.methods method hmethod) (hlines method hmethod)

end Recognizable

/-- What a merge adds to a file has the symbols that the file lacked. -/
theorem scanLines_missingText {service : ServicePlan} (hs : Recognizable service)
    (hlines : ∀ method ∈ service.methods, OneLine method) {text : List Char}
    (htext : text.getLast? ≠ some '\r') (symbols : SymbolSet) :
    scanLines (Utf8.encode text ++ Utf8.ofString (missingText symbols service)) =
      scanLines (Utf8.encode text) ++ service.symbols.filter (!symbols.contains ·) := by
  rw [Utf8.ofString, ← Utf8.encode_append, missingText_toList, ServicePlan.symbols,
    List.filter_cons, ← hs.scanLines_missingStubs hlines]
  cases hknown : symbols.contains service.receiver with
  | true =>
    simp only [if_true, List.nil_append, Bool.not_true, Bool.false_eq_true, if_false]
    exact scanLines_append_flatMap (isBlock_methodStub service.receiver) htext _
  | false =>
    have hblock := isBlock_typeStub service.receiver
    simp only [Bool.false_eq_true, if_false, Bool.not_false, if_true]
    rw [← List.append_assoc, scanLines_append_flatMap (isBlock_methodStub service.receiver)
      (hblock.getLast?_append text), scanLines_append htext (Or.inr hblock.newline),
      hs.scanLines_typeStub, List.append_assoc]
    rfl

theorem mem_scanLines_missingText {service : ServicePlan} (hs : Recognizable service)
    (hlines : ∀ method ∈ service.methods, OneLine method) {text : List Char}
    (htext : text.getLast? ≠ some '\r') {symbols : SymbolSet}
    (hsymbols : ∀ key ∈ symbols, key ∈ scanLines (Utf8.encode text)) (key : String) :
    key ∈ scanLines (Utf8.encode text ++ Utf8.ofString (missingText symbols service)) ↔
      key ∈ scanLines (Utf8.encode text) ∨ key ∈ service.symbols := by
  rw [scanLines_missingText hs hlines htext, List.mem_append, List.mem_filter,
    Bool.not_eq_true', List.contains_eq_mem, decide_eq_false_iff_not]
  constructor
  · exact Or.imp_right And.left
  · rintro (hold | hnew)
    · exact Or.inl hold
    · by_cases hknown : key ∈ symbols
      · exact Or.inl (hsymbols key hknown)
      · exact Or.inr ⟨hnew, hknown⟩

/-- A merge unites the symbols of its service with those of the text that it adds to: the preamble
of a new file, or what the file held. The text must not end in a carriage return, which a new line
behind it would take off the last line. -/
theorem symbols_of_merged {dir : String} {service : ServicePlan}
    {preamble : Unit → Except Fault String} {tree : FileTree} {table : Routing.Table}
    {summary : Summary} {text : String} (hs : Recognizable service)
    (hlines : ∀ method ∈ service.methods, OneLine method)
    (htext : text.toList.getLast? ≠ some '\r')
    (hm : (merge scanLines dir service preamble tree table).answer = .ok (.merged summary))
    (hstart : if summary.created then preamble () = .ok text
      else tree.read (filePath dir service) = .ok (Utf8.ofString text)) :
    ∃ content, (merge scanLines dir service preamble tree table).tree.read
        (filePath dir service) = .ok content ∧
      ∀ key, key ∈ scanLines content ↔
        key ∈ scanLines (Utf8.ofString text) ∨ key ∈ service.symbols := by
  have hstep := mergeStep_merge scanLines dir service preamble tree table
  generalize merge scanLines dir service preamble tree table = result at hm hstep ⊢
  cases hstep with
  | stopped | blocked | refused => cases hm
  | @created begun place absent asked opened =>
    -- A new file is not scanned, so the whole service is added, whatever the preamble declares.
    rw [answer_extend, Except.ok.injEq, Outcome.merged.injEq] at hm
    rw [← hm, summarize, if_pos rfl, asked, Except.ok.injEq] at hstart
    refine ⟨_, read_eq_ok_iff.mpr ⟨place, find_put_of_openFresh opened _⟩, fun key => ?_⟩
    rw [hstart]
    exact mem_scanLines_missingText hs hlines htext (by simp [scanLines, textLines, lines]) key
  | @extended place content found =>
    rw [answer_extend, Except.ok.injEq, Outcome.merged.injEq] at hm
    rw [← hm, summarize, if_neg Bool.false_ne_true, read_eq_ok_iff.mpr ⟨place, found⟩,
      Except.ok.injEq] at hstart
    refine ⟨_, read_eq_ok_iff.mpr ⟨place, find_put_of_find found _⟩, fun key => ?_⟩
    rw [hstart]
    exact mem_scanLines_missingText hs hlines htext (fun _ => id) key

/-- A method written by hand in a line that has not ended, and a service without it. -/
theorem symbols_of_merged_orders : ∃ content,
    "func (s *Order) Get(".toList.getLast? ≠ some '\r' ∧
    (merge scanLines "" (unaryService "Order" ["List"]) (fun _ => .ok "")
      (ordersTree "func (s *Order) Get(") .empty).answer =
        .ok (.merged ⟨"order.go", false, true, ["List"], []⟩) ∧
    (merge scanLines "" (unaryService "Order" ["List"]) (fun _ => .ok "")
      (ordersTree "func (s *Order) Get(") .empty).tree.read "order.go" = .ok content ∧
    ∀ key, key ∈ scanLines content ↔ key ∈ ["Order)Get", "Order", "Order)List"] := by
  have hplain : Recognizable (unaryService "Order" ["List"]) :=
    ⟨show IsPlain "Order" by decide, by simpa [unaryService] using (by decide : IsPlain "List"),
      show ¬"type".toList <:+: "Order".toList by decide⟩
  have hlines : ∀ method ∈ (unaryService "Order" ["List"]).methods, OneLine method := by
    intro method hmethod
    rw [List.mem_singleton.mp hmethod]
    exact ⟨by decide, by decide, by decide⟩
  have hlast : "func (s *Order) Get(".toList.getLast? ≠ some '\r' := by decide
  have hanswer : (merge scanLines "" (unaryService "Order" ["List"]) (fun _ => .ok "")
      (ordersTree "func (s *Order) Get(") .empty).answer =
        .ok (.merged ⟨"order.go", false, true, ["List"], []⟩) := by
    decide +kernel
  have hpath : filePath "" (unaryService "Order" ["List"]) = "order.go" := by decide +kernel
  have hread : (ordersTree "func (s *Order) Get(").read
      (filePath "" (unaryService "Order" ["List"])) =
        .ok (Utf8.ofString "func (s *Order) Get(") := by
    rw [hpath]
    exact read_eq_ok_iff.mpr ⟨_, find_ordersTree _⟩
  obtain ⟨content, hcontent, hkeys⟩ := symbols_of_merged hplain hlines hlast hanswer hread
  rw [hpath] at hcontent
  refine ⟨content, hlast, hanswer, hcontent, fun key => ?_⟩
  have hold : scanLines (Utf8.ofString "func (s *Order) Get(") = ["Order)Get"] := by decide +kernel
  have hnew : (unaryService "Order" ["List"]).symbols = ["Order", "Order)List"] := by decide +kernel
  rw [hkeys, hold, hnew, ← List.mem_append]
  rfl

theorem mem_pieces_append {a b rest piece : List Char} (hb : '\n' ∉ b)
    (h : piece ∈ pieces '\n' (a ++ (b ++ '\n' :: rest))) :
    piece ∈ pieces '\n' a ∨ piece = lastPiece '\n' a ++ b ∨ piece ∈ pieces '\n' rest := by
  induction a using line_induction '\n' with
  | last line hline =>
    have hclear : '\n' ∉ line ++ b := by simp [hline, hb]
    rw [← List.append_assoc, pieces_append_cons hclear, List.mem_cons] at h
    rw [lastPiece, pieces_of_not_mem hline]
    exact Or.inr h
  | more line later hline ih =>
    have hlast : lastPiece '\n' (line ++ '\n' :: later) = lastPiece '\n' later := by
      obtain ⟨first, more, hpieces⟩ := List.exists_cons_of_ne_nil (pieces_ne_nil '\n' later)
      rw [lastPiece, lastPiece, pieces_append_cons hline, hpieces]
      rfl
    rw [List.append_assoc, List.cons_append, pieces_append_cons hline, List.mem_cons] at h
    rw [hlast, pieces_append_cons hline]
    rcases h with rfl | h
    · exact Or.inl List.mem_cons_self
    · exact (ih h).imp_left (List.mem_cons_of_mem line)

/-- A line that has begun like no declaration does not become one. -/
theorem DeclaresNothing.append_line {a b rest : List Char} {c : Char} (ha : DeclaresNothing a)
    (hc : (lastPiece '\n' a).head? = some c) (hf : c ≠ 'f') (ht : c ≠ 't') (hb : '\n' ∉ b)
    (hrest : DeclaresNothing rest) : DeclaresNothing (a ++ (b ++ '\n' :: rest)) := by
  intro piece hpiece
  rcases mem_pieces_append hb hpiece with hold | rfl | hnew
  · exact ha piece hold
  · have hhead : (lastPiece '\n' a ++ b).head? = some c := by
      rw [List.head?_append, hc]
      rfl
    exact not_isDeclaration_of_head (by simp [hhead, hf]) (by simp [hhead, ht])
  · exact hrest piece hnew

theorem scanLines_header {settings : Settings} {messages : String}
    (hversion : '\n' ∉ settings.version.toList) (hpackage : '\n' ∉ settings.packageName.toList)
    (hmessages : '\n' ∉ messages.toList) :
    scanLines (Utf8.ofString (header settings messages)) = [] := by
  have hheader : (header settings messages).toList =
      "// Code generated by protoc-gen-vkit.\n// versions:\n// - protoc-gen-vkit ".toList ++
      (settings.version.toList ++ '\n' :: ("\npackage ".toList ++
      (settings.packageName.toList ++ '\n' ::
      ("\nimport (\n\tcontext \"context\"\n\tpb \"".toList ++
      ((messages.toList ++ ['"']) ++ '\n' :: ")\n".toList))))) := by
    unfold header
    simp only [String.toList_append, List.append_assoc]
    rfl
  -- Each setting ends a line that the template has begun, so no line begins with it.
  have hquoted : '\n' ∉ messages.toList ++ ['"'] := by simp [hmessages]
  have hend : DeclaresNothing ")\n".toList := by decide +kernel
  have hfirst : DeclaresNothing
      "// Code generated by protoc-gen-vkit.\n// versions:\n// - protoc-gen-vkit ".toList := by
    decide +kernel
  have hsecond : DeclaresNothing "\npackage ".toList := by decide +kernel
  have hthird : DeclaresNothing "\nimport (\n\tcontext \"context\"\n\tpb \"".toList := by
    decide +kernel
  have himport := hthird.append_line (c := '\t') (by decide +kernel) (by decide) (by decide)
    hquoted hend
  have hpackages := hsecond.append_line (c := 'p') (by decide +kernel) (by decide) (by decide)
    hpackage himport
  have hall := hfirst.append_line (c := '/') (by decide +kernel) (by decide) (by decide)
    hversion hpackages
  rw [Utf8.ofString, hheader]
  exact hall.scanLines_eq_nil

end Handler

namespace Generator

open Handler

/-- A handler file that a merge makes is the one that the merge would extend if it were there with
its header and no more: what is reported differs only in whether the file was made. -/
theorem merge_absent_eq_merge_header {generator : Generator} {file : SourceFile} {dir : String}
    {service : ServicePlan} {tree : FileTree} {messages : String} {place : Location}
    (hversion : '\n' ∉ generator.settings.version.toList)
    (hpackage : '\n' ∉ generator.settings.packageName.toList)
    (himport : Go.messageImport generator.settings generator.resolve tree file.goPackage =
      .ok messages)
    (hmessages : '\n' ∉ messages.toList)
    (habsent : tree.exists? (filePath dir service) = false)
    (hopened : tree.openFresh (filePath dir service) = .ok place)
    (preamble : Unit → Except Fault String) (table : Routing.Table) :
    ∃ (written : FileTree) (summary : Summary),
      tree.write (filePath dir service) (Utf8.ofString (header generator.settings messages)) =
        ⟨written, none⟩ ∧
      (merge scanLines dir service (fun _ => generator.preamble file tree) tree table).answer =
        .ok (.merged { summary with created := true }) ∧
      (merge scanLines dir service preamble written table).answer =
        .ok (.merged { summary with created := false }) ∧
      (merge scanLines dir service (fun _ => generator.preamble file tree) tree table).tree =
        (merge scanLines dir service preamble written table).tree ∧
      (merge scanLines dir service (fun _ => generator.preamble file tree) tree table).table =
        (merge scanLines dir service preamble written table).table := by
  have hasked : generator.preamble file tree = .ok (header generator.settings messages) := by
    rw [Generator.preamble, himport]
    rfl
  have hnone : scanLines (Utf8.ofString (header generator.settings messages)) = scanLines [] :=
    scanLines_header hversion hpackage hmessages
  refine ⟨_, summarize (scanLines []) service (filePath dir service) false,
    write_of_taken hopened rfl, ?_⟩
  rw [merge_of_opened habsent hasked hopened, merge_of_find (find_put_of_openFresh hopened _),
    hnone]
  simp only [answer_extend, tree_extend, table_extend, put_put, summarize, and_self]

/-- A service with one method in an empty directory. -/
theorem merge_absent_eq_merge_header_orders : ∃ written,
    FileTree.write ⟨[], []⟩ "order.go"
      (Utf8.ofString (header plainGenerator.settings "shop/order")) = ⟨written, none⟩ ∧
    (merge scanLines "" (unaryService "Order" ["Get"])
      (fun _ => plainGenerator.preamble ordersSource ⟨[], []⟩) ⟨[], []⟩ .empty).tree =
      (merge scanLines "" (unaryService "Order" ["Get"]) (fun _ => .ok "") written .empty).tree ∧
    (merge scanLines "" (unaryService "Order" ["Get"]) (fun _ => .ok "") written .empty).answer =
      .ok (.merged ⟨"order.go", false, true, ["Get"], []⟩) := by
  have hpath : filePath "" (unaryService "Order" ["Get"]) = "order.go" := by decide +kernel
  have himport : Go.messageImport plainGenerator.settings plainGenerator.resolve ⟨[], []⟩
      ordersSource.goPackage = .ok "shop/order" := by decide +kernel
  have habsent : FileTree.exists? ⟨[], []⟩
      (filePath "" (unaryService "Order" ["Get"])) = false := by decide +kernel
  have hopened : FileTree.openFresh ⟨[], []⟩ (filePath "" (unaryService "Order" ["Get"])) =
      .ok ["order.go"] := by decide +kernel
  obtain ⟨written, summary, hwritten, hmade, hfound, htree, -⟩ :=
    merge_absent_eq_merge_header (by decide) (by decide +kernel) himport (by decide) habsent
      hopened (fun _ => .ok "") .empty
  have hanswer : (merge scanLines "" (unaryService "Order" ["Get"])
      (fun _ => plainGenerator.preamble ordersSource ⟨[], []⟩) ⟨[], []⟩ .empty).answer =
        .ok (.merged ⟨"order.go", true, true, ["Get"], []⟩) := by decide +kernel
  rw [hmade, Except.ok.injEq, Outcome.merged.injEq] at hanswer
  rw [hpath] at hwritten
  refine ⟨written, hwritten, htree, ?_⟩
  rw [hfound]
  cases summary
  cases hanswer
  rfl

end Generator
end ServiceScaffold
