import Mathlib
import ServiceScaffold.Proofs.ScannedText

/-!
# Code written by hand

What a merge adds to a file and reports of it depends on the file's lines that begin like
declarations, and on these only as a set: not on the bodies between them, nor on their order, their
repetition or the ends of the lines.
-/

namespace ServiceScaffold
namespace Text

variable {α : Type} [DecidableEq α]

def withCarriages (feed carriage : α) (s : List α) : List α :=
  s.flatMap fun c => if c = feed then [carriage, feed] else [c]

theorem withCarriages_of_not_mem {feed carriage : α} {line : List α} (h : feed ∉ line) :
    withCarriages feed carriage line = line := by
  rw [withCarriages, List.flatMap_congr (g := fun c => [c]), List.flatMap_singleton']
  intro c hc
  rw [if_neg (ne_of_mem_of_not_mem hc h)]

theorem withCarriages_append_feed {feed carriage : α} {line : List α} (h : feed ∉ line)
    (rest : List α) : withCarriages feed carriage (line ++ feed :: rest) =
      line ++ [carriage] ++ feed :: withCarriages feed carriage rest := by
  have hline : withCarriages feed carriage line = line := withCarriages_of_not_mem h
  rw [withCarriages] at hline
  rw [withCarriages, List.flatMap_append, hline, List.flatMap_cons, if_pos rfl]
  simp [withCarriages]

theorem lines_withCarriages {feed carriage : α} (hne : carriage ≠ feed) {s : List α}
    (h : carriage ∉ s) :
    lines feed carriage (withCarriages feed carriage s) = lines feed carriage s := by
  induction s using line_induction feed with
  | last line hline => rw [withCarriages_of_not_mem hline]
  | more line rest hline ih =>
    obtain ⟨hbefore, hafter⟩ := not_or.mp (mt List.mem_append.mpr h)
    have hrest := ih (List.not_mem_of_not_mem_cons hafter)
    have hends : feed ∉ line ++ [carriage] := by simp [hline, hne.symm]
    have hlast : line.getLast? ≠ some carriage := fun hlast =>
      hbefore (List.mem_of_getLast? hlast)
    rw [withCarriages_append_feed hline, lines_append_feed hends, lines_append_feed hline, hrest,
      dropCarriage, if_pos List.getLast?_concat, List.dropLast_concat, dropCarriage, if_neg hlast]

end Text

namespace Handler

open FileTree Text

def declarationLines (text : List Char) : Set (List Char) :=
  {line | line ∈ lines '\n' '\r' text ∧ IsDeclaration line}

theorem mem_declarationLines_line_append {line : List Char} (h : '\n' ∉ line)
    (rest found : List Char) : found ∈ declarationLines (line ++ '\n' :: rest) ↔
      (found = dropCarriage '\r' line ∧ IsDeclaration found) ∨ found ∈ declarationLines rest := by
  simp only [declarationLines, Set.mem_ofPred_eq, lines_append_feed h, List.mem_cons, or_and_right]

theorem declarationLines_line_append {line : List Char} (hfeed : '\n' ∉ line)
    (h : ¬IsDeclaration line) (rest : List Char) :
    declarationLines (line ++ '\n' :: rest) = declarationLines rest := by
  ext found
  rw [mem_declarationLines_line_append hfeed, or_iff_right]
  rintro ⟨rfl, hfound⟩
  exact h (hfound.of_shorter (dropCarriage_prefix_self line))

namespace DeclaresNothing

variable {body : List Char} (h : DeclaresNothing body)
include h

theorem declarationLines_eq : declarationLines body = ∅ := by
  refine Set.eq_empty_of_forall_notMem fun line hline => ?_
  obtain ⟨piece, hpiece, hprefix⟩ := exists_piece_of_mem_lines hline.1
  exact h piece hpiece (hline.2.of_shorter hprefix)

theorem declarationLines_append (rest : List Char) :
    declarationLines (body ++ '\n' :: rest) = declarationLines rest := by
  induction body using line_induction '\n' with
  | last line hfeed =>
    exact declarationLines_line_append hfeed (h line (by simp [pieces_of_not_mem hfeed])) rest
  | more line later hfeed ih =>
    rw [DeclaresNothing, pieces_append_cons hfeed, List.forall_mem_cons] at h
    rw [List.append_assoc, List.cons_append, declarationLines_line_append hfeed h.1]
    exact ih h.2

end DeclaresNothing

/-- The second text is the first with other bodies: lines are kept, and what stands between them is
dropped or written without any line that begins like a declaration. -/
inductive Rewritten : List Char → List Char → Prop
  | same (text : List Char) : Rewritten text text
  | last {body body' : List Char} (old : DeclaresNothing body) (new : DeclaresNothing body') :
      Rewritten body body'
  | kept {line rest rest' : List Char} (feed : '\n' ∉ line) (later : Rewritten rest rest') :
      Rewritten (line ++ '\n' :: rest) (line ++ '\n' :: rest')
  | dropped {body rest rest' : List Char} (old : DeclaresNothing body)
      (later : Rewritten rest rest') : Rewritten (body ++ '\n' :: rest) rest'
  | written {body rest rest' : List Char} (new : DeclaresNothing body)
      (later : Rewritten rest rest') : Rewritten rest (body ++ '\n' :: rest')

theorem Rewritten.declarationLines_eq {text text' : List Char} (h : Rewritten text text') :
    declarationLines text = declarationLines text' := by
  induction h with
  | same => rfl
  | last old new => rw [old.declarationLines_eq, new.declarationLines_eq]
  | kept feed later ih =>
    ext found
    rw [mem_declarationLines_line_append feed, mem_declarationLines_line_append feed, ih]
  | dropped old later ih => rw [old.declarationLines_append, ih]
  | written new later ih => rw [new.declarationLines_append, ih]

theorem declarationLines_withCarriages {text : List Char} (h : '\r' ∉ text) :
    declarationLines (withCarriages '\n' '\r' text) = declarationLines text := by
  rw [declarationLines, lines_withCarriages (by decide) h, declarationLines]

/-- Keys are found in declarations. -/
theorem mem_scanLines_congr {text text' : List Char}
    (h : declarationLines text = declarationLines text') (key : String) :
    key ∈ scanLines (Utf8.encode text) ↔ key ∈ scanLines (Utf8.encode text') := by
  have himp {text text' : List Char} (h : declarationLines text = declarationLines text')
      (hkey : key ∈ scanLines (Utf8.encode text)) : key ∈ scanLines (Utf8.encode text') := by
    obtain ⟨line, hline, hfound⟩ := mem_scanLines_encode.mp hkey
    have hmem : line ∈ declarationLines text' := h ▸ ⟨hline, isDeclaration_of_lineKey? hfound⟩
    exact mem_scanLines_encode.mpr ⟨line, hmem.1, hfound⟩
  exact ⟨himp h, himp h.symm⟩

section

variable {symbols symbols' : SymbolSet} (h : ∀ key, key ∈ symbols ↔ key ∈ symbols')
include h

theorem contains_congr (key : String) : symbols.contains key = symbols'.contains key := by
  rw [List.contains_eq_mem, List.contains_eq_mem, decide_eq_decide]
  exact h key

theorem lacksMethod_congr (receiver : String) :
    lacksMethod symbols receiver = lacksMethod symbols' receiver := by
  funext method
  rw [lacksMethod, lacksMethod, contains_congr h]

theorem missingText_congr (service : ServicePlan) :
    missingText symbols service = missingText symbols' service := by
  rw [missingText, missingText, contains_congr h, lacksMethod_congr h]

theorem summarize_congr (service : ServicePlan) (path : String) (created : Bool) :
    summarize symbols service path created = summarize symbols' service path created := by
  rw [summarize, summarize, contains_congr h, lacksMethod_congr h]

end

/-- Where a service's handler file has one of these texts, a merge adds the same bytes to it and
gives the same answer and the same table as where it has the other. -/
def MergesAlike (dir : String) (service : ServicePlan) (text text' : List Char) : Prop :=
  ∀ (preamble preamble' : Unit → Except Fault String) (tree tree' : FileTree)
    (place place' : Location) (table : Routing.Table),
    tree.find (filePath dir service) = .ok (place, .file (Utf8.encode text)) →
    tree'.find (filePath dir service) = .ok (place', .file (Utf8.encode text')) →
    ∃ (added : Bytes) (summary : Summary),
      merge scanLines dir service preamble tree table =
        ⟨tree.put place (.file (Utf8.encode text ++ added)), table.register service, false,
          .ok (.merged summary)⟩ ∧
      merge scanLines dir service preamble' tree' table =
        ⟨tree'.put place' (.file (Utf8.encode text' ++ added)), table.register service, false,
          .ok (.merged summary)⟩

theorem mergesAlike_of_declarationLines_eq {text text' : List Char}
    (h : declarationLines text = declarationLines text') (dir : String) (service : ServicePlan) :
    MergesAlike dir service text text' := by
  intro preamble preamble' tree tree' place place' table hfind hfind'
  have hsymbols := mem_scanLines_congr h
  refine ⟨Utf8.ofString (missingText (scanLines (Utf8.encode text)) service),
    summarize (scanLines (Utf8.encode text)) service (filePath dir service) false, ?_, ?_⟩
  · exact merge_of_find hfind
  · rw [missingText_congr hsymbols, summarize_congr hsymbols]
    exact merge_of_find hfind'

/-- Merging depends on a text through its lines that begin like declarations. It makes no
difference if bodies are rewritten, nor if line feeds become carriage returns with line feeds. -/
theorem merge_ignores_bodies (dir : String) (service : ServicePlan) (text : List Char) :
    (∀ text', declarationLines text = declarationLines text' →
      MergesAlike dir service text text') ∧
    (∀ text', Rewritten text text' → MergesAlike dir service text text') ∧
    ('\r' ∉ text → MergesAlike dir service text (withCarriages '\n' '\r' text)) :=
  ⟨fun _ h => mergesAlike_of_declarationLines_eq h dir service,
    fun _ h => mergesAlike_of_declarationLines_eq h.declarationLines_eq dir service,
    fun h => mergesAlike_of_declarationLines_eq (declarationLines_withCarriages h).symm dir service⟩

/-- A file with its lines in another order, with other ends of its lines, and with another body. -/
theorem merge_ignores_bodies_orders :
    MergesAlike "" (unaryService "Order" ["Get", "List"])
      "type Order\nfunc (s *Order) Get(".toList
      "func (s *Order) Get(\r\ntype Order\ntype Order".toList ∧
    MergesAlike "" (unaryService "Order" ["Get", "List"])
      "type Order\nfunc (s *Order) Get(".toList
      "type Order\r\nfunc (s *Order) Get(".toList ∧
    ∃ added : Bytes,
      (merge scanLines "" (unaryService "Order" ["Get", "List"]) (fun _ => .ok "")
        (ordersTree "func (s *Order) Get(\n\told()\n\x7d") .empty).tree.read "order.go" =
          .ok (Utf8.ofString "func (s *Order) Get(\n\told()\n\x7d" ++ added) ∧
      (merge scanLines "" (unaryService "Order" ["Get", "List"]) (fun _ => .ok "")
        (ordersTree "func (s *Order) Get(\n\tnew()\n\tdone()\n\x7d") .empty).tree.read "order.go" =
          .ok (Utf8.ofString "func (s *Order) Get(\n\tnew()\n\tdone()\n\x7d" ++ added) ∧
      (merge scanLines "" (unaryService "Order" ["Get", "List"]) (fun _ => .ok "")
        (ordersTree "func (s *Order) Get(\n\tnew()\n\tdone()\n\x7d") .empty).answer =
          .ok (.merged ⟨"order.go", false, true, ["List"], ["Get"]⟩) := by
  have hpath : filePath "" (unaryService "Order" ["Get", "List"]) = "order.go" := by
    decide +kernel
  refine ⟨?_, ?_, ?_⟩
  · refine (merge_ignores_bodies _ _ _).1 _ (Set.ext fun line => ?_)
    have hlines : lines '\n' '\r' "type Order\nfunc (s *Order) Get(".toList =
        ["type Order".toList, "func (s *Order) Get(".toList] := by decide +kernel
    have hlines' : lines '\n' '\r' "func (s *Order) Get(\r\ntype Order\ntype Order".toList =
        ["func (s *Order) Get(".toList, "type Order".toList, "type Order".toList] := by
      decide +kernel
    simp only [declarationLines, Set.mem_ofPred_eq, hlines, hlines', List.mem_cons,
      List.not_mem_nil, or_false, or_self]
    rw [or_comm]
  · have hends : withCarriages '\n' '\r' "type Order\nfunc (s *Order) Get(".toList =
        "type Order\r\nfunc (s *Order) Get(".toList := by decide +kernel
    rw [← hends]
    exact (merge_ignores_bodies _ _ _).2.2 (by decide)
  · have hhead : '\n' ∉ "func (s *Order) Get(".toList := by decide
    have hbody : DeclaresNothing "\told()\n\x7d".toList := by decide +kernel
    have hbody' : DeclaresNothing "\tnew()\n\tdone()\n\x7d".toList := by decide +kernel
    have hrewritten : Rewritten "func (s *Order) Get(\n\told()\n\x7d".toList
        "func (s *Order) Get(\n\tnew()\n\tdone()\n\x7d".toList := .kept hhead (.last hbody hbody')
    have hfind (text : String) := find_ordersTree text
    rw [← hpath] at hfind
    obtain ⟨added, summary, hold, hnew⟩ := (merge_ignores_bodies _ _ _).2.1 _ hrewritten
      (fun _ => .ok "") (fun _ => .ok "") _ _ _ _ .empty (hfind _) (hfind _)
    have hanswer : (merge scanLines "" (unaryService "Order" ["Get", "List"]) (fun _ => .ok "")
        (ordersTree "func (s *Order) Get(\n\tnew()\n\tdone()\n\x7d") .empty).answer =
          .ok (.merged ⟨"order.go", false, true, ["List"], ["Get"]⟩) := by decide +kernel
    refine ⟨added, ?_, ?_, hanswer⟩
    · rw [hold, ← hpath, Utf8.ofString]
      exact read_eq_ok_iff.mpr ⟨_, find_put_of_find (hfind _) _⟩
    · rw [hnew, ← hpath, Utf8.ofString]
      exact read_eq_ok_iff.mpr ⟨_, find_put_of_find (hfind _) _⟩

end Handler
end ServiceScaffold
