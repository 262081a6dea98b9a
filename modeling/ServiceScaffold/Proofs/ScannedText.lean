import Mathlib
import ServiceScaffold.Proofs.MergeHistory

/-!
# Scanning a text part by part

The scan of a text can be cut behind every line feed, so a text that begins a new line adds its
own keys to those of the text before it and changes none of them. A text in which no line begins
like a declaration has no keys.
-/

namespace ServiceScaffold
namespace Text

variable {α : Type} [DecidableEq α] {feed carriage : α}

omit [DecidableEq α] in
theorem getLast?_append_cons {a b : List α} {c d : α} (h : (a ++ c :: b).getLast? ≠ some d) :
    b.getLast? ≠ some d := by
  intro hlast
  refine h ?_
  rw [List.getLast?_append_of_ne_nil _ (List.cons_ne_nil c b), List.getLast?_cons, hlast]
  rfl

theorem dropCarriage_prefix_self (line : List α) : dropCarriage carriage line <+: line := by
  unfold dropCarriage
  split
  · exact List.dropLast_prefix line
  · exact List.prefix_refl line

theorem exists_piece_of_mem_lines {line s : List α} (h : line ∈ lines feed carriage s) :
    ∃ piece ∈ pieces feed s, line <+: piece := by
  induction s using line_induction feed with
  | last last hlast =>
    rw [lines_of_not_mem hlast] at h
    split at h
    · simp at h
    · rw [List.mem_singleton.mp h, pieces_of_not_mem hlast]
      exact ⟨last, List.mem_singleton_self last, List.prefix_refl last⟩
  | more first rest hfirst ih =>
    rw [lines_append_feed hfirst, List.mem_cons] at h
    rw [pieces_append_cons hfirst]
    rcases h with rfl | h
    · exact ⟨first, List.mem_cons_self, dropCarriage_prefix_self first⟩
    · obtain ⟨piece, hpiece, hline⟩ := ih h
      exact ⟨piece, List.mem_cons_of_mem first hpiece, hline⟩

end Text

namespace Handler

open Text

theorem scanLines_encode (s : List Char) :
    scanLines (Utf8.encode s) =
      (lines '\n' '\r' s).filterMap fun line => (lineKey? line).map String.ofList := by
  rw [scanLines, textLines_encode]

@[simp] theorem scanLines_encode_nil : scanLines (Utf8.encode []) = [] := rfl

/-- The scan can be cut behind a line feed. -/
theorem scanLines_append_feed (a b : List Char) :
    scanLines (Utf8.encode (a ++ '\n' :: b)) =
      scanLines (Utf8.encode (a ++ ['\n'])) ++ scanLines (Utf8.encode b) := by
  rw [scanLines_encode, lines_append, List.filterMap_append, ← scanLines_encode,
    ← scanLines_encode]

/-- The end of the last line adds no key, and takes one away only with a carriage return. -/
theorem scanLines_concat_feed {s : List Char} (h : s.getLast? ≠ some '\r') :
    scanLines (Utf8.encode (s ++ ['\n'])) = scanLines (Utf8.encode s) := by
  -- Only the last line is touched, so the induction goes through the lines before it.
  induction s using line_induction '\n' with
  | last line hline =>
    rw [scanLines_encode, scanLines_encode, lines_append_feed hline, lines_of_not_mem hline,
      dropCarriage, if_neg h]
    split
    · rename_i hnil
      rw [hnil]
      rfl
    · rfl
  | more line rest hline ih =>
    have hrest := ih (getLast?_append_cons h)
    rw [scanLines_encode, scanLines_encode] at hrest ⊢
    rw [List.append_assoc, List.cons_append, lines_append_feed hline, lines_append_feed hline,
      List.filterMap_cons, List.filterMap_cons, hrest]

@[simp] theorem scanLines_feed_cons (rest : List Char) :
    scanLines (Utf8.encode ('\n' :: rest)) = scanLines (Utf8.encode rest) :=
  scanLines_append_feed [] rest

theorem scanLines_append {a b : List Char} (ha : a.getLast? ≠ some '\r')
    (hb : b = [] ∨ ∃ rest, b = '\n' :: rest) :
    scanLines (Utf8.encode (a ++ b)) =
      scanLines (Utf8.encode a) ++ scanLines (Utf8.encode b) := by
  rcases hb with rfl | ⟨rest, rfl⟩
  · simp
  · rw [scanLines_append_feed, scanLines_concat_feed ha, scanLines_feed_cons]

theorem scanLines_line {line : List Char} (h : '\n' ∉ line) :
    scanLines (Utf8.encode (line ++ ['\n'])) =
      ((lineKey? (dropCarriage '\r' line)).map String.ofList).toList := by
  rw [scanLines_encode, lines_append_feed h]
  cases hkey : lineKey? (dropCarriage '\r' line) <;> simp [lines, hkey]

def DeclaresNothing (text : List Char) : Prop :=
  ∀ piece ∈ pieces '\n' text, ¬IsDeclaration piece

instance (text : List Char) : Decidable (DeclaresNothing text) :=
  inferInstanceAs (Decidable (∀ piece ∈ pieces '\n' text, ¬IsDeclaration piece))

theorem IsDeclaration.of_shorter {line longer : List Char} (h : IsDeclaration line)
    (hp : line <+: longer) : IsDeclaration longer :=
  h.imp (fun hfunc => hfunc.trans hp) fun htype => htype.trans hp

theorem not_isDeclaration_of_head {line : List Char} (hf : line.head? ≠ some 'f')
    (ht : line.head? ≠ some 't') : ¬IsDeclaration line := by
  rintro (⟨rest, rfl⟩ | ⟨rest, rfl⟩)
  · exact hf rfl
  · exact ht rfl

theorem lineKey?_eq_none {line longer : List Char} (h : ¬IsDeclaration longer)
    (hp : line <+: longer) : lineKey? line = none := by
  cases hkey : lineKey? line with
  | none => rfl
  | some key => exact absurd ((isDeclaration_of_lineKey? hkey).of_shorter hp) h

theorem DeclaresNothing.scanLines_eq_nil {s : List Char} (h : DeclaresNothing s) :
    scanLines (Utf8.encode s) = [] := by
  rw [scanLines_encode, List.filterMap_eq_nil_iff]
  intro line hline
  obtain ⟨piece, hpiece, hprefix⟩ := exists_piece_of_mem_lines hline
  rw [lineKey?_eq_none (h piece hpiece) hprefix, Option.map_none]

theorem scanLines_line_append {line : List Char} (hfeed : '\n' ∉ line)
    (h : ¬IsDeclaration line) (rest : List Char) :
    scanLines (Utf8.encode (line ++ '\n' :: rest)) = scanLines (Utf8.encode rest) := by
  rw [scanLines_append_feed, scanLines_line hfeed,
    lineKey?_eq_none h (dropCarriage_prefix_self line)]
  rfl

end Handler
end ServiceScaffold
