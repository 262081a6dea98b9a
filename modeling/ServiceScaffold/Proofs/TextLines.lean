import Mathlib
import ServiceScaffold.Handler.Symbols

/-!
# Lines of growing text

A text that is continued on a new line keeps the lines that it had; only a carriage return at its
very end comes to belong to the line's end. The lines of encoded text are the encoded lines.
-/

namespace ServiceScaffold
namespace Text

variable {α : Type} [DecidableEq α] {feed carriage : α}

def dropCarriage (carriage : α) (line : List α) : List α :=
  if line.getLast? = some carriage then line.dropLast else line

theorem dropCarriage_cons_cons (c d : α) (line : List α) :
    dropCarriage carriage (c :: d :: line) = c :: dropCarriage carriage (d :: line) := by
  by_cases h : (d :: line).getLast? = some carriage <;>
    simp [dropCarriage, List.getLast?_cons_cons, h]

theorem dropCarriage_concat {c : α} (h : c ≠ carriage) (line : List α) :
    dropCarriage carriage (line ++ [c]) = line ++ [c] := by
  simp [dropCarriage, h]

theorem exists_dropCarriage_append {start : List α} (h : start.getLast? ≠ some carriage)
    (tail : List α) : ∃ shorter, dropCarriage carriage (start ++ tail) = start ++ shorter := by
  rcases List.eq_nil_or_concat tail with rfl | ⟨first, last, rfl⟩
  · exact ⟨[], by simp [dropCarriage, h]⟩
  · by_cases hlast : last = carriage
    · exact ⟨first, by simp [dropCarriage, hlast, ← List.append_assoc]⟩
    · exact ⟨first ++ [last], by simp [dropCarriage, hlast, ← List.append_assoc]⟩

theorem lines_cons_of_ne {c : α} {cs line : List α} {rest : List (List α)} (hc : c ≠ feed)
    (hcr : ¬(c = carriage ∧ cs.head? = some feed)) (h : lines feed carriage cs = line :: rest) :
    lines feed carriage (c :: cs) = (c :: line) :: rest := by
  simp [lines, hc, hcr, h]

theorem lines_append_feed {line : List α} (h : feed ∉ line) (rest : List α) :
    lines feed carriage (line ++ feed :: rest) =
      dropCarriage carriage line :: lines feed carriage rest := by
  induction line with
  | nil => simp [lines, dropCarriage]
  | cons c cs ih =>
    obtain ⟨hc, hcs⟩ := List.ne_and_not_mem_of_not_mem_cons h
    cases cs with
    | nil =>
      by_cases hcr : c = carriage
      · subst hcr
        simp [lines, dropCarriage, Ne.symm hc]
      · simp [lines, dropCarriage, Ne.symm hc, hcr]
    | cons d ds =>
      have hd : ¬(c = carriage ∧ (d :: ds ++ feed :: rest).head? = some feed) := by
        rintro ⟨-, hd⟩
        simp only [List.cons_append, List.head?_cons, Option.some.injEq] at hd
        simp [hd] at hcs
      rw [dropCarriage_cons_cons, List.cons_append,
        lines_cons_of_ne (Ne.symm hc) hd (ih hcs)]

theorem lines_of_not_mem {line : List α} (h : feed ∉ line) :
    lines feed carriage line = if line = [] then [] else [line] := by
  induction line with
  | nil => simp [lines]
  | cons c cs ih =>
    obtain ⟨hc, hcs⟩ := List.ne_and_not_mem_of_not_mem_cons h
    cases cs with
    | nil => simp [lines, Ne.symm hc]
    | cons d ds =>
      have hd : ¬(c = carriage ∧ (d :: ds).head? = some feed) := by
        rintro ⟨-, hd⟩
        simp only [List.head?_cons, Option.some.injEq] at hd
        simp [hd] at hcs
      rw [lines_cons_of_ne (Ne.symm hc) hd (by simpa using ih hcs)]
      simp

/-- A text is one line without an end, or a line with its end before a text. -/
theorem line_induction {motive : List α → Prop} (feed : α)
    (last : ∀ line, feed ∉ line → motive line)
    (more : ∀ line rest, feed ∉ line → motive rest → motive (line ++ feed :: rest)) (s : List α) :
    motive s := by
  suffices h : ∀ line, feed ∉ line → motive (line ++ s) from h [] (by simp)
  induction s with
  | nil =>
    intro line hline
    simpa using last line hline
  | cons c cs ih =>
    intro line hline
    by_cases hc : c = feed
    · subst hc
      exact more line cs hline (by simpa using ih [] (by simp))
    · have h := ih (line ++ [c]) (by simp [hline, Ne.symm hc])
      simpa using h

theorem not_mem_of_mem_pieces {piece s : List α} (h : piece ∈ pieces feed s) : feed ∉ piece := by
  induction s using line_induction feed with
  | last line hline =>
    rw [pieces_of_not_mem hline, List.mem_singleton] at h
    exact h ▸ hline
  | more line rest hline ih =>
    rw [pieces_append_cons hline, List.mem_cons] at h
    rcases h with rfl | h
    · exact hline
    · exact ih h

theorem lines_append (a b : List α) :
    lines feed carriage (a ++ feed :: b) =
      lines feed carriage (a ++ [feed]) ++ lines feed carriage b := by
  induction a using line_induction feed with
  | last line h => simp [lines_append_feed h, lines]
  | more line rest h ih => simp [lines_append_feed h, ih]

theorem mem_lines_append {line a : List α} (h : line ∈ lines feed carriage a) (b : List α) :
    line ∈ lines feed carriage (a ++ feed :: b) ∨
      ∃ shorter, line = shorter ++ [carriage] ∧ shorter ∈ lines feed carriage (a ++ feed :: b) := by
  induction a using line_induction feed with
  | last last hlast =>
    rw [lines_of_not_mem hlast] at h
    split at h
    · simp at h
    · obtain rfl := List.mem_singleton.mp h
      rw [lines_append_feed hlast]
      by_cases hcr : line.getLast? = some carriage
      · right
        refine ⟨line.dropLast, ?_, by simp [dropCarriage, hcr]⟩
        exact (List.dropLast_append_getLast? carriage hcr).symm
      · left
        simp [dropCarriage, hcr]
  | more first rest hfirst ih =>
    rw [lines_append_feed hfirst, List.mem_cons] at h
    rw [List.append_assoc, List.cons_append, lines_append_feed hfirst]
    rcases h with rfl | h
    · exact Or.inl (by simp)
    · rcases ih h with h' | ⟨shorter, rfl, h'⟩
      · exact Or.inl (by simp [h'])
      · exact Or.inr ⟨shorter, rfl, by simp [h']⟩

theorem exists_mem_lines {start : List α} (hfeed : feed ∉ start)
    (hend : start.getLast? ≠ some carriage) (hne : start ≠ []) (before rest : List α) :
    ∃ tail, start ++ tail ∈ lines feed carriage (before ++ feed :: (start ++ rest)) := by
  rw [lines_append]
  suffices h : ∃ tail, start ++ tail ∈ lines feed carriage (start ++ rest) by
    obtain ⟨tail, htail⟩ := h
    exact ⟨tail, List.mem_append_right _ htail⟩
  by_cases hrest : feed ∈ rest
  · obtain ⟨tail, more, rfl, htail⟩ := List.eq_append_cons_of_mem hrest
    have hline : feed ∉ start ++ tail := by simp [hfeed, htail]
    rw [← List.append_assoc, lines_append_feed hline]
    obtain ⟨shorter, hshorter⟩ := exists_dropCarriage_append hend tail
    exact ⟨shorter, by simp [hshorter]⟩
  · have hline : feed ∉ start ++ rest := by simp [hfeed, hrest]
    exact ⟨rest, by simp [lines_of_not_mem hline, hne]⟩

end Text

namespace Utf8

def IsText (content : Bytes) : Prop :=
  ∃ text : List Char, content = encode text

theorem isText_encode (text : List Char) : IsText (encode text) :=
  ⟨text, rfl⟩

/-- A byte below 128 stands for itself and is no part of a longer form. -/
theorem utf8EncodeChar_of_mem_of_lt {c : Char} {b : UInt8} (h : b ∈ String.utf8EncodeChar c)
    (hb : b.toNat < 128) : c.toNat = b.toNat ∧ String.utf8EncodeChar c = [b] := by
  have hval : c.val.toNat = c.toNat := rfl
  have hv : c.toNat < 1114112 := by
    rcases c.valid with h | h
    · exact h.trans (by decide)
    · exact h.2
  have hsmall : c.toNat < 128 := by
    by_contra hlarge
    simp only [String.utf8EncodeChar, hval, if_neg (show ¬c.toNat ≤ 127 by omega)] at h
    split at h
    · simp only [List.mem_cons, List.not_mem_nil, or_false] at h
      rcases h with rfl | rfl <;> simp at hb <;> omega
    split at h
    · simp only [List.mem_cons, List.not_mem_nil, or_false] at h
      rcases h with rfl | rfl | rfl <;> simp at hb <;> omega
    · simp only [List.mem_cons, List.not_mem_nil, or_false] at h
      rcases h with rfl | rfl | rfl | rfl <;> simp at hb <;> omega
  have hone : String.utf8EncodeChar c = [UInt8.ofNat c.toNat] := by
    simp [String.utf8EncodeChar, hval, show c.toNat ≤ 127 by omega]
  rw [hone, List.mem_singleton] at h
  subst h
  rw [toNat_ofNat_of_lt (by omega)]
  exact ⟨rfl, hone⟩

theorem encode_newline_cons (s : List Char) : encode ('\n' :: s) = 10 :: encode s := by
  rw [encode_cons]
  rfl

theorem newline_not_mem_encode {s : List Char} (h : '\n' ∉ s) : (10 : UInt8) ∉ encode s := by
  intro hmem
  obtain ⟨c, hc, hb⟩ := List.mem_flatMap.mp hmem
  obtain ⟨hn, -⟩ := utf8EncodeChar_of_mem_of_lt hb (by decide)
  exact h (Char.toNat_inj.mp (show c.toNat = ('\n' : Char).toNat from hn) ▸ hc)

theorem dropCarriage_encode (s : List Char) :
    Text.dropCarriage 13 (encode s) = encode (Text.dropCarriage '\r' s) := by
  rcases List.eq_nil_or_concat' s with rfl | ⟨first, last, rfl⟩
  · rfl
  · by_cases hlast : last = '\r'
    · subst hlast
      have henc : encode (first ++ ['\r']) = encode first ++ [13] := encode_append first ['\r']
      rw [henc]
      simp [Text.dropCarriage]
    · have hend : (encode (first ++ [last])).getLast? ≠ some 13 := by
        intro h
        rw [encode_append, encode_cons, show encode [] = [] from rfl, List.append_nil,
          List.getLast?_append_of_ne_nil _ String.utf8EncodeChar_ne_nil] at h
        obtain ⟨hn, -⟩ := utf8EncodeChar_of_mem_of_lt (List.mem_of_getLast? h) (by decide)
        exact hlast (Char.toNat_inj.mp (show last.toNat = ('\r' : Char).toNat from hn))
      simp [Text.dropCarriage, hend, hlast]

theorem lines_encode (s : List Char) :
    Text.lines 10 13 (encode s) = (Text.lines '\n' '\r' s).map encode := by
  induction s using Text.line_induction '\n' with
  | last line h =>
    rw [Text.lines_of_not_mem (newline_not_mem_encode h), Text.lines_of_not_mem h]
    cases line with
    | nil => simp [encode]
    | cons c cs => simp [encode_cons, String.utf8EncodeChar_ne_nil]
  | more line rest h ih =>
    rw [encode_append, encode_newline_cons, Text.lines_append_feed (newline_not_mem_encode h),
      Text.lines_append_feed h, ih, dropCarriage_encode]
    rfl

end Utf8

namespace Handler

theorem textLines_encode (s : List Char) : textLines (Utf8.encode s) = Text.lines '\n' '\r' s := by
  have hdecode : (Text.lines 10 13 (Utf8.encode s)).map Utf8.decode? =
      (Text.lines '\n' '\r' s).map some := by
    rw [Utf8.lines_encode, List.map_map]
    exact List.map_congr_left fun line _ => Utf8.decode?_encode line
  rw [textLines, hdecode]
  generalize Text.lines '\n' '\r' s = all
  induction all with
  | nil => rfl
  | cons line rest ih => simpa using ih

theorem mem_scanLines_encode {key : String} {s : List Char} :
    key ∈ scanLines (Utf8.encode s) ↔
      ∃ line ∈ Text.lines '\n' '\r' s, lineKey? line = some key.toList := by
  simp only [scanLines, textLines_encode, List.mem_filterMap, Option.map_eq_some_iff]
  constructor
  · rintro ⟨line, hline, chars, hkey, rfl⟩
    exact ⟨line, hline, by simpa using hkey⟩
  · rintro ⟨line, hline, hkey⟩
    exact ⟨line, hline, key.toList, hkey, by simp⟩

end Handler
end ServiceScaffold
