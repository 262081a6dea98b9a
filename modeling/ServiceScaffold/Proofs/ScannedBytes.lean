import Mathlib
import ServiceScaffold.Proofs.ScannedText

/-!
# Scanning bytes line by line

A handler file need not be text. Its lines are read one by one up to the first that is no text, so
the scan of any bytes can be cut where a line ends, as long as all lines before the cut are text.
-/

namespace ServiceScaffold
namespace Utf8

theorem isText_nil : IsText [] :=
  isText_encode []

theorem isText_encodeChar (c : Char) : IsText (String.utf8EncodeChar c) :=
  ⟨[c], by simp [encode]⟩

theorem isText_singleton {c : UInt8} (h : c.toNat < 128) : IsText [c] :=
  encodeChar_one h ▸ isText_encodeChar _

theorem IsText.append {a b : Bytes} (ha : IsText a) (hb : IsText b) : IsText (a ++ b) := by
  obtain ⟨s, rfl⟩ := ha
  obtain ⟨t, rfl⟩ := hb
  exact ⟨s ++ t, (encode_append s t).symm⟩

theorem decode?_eq_none_iff {content : Bytes} : decode? content = none ↔ ¬IsText content := by
  rw [Option.eq_none_iff_forall_ne_some, IsText, not_exists]
  exact forall_congr' fun text => not_congr decode?_eq_some_iff

/-- Text can be cut at every byte below 128, which is a character of its own. -/
theorem isText_append_cons {c : UInt8} (hc : c.toNat < 128) {a b : Bytes} :
    IsText (a ++ c :: b) ↔ IsText a ∧ IsText b := by
  constructor
  · rintro ⟨text, htext⟩
    induction text generalizing a with
    | nil => simp [encode] at htext
    | cons d ds ih =>
      rw [encode_cons] at htext
      rcases List.append_eq_append_iff.mp htext with ⟨later, hd, hds⟩ | ⟨later, rfl, hds⟩
      · cases later with
        | nil =>
          obtain ⟨-, hb⟩ := ih (a := []) hds
          rw [List.append_nil] at hd
          exact ⟨hd ▸ isText_encodeChar d, hb⟩
        | cons x xs =>
          obtain ⟨rfl, rfl⟩ := List.cons.inj hds
          have hmem : c ∈ String.utf8EncodeChar d := by simp [hd]
          obtain ⟨-, hone⟩ := utf8EncodeChar_of_mem_of_lt hmem hc
          rw [hone] at hd
          obtain ⟨rfl, rfl⟩ : a = [] ∧ xs = [] := by
            rcases a with _ | ⟨y, ys⟩
            · simpa using hd.symm
            · simp at hd
          exact ⟨isText_nil, ds, rfl⟩
      · obtain ⟨hlater, hb⟩ := ih hds.symm
        exact ⟨(isText_encodeChar d).append hlater, hb⟩
  · rintro ⟨ha, hb⟩
    exact ha.append ((isText_singleton hc).append hb)

theorem isText_dropCarriage {line : Bytes} :
    IsText (Text.dropCarriage 13 line) ↔ IsText line := by
  rcases List.eq_nil_or_concat' line with rfl | ⟨first, last, rfl⟩
  · rfl
  · by_cases hlast : last = 13
    · subst hlast
      rw [Text.dropCarriage, if_pos List.getLast?_concat, List.dropLast_concat,
        isText_append_cons (by decide), and_iff_left isText_nil]
    · rw [Text.dropCarriage_concat hlast]

def IsWholeLines (content : Bytes) : Prop :=
  content = [] ∨ content.getLast? = some 10

instance (content : Bytes) : Decidable (IsWholeLines content) :=
  inferInstanceAs (Decidable (_ ∨ _))

theorem IsWholeLines.eq_nil {line : Bytes} (h : IsWholeLines line) (hline : 10 ∉ line) :
    line = [] :=
  h.resolve_right fun hlast => hline (List.mem_of_getLast? hlast)

theorem isWholeLines_append_cons {line rest : Bytes} :
    IsWholeLines (line ++ 10 :: rest) ↔ IsWholeLines rest := by
  rw [IsWholeLines, IsWholeLines, List.getLast?_append_of_ne_nil _ (List.cons_ne_nil 10 rest),
    List.getLast?_cons]
  rcases List.eq_nil_or_concat' rest with rfl | ⟨first, last, rfl⟩ <;> simp

/-- Behind the lines `before`, which are text, comes `line`, which is not. -/
structure Breaks (content before line rest : Bytes) : Prop where
  cut : content = before ++ (line ++ 10 :: rest)
  whole : IsWholeLines before
  text : IsText before
  oneLine : 10 ∉ line
  broken : ¬IsText line

/-- Whole lines that are not all text have a first that is not. -/
theorem exists_breaks {content : Bytes} (h : IsWholeLines content) (hbroken : ¬IsText content) :
    ∃ before line rest, Breaks content before line rest := by
  induction content using Text.line_induction (10 : UInt8) with
  | last line hline =>
    rw [h.eq_nil hline] at hbroken
    exact absurd isText_nil hbroken
  | more line rest hline ih =>
    rw [isText_append_cons (by decide)] at hbroken
    by_cases htext : IsText line
    · obtain ⟨before, broken, later, hbreaks⟩ :=
        ih (isWholeLines_append_cons.mp h) fun hrest => hbroken ⟨htext, hrest⟩
      refine ⟨line ++ 10 :: before, broken, later, ?_, isWholeLines_append_cons.mpr hbreaks.whole,
        (isText_append_cons (by decide)).mpr ⟨htext, hbreaks.text⟩, hbreaks.oneLine,
        hbreaks.broken⟩
      rw [hbreaks.cut, List.append_assoc, List.cons_append]
    · exact ⟨[], line, rest, rfl, Or.inl rfl, isText_nil, hline, htext⟩

end Utf8

namespace Handler

open Text Utf8

/-- A line that is text is read before those that follow it. -/
theorem textLines_append_feed {line : Bytes} {text : List Char} (hline : 10 ∉ line)
    (htext : dropCarriage 13 line = encode text) (rest : Bytes) :
    textLines (line ++ 10 :: rest) = text :: textLines rest := by
  simp [textLines, lines_append_feed hline, htext, decode?_encode]

theorem textLines_of_not_isText {line : Bytes} (hline : 10 ∉ line) (hbroken : ¬IsText line)
    (rest : Bytes) : textLines (line ++ 10 :: rest) = [] := by
  have hnone : decode? (dropCarriage 13 line) = none :=
    decode?_eq_none_iff.mpr (mt isText_dropCarriage.mp hbroken)
  simp [textLines, lines_append_feed hline, hnone]

theorem textLines_append {a : Bytes} (ha : IsWholeLines a) (htext : IsText a) (b : Bytes) :
    textLines (a ++ b) = textLines a ++ textLines b := by
  induction a using line_induction (10 : UInt8) with
  | last line hline =>
    rw [ha.eq_nil hline]
    rfl
  | more line rest hline ih =>
    obtain ⟨hfirst, hrest⟩ := (isText_append_cons (by decide)).mp htext
    obtain ⟨text, hline'⟩ := isText_dropCarriage.mpr hfirst
    rw [List.append_assoc, List.cons_append, textLines_append_feed hline hline',
      textLines_append_feed hline hline', ih (isWholeLines_append_cons.mp ha) hrest,
      List.cons_append]

theorem textLines_of_breaks {content before line rest : Bytes}
    (h : Breaks content before line rest) (b : Bytes) :
    textLines (content ++ b) = textLines before := by
  rw [h.cut, List.append_assoc, textLines_append h.whole h.text, List.append_assoc,
    List.cons_append, textLines_of_not_isText h.oneLine h.broken, List.append_nil]

theorem newline_not_mem_textLines {content : Bytes} {line : List Char}
    (h : line ∈ textLines content) : '\n' ∉ line := by
  have hdecoded : some line ∈ (lines 10 13 content).map decode? := by
    obtain ⟨found, hfound, rfl⟩ := List.mem_filterMap.mp h
    exact (List.takeWhile_sublist _).subset hfound
  obtain ⟨bytes, hbytes, hline⟩ := List.mem_map.mp hdecoded
  obtain ⟨piece, hpiece, hbegins⟩ := exists_piece_of_mem_lines hbytes
  rw [decode?_eq_some_iff] at hline
  subst hline
  intro hmem
  obtain ⟨a, b, rfl⟩ := List.append_of_mem hmem
  rw [encode_append, encode_newline_cons] at hbegins
  exact not_mem_of_mem_pieces hpiece (hbegins.subset (by simp))

theorem of_mem_functionKey? {line key : List Char} (h : functionKey? line = some key) {c : Char}
    (hc : c ∈ key) : c ∈ line ∧ c ≠ ' ' := by
  obtain ⟨cut, hcut, rfl⟩ := Option.map_eq_some_iff.mp h
  obtain ⟨hbefore, hspace⟩ := List.mem_filter.mp hc
  refine ⟨?_, of_decide_eq_true hspace⟩
  have hrest := List.mem_append_left ('(' :: cut.2) hbefore
  rw [← (eq_append_of_cut? hcut).1] at hrest
  -- The search begins behind the first asterisk, if there is one.
  cases hstar : cut? '*' line with
  | none => rwa [hstar] at hrest
  | some star =>
    rw [hstar] at hrest
    rw [(eq_append_of_cut? hstar).1]
    exact List.mem_append_right _ (List.mem_cons_of_mem _ hrest)

theorem of_mem_typeKey {line : List Char} {c : Char} (hc : c ∈ typeKey line) :
    c ∈ line ∧ c ≠ ' ' := by
  obtain ⟨hshorter, hspace⟩ := List.mem_filter.mp hc
  have hstruct := (mem_replaceAll hshorter).resolve_left List.not_mem_nil
  have hline := (mem_replaceAll hstruct).resolve_left List.not_mem_nil
  exact ⟨hline, of_decide_eq_true hspace⟩

theorem of_mem_lineKey? {line key : List Char} (h : lineKey? line = some key) {c : Char}
    (hc : c ∈ key) : c ∈ line ∧ c ≠ ' ' := by
  unfold lineKey? at h
  split at h
  · exact of_mem_functionKey? h hc
  split at h
  · rw [Option.some.injEq] at h
    exact of_mem_typeKey (h ▸ hc)
  · cases h

theorem clear_of_mem_scanLines {content : Bytes} {key : String} (h : key ∈ scanLines content) :
    ' ' ∉ key.toList ∧ '\n' ∉ key.toList := by
  obtain ⟨line, hline, hkey⟩ := List.mem_filterMap.mp h
  obtain ⟨chars, hchars, rfl⟩ := Option.map_eq_some_iff.mp hkey
  rw [String.toList_ofList]
  refine ⟨fun hspace => (of_mem_lineKey? hchars hspace).2 rfl, fun hfeed => ?_⟩
  exact newline_not_mem_textLines hline (of_mem_lineKey? hchars hfeed).1

/-- The scan can be cut where a line ends. What whole lines of text declare is found before what
follows them, whatever that is. In lines that are not all text the scan stops at the first that is
not: what stands behind it makes no difference, nor does what follows. No key that is found has a
space or a line feed. -/
theorem scanLines_whole_lines {a : Bytes} (ha : IsWholeLines a) :
    (IsText a → ∀ b, scanLines (a ++ b) = scanLines a ++ scanLines b) ∧
    (¬IsText a → ∃ before line rest, Breaks a before line rest) ∧
    (∀ before line rest, Breaks a before line rest →
      ∀ b, scanLines (a ++ b) = scanLines a ∧ scanLines a = scanLines before) ∧
    ∀ content, ∀ key ∈ scanLines content, ' ' ∉ key.toList ∧ '\n' ∉ key.toList := by
  refine ⟨fun htext b => ?_, exists_breaks ha, fun before line rest h b => ?_,
    fun content key => clear_of_mem_scanLines⟩
  · rw [scanLines, textLines_append ha htext, List.filterMap_append]
    rfl
  · have hbefore := textLines_of_breaks h
    have halone := hbefore []
    rw [List.append_nil] at halone
    rw [scanLines, scanLines, scanLines, hbefore, halone]
    exact ⟨rfl, rfl⟩

def brokenOrders : Bytes :=
  ofString "type Order\r\n" ++ ([0xFF] ++ 10 :: ofString "type Item\n")

theorem scanLines_whole_lines_orders :
    IsWholeLines (ofString "type Order\r\n") ∧ IsText (ofString "type Order\r\n") ∧
    (∀ b, scanLines (ofString "type Order\r\n" ++ b) = "Order" :: scanLines b) ∧
    IsWholeLines brokenOrders ∧ ¬IsText brokenOrders ∧
    ∃ before line rest, Breaks brokenOrders before line rest ∧
      ∀ b, scanLines (brokenOrders ++ b) = ["Order"] := by
  have hwhole : IsWholeLines (ofString "type Order\r\n") := by decide +kernel
  have htext : IsText (ofString "type Order\r\n") := isText_encode _
  have hkeys : scanLines (ofString "type Order\r\n") = ["Order"] := by decide +kernel
  have hbrokenWhole : IsWholeLines brokenOrders := by decide +kernel
  have hbroken : ¬IsText brokenOrders := decode?_eq_none_iff.mp (by decide +kernel)
  have hline : ¬IsText [0xFF] := decode?_eq_none_iff.mp (by decide)
  have hbreaks : Breaks brokenOrders (ofString "type Order\r\n") [0xFF]
      (ofString "type Item\n") := ⟨rfl, hwhole, htext, by decide, hline⟩
  refine ⟨hwhole, htext, fun b => ?_, hbrokenWhole, hbroken, _, _, _, hbreaks, fun b => ?_⟩
  · rw [(scanLines_whole_lines hwhole).1 htext b, hkeys]
    rfl
  · obtain ⟨hrest, hbefore⟩ := (scanLines_whole_lines hbrokenWhole).2.2.1 _ _ _ hbreaks b
    rw [hrest, hbefore, hkeys]

end Handler
end ServiceScaffold
