/-!
# Cutting and joining text

Lists of characters cut at a separator, at a line end, or at a fixed text. Everything is
structural recursion over the list, so each function is read off its equations.
-/

namespace ServiceScaffold
namespace Text

/-- The stretches between the separators; a text without separator is one piece. -/
def pieces {α : Type} [DecidableEq α] (separator : α) : List α → List (List α)
  | [] => [[]]
  | c :: cs =>
    if c = separator then [] :: pieces separator cs
    else match pieces separator cs with
      | [] => [[c]]
      | piece :: rest => (c :: piece) :: rest

theorem pieces_ne_nil {α : Type} [DecidableEq α] (separator : α) (s : List α) :
    pieces separator s ≠ [] := by
  induction s with
  | nil => simp [pieces]
  | cons c cs ih =>
    by_cases h : c = separator
    · simp [pieces, h]
    · cases hp : pieces separator cs <;> simp [pieces, h, hp]

theorem pieces_append_cons {α : Type} [DecidableEq α] {separator : α} {before : List α}
    (h : separator ∉ before) (after : List α) :
    pieces separator (before ++ separator :: after) = before :: pieces separator after := by
  induction before with
  | nil => simp [pieces]
  | cons c cs ih =>
    obtain ⟨hc, hcs⟩ := List.ne_and_not_mem_of_not_mem_cons h
    simp [pieces, Ne.symm hc, ih hcs]

theorem pieces_of_not_mem {α : Type} [DecidableEq α] {separator : α} {s : List α}
    (h : separator ∉ s) : pieces separator s = [s] := by
  induction s with
  | nil => rfl
  | cons c cs ih =>
    obtain ⟨hc, hcs⟩ := List.ne_and_not_mem_of_not_mem_cons h
    simp [pieces, Ne.symm hc, ih hcs]

def lastPiece {α : Type} [DecidableEq α] (separator : α) (s : List α) : List α :=
  (pieces separator s).getLastD []

def cut? {α : Type} [DecidableEq α] (separator : α) : List α → Option (List α × List α)
  | [] => none
  | c :: cs =>
    if c = separator then some ([], cs)
    else (cut? separator cs).map fun (before, after) => (c :: before, after)

theorem cut?_eq_none_iff {α : Type} [DecidableEq α] {separator : α} {s : List α} :
    cut? separator s = none ↔ separator ∉ s := by
  induction s with
  | nil => simp [cut?]
  | cons c cs ih =>
    by_cases h : c = separator
    · simp [cut?, h]
    · simp [cut?, h, ih, Ne.symm h]

theorem cut?_append_cons {α : Type} [DecidableEq α] {separator : α} {before : List α}
    (h : separator ∉ before) (after : List α) :
    cut? separator (before ++ separator :: after) = some (before, after) := by
  induction before with
  | nil => simp [cut?]
  | cons c cs ih =>
    obtain ⟨hc, hcs⟩ := List.ne_and_not_mem_of_not_mem_cons h
    simp [cut?, Ne.symm hc, ih hcs]

theorem eq_append_of_cut? {α : Type} [DecidableEq α] {separator : α} {s before after : List α}
    (h : cut? separator s = some (before, after)) :
    s = before ++ separator :: after ∧ separator ∉ before := by
  induction s generalizing before with
  | nil => simp [cut?] at h
  | cons c cs ih =>
    by_cases hc : c = separator
    · simp only [cut?, hc, ↓reduceIte, Option.some.injEq, Prod.mk.injEq] at h
      simp [← h.1, ← h.2, hc]
    · simp only [cut?, hc, ↓reduceIte, Option.map_eq_some_iff, Prod.exists, Prod.mk.injEq] at h
      obtain ⟨b, a, hcut, rfl, rfl⟩ := h
      obtain ⟨rfl, hb⟩ := ih hcut
      simp [hb, Ne.symm hc]

def dropStart? {α : Type} [DecidableEq α] : List α → List α → Option (List α)
  | [], s => some s
  | _ :: _, [] => none
  | p :: ps, c :: cs => if p = c then dropStart? ps cs else none

theorem dropStart?_eq_some_iff {α : Type} [DecidableEq α] {start s rest : List α} :
    dropStart? start s = some rest ↔ s = start ++ rest := by
  induction start generalizing s with
  | nil => simp [dropStart?]
  | cons p ps ih =>
    cases s with
    | nil => simp [dropStart?]
    | cons c cs =>
      by_cases h : p = c
      · simp [dropStart?, h, ih]
      · simp [dropStart?, h, Ne.symm h]

def dropEnding? {α : Type} [DecidableEq α] (ending s : List α) : Option (List α) :=
  (dropStart? ending.reverse s.reverse).map List.reverse

def dropEndWhile {α : Type} (p : α → Bool) (s : List α) : List α :=
  (s.reverse.dropWhile p).reverse

def trim {α : Type} (p : α → Bool) (s : List α) : List α :=
  dropEndWhile p (s.dropWhile p)

/-- The lines of a text: each ends at `feed`, one `carriage` directly before the `feed` is
dropped with it, and what follows the last `feed` is a line unless it is empty. -/
def lines {α : Type} [DecidableEq α] (feed carriage : α) : List α → List (List α)
  | [] => []
  | c :: cs =>
    if c = feed then [] :: lines feed carriage cs
    else if c = carriage ∧ cs.head? = some feed then lines feed carriage cs
    else match lines feed carriage cs with
      | [] => [[c]]
      | line :: rest => (c :: line) :: rest

/-- Replacement from the left; `skip` counts the elements that an occurrence still covers. -/
def replaceFrom {α : Type} [DecidableEq α] (pattern value : List α) : Nat → List α → List α
  | _, [] => []
  | skip + 1, _ :: cs => replaceFrom pattern value skip cs
  | 0, c :: cs =>
    match dropStart? pattern (c :: cs) with
    | some _ => value ++ replaceFrom pattern value (pattern.length - 1) cs
    | none => c :: replaceFrom pattern value 0 cs

/-- Every occurrence of a non-empty pattern, taken from the left without overlap, replaced. -/
def replaceAll {α : Type} [DecidableEq α] (pattern value s : List α) : List α :=
  replaceFrom pattern value 0 s

def join (separator : String) : List String → String
  | [] => ""
  | [s] => s
  | s :: rest => s ++ separator ++ join separator rest

/-- Texts without the separator come back from between the separators. -/
theorem pieces_join {separator : String} {c : Char} (hc : separator.toList = [c]) (first : String)
    (rest : List String) (h : ∀ s ∈ first :: rest, c ∉ s.toList) :
    pieces c (join separator (first :: rest)).toList = (first :: rest).map String.toList := by
  induction rest generalizing first with
  | nil => exact pieces_of_not_mem (h first List.mem_cons_self)
  | cons second rest ih =>
    have htail : ∀ s ∈ second :: rest, c ∉ s.toList :=
      fun s hs => h s (List.mem_cons_of_mem first hs)
    simp only [join, String.toList_append, hc, List.append_assoc, List.cons_append,
      List.nil_append]
    rw [pieces_append_cons (h first List.mem_cons_self), ih second htail]
    rfl

end Text
end ServiceScaffold
