import Mathlib
import ServiceScaffold.Proofs.ExportedNames
import ServiceScaffold.Proofs.TextLines

/-!
# Camel case of bytes

protoc-gen-go makes Go names of the bytes of a name: it goes from position to position, looks at
the bytes before and after, and copies the lower-case letters of a word at one go. Camel case of
characters comes to the same bytes, since only ASCII characters are treated in a special way and
their bytes are no part of any other character.
-/

namespace ServiceScaffold
namespace Go

def dot : UInt8 := 46

def underscore : UInt8 := 95

def isLowerByte (b : UInt8) : Bool :=
  97 ≤ b && b ≤ 122

def isDigitByte (b : UInt8) : Bool :=
  48 ≤ b && b ≤ 57

def upperByte (b : UInt8) : UInt8 :=
  if isLowerByte b then b - 32 else b

/-- What the algorithm writes from position `i` on. -/
def camelBytesFrom (s : Bytes) (i : Nat) : Bytes :=
  if h : i < s.length then
    let b := s[i]
    let beforeLower := s[i + 1]?.any isLowerByte
    if b = dot ∧ beforeLower then camelBytesFrom s (i + 1)
    else if b = dot then underscore :: camelBytesFrom s (i + 1)
    else if b = underscore ∧ (i = 0 ∨ s[i - 1]? = some dot) then 88 :: camelBytesFrom s (i + 1)
    else if b = underscore ∧ beforeLower then camelBytesFrom s (i + 1)
    else if isDigitByte b then b :: camelBytesFrom s (i + 1)
    else
      let run := (s.drop (i + 1)).takeWhile isLowerByte
      upperByte b :: run ++ camelBytesFrom s (i + 1 + run.length)
  else []
termination_by s.length - i
decreasing_by all_goals omega

def camelBytes (s : Bytes) : Bytes :=
  camelBytesFrom s 0

/-- What the algorithm makes of `rest` when it comes to it after `before`. -/
def camelAfter (before rest : Bytes) : Bytes :=
  camelBytesFrom (before ++ rest) before.length

def camelWord (before rest : Bytes) : Bytes :=
  rest.takeWhile isLowerByte ++
    camelAfter (before ++ rest.takeWhile isLowerByte) (rest.dropWhile isLowerByte)

def startsName (before : Bytes) : Bool :=
  before.getLast?.all (· = dot)

theorem startsName_concat (before : Bytes) (b : UInt8) :
    startsName (before ++ [b]) = decide (b = dot) := by
  simp [startsName]

theorem startsName_iff (before rest : Bytes) : startsName before = true ↔
    before.length = 0 ∨ (before ++ rest)[before.length - 1]? = some dot := by
  rcases List.eq_nil_or_concat' before with rfl | ⟨first, last, rfl⟩
  · simp [startsName]
  · simp [startsName]

theorem camelAfter_nil (before : Bytes) : camelAfter before [] = [] := by
  rw [camelAfter, camelBytesFrom, dif_neg (by simp)]

/-- One byte after another: the position is where the text is cut. -/
theorem camelAfter_cons (before : Bytes) (b : UInt8) (rest : Bytes) :
    camelAfter before (b :: rest) =
      if b = dot ∧ rest.head?.any isLowerByte then camelAfter (before ++ [b]) rest
      else if b = dot then underscore :: camelAfter (before ++ [b]) rest
      else if b = underscore ∧ startsName before then 88 :: camelAfter (before ++ [b]) rest
      else if b = underscore ∧ rest.head?.any isLowerByte then camelAfter (before ++ [b]) rest
      else if isDigitByte b then b :: camelAfter (before ++ [b]) rest
      else upperByte b :: camelWord (before ++ [b]) rest := by
  have hbyte (h : before.length < (before ++ b :: rest).length) :
      (before ++ b :: rest)[before.length] = b := by simp
  have hnext : (before ++ b :: rest)[before.length + 1]? = rest.head? := by
    simp [List.getElem?_append_right, List.head?_eq_getElem?]
  have hstep : camelBytesFrom (before ++ b :: rest) (before.length + 1) =
      camelAfter (before ++ [b]) rest := by
    simp [camelAfter]
  have hrun : (before ++ b :: rest).drop (before.length + 1) = rest := by
    simp [List.drop_append]
  have hword (run more : Bytes) (h : run ++ more = rest) :
      camelBytesFrom (before ++ b :: rest) (before.length + 1 + run.length) =
        camelAfter (before ++ [b] ++ run) more := by
    subst h
    simp [camelAfter, Nat.add_assoc, Nat.add_comm 1]
  rw [camelAfter, camelBytesFrom, dif_pos (by simp)]
  simp only [hbyte, hnext, hstep, hrun, ← startsName_iff before (b :: rest),
    hword _ _ (List.takeWhile_append_dropWhile), camelWord, List.cons_append]

theorem camelWord_of_head {rest : Bytes} (h : rest.head?.any isLowerByte = false)
    (before : Bytes) : camelWord before rest = camelAfter before rest := by
  cases rest with
  | nil => simp [camelWord]
  | cons b rest =>
    have hb : isLowerByte b = false := by simpa using h
    simp [camelWord, hb]

theorem camelWord_cons {b : UInt8} (h : isLowerByte b = true) (before rest : Bytes) :
    camelWord before (b :: rest) = b :: camelWord (before ++ [b]) rest := by
  simp [camelWord, h]

theorem utf8EncodeChar_of_lt {c : Char} (h : c.toNat < 128) :
    String.utf8EncodeChar c = [c.toUInt8] := by
  have hall : ∀ n < 128, String.utf8EncodeChar (Char.ofNat n) = [(Char.ofNat n).toUInt8] := by
    decide +kernel
  rw [← Char.ofNat_toNat c]
  exact hall c.toNat h

theorem byte_of_lt {c : Char} (h : c.toNat < 128) :
    (c.toUInt8 = dot ↔ c = '.') ∧ (c.toUInt8 = underscore ↔ c = '_') ∧
      isLowerByte c.toUInt8 = c.isLower ∧ isDigitByte c.toUInt8 = c.isDigit ∧
        String.utf8EncodeChar c.toUpper = [upperByte c.toUInt8] := by
  have hall : ∀ n < 128, ((Char.ofNat n).toUInt8 = dot ↔ Char.ofNat n = '.') ∧
      ((Char.ofNat n).toUInt8 = underscore ↔ Char.ofNat n = '_') ∧
        isLowerByte (Char.ofNat n).toUInt8 = (Char.ofNat n).isLower ∧
          isDigitByte (Char.ofNat n).toUInt8 = (Char.ofNat n).isDigit ∧
            String.utf8EncodeChar (Char.ofNat n).toUpper = [upperByte (Char.ofNat n).toUInt8] := by
    decide +kernel
  rw [← Char.ofNat_toNat c]
  exact hall c.toNat h

theorem le_of_mem_utf8EncodeChar {c : Char} (h : 128 ≤ c.toNat) :
    ∀ b ∈ String.utf8EncodeChar c, 128 ≤ b.toNat := by
  intro b hb
  by_contra hsmall
  have := (Utf8.utf8EncodeChar_of_mem_of_lt hb (by omega)).1
  omega

theorem isLowerByte_of_le {b : UInt8} (h : 128 ≤ b.toNat) : isLowerByte b = false := by
  simp [isLowerByte, UInt8.le_iff_toNat_le]
  omega

theorem isDigitByte_of_le {b : UInt8} (h : 128 ≤ b.toNat) : isDigitByte b = false := by
  simp [isDigitByte, UInt8.le_iff_toNat_le]
  omega

theorem ne_of_le {b : UInt8} (h : 128 ≤ b.toNat) : b ≠ dot ∧ b ≠ underscore := by
  constructor <;> rintro rfl <;> simp [dot, underscore] at h

theorem head?_encode (cs : List Char) :
    (Utf8.encode cs).head?.any isLowerByte = cs.head?.any Char.isLower := by
  cases cs with
  | nil => rfl
  | cons c cs =>
    rw [Utf8.encode_cons]
    by_cases hc : c.toNat < 128
    · simp [utf8EncodeChar_of_lt hc, (byte_of_lt hc).2.2.1]
    · have hhigh := le_of_mem_utf8EncodeChar (Nat.le_of_not_lt hc)
      obtain ⟨b, bs, hbytes⟩ := List.exists_cons_of_ne_nil
        (String.utf8EncodeChar_ne_nil : String.utf8EncodeChar c ≠ [])
      have hlower : c.isLower = false := by
        rw [← Bool.not_eq_true, isLower_iff]
        omega
      have hb : isLowerByte b = false := isLowerByte_of_le (hhigh b (by simp [hbytes]))
      simp [hbytes, hb, hlower]

/-- A stretch of bytes that are not ASCII begins a word and is copied. -/
theorem camelAfter_append {high : Bytes} (hne : high ≠ [])
    (hhigh : ∀ b ∈ high, 128 ≤ b.toNat) (before rest : Bytes) :
    camelAfter before (high ++ rest) = high ++ camelWord (before ++ high) rest := by
  induction high generalizing before with
  | nil => exact absurd rfl hne
  | cons b high ih =>
    rw [List.forall_mem_cons] at hhigh
    obtain ⟨hdot, hunderscore⟩ := ne_of_le hhigh.1
    rw [List.cons_append, camelAfter_cons, if_neg (by simp [hdot]), if_neg hdot,
      if_neg (by simp [hunderscore]), if_neg (by simp [hunderscore]),
      if_neg (by simp [isDigitByte_of_le hhigh.1]), upperByte,
      if_neg (by simp [isLowerByte_of_le hhigh.1])]
    cases high with
    | nil => simp
    | cons d high =>
      have hd : isLowerByte d = false := isLowerByte_of_le (hhigh.2 d List.mem_cons_self)
      rw [camelWord_of_head (by simpa using hd), ih (List.cons_ne_nil d high) hhigh.2]
      simp

/-- Camel case of characters and of their bytes come to the same, outside and inside of words. -/
structure Agrees (before : Bytes) (cs : List Char) : Prop where
  outside : Utf8.encode (camelFrom (startsName before) false cs) =
    camelAfter before (Utf8.encode cs)
  inside : startsName before = false →
    Utf8.encode (camelFrom false true cs) = camelWord before (Utf8.encode cs)

theorem outside_of_lt {c : Char} (hc : c.toNat < 128) {cs : List Char}
    (ih : ∀ before, Agrees before cs) (before : Bytes) :
    Utf8.encode (camelFrom (startsName before) false (c :: cs)) =
      camelAfter before (Utf8.encode (c :: cs)) := by
  obtain ⟨hdot, hunderscore, -, hdigit, hupper⟩ := byte_of_lt hc
  have hafter := (ih (before ++ [c.toUInt8])).outside
  have hword := (ih (before ++ [c.toUInt8])).inside
  rw [startsName_concat] at hafter hword
  have hhead := head?_encode cs
  rw [Utf8.encode_cons, utf8EncodeChar_of_lt hc, List.singleton_append, camelAfter_cons, camelFrom,
    hhead, if_neg (by simp)]
  generalize cs.head?.any Char.isLower = beforeLower at hhead ⊢
  simp only [hdot, hunderscore, hdigit] at hafter hword ⊢
  by_cases h1 : c = '.'
  · rw [decide_eq_true h1] at hafter
    rw [if_pos h1, if_pos h1]
    cases beforeLower with
    | true => rw [if_pos rfl, if_pos ⟨h1, rfl⟩, hafter]
    | false =>
      rw [if_neg Bool.false_ne_true, if_neg (by simp), Utf8.encode_cons, hafter]
      rfl
  have hdots : ¬(c = '.' ∧ beforeLower = true) := fun h => h1 h.1
  rw [decide_eq_false h1] at hafter hword
  rw [if_neg h1, if_neg hdots, if_neg h1]
  by_cases h2 : c = '_'
  · rw [if_pos h2]
    cases startsName before with
    | true =>
      rw [if_pos rfl, if_pos ⟨h2, rfl⟩, Utf8.encode_cons, hafter]
      rfl
    | false =>
      have hstart : ¬(c = '_' ∧ false = true) := fun h => Bool.false_ne_true h.2
      rw [if_neg Bool.false_ne_true, if_neg hstart]
      cases beforeLower with
      | true => rw [if_pos rfl, if_pos ⟨h2, rfl⟩, hafter]
      | false =>
        -- an underscore that stays is a word without letters
        rw [if_neg Bool.false_ne_true, if_neg hstart, camelWord_of_head hhead, ← hafter,
          Utf8.encode_cons, h2]
        rfl
  have hunderscores (p : Prop) : ¬(c = '_' ∧ p) := fun h => h2 h.1
  rw [if_neg h2, if_neg (hunderscores _), if_neg (hunderscores _)]
  by_cases h3 : c.isDigit = true
  · rw [if_pos h3, if_pos h3, Utf8.encode_cons, utf8EncodeChar_of_lt hc, hafter,
      List.singleton_append]
  · rw [if_neg h3, if_neg h3, Utf8.encode_cons, hupper, hword rfl, List.singleton_append]

theorem outside_of_le {c : Char} (hc : 128 ≤ c.toNat) {cs : List Char}
    (ih : ∀ before, Agrees before cs) (before : Bytes) :
    Utf8.encode (camelFrom (startsName before) false (c :: cs)) =
      camelAfter before (Utf8.encode (c :: cs)) := by
  have hhigh := le_of_mem_utf8EncodeChar hc
  have hne : String.utf8EncodeChar c ≠ [] := String.utf8EncodeChar_ne_nil
  have hstart : startsName (before ++ String.utf8EncodeChar c) = false := by
    obtain ⟨first, last, hlast⟩ := (List.eq_nil_or_concat' _).resolve_left hne
    have hmem : last ∈ String.utf8EncodeChar c := by simp [hlast]
    rw [hlast, ← List.append_assoc, startsName_concat]
    exact decide_eq_false (ne_of_le (hhigh last hmem)).1
  have hdot : c ≠ '.' := by
    rintro rfl
    exact absurd hc (by decide)
  have hunderscore : c ≠ '_' := by
    rintro rfl
    exact absurd hc (by decide)
  have hdigit : ¬c.isDigit = true := by
    rw [isDigit_iff]
    omega
  have hupper : c.toUpper = c := by
    refine Char.toUpper_eq_of_not_isLower ?_
    rw [isLower_iff]
    omega
  rw [camelFrom, if_neg (by simp), if_neg hdot, if_neg hunderscore, if_neg hdigit, hupper,
    Utf8.encode_cons, Utf8.encode_cons, camelAfter_append hne hhigh, (ih _).inside hstart]

theorem inside_cons {c : Char} {cs : List Char} (ih : ∀ before, Agrees before cs) {before : Bytes}
    (houtside : Utf8.encode (camelFrom false false (c :: cs)) =
      camelAfter before (Utf8.encode (c :: cs))) :
    Utf8.encode (camelFrom false true (c :: cs)) = camelWord before (Utf8.encode (c :: cs)) := by
  by_cases hlower : c.isLower = true
  · have hc : c.toNat < 128 := by
      have := isLower_iff.mp hlower
      omega
    obtain ⟨hdot, -, hbyte, -, -⟩ := byte_of_lt hc
    have hafter : startsName (before ++ [c.toUInt8]) = false := by
      rw [startsName_concat, decide_eq_false_iff_not, hdot]
      rintro rfl
      cases hlower
    rw [camelFrom, if_pos (by simp [hlower]), Utf8.encode_cons, Utf8.encode_cons,
      utf8EncodeChar_of_lt hc, List.singleton_append, List.singleton_append,
      camelWord_cons (hbyte.trans hlower), (ih _).inside hafter]
  · rw [Bool.not_eq_true] at hlower
    have hsame : camelFrom false true (c :: cs) = camelFrom false false (c :: cs) := by
      rw [camelFrom, camelFrom]
      simp only [hlower, Bool.and_false]
    have hhead : (Utf8.encode (c :: cs)).head?.any isLowerByte = false := by
      rw [head?_encode]
      exact hlower
    rw [hsame, houtside, camelWord_of_head hhead]

theorem agrees (before : Bytes) (cs : List Char) : Agrees before cs := by
  induction cs generalizing before with
  | nil => exact ⟨by simp [camelFrom, Utf8.encode, camelAfter_nil],
      fun _ => by simp [camelFrom, Utf8.encode, camelWord, camelAfter_nil]⟩
  | cons c cs ih =>
    have houtside : Utf8.encode (camelFrom (startsName before) false (c :: cs)) =
        camelAfter before (Utf8.encode (c :: cs)) := by
      rcases Nat.lt_or_ge c.toNat 128 with hc | hc
      · exact outside_of_lt hc ih before
      · exact outside_of_le hc ih before
    exact ⟨houtside, fun hstart => inside_cons ih (hstart ▸ houtside)⟩

theorem ofString_camelCase (name : String) :
    Utf8.ofString (camelCase name) = camelBytes (Utf8.ofString name) := by
  rw [Utf8.ofString, camelCase, String.toList_ofList]
  exact (agrees [] name.toList).outside

end Go
end ServiceScaffold
