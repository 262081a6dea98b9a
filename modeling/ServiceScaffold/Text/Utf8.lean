/-!
# Text as bytes

UTF-8 between lists of characters and lists of bytes. Only shortest forms of characters outside
the surrogate range are read, so reading accepts exactly what writing produces.
-/

namespace ServiceScaffold

/-- File contents, messages and everything else that is not known to be text. -/
abbrev Bytes := List UInt8

namespace Utf8

def encode (text : List Char) : Bytes :=
  text.flatMap String.utf8EncodeChar

theorem encode_append (a b : List Char) : encode (a ++ b) = encode a ++ encode b := by
  simp [encode]

theorem encode_cons (c : Char) (s : List Char) :
    encode (c :: s) = String.utf8EncodeChar c ++ encode s := by
  simp [encode]

def isTail (b : UInt8) : Bool :=
  0x80 ≤ b && b ≤ 0xBF

def tailBits (b : UInt8) : Nat :=
  b.toNat % 64

/-- The second byte that a three-byte form may have: no overlong form and no surrogate. -/
def isSecondOfThree (a b : UInt8) : Bool :=
  isTail b && (a != 0xE0 || 0xA0 ≤ b) && (a != 0xED || b ≤ 0x9F)

/-- The second byte that a four-byte form may have: no overlong form, nothing past U+10FFFF. -/
def isSecondOfFour (a b : UInt8) : Bool :=
  isTail b && (a != 0xF0 || 0x90 ≤ b) && (a != 0xF4 || b ≤ 0x8F)

theorem isTail_iff {b : UInt8} : isTail b = true ↔ 128 ≤ b.toNat ∧ b.toNat ≤ 191 := by
  simp [isTail, UInt8.le_iff_toNat_le]

theorem isSecondOfThree_iff {a b : UInt8} : isSecondOfThree a b = true ↔
    (128 ≤ b.toNat ∧ b.toNat ≤ 191) ∧ (a.toNat = 224 → 160 ≤ b.toNat) ∧
      (a.toNat = 237 → b.toNat ≤ 159) := by
  simp only [isSecondOfThree, Bool.and_eq_true, Bool.or_eq_true, bne_iff_ne, decide_eq_true_eq,
    isTail_iff, UInt8.le_iff_toNat_le, ← UInt8.toNat_inj, UInt8.reduceToNat, ne_eq]
  omega

theorem isSecondOfFour_iff {a b : UInt8} : isSecondOfFour a b = true ↔
    (128 ≤ b.toNat ∧ b.toNat ≤ 191) ∧ (a.toNat = 240 → 144 ≤ b.toNat) ∧
      (a.toNat = 244 → b.toNat ≤ 143) := by
  simp only [isSecondOfFour, Bool.and_eq_true, Bool.or_eq_true, bne_iff_ne, decide_eq_true_eq,
    isTail_iff, UInt8.le_iff_toNat_le, ← UInt8.toNat_inj, UInt8.reduceToNat, ne_eq]
  omega

def decode? : Bytes → Option (List Char)
  | [] => some []
  | a :: s =>
    if a < 0x80 then
      (decode? s).map (Char.ofNat a.toNat :: ·)
    else match s with
      | [] => none
      | b :: s =>
        if 0xC2 ≤ a && a ≤ 0xDF then
          if isTail b then
            (decode? s).map (Char.ofNat (a.toNat % 32 * 64 + tailBits b) :: ·)
          else none
        else match s with
          | [] => none
          | c :: s =>
            if 0xE0 ≤ a && a ≤ 0xEF then
              if isSecondOfThree a b && isTail c then
                (decode? s).map
                  (Char.ofNat ((a.toNat % 16 * 64 + tailBits b) * 64 + tailBits c) :: ·)
              else none
            else match s with
              | [] => none
              | d :: s =>
                if 0xF0 ≤ a && a ≤ 0xF4 && isSecondOfFour a b && isTail c && isTail d then
                  (decode? s).map (Char.ofNat
                    (((a.toNat % 8 * 64 + tailBits b) * 64 + tailBits c) * 64 + tailBits d) :: ·)
                else none

theorem toNat_ofNat_of_lt {n : Nat} (h : n < 256) : (UInt8.ofNat n).toNat = n := by
  simp [Nat.mod_eq_of_lt h]

/-! Reading a form of one, two, three or four bytes, given what its bytes are. -/

theorem decode?_one {a : UInt8} {c : Char} (ha : a.toNat < 128) (hc : Char.ofNat a.toNat = c)
    (s : Bytes) : decode? (a :: s) = (decode? s).map (c :: ·) := by
  have : a < 0x80 := UInt8.lt_iff_toNat_lt.2 ha
  rw [decode?.eq_def]
  simp [this, hc]

theorem decode?_two {a b : UInt8} {n : Nat} (h : 128 ≤ n ∧ n < 2048)
    (ha : a.toNat = n / 64 % 32 + 192) (hb : b.toNat = n % 64 + 128) (s : Bytes) :
    decode? (a :: b :: s) = (decode? s).map (Char.ofNat n :: ·) := by
  have e : a.toNat % 32 * 64 + tailBits b = n := by simp only [tailBits]; omega
  have a1 : ¬ a < 0x80 := by rw [UInt8.lt_iff_toNat_lt]; simp; omega
  have a2 : 0xC2 ≤ a := by rw [UInt8.le_iff_toNat_le]; simp; omega
  have a3 : a ≤ 0xDF := by rw [UInt8.le_iff_toNat_le]; simp; omega
  have b1 : isTail b = true := isTail_iff.mpr (by omega)
  rw [decode?.eq_def]
  simp [a1, a2, a3, b1, e]

theorem decode?_three {a b d : UInt8} {n : Nat} (h : 2048 ≤ n ∧ n < 65536)
    (hv : n < 55296 ∨ 57343 < n) (ha : a.toNat = n / 4096 % 16 + 224)
    (hb : b.toNat = n / 64 % 64 + 128) (hd : d.toNat = n % 64 + 128) (s : Bytes) :
    decode? (a :: b :: d :: s) = (decode? s).map (Char.ofNat n :: ·) := by
  have e : (a.toNat % 16 * 64 + tailBits b) * 64 + tailBits d = n := by
    simp only [tailBits]; omega
  have a1 : ¬ a < 0x80 := by rw [UInt8.lt_iff_toNat_lt]; simp; omega
  have a2 : ¬ a ≤ 0xDF := by rw [UInt8.le_iff_toNat_le]; simp; omega
  have a3 : 0xE0 ≤ a := by rw [UInt8.le_iff_toNat_le]; simp; omega
  have a4 : a ≤ 0xEF := by rw [UInt8.le_iff_toNat_le]; simp; omega
  have b1 : isSecondOfThree a b = true := isSecondOfThree_iff.mpr (by omega)
  have d1 : isTail d = true := isTail_iff.mpr (by omega)
  rw [decode?.eq_def]
  simp [a1, a2, a3, a4, b1, d1, e]

theorem decode?_four {a b d x : UInt8} {n : Nat} (h : 65536 ≤ n ∧ n < 1114112)
    (ha : a.toNat = n / 262144 % 8 + 240) (hb : b.toNat = n / 4096 % 64 + 128)
    (hd : d.toNat = n / 64 % 64 + 128) (hx : x.toNat = n % 64 + 128) (s : Bytes) :
    decode? (a :: b :: d :: x :: s) = (decode? s).map (Char.ofNat n :: ·) := by
  have e : ((a.toNat % 8 * 64 + tailBits b) * 64 + tailBits d) * 64 + tailBits x = n := by
    simp only [tailBits]; omega
  have a1 : ¬ a < 0x80 := by rw [UInt8.lt_iff_toNat_lt]; simp; omega
  have a2 : ¬ a ≤ 0xDF := by rw [UInt8.le_iff_toNat_le]; simp; omega
  have a3 : ¬ a ≤ 0xEF := by rw [UInt8.le_iff_toNat_le]; simp; omega
  have a4 : 0xF0 ≤ a := by rw [UInt8.le_iff_toNat_le]; simp; omega
  have a5 : a ≤ 0xF4 := by rw [UInt8.le_iff_toNat_le]; simp; omega
  have b1 : isSecondOfFour a b = true := isSecondOfFour_iff.mpr (by omega)
  have d1 : isTail d = true := isTail_iff.mpr (by omega)
  have x1 : isTail x = true := isTail_iff.mpr (by omega)
  rw [decode?.eq_def]
  simp [a1, a2, a3, a4, a5, b1, d1, x1, e]

theorem decode?_encodeChar_append (c : Char) (s : Bytes) :
    decode? (String.utf8EncodeChar c ++ s) = (decode? s).map (c :: ·) := by
  have hv : c.toNat < 55296 ∨ 57343 < c.toNat ∧ c.toNat < 1114112 := c.valid
  have hc : Char.ofNat c.toNat = c := Char.ofNat_toNat c
  have hval : c.val.toNat = c.toNat := rfl
  generalize c.toNat = n at hv hc hval
  subst hc
  simp only [String.utf8EncodeChar, hval]
  split
  · have ha := toNat_ofNat_of_lt (show n < 256 by omega)
    exact decode?_one (by omega) (by rw [ha]) s
  split
  · exact decode?_two (by omega) (toNat_ofNat_of_lt (by omega)) (toNat_ofNat_of_lt (by omega)) s
  split
  · exact decode?_three (by omega) (by omega) (toNat_ofNat_of_lt (by omega))
      (toNat_ofNat_of_lt (by omega)) (toNat_ofNat_of_lt (by omega)) s
  · exact decode?_four (by omega) (toNat_ofNat_of_lt (by omega)) (toNat_ofNat_of_lt (by omega))
      (toNat_ofNat_of_lt (by omega)) (toNat_ofNat_of_lt (by omega)) s

/-- Reading gives back what was written. -/
theorem decode?_encode (s : List Char) : decode? (encode s) = some s := by
  induction s with
  | nil => rfl
  | cons c cs ih =>
    rw [encode_cons, decode?_encodeChar_append, ih]
    rfl

theorem toNat_val_ofNat {n : Nat} (h : n < 55296 ∨ 57343 < n ∧ n < 1114112) :
    (Char.ofNat n).val.toNat = n := by
  have hvalid : n.isValidChar := h
  rw [Char.ofNat, dif_pos hvalid]
  rfl

theorem ofNat_eq_of_toNat {a : UInt8} {n : Nat} (h : a.toNat = n) : UInt8.ofNat n = a := by
  rw [← h, UInt8.ofNat_toNat]

/-! Writing a character gives its form, under the conditions under which the form is read. -/

theorem encodeChar_one {a : UInt8} (ha : a.toNat < 128) :
    String.utf8EncodeChar (Char.ofNat a.toNat) = [a] := by
  have hn := toNat_val_ofNat (n := a.toNat) (by omega)
  simp only [String.utf8EncodeChar, hn]
  rw [if_pos (by omega), UInt8.ofNat_toNat]

theorem encodeChar_two {a b : UInt8} {n : Nat} (h : 128 ≤ n ∧ n < 2048)
    (ha : a.toNat = n / 64 % 32 + 192) (hb : b.toNat = n % 64 + 128) :
    String.utf8EncodeChar (Char.ofNat n) = [a, b] := by
  have hn := toNat_val_ofNat (n := n) (by omega)
  simp only [String.utf8EncodeChar, hn]
  rw [if_neg (by omega), if_pos (by omega), ofNat_eq_of_toNat ha, ofNat_eq_of_toNat hb]

theorem encodeChar_three {a b d : UInt8} {n : Nat} (h : 2048 ≤ n ∧ n < 65536)
    (hv : n < 55296 ∨ 57343 < n) (ha : a.toNat = n / 4096 % 16 + 224)
    (hb : b.toNat = n / 64 % 64 + 128) (hd : d.toNat = n % 64 + 128) :
    String.utf8EncodeChar (Char.ofNat n) = [a, b, d] := by
  have hn := toNat_val_ofNat (n := n) (by omega)
  simp only [String.utf8EncodeChar, hn]
  rw [if_neg (by omega), if_neg (by omega), if_pos (by omega), ofNat_eq_of_toNat ha,
    ofNat_eq_of_toNat hb, ofNat_eq_of_toNat hd]

theorem encodeChar_four {a b d x : UInt8} {n : Nat} (h : 65536 ≤ n ∧ n < 1114112)
    (ha : a.toNat = n / 262144 % 8 + 240) (hb : b.toNat = n / 4096 % 64 + 128)
    (hd : d.toNat = n / 64 % 64 + 128) (hx : x.toNat = n % 64 + 128) :
    String.utf8EncodeChar (Char.ofNat n) = [a, b, d, x] := by
  have hn := toNat_val_ofNat (n := n) (by omega)
  simp only [String.utf8EncodeChar, hn]
  rw [if_neg (by omega), if_neg (by omega), if_neg (by omega), ofNat_eq_of_toNat ha,
    ofNat_eq_of_toNat hb, ofNat_eq_of_toNat hd, ofNat_eq_of_toNat hx]

/-- What is read is written in the bytes that it was read from. -/
theorem encode_of_decode? {bytes : Bytes} {text : List Char} (h : decode? bytes = some text) :
    encode text = bytes := by
  fun_induction decode? generalizing text with
  | case1 =>
    cases h
    rfl
  | case2 a s hone ih =>
    obtain ⟨rest, hrest, rfl⟩ := Option.map_eq_some_iff.mp h
    rw [encode_cons, encodeChar_one hone, ih hrest]
    rfl
  | case4 a _ b s hlead htail ih =>
    obtain ⟨rest, hrest, rfl⟩ := Option.map_eq_some_iff.mp h
    simp only [Bool.and_eq_true, decide_eq_true_eq, UInt8.le_iff_toNat_le, UInt8.reduceToNat,
      isTail_iff] at hlead htail
    rw [encode_cons, encodeChar_two (a := a) (b := b), ih hrest]
    · rfl
    all_goals simp only [tailBits]; omega
  | case7 a _ b _ c s hlead hforms ih =>
    obtain ⟨rest, hrest, rfl⟩ := Option.map_eq_some_iff.mp h
    simp only [Bool.and_eq_true, decide_eq_true_eq, UInt8.le_iff_toNat_le, UInt8.reduceToNat,
      isSecondOfThree_iff, isTail_iff] at hlead hforms
    rw [encode_cons, encodeChar_three (a := a) (b := b) (d := c), ih hrest]
    · rfl
    all_goals simp only [tailBits]; omega
  | case10 a _ b _ c _ d s hforms ih =>
    obtain ⟨rest, hrest, rfl⟩ := Option.map_eq_some_iff.mp h
    simp only [Bool.and_eq_true, decide_eq_true_eq, UInt8.le_iff_toNat_le, UInt8.reduceToNat,
      isSecondOfFour_iff, isTail_iff] at hforms
    rw [encode_cons, encodeChar_four (a := a) (b := b) (d := c) (x := d), ih hrest]
    · rfl
    all_goals simp only [tailBits]; omega
  | _ => cases h

theorem decode?_eq_some_iff {bytes : Bytes} {text : List Char} :
    decode? bytes = some text ↔ bytes = encode text := by
  constructor
  · exact fun h => (encode_of_decode? h).symm
  · rintro rfl
    exact decode?_encode text

def ofString (s : String) : Bytes :=
  encode s.toList

def toString? (bytes : Bytes) : Option String :=
  (decode? bytes).map String.ofList

theorem toString?_ofString (s : String) : toString? (ofString s) = some s := by
  simp [toString?, ofString, decode?_encode]

end Utf8
end ServiceScaffold
