import ServiceScaffold.Text.Utf8

/-!
# Variable-length numbers

Numbers below 2^64 in groups of seven bits, the lowest group first; every group but the last has
the top bit of its byte set. At most ten bytes are read, and the tenth holds a single bit.
-/

namespace ServiceScaffold
namespace Wire

/-- The groups of a number, `room` of them at most. -/
def varintFrom : Nat → Nat → Bytes
  | 0, _ => []
  | room + 1, n =>
    if n < 128 then [UInt8.ofNat n]
    else UInt8.ofNat (n % 128 + 128) :: varintFrom room (n / 128)

/-- Ten groups hold every number below 2^64. -/
def varint (n : Nat) : Bytes :=
  varintFrom 10 n

/-- Reads `room` groups at most; in the last possible one only the lowest bit may be set. -/
def readVarintFrom : Nat → Bytes → Option (Nat × Bytes)
  | _, [] => none
  | 0, _ :: _ => none
  | room + 1, b :: rest =>
    if room = 0 ∧ 2 ≤ b.toNat then none
    else if b.toNat < 128 then some (b.toNat, rest)
    else (readVarintFrom room rest).map fun (n, rest) => (b.toNat % 128 + 128 * n, rest)

def readVarint? (bytes : Bytes) : Option (Nat × Bytes) :=
  readVarintFrom 10 bytes

/-- The numbers below this fit when one bit follows `groups` full groups. -/
def varintLimit : Nat → Nat
  | 0 => 2
  | groups + 1 => 128 * varintLimit groups

theorem varintLimit_nine : varintLimit 9 = UInt64.size := rfl

theorem readVarintFrom_varintFrom (room n : Nat) (h : n < varintLimit room) (rest : Bytes) :
    readVarintFrom (room + 1) (varintFrom (room + 1) n ++ rest) = some (n, rest) := by
  induction room generalizing n with
  | zero =>
    have hn : n < 2 := h
    have hb : (UInt8.ofNat n).toNat = n := by simp; omega
    simp only [varintFrom, show n < 128 by omega, ↓reduceIte, List.cons_append, List.nil_append,
      readVarintFrom, hb]
    simp [show ¬ 2 ≤ n by omega]
  | succ room ih =>
    rw [varintFrom]
    by_cases hn : n < 128
    · have hb : (UInt8.ofNat n).toNat = n := by simp; omega
      simp [hn, readVarintFrom, hb]
    · have hb : (UInt8.ofNat (n % 128 + 128)).toNat = n % 128 + 128 := by simp; omega
      have hr := ih (n / 128) (by rw [varintLimit] at h; omega)
      simp only [hn, ↓reduceIte, List.cons_append, readVarintFrom, hb] at hr ⊢
      simp [hr, show ¬ n % 128 + 128 < 128 by omega, show n % 128 + 128 * (n / 128) = n by omega]

/-- Reading gives back what was written, and leaves what follows. -/
theorem readVarint?_varint {n : Nat} (h : n < UInt64.size) (rest : Bytes) :
    readVarint? (varint n ++ rest) = some (n, rest) :=
  readVarintFrom_varintFrom 9 n (varintLimit_nine ▸ h) rest

end Wire
end ServiceScaffold
