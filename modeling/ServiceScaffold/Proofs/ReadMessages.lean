import Mathlib
import ServiceScaffold.Proofs.WireRoundTrip

/-!
# Messages read

What is read from bytes can be written, and takes no more bytes then, since a number is written in
the fewest groups. The records of a message are nested like brackets, and its items are what stands
outside of the brackets.
-/

namespace ServiceScaffold
namespace Wire

theorem length_varintFrom_mono (room : Nat) {m n : Nat} (h : m ≤ n) :
    (varintFrom room m).length ≤ (varintFrom room n).length := by
  induction room generalizing m n with
  | zero => exact Nat.le_refl 0
  | succ room ih =>
    have hnext := ih (Nat.div_le_div_right (c := 128) h)
    rw [varintFrom, varintFrom]
    split <;> split
    · simp
    · simp
    · omega
    · simpa using hnext

theorem length_varintFrom_add (room a b : Nat) :
    (varintFrom room (a + b)).length ≤ (varintFrom room a).length + (varintFrom room b).length := by
  induction room generalizing a b with
  | zero => exact Nat.le_refl 0
  | succ room ih =>
    have hone : (varintFrom room 1).length ≤ 1 := by
      cases room <;> simp [varintFrom]
    have hcarry (m : Nat) : (varintFrom room (m + 1)).length ≤ (varintFrom room m).length + 1 :=
      (ih m 1).trans (Nat.add_le_add_left hone _)
    by_cases hsum : a + b < 128
    · simp [varintFrom, hsum, show a < 128 by omega, show b < 128 by omega]
    by_cases ha : a < 128 <;> by_cases hb : b < 128 <;>
      simp only [varintFrom, hsum, ha, hb, if_true, if_false, List.length_cons, List.length_nil]
    · have hmono := length_varintFrom_mono room (show (a + b) / 128 ≤ 1 by omega)
      omega
    · have hmono := length_varintFrom_mono room (show (a + b) / 128 ≤ b / 128 + 1 by omega)
      have hb := hcarry (b / 128)
      omega
    · have hmono := length_varintFrom_mono room (show (a + b) / 128 ≤ a / 128 + 1 by omega)
      have ha := hcarry (a / 128)
      omega
    · have hmono := length_varintFrom_mono room
        (show (a + b) / 128 ≤ a / 128 + (b / 128 + 1) by omega)
      have hparts := ih (a / 128) (b / 128 + 1)
      have hb := hcarry (b / 128)
      omega

theorem length_varint_mono {m n : Nat} (h : m ≤ n) : (varint m).length ≤ (varint n).length :=
  length_varintFrom_mono 10 h

theorem length_varint_add (a b : Nat) :
    (varint (a + b)).length ≤ (varint a).length + (varint b).length :=
  length_varintFrom_add 10 a b

theorem two_le_varintLimit (room : Nat) : 2 ≤ varintLimit room := by
  induction room with
  | zero => exact Nat.le_refl 2
  | succ room ih =>
    rw [varintLimit]
    omega

theorem of_readVarintFrom {room n : Nat} {bytes rest : Bytes}
    (h : readVarintFrom (room + 1) bytes = some (n, rest)) :
    n < varintLimit room ∧ (varintFrom (room + 1) n).length + rest.length ≤ bytes.length := by
  induction room generalizing bytes n with
  | zero =>
    cases bytes with
    | nil => cases h
    | cons b bytes =>
      simp only [readVarintFrom, true_and] at h
      split at h
      · cases h
      · rename_i hb
        rw [if_pos (by omega)] at h
        cases h
        have hn : b.toNat < 2 := by omega
        exact ⟨hn, by simp [varintFrom, show b.toNat < 128 by omega]; omega⟩
  | succ room ih =>
    have hlimit := two_le_varintLimit room
    cases bytes with
    | nil => cases h
    | cons b bytes =>
      rw [readVarintFrom, if_neg (by omega)] at h
      split at h
      · rename_i hb
        cases h
        rw [varintLimit]
        exact ⟨by omega, by simp [varintFrom, hb]; omega⟩
      · obtain ⟨⟨m, tail⟩, hread, h⟩ := Option.map_eq_some_iff.mp h
        cases h
        obtain ⟨hm, hlength⟩ := ih hread
        have hlow : b.toNat % 128 < 128 := Nat.mod_lt _ (by decide)
        rw [varintLimit]
        refine ⟨by omega, ?_⟩
        rw [varintFrom]
        split
        · simp only [List.length_cons, List.length_nil]
          omega
        · rw [List.length_cons, List.length_cons,
            show (b.toNat % 128 + 128 * m) / 128 = m by omega]
          omega

theorem of_readVarint? {n : Nat} {bytes rest : Bytes} (h : readVarint? bytes = some (n, rest)) :
    n < UInt64.size ∧ (varint n).length + rest.length ≤ bytes.length :=
  varintLimit_nine ▸ of_readVarintFrom h

theorem of_take? {n : Nat} {bytes value rest : Bytes} (h : take? n bytes = some (value, rest)) :
    value.length = n ∧ value.length + rest.length = bytes.length := by
  unfold take? at h
  split at h
  · cases h
    simp
    omega
  · cases h

theorem of_readPayload? {form : Nat} {bytes rest : Bytes} {payload : Payload}
    (h : readPayload? form bytes = some (payload, rest)) :
    payload.Fits ∧ payload.form = form ∧
      payload.encode.length + rest.length ≤ bytes.length := by
  unfold readPayload? at h
  split at h
  · obtain ⟨⟨n, tail⟩, hread, h⟩ := Option.map_eq_some_iff.mp h
    cases h
    exact ⟨(of_readVarint? hread).1, rfl, (of_readVarint? hread).2⟩
  · obtain ⟨⟨value, tail⟩, hread, h⟩ := Option.map_eq_some_iff.mp h
    cases h
    exact ⟨(of_take? hread).1, rfl, (of_take? hread).2.le⟩
  · obtain ⟨⟨n, tail⟩, hnumber, h⟩ := Option.bind_eq_some_iff.mp h
    obtain ⟨⟨value, tail'⟩, hvalue, h⟩ := Option.bind_eq_some_iff.mp h
    cases h
    obtain ⟨hn, hlength⟩ := of_readVarint? hnumber
    obtain ⟨rfl, hvalue⟩ := of_take? hvalue
    refine ⟨hn, rfl, ?_⟩
    rw [Payload.encode, List.length_append]
    omega
  · cases h
    exact ⟨trivial, rfl, by simp [Payload.encode]⟩
  · cases h
    exact ⟨trivial, rfl, by simp [Payload.encode]⟩
  · obtain ⟨⟨value, tail⟩, hread, h⟩ := Option.map_eq_some_iff.mp h
    cases h
    exact ⟨(of_take? hread).1, rfl, (of_take? hread).2.le⟩
  · cases h

theorem of_readRecord? {bytes rest : Bytes} {record : Record}
    (h : readRecord? bytes = some (record, rest)) :
    record.Fits ∧ record.encode.length + rest.length ≤ bytes.length := by
  obtain ⟨⟨key, tail⟩, hkey, h⟩ := Option.bind_eq_some_iff.mp h
  dsimp only at h
  split at h
  · cases h
  · rename_i hbounds
    obtain ⟨⟨payload, tail'⟩, hpayload, h⟩ := Option.bind_eq_some_iff.mp h
    cases h
    obtain ⟨hfits, hform, hlength⟩ := of_readPayload? hpayload
    have hkeyLength := (of_readVarint? hkey).2
    have hpositive : 0 < key / 8 := by omega
    have hbounded : key / 8 < 2 ^ 29 := by
      have hsize : UInt32.size = 2 ^ 29 * 8 := rfl
      omega
    refine ⟨⟨hpositive, hbounded, hfits⟩, ?_⟩
    simp only [Record.encode, List.length_append, hform, show key / 8 * 8 + key % 8 = key by omega]
    omega

theorem of_readRecordsFrom {room : Nat} {bytes : Bytes} {records : List Record}
    (h : readRecordsFrom room bytes = some records) :
    (∀ record ∈ records, record.Fits) ∧ (encode records).length ≤ bytes.length := by
  induction room generalizing bytes records with
  | zero =>
    cases bytes with
    | nil =>
      cases h
      exact ⟨fun _ hrecord => absurd hrecord List.not_mem_nil, Nat.le_refl 0⟩
    | cons b bytes => cases h
  | succ room ih =>
    cases bytes with
    | nil =>
      cases h
      exact ⟨fun _ hrecord => absurd hrecord List.not_mem_nil, Nat.le_refl 0⟩
    | cons b bytes =>
      obtain ⟨⟨record, rest⟩, hrecord, h⟩ := Option.bind_eq_some_iff.mp h
      obtain ⟨later, hlater, h⟩ := Option.bind_eq_some_iff.mp h
      cases h
      obtain ⟨hfits, hlength⟩ := of_readRecord? hrecord
      obtain ⟨hall, htotal⟩ := ih hlater
      refine ⟨List.forall_mem_cons.mpr ⟨hfits, hall⟩, ?_⟩
      rw [encode, List.flatMap_cons, List.length_append, ← encode]
      omega

/-- Records that are read fit, and writing them takes no more bytes. -/
theorem of_readRecords? {bytes : Bytes} {records : List Record}
    (h : readRecords? bytes = some records) :
    (∀ record ∈ records, record.Fits) ∧ (encode records).length ≤ bytes.length :=
  of_readRecordsFrom h

def Payload.isBracket : Payload → Bool
  | .groupStart | .groupEnd => true
  | _ => false

/-- Records in which each group is closed by its own number. -/
inductive Balanced : List Record → Prop
  | nil : Balanced []
  | plain {record : Record} {rest : List Record} (hplain : record.payload.isBracket = false)
      (hrest : Balanced rest) : Balanced (record :: rest)
  | group {number : Nat} {inside rest : List Record} (hinside : Balanced inside)
      (hrest : Balanced rest) : Balanced ((Item.group number inside).records ++ rest)

/-- An item that stands for itself: a record that is no bracket, or a group of balanced records. -/
def Item.Whole : Item → Prop
  | .plain record => record.payload.isBracket = false
  | .group _ inside => Balanced inside

theorem Balanced.append {first second : List Record} (h : Balanced first)
    (h' : Balanced second) : Balanced (first ++ second) := by
  induction h with
  | nil => exact h'
  | plain hplain _ ih => exact .plain hplain ih
  | group hinside _ _ ih =>
    rw [List.append_assoc]
    exact .group hinside ih

theorem Item.Whole.balanced {item : Item} (h : item.Whole) {rest : List Record}
    (hrest : Balanced rest) : Balanced (item.records ++ rest) := by
  cases item with
  | plain record => exact .plain h hrest
  | group number inside => exact .group h hrest

theorem itemsFrom_nil_plain {record : Record} (h : record.payload.isBracket = false)
    (inside rest : List Record) :
    itemsFrom [] inside (record :: rest) = (itemsFrom [] [] rest).map (.plain record :: ·) := by
  obtain ⟨number, payload⟩ := record
  cases payload with
  | groupStart | groupEnd => cases h
  | varint | fixed64 | bytes | fixed32 => rfl

theorem itemsFrom_cons_plain {record : Record} (h : record.payload.isBracket = false)
    (number : Nat) (opened : List Nat) (inside rest : List Record) :
    itemsFrom (number :: opened) inside (record :: rest) =
      itemsFrom (number :: opened) (inside ++ [record]) rest := by
  obtain ⟨n, payload⟩ := record
  cases payload with
  | groupStart | groupEnd => cases h
  | varint | fixed64 | bytes | fixed32 => rfl

theorem itemsFrom_nil_start (number : Nat) (inside rest : List Record) :
    itemsFrom [] inside (⟨number, .groupStart⟩ :: rest) = itemsFrom [number] [] rest :=
  rfl

theorem itemsFrom_cons_start (number first : Nat) (opened : List Nat)
    (inside rest : List Record) :
    itemsFrom (first :: opened) inside (⟨number, .groupStart⟩ :: rest) =
      itemsFrom (number :: first :: opened) (inside ++ [⟨number, .groupStart⟩]) rest :=
  rfl

theorem itemsFrom_singleton_end (number first : Nat) (inside rest : List Record) :
    itemsFrom [first] inside (⟨number, .groupEnd⟩ :: rest) =
      if first = number then (itemsFrom [] [] rest).map (.group first inside :: ·) else none :=
  rfl

theorem itemsFrom_cons_cons_end (number first second : Nat) (opened : List Nat)
    (inside rest : List Record) :
    itemsFrom (first :: second :: opened) inside (⟨number, .groupEnd⟩ :: rest) =
      if first = number then itemsFrom (second :: opened) (inside ++ [⟨number, .groupEnd⟩]) rest
      else none :=
  rfl

theorem Balanced.itemsFrom_append {body : List Record} (h : Balanced body) (number : Nat)
    (opened : List Nat) (inside rest : List Record) :
    itemsFrom (number :: opened) inside (body ++ rest) =
      itemsFrom (number :: opened) (inside ++ body) rest := by
  induction h generalizing number opened inside rest with
  | nil => simp
  | plain hplain _ ih =>
    rw [List.cons_append, itemsFrom_cons_plain hplain, ih, List.append_assoc, List.singleton_append]
  | @group n within later _ _ ihInside ihRest =>
    simp only [Item.records, List.cons_append, List.append_assoc, List.nil_append]
    rw [itemsFrom_cons_start, ihInside, itemsFrom_cons_cons_end, if_pos rfl, ihRest]
    simp

theorem items?_whole_append {item : Item} (h : item.Whole) (rest : List Record) :
    items? (item.records ++ rest) = (items? rest).map (item :: ·) := by
  cases item with
  | plain record => exact itemsFrom_nil_plain h [] rest
  | group number inside =>
    have hpass := Balanced.itemsFrom_append h number [] [] (⟨number, .groupEnd⟩ :: rest)
    simp only [items?, Item.records, List.cons_append, List.append_assoc, List.nil_append]
    rw [itemsFrom_nil_start, hpass, itemsFrom_singleton_end, if_pos rfl, List.nil_append]

/-- How the records after some open groups close them, the innermost first. -/
def Closes : List Nat → List Record → Prop
  | [], rest => Balanced rest
  | number :: opened, rest => ∃ body later, Balanced body ∧
      rest = body ++ ⟨number, .groupEnd⟩ :: later ∧ Closes opened later

/-- Balanced records in front leave the groups to be closed later. -/
theorem Closes.append {opened : List Nat} {first rest : List Record} (hfirst : Balanced first)
    (h : Closes opened rest) : Closes opened (first ++ rest) := by
  cases opened with
  | nil => exact hfirst.append h
  | cons number opened =>
    obtain ⟨body, later, hbody, rfl, hlater⟩ := h
    exact ⟨first ++ body, later, hfirst.append hbody, by simp, hlater⟩

theorem closes_of_itemsFrom {opened : List Nat} {inside records : List Record}
    {items : List Item} (h : itemsFrom opened inside records = some items) :
    Closes opened records := by
  induction records generalizing opened inside items with
  | nil =>
    cases opened with
    | nil => exact .nil
    | cons number opened => cases h
  | cons record rest ih =>
    by_cases hplain : record.payload.isBracket = false
    · refine Closes.append (.plain hplain .nil) ?_
      cases opened with
      | nil =>
        rw [itemsFrom_nil_plain hplain] at h
        obtain ⟨later, hlater, -⟩ := Option.map_eq_some_iff.mp h
        exact ih hlater
      | cons number opened =>
        rw [itemsFrom_cons_plain hplain] at h
        exact ih h
    obtain ⟨number, payload⟩ := record
    cases payload with
    | varint | fixed64 | bytes | fixed32 => exact absurd rfl hplain
    | groupStart =>
      have hopens : ∃ inside' items', itemsFrom (number :: opened) inside' rest = some items' := by
        cases opened with
        | nil => exact ⟨_, _, h⟩
        | cons first opened => exact ⟨_, _, h⟩
      obtain ⟨inside', items', hopens⟩ := hopens
      obtain ⟨body, later, hbody, rfl, hlater⟩ := ih hopens
      have hgroup : Balanced ((Item.group number body).records ++ []) := .group hbody .nil
      simpa [Item.records] using hlater.append hgroup
    | groupEnd =>
      have hcloses : ∃ opened' inside' items', opened = number :: opened' ∧
          itemsFrom opened' inside' rest = some items' := by
        rcases opened with _ | ⟨first, _ | ⟨second, opened⟩⟩
        · cases h
        · rw [itemsFrom_singleton_end] at h
          split at h
          · rename_i heq
            obtain ⟨later, hlater, -⟩ := Option.map_eq_some_iff.mp h
            exact ⟨[], _, _, by rw [heq], hlater⟩
          · cases h
        · rw [itemsFrom_cons_cons_end] at h
          split at h
          · rename_i heq
            exact ⟨_, _, _, by rw [heq], h⟩
          · cases h
      obtain ⟨opened, inside', items', rfl, hrest⟩ := hcloses
      exact ⟨[], rest, .nil, rfl, ih hrest⟩

theorem Balanced.exists_items {records : List Record} (h : Balanced records) :
    ∃ items : List Item, (∀ item ∈ items, item.Whole) ∧
      items.flatMap Item.records = records := by
  induction h with
  | nil => exact ⟨[], fun _ hitem => absurd hitem List.not_mem_nil, rfl⟩
  | @plain record rest hplain _ ih =>
    obtain ⟨items, hwhole, rfl⟩ := ih
    exact ⟨.plain record :: items, List.forall_mem_cons.mpr ⟨hplain, hwhole⟩, rfl⟩
  | @group number inside rest hinside _ _ ih =>
    obtain ⟨items, hwhole, rfl⟩ := ih
    exact ⟨.group number inside :: items, List.forall_mem_cons.mpr ⟨hinside, hwhole⟩, rfl⟩

theorem balanced_flatMap {items : List Item} (h : ∀ item ∈ items, item.Whole) :
    Balanced (items.flatMap Item.records) := by
  induction items with
  | nil => exact .nil
  | cons item items ih =>
    rw [List.forall_mem_cons] at h
    exact h.1.balanced (ih h.2)

theorem items?_flatMap {items : List Item} (h : ∀ item ∈ items, item.Whole) :
    items? (items.flatMap Item.records) = some items := by
  induction items with
  | nil => rfl
  | cons item items ih =>
    rw [List.forall_mem_cons] at h
    rw [List.flatMap_cons, items?_whole_append h.1, ih h.2, Option.map_some]

/-- The items of records are whole, and consist of them. -/
theorem items?_eq_some_iff {records : List Record} {items : List Item} :
    items? records = some items ↔
      (∀ item ∈ items, item.Whole) ∧ items.flatMap Item.records = records := by
  constructor
  · intro h
    obtain ⟨found, hwhole, rfl⟩ := Balanced.exists_items (closes_of_itemsFrom h)
    rw [items?_flatMap hwhole, Option.some.injEq] at h
    exact h ▸ ⟨hwhole, rfl⟩
  · rintro ⟨hwhole, rfl⟩
    exact items?_flatMap hwhole

def size (items : List Item) : Nat :=
  (encode (items.flatMap Item.records)).length

theorem size_cons (item : Item) (items : List Item) :
    size (item :: items) = (encode item.records).length + size items := by
  simp [size, encode]

theorem size_append (first second : List Item) : size (first ++ second) = size first + size second := by
  simp [size, encode]

theorem of_readItems? {bytes : Bytes} {items : List Item} (h : readItems? bytes = some items) :
    (∀ item ∈ items, item.Whole ∧ ∀ record ∈ item.records, record.Fits) ∧
      size items ≤ bytes.length := by
  obtain ⟨records, hrecords, hitems⟩ := Option.bind_eq_some_iff.mp h
  obtain ⟨hwhole, rfl⟩ := items?_eq_some_iff.mp hitems
  obtain ⟨hfits, hlength⟩ := of_readRecords? hrecords
  refine ⟨fun item hitem => ⟨hwhole item hitem, fun record hrecord => hfits record ?_⟩, hlength⟩
  exact List.mem_flatMap.mpr ⟨item, hitem, hrecord⟩

theorem readItems?_of_items? {records : List Record} {items : List Item}
    (hfits : ∀ record ∈ records, record.Fits) (h : items? records = some items) :
    readItems? (encode records) = some items := by
  rw [readItems?, readRecords?_encode hfits, Option.bind_some, h]

end Wire
end ServiceScaffold
