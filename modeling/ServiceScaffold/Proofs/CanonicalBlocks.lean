import Mathlib
import ServiceScaffold.Schema.Declaration
import ServiceScaffold.Proofs.CanonicalRecords
import ServiceScaffold.Proofs.ReadMessages

/-!
# Blocks of records

The canonical records of a message come in blocks, one for each number in use. Written and read
again, each block gives items of its number, and there are no other items.
-/

namespace ServiceScaffold
namespace Wire

open Schema (itemsOf)

theorem mem_itemsOf_iff {number : Nat} {items : List Item} {item : Item} :
    item ∈ itemsOf number items ↔ item ∈ items ∧ item.number = number := by
  simp [itemsOf]

theorem itemsOf_append (number : Nat) (first second : List Item) :
    itemsOf number (first ++ second) = itemsOf number first ++ itemsOf number second := by
  simp [itemsOf]

theorem itemsOf_of_forall {number : Nat} {items : List Item}
    (h : ∀ item ∈ items, item.number = number) : itemsOf number items = items := by
  rw [itemsOf, List.filter_eq_self]
  simpa using h

theorem itemsOf_of_forall_ne {number other : Nat} {items : List Item} (hne : number ≠ other)
    (h : ∀ item ∈ items, item.number = number) : itemsOf other items = [] := by
  rw [itemsOf, List.filter_eq_nil_iff]
  intro item hitem
  simpa [h item hitem] using hne

theorem sum_size_itemsOf_le {numbers : List Nat} (hnodup : numbers.Nodup) (items : List Item) :
    (numbers.map fun number => size (itemsOf number items)).sum ≤ size items := by
  induction items with
  | nil => simp [itemsOf, size, encode]
  | cons item rest ih =>
    have hcount : (numbers.map fun number => size (itemsOf number (item :: rest))).sum ≤
        (encode item.records).length +
          (numbers.map fun number => size (itemsOf number rest)).sum := by
      clear ih
      induction numbers with
      | nil => simp
      | cons number numbers ih =>
        rw [List.nodup_cons] at hnodup
        have hlater := ih hnodup.2
        simp only [List.map_cons, List.sum_cons]
        by_cases hnumber : item.number = number
        · have hothers : (numbers.map fun number => size (itemsOf number (item :: rest))) =
              numbers.map fun number => size (itemsOf number rest) := by
            refine List.map_congr_left fun other hother => ?_
            have hne : item.number ≠ other := fun heq => hnodup.1 (by rwa [← hnumber, heq])
            simp [itemsOf, hne]
          rw [hothers, itemsOf, List.filter_cons_of_pos (by simpa using hnumber), size_cons,
            ← itemsOf]
          omega
        · rw [itemsOf, List.filter_cons_of_neg (by simpa using hnumber), ← itemsOf]
          omega
    rw [size_cons]
    omega

theorem size_flatMap (numbers : List Nat) (f : Nat → List Item) :
    size (numbers.flatMap f) = (numbers.map fun number => size (f number)).sum := by
  induction numbers with
  | nil => rfl
  | cons number rest ih => rw [List.flatMap_cons, size_append, ih, List.map_cons, List.sum_cons]

theorem size_le_of_sublist {first second : List Item} (h : first.Sublist second) :
    size first ≤ size second := by
  induction h with
  | slnil => exact Nat.le_refl _
  | cons item _ ih =>
    rw [size_cons]
    omega
  | cons_cons item _ ih =>
    rw [size_cons, size_cons]
    omega

theorem pairwise_insertNumber {n : Nat} {numbers : List Nat} (h : numbers.Pairwise (· < ·)) :
    (insertNumber n numbers).Pairwise (· < ·) := by
  induction numbers with
  | nil => simp [insertNumber]
  | cons first rest ih =>
    rw [List.pairwise_cons] at h
    rw [insertNumber]
    split
    · rename_i hlt
      refine List.pairwise_cons.mpr ⟨List.forall_mem_cons.mpr ⟨hlt, ?_⟩, List.pairwise_cons.mpr h⟩
      exact fun m hm => hlt.trans (h.1 m hm)
    split
    · exact List.pairwise_cons.mpr h
    · refine List.pairwise_cons.mpr ⟨fun m hm => ?_, ih h.2⟩
      rcases mem_insertNumber_iff.mp hm with rfl | hm
      · omega
      · exact h.1 m hm

theorem nodup_itemNumbers (items : List Item) : (itemNumbers items).Nodup := by
  have hpairwise : (itemNumbers items).Pairwise (· < ·) := by
    induction items with
    | nil => simp [itemNumbers]
    | cons item rest ih => exact pairwise_insertNumber ih
  exact hpairwise.imp fun hlt => hlt.ne

/-- Records that are read as these items, all of one number. -/
structure Block (number : Nat) (records : List Record) (items : List Item) : Prop where
  whole : ∀ item ∈ items, item.Whole
  records : items.flatMap Item.records = records
  number : ∀ item ∈ items, item.number = number

theorem Block.nil (number : Nat) : Block number [] [] :=
  ⟨by simp, rfl, by simp⟩

theorem Block.plain {number : Nat} {payloads : List Payload}
    (h : ∀ payload ∈ payloads, payload.isBracket = false) :
    Block number (payloads.map fun payload => ⟨number, payload⟩)
      (payloads.map fun payload => .plain ⟨number, payload⟩) := by
  refine ⟨List.forall_mem_map.mpr h, ?_, List.forall_mem_map.mpr fun _ _ => rfl⟩
  rw [List.flatMap_map, List.map_eq_flatMap]
  rfl

theorem Block.single (number : Nat) {payload : Payload} (h : payload.isBracket = false) :
    Block number [⟨number, payload⟩] [.plain ⟨number, payload⟩] :=
  ⟨List.forall_mem_singleton.mpr h, rfl, List.forall_mem_singleton.mpr rfl⟩

theorem Block.append {number : Nat} {first second : List Record} {items others : List Item}
    (h : Block number first items) (h' : Block number second others) :
    Block number (first ++ second) (items ++ others) := by
  refine ⟨List.forall_mem_append.mpr ⟨h.whole, h'.whole⟩, ?_,
    List.forall_mem_append.mpr ⟨h.number, h'.number⟩⟩
  rw [List.flatMap_append, h.records, h'.records]

theorem isBracket_of_normalize? {scalar : Scalar} {payload value : Payload}
    (h : scalar.normalize? payload = some value) : value.isBracket = false := by
  cases payload with
  | groupStart | groupEnd => cases scalar <;> cases h
  | varint | fixed64 | fixed32 => cases scalar <;> cases h <;> rfl
  | bytes content =>
    cases scalar with
    | string =>
      rw [Scalar.normalize?] at h
      split at h <;> cases h
      rfl
    | bytes =>
      cases h
      rfl
    | _ => cases h

theorem isBracket_of_values? {scalar : Scalar} {item : Item} {values : List Payload}
    (h : scalar.values? item = some values) : ∀ value ∈ values, value.isBracket = false := by
  unfold Scalar.values? at h
  split at h
  · cases h
  · split at h
    · obtain ⟨payloads, -, h⟩ := Option.bind_eq_some_iff.mp h
      intro value hvalue
      obtain ⟨payload, -, hnormal⟩ := exists_of_mem_mapM h hvalue
      exact isBracket_of_normalize? hnormal
    · obtain ⟨value, hnormal, h⟩ := Option.bind_eq_some_iff.mp h
      cases h
      exact List.forall_mem_singleton.mpr (isBracket_of_normalize? hnormal)

theorem block_singularRecords (field : FieldShape) (scalar : Scalar) {values : List Payload}
    (h : ∀ value ∈ values, value.isBracket = false) :
    ∃ items, Block field.number (singularRecords field scalar values) items := by
  unfold singularRecords
  split
  · exact ⟨[], .nil _⟩
  · rename_i value hvalue
    split
    · exact ⟨_, .single _ (h value (List.mem_of_getLast? hvalue))⟩
    · exact ⟨[], .nil _⟩

theorem block_repeatedRecords (field : FieldShape) (scalar : Scalar) {values : List Payload}
    (h : ∀ value ∈ values, value.isBracket = false) :
    ∃ items, Block field.number (repeatedRecords field scalar values) items := by
  unfold repeatedRecords
  split
  · split
    · exact ⟨[], .nil _⟩
    · exact ⟨_, .single _ rfl⟩
  · exact ⟨_, Block.plain h⟩

theorem block_wrap (kind : FieldKind) (number : Nat) {inside : List Record}
    (h : Balanced inside) : ∃ item, Block number (kind.wrap number inside) [item] := by
  unfold FieldKind.wrap
  split
  · refine ⟨.group number inside, List.forall_mem_singleton.mpr h, ?_,
      List.forall_mem_singleton.mpr rfl⟩
    rw [List.flatMap_singleton, Item.records]
  · exact ⟨_, .single _ rfl⟩

theorem block_flatMap_wrap (kind : FieldKind) (number : Nat) {each : List (List Record)}
    (h : ∀ inside ∈ each, Balanced inside) :
    ∃ items, Block number (each.flatMap (kind.wrap number)) items := by
  induction each with
  | nil => exact ⟨[], .nil number⟩
  | cons inside rest ih =>
    rw [List.forall_mem_cons] at h
    obtain ⟨item, hitem⟩ := block_wrap kind number h.1
    obtain ⟨items, hitems⟩ := ih h.2
    rw [List.flatMap_cons]
    exact ⟨_, hitem.append hitems⟩

theorem whole_of_inner? {kind : FieldKind} {item : Item} {inside : List Item}
    (h : kind.inner? item = some inside) : ∀ inner ∈ inside, inner.Whole := by
  have hbytes (h : item.inner? = some inside) : ∀ inner ∈ inside, inner.Whole := by
    obtain ⟨value, -, hread⟩ := Option.bind_eq_some_iff.mp h
    exact fun inner hinner => ((of_readItems? hread).1 inner hinner).1
  unfold FieldKind.inner? at h
  split at h
  · exact (items?_eq_some_iff.mp h).1
  · cases h
  · exact hbytes h

section Messages

variable {inside : Inside} {unread : Item → Bool} {shape : MessageShape} {items : List Item}
  {records : List Record}

/-- What is written inside whole items is balanced. -/
def Inside.Balances (inside : Inside) : Prop :=
  ∀ type items records, (∀ item ∈ items, item.Whole) → inside type items = some records →
    Balanced records

theorem block_fieldRecords? (hinside : inside.Balances) {field : FieldShape}
    (h : fieldRecords? inside field items = some records) :
    ∃ block, Block field.number records block := by
  unfold fieldRecords? at h
  split at h
  · rename_i scalar _
    split at h
    · obtain ⟨values, hvalues, rfl⟩ := Option.map_eq_some_iff.mp h
      refine block_repeatedRecords field scalar fun value hvalue => ?_
      obtain ⟨some, hsome, hvalue⟩ := List.mem_flatten.mp hvalue
      obtain ⟨item, -, hitem⟩ := exists_of_mem_mapM hvalues hsome
      exact isBracket_of_values? hitem value hvalue
    · obtain ⟨values, hvalues, rfl⟩ := Option.map_eq_some_iff.mp h
      refine block_singularRecords field scalar fun value hvalue => ?_
      obtain ⟨item, -, hitem⟩ := exists_of_mem_mapM hvalues hvalue
      unfold Scalar.value? at hitem
      split at hitem
      · exact isBracket_of_normalize? hitem
      · cases hitem
  all_goals
    obtain ⟨inners, hinners, h⟩ := Option.bind_eq_some_iff.mp h
    have hwhole : ∀ inner ∈ inners, ∀ item ∈ inner, item.Whole := by
      intro inner hinner
      obtain ⟨item, -, hitem⟩ := exists_of_mem_mapM hinners hinner
      exact whole_of_inner? hitem
    split at h
    · obtain ⟨each, heach, h⟩ := Option.bind_eq_some_iff.mp h
      cases h
      refine block_flatMap_wrap field.kind field.number fun written hwritten => ?_
      obtain ⟨inner, hinner, hfound⟩ := exists_of_mem_mapM heach hwritten
      exact hinside _ inner written (hwhole inner hinner) hfound
    · obtain ⟨merged, hmerged, h⟩ := Option.bind_eq_some_iff.mp h
      cases h
      have hflat : ∀ item ∈ inners.flatten, item.Whole := by
        intro item hitem
        obtain ⟨inner, hinner, hitem⟩ := List.mem_flatten.mp hitem
        exact hwhole inner hinner item hitem
      obtain ⟨item, hitem⟩ := block_wrap field.kind field.number (hinside _ _ _ hflat hmerged)
      exact ⟨_, hitem⟩

theorem block_numberRecords? (hinside : inside.Balances) (hitems : ∀ item ∈ items, item.Whole)
    {number : Nat} (h : numberRecords? inside unread shape items number = some records) :
    ∃ block, Block number records block := by
  unfold numberRecords? at h
  dsimp only at h
  split at h
  · rename_i field hfield
    have hnumber : field.number = number := by simpa using List.find?_some hfield
    exact hnumber ▸ block_fieldRecords? hinside h
  · split at h
    · cases h
      refine ⟨itemsOf number items, fun item hitem => ?_, rfl, fun item hitem => ?_⟩
      · exact hitems item (mem_itemsOf_iff.mp hitem).1
      · exact (mem_itemsOf_iff.mp hitem).2
    · cases h

/-- Blocks one after another: the items of each number are those of its block. -/
theorem blocks_of_forall₂ {f : Nat → Option (List Record)} {numbers : List Nat}
    {each : List (List Record)} (h : List.Forall₂ (fun number records => f number = some records)
      numbers each) (hnodup : numbers.Nodup)
    (hblock : ∀ number records, f number = some records → ∃ block, Block number records block) :
    ∃ written : List Item, (∀ item ∈ written, item.Whole) ∧
      written.flatMap Item.records = each.flatten ∧
      written = (numbers.flatMap fun number => itemsOf number written) ∧
      (∀ number ∉ numbers, itemsOf number written = []) ∧
      ∀ number ∈ numbers, ∃ records, f number = some records ∧
        Block number records (itemsOf number written) := by
  induction h with
  | nil => exact ⟨[], by simp, rfl, rfl, by simp [itemsOf], by simp⟩
  | @cons number first numbers each hfirst _ ih =>
    rw [List.nodup_cons] at hnodup
    obtain ⟨rest, hwhole, hrecords, hrest, hother, hblocks⟩ := ih hnodup.2
    obtain ⟨block, hblock⟩ := hblock number first hfirst
    have hown : itemsOf number (block ++ rest) = block := by
      rw [itemsOf_append, itemsOf_of_forall hblock.number, hother number hnodup.1, List.append_nil]
    have hlater {other : Nat} (hne : number ≠ other) :
        itemsOf other (block ++ rest) = itemsOf other rest := by
      rw [itemsOf_append, itemsOf_of_forall_ne hne hblock.number, List.nil_append]
    have hne {other : Nat} (hmem : other ∈ numbers) : number ≠ other :=
      fun heq => hnodup.1 (heq ▸ hmem)
    refine ⟨block ++ rest, List.forall_mem_append.mpr ⟨hblock.whole, hwhole⟩, ?_, ?_, ?_, ?_⟩
    · rw [List.flatMap_append, hblock.records, hrecords, List.flatten_cons]
    · rw [List.flatMap_cons, hown]
      congr 1
      rw [List.flatMap_congr fun other hmem => hlater (hne hmem)]
      exact hrest
    · intro other hmem
      rw [List.mem_cons, not_or] at hmem
      rw [hlater (Ne.symm hmem.1), hother other hmem.2]
    · refine List.forall_mem_cons.mpr ⟨⟨first, hfirst, hown.symm ▸ hblock⟩, fun other hmem => ?_⟩
      rw [hlater (hne hmem)]
      exact hblocks other hmem

/-- What canonical records are read as: blocks of items, one for each number of the items that
stay. -/
structure Written (inside : Inside) (unread : Item → Bool) (shape : MessageShape)
    (items : List Item) (records : List Record) (written : List Item) : Prop where
  read : items? records = some written
  order : written = (itemNumbers (shape.settle items).1).flatMap fun number =>
    itemsOf number written
  others : ∀ number ∉ itemNumbers (shape.settle items).1, itemsOf number written = []
  blocks : ∀ number ∈ itemNumbers (shape.settle items).1, ∃ own,
    numberRecords? inside unread shape (shape.settle items).1 number = some own ∧
    Block number own (itemsOf number written)

theorem exists_written (hinside : inside.Balances) (hitems : ∀ item ∈ items, item.Whole)
    (h : messageRecords? inside unread shape items = some records) :
    ∃ written, Written inside unread shape items records written := by
  obtain ⟨-, each, heach, rfl⟩ := messageRecords?_eq_some h
  have hkept : ∀ item ∈ (shape.settle items).1, item.Whole :=
    fun item hitem => hitems item ((mem_settle_iff shape).mpr (.inl hitem))
  obtain ⟨written, hwhole, hrecords, horder, hother, hown⟩ :=
    blocks_of_forall₂ (forall₂_of_mapM_eq_some heach) (nodup_itemNumbers _)
      fun _ _ => block_numberRecords? hinside hkept
  exact ⟨written, items?_eq_some_iff.mpr ⟨hwhole, hrecords⟩, horder, hother, hown⟩

/-- What is written under a number fits and takes no more than what stays of it. -/
structure Slim (number : Nat) (own written : List Item) : Prop where
  fits : ∀ item ∈ itemsOf number written, ∀ record ∈ item.records, record.Fits
  size : size (itemsOf number written) ≤ size (itemsOf number own)

theorem sublist_settle (shape : MessageShape) (items : List Item) :
    (shape.settle items).1.Sublist items := by
  induction items with
  | nil => exact .slnil
  | cons item rest ih =>
    cases h : shape.superseded item rest with
    | true =>
      rw [settle_cons_of_superseded h]
      exact ih.cons item
    | false =>
      rw [settle_cons_of_not_superseded h]
      exact ih.cons_cons item

theorem Written.fits {written : List Item} (h : Written inside unread shape items records written)
    (hslim : ∀ number ∈ itemNumbers (shape.settle items).1,
      Slim number (shape.settle items).1 written) :
    (∀ record ∈ records, record.Fits) ∧ (encode records).length ≤ size items := by
  obtain ⟨-, hrecords⟩ := items?_eq_some_iff.mp h.read
  constructor
  · intro record hrecord
    rw [← hrecords, List.mem_flatMap] at hrecord
    obtain ⟨item, hitem, hrecord⟩ := hrecord
    rw [h.order, List.mem_flatMap] at hitem
    obtain ⟨number, hnumber, hitem⟩ := hitem
    exact (hslim number hnumber).fits item hitem record hrecord
  · have hsizes : size written ≤ size (shape.settle items).1 := by
      rw [h.order, size_flatMap]
      exact (List.sum_le_sum fun number hnumber => (hslim number hnumber).size).trans
        (sum_size_itemsOf_le (nodup_itemNumbers _) _)
    rw [← hrecords]
    exact hsizes.trans (size_le_of_sublist (sublist_settle shape items))

end Messages

/-- How the messages inside a message are made canonical, `limit` levels from the end. -/
def insideOf (shapes : Shapes) (unread : Nat → Item → Bool) : Nat → Inside
  | 0 => fun _ _ => none
  | limit + 1 => fun type inner => (shapes.find type).bind fun shape =>
    canonical? shapes unread limit shape inner

/-- What is made canonical inside is of a known type, and one level deeper. -/
theorem of_insideOf {shapes : Shapes} {unread : Nat → Item → Bool} {limit : Nat} {type : String}
    {items : List Item} {records : List Record}
    (h : insideOf shapes unread limit type items = some records) :
    ∃ below shape, limit = below + 1 ∧ shapes.find type = some shape ∧
      canonical? shapes unread below shape items = some records := by
  cases limit with
  | zero => cases h
  | succ below =>
    obtain ⟨shape, hshape, h⟩ := Option.bind_eq_some_iff.mp h
    exact ⟨below, shape, rfl, hshape, h⟩

theorem canonical?_eq (shapes : Shapes) (unread : Nat → Item → Bool) (limit : Nat)
    (shape : MessageShape) (items : List Item) : canonical? shapes unread limit shape items =
      messageRecords? (insideOf shapes unread limit) (unread limit) shape items := by
  cases limit <;> rfl

theorem balances_insideOf (shapes : Shapes) (unread : Nat → Item → Bool) (limit : Nat) :
    (insideOf shapes unread limit).Balances := by
  induction limit with
  | zero => exact fun _ _ _ _ h => by cases h
  | succ limit ih =>
    intro type items records hitems h
    obtain ⟨shape, -, h⟩ := Option.bind_eq_some_iff.mp h
    rw [canonical?_eq] at h
    obtain ⟨written, hwritten⟩ := exists_written ih hitems h
    obtain ⟨hwhole, rfl⟩ := items?_eq_some_iff.mp hwritten.read
    exact balanced_flatMap hwhole

end Wire
end ServiceScaffold
