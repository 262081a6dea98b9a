import Mathlib
import ServiceScaffold.Proofs.CanonicalBlocks
import ServiceScaffold.Proofs.RuleMerging

/-!
# Canonical fields

What is written again of the texts and messages of a declared message, and of what its type does not
declare. It fits, it takes no more bytes, and of the members of a oneof the last one stays.
-/

namespace ServiceScaffold
namespace Wire

open Schema (itemsOf texts lastText? lastText)

theorem lastText?_cons_of_ne {number : Nat} {item : Item} (h : item.number ≠ number)
    (rest : List Item) : lastText? number (item :: rest) = lastText? number rest := by
  simp [lastText?, texts, itemsOf, h]

theorem lastText?_cons {number : Nat} {item : Item} {text : String} (h : item.number = number)
    (hread : item.text? = some text) (rest : List Item) :
    lastText? number (item :: rest) = some ((lastText? number rest).getD text) := by
  simp [lastText?, texts, itemsOf, h, hread, List.getLast?_cons]

theorem lastText?_eq {number : Nat} {items : List Item}
    (h : ∀ item ∈ itemsOf number items, item.text?.isSome) :
    lastText? number items = (itemsOf number items).getLast?.bind Item.text? := by
  rw [lastText?, texts]
  generalize itemsOf number items = own at h
  induction own using List.reverseRecOn with
  | nil => rfl
  | append_singleton init last _ =>
    obtain ⟨text, htext⟩ := Option.isSome_iff_exists.mp (h last (by simp))
    simp [htext]

theorem lastText?_append (number : Nat) (first second : List Item) :
    lastText? number (first ++ second) = (lastText? number second).or (lastText? number first) := by
  rw [lastText?, texts, itemsOf_append, List.filterMap_append, List.getLast?_append]
  rfl

theorem getLast?_of_forall₂ {α β : Type} {R : α → β → Prop} {as : List α} {bs : List β}
    (h : List.Forall₂ R as bs) {a : α} (ha : as.getLast? = some a) :
    ∃ b, bs.getLast? = some b ∧ R a b := by
  induction h with
  | nil => cases ha
  | @cons first b as bs hfirst hrest ih =>
    rw [List.getLast?_cons, Option.some.injEq] at ha
    cases hlast : as.getLast? with
    | none =>
      rw [List.getLast?_eq_none_iff] at hlast
      subst hlast
      rw [List.forall₂_nil_left_iff] at hrest
      rw [List.getLast?_nil, Option.getD_none] at ha
      subst hrest ha
      exact ⟨b, rfl, hfirst⟩
    | some last =>
      rw [hlast, Option.getD_some] at ha
      obtain ⟨c, hc, hR⟩ := ih (ha ▸ hlast)
      exact ⟨c, by rw [List.getLast?_cons, hc, Option.getD_some], hR⟩

/-- A field for a text. In a oneof it is written whenever it is set. -/
def HasText (shape : MessageShape) (number : Nat) (oneof : Option Nat) : Prop :=
  ∃ field, shape.field? number = some field ∧ field.kind = .scalar .string ∧
    field.repeated = false ∧ field.oneof = oneof ∧ (oneof.isSome → field.presence = true)

/-- A field for messages of a type. -/
def HasMessage (shape : MessageShape) (number : Nat) (type : String) (repeated : Bool)
    (oneof : Option Nat) : Prop :=
  ∃ field, shape.field? number = some field ∧ field.kind = .message type ∧
    field.repeated = repeated ∧ field.oneof = oneof

theorem HasText.oneofOf {shape : MessageShape} {number : Nat} {oneof : Option Nat}
    (h : HasText shape number oneof) : (shape.field? number).bind FieldShape.oneof = oneof := by
  obtain ⟨field, hfield, -, -, honeof, -⟩ := h
  rw [hfield, Option.bind_some, honeof]

theorem HasMessage.oneofOf {shape : MessageShape} {number : Nat} {type : String} {repeated : Bool}
    {oneof : Option Nat} (h : HasMessage shape number type repeated oneof) :
    (shape.field? number).bind FieldShape.oneof = oneof := by
  obtain ⟨field, hfield, -, -, honeof⟩ := h
  rw [hfield, Option.bind_some, honeof]

theorem of_value?_string {item : Item} {value : Payload}
    (h : Scalar.string.value? item = some value) :
    ∃ bytes text, value = .bytes bytes ∧ item = .plain ⟨item.number, .bytes bytes⟩ ∧
      item.text? = some text ∧ (bytes = [] → text = "") := by
  unfold Scalar.value? at h
  split at h
  · rename_i record
    obtain ⟨number, payload⟩ := record
    cases payload with
    | bytes bytes =>
      rw [Scalar.normalize?] at h
      split at h
      · rename_i hdecoded
        cases h
        obtain ⟨text, htext⟩ := Option.isSome_iff_exists.mp hdecoded
        refine ⟨bytes, String.ofList text, rfl, rfl, ?_, ?_⟩
        · simp [Item.text?, Item.bytes?, Utf8.toString?, htext]
        · rintro rfl
          cases htext
          rfl
      · cases h
    | _ => cases h
  · cases h

section Blocks

variable {inside : Inside} {unread : Item → Bool} {shape : MessageShape} {own : List Item}
  {records : List Record} {number : Nat} {oneof : Option Nat}

theorem text_of_numberRecords? (htext : HasText shape number oneof)
    (h : numberRecords? inside unread shape own number = some records) :
    (∀ item ∈ itemsOf number own, item.text?.isSome) ∧
      ((∃ last, (itemsOf number own).getLast? = some last ∧ records = last.records) ∨
        (records = [] ∧ ∀ last, (itemsOf number own).getLast? = some last →
          last.text? = some "" ∧ oneof = none)) := by
  obtain ⟨field, hfield, hkind, hrepeated, honeof, hpresence⟩ := htext
  have hnumber : field.number = number := by simpa using List.find?_some hfield
  simp only [numberRecords?, hfield, fieldRecords?, hkind, hrepeated, Bool.false_eq_true, if_false]
    at h
  obtain ⟨values, hvalues, rfl⟩ := Option.map_eq_some_iff.mp h
  rw [← itemsOf] at hvalues
  constructor
  · intro item hitem
    obtain ⟨value, -, hvalue⟩ := exists_of_mapM_eq_some hvalues hitem
    obtain ⟨bytes, text, -, -, hread, -⟩ := of_value?_string hvalue
    exact Option.isSome_of_eq_some hread
  · have hforall := forall₂_of_mapM_eq_some hvalues
    cases hlast : (itemsOf number own).getLast? with
    | none =>
      rw [List.getLast?_eq_none_iff] at hlast
      rw [hlast, List.forall₂_nil_left_iff] at hforall
      exact .inr ⟨by rw [hforall, singularRecords, List.getLast?_nil], fun _ h => by cases h⟩
    | some last =>
      obtain ⟨value, hvalue, hread⟩ := getLast?_of_forall₂ hforall hlast
      obtain ⟨bytes, text, rfl, hitem, htext, hempty⟩ := of_value?_string hread
      have hown : last.number = number :=
        (mem_itemsOf_iff.mp (List.mem_of_getLast? hlast)).2
      simp only [singularRecords, hvalue, hnumber]
      split
      · refine .inl ⟨last, rfl, ?_⟩
        rw [hitem, Item.records, hown]
      · rename_i hdefault
        rw [Bool.or_eq_true, not_or, Bool.not_eq_true, Bool.not_eq_true, Bool.not_eq_false',
          Scalar.isDefault, List.isEmpty_iff] at hdefault
        refine .inr ⟨rfl, fun other hother => ?_⟩
        cases hother
        refine ⟨by rw [htext, hempty hdefault.2], ?_⟩
        cases oneof with
        | none => rfl
        | some o => exact absurd (hpresence rfl) (by simp [hdefault.1])

end Blocks

def MessageShape.oneofOf (shape : MessageShape) (number : Nat) : Option Nat :=
  (shape.field? number).bind FieldShape.oneof

theorem superseded_iff {shape : MessageShape} {item : Item} {later : List Item} :
    shape.superseded item later = true ↔ ∃ oneof, shape.oneofOf item.number = some oneof ∧
      ∃ other ∈ later, other.number ≠ item.number ∧ shape.oneofOf other.number = some oneof := by
  unfold MessageShape.superseded
  split
  · rename_i oneof _ _ hfield
    simp [MessageShape.oneofOf, hfield]
  · rename_i hnone
    simp only [Bool.false_eq_true, false_iff, not_exists, not_and]
    intro oneof honeof
    obtain ⟨field, hfield, hfound⟩ := Option.bind_eq_some_iff.mp honeof
    obtain ⟨number, kind, repeated, presence, oneof', packed⟩ := field
    cases hfound
    exact absurd hfield (hnone _ _ _ _ _ _)

theorem itemsOf_settle {shape : MessageShape} {number : Nat} (h : shape.oneofOf number = none)
    (items : List Item) : itemsOf number (shape.settle items).1 = itemsOf number items := by
  induction items with
  | nil => rfl
  | cons item rest ih =>
    cases hsuper : shape.superseded item rest with
    | true =>
      obtain ⟨oneof, honeof, -⟩ := superseded_iff.mp hsuper
      have hne : item.number ≠ number := by
        rintro rfl
        rw [h] at honeof
        cases honeof
      rw [settle_cons_of_superseded hsuper, ih]
      simp [itemsOf, hne]
    | false =>
      rw [settle_cons_of_not_superseded hsuper]
      simp only [itemsOf, List.filter_cons] at ih ⊢
      rw [ih]

theorem lastText_settle {shape : MessageShape} {number : Nat} (h : shape.oneofOf number = none)
    (items : List Item) : lastText number (shape.settle items).1 = lastText number items := by
  simp only [lastText, lastText?, texts, itemsOf_settle h]

section Settle

variable {shape : MessageShape} {items : List Item}

/-- What stays of a oneof stands under one number. -/
theorem settle_alone {first second : Item} (hfirst : first ∈ (shape.settle items).1)
    (hsecond : second ∈ (shape.settle items).1) {oneof : Nat}
    (honeof : shape.oneofOf first.number = some oneof)
    (hother : shape.oneofOf second.number = some oneof) : first.number = second.number := by
  induction items with
  | nil => cases hfirst
  | cons item rest ih =>
    cases hsuper : shape.superseded item rest with
    | true =>
      rw [settle_cons_of_superseded hsuper] at hfirst hsecond
      exact ih hfirst hsecond
    | false =>
      rw [settle_cons_of_not_superseded hsuper] at hfirst hsecond
      have hsame {later : Item} (hlater : later ∈ (shape.settle rest).1)
          (hitem : shape.oneofOf item.number = some oneof)
          (hlaterOneof : shape.oneofOf later.number = some oneof) : later.number = item.number := by
        by_contra hne
        have hmem := (mem_settle_iff shape).mpr (.inl hlater)
        rw [superseded_iff.mpr ⟨oneof, hitem, later, hmem, hne, hlaterOneof⟩] at hsuper
        cases hsuper
      rcases List.mem_cons.mp hfirst with rfl | hfirstLater <;>
        rcases List.mem_cons.mp hsecond with rfl | hsecondLater
      · rfl
      · exact (hsame hsecondLater honeof hother).symm
      · exact hsame hfirstLater hother honeof
      · exact ih hfirstLater hsecondLater

theorem settle_eq_self (h : ∀ first ∈ items, ∀ second ∈ items, ∀ oneof,
    shape.oneofOf first.number = some oneof → shape.oneofOf second.number = some oneof →
      first.number = second.number) : (shape.settle items).1 = items := by
  induction items with
  | nil => rfl
  | cons item rest ih =>
    have hsuper : shape.superseded item rest = false := by
      rw [Bool.eq_false_iff, Ne, superseded_iff]
      rintro ⟨oneof, honeof, other, hother, hne, hotherOneof⟩
      exact hne (h other (List.mem_cons_of_mem item hother) item List.mem_cons_self oneof
        hotherOneof honeof)
    rw [settle_cons_of_not_superseded hsuper, ih fun first hfirst second hsecond =>
      h first (List.mem_cons_of_mem item hfirst) second (List.mem_cons_of_mem item hsecond)]

end Settle

def Sound (items : List Item) : Prop :=
  ∀ item ∈ items, item.Whole ∧ ∀ record ∈ item.records, record.Fits

theorem Sound.of_subset {first second : List Item} (h : Sound second) (hsub : first ⊆ second) :
    Sound first :=
  fun item hitem => h item (hsub hitem)

theorem Block.eq_of_flatMap {number : Nat} {records : List Record} {items others : List Item}
    (h : Block number records items) (hothers : ∀ item ∈ others, item.Whole)
    (hrecords : others.flatMap Item.records = records) : items = others := by
  have hread := items?_flatMap h.whole
  rw [h.records, ← hrecords, items?_flatMap hothers, Option.some.injEq] at hread
  exact hread.symm

theorem slim_of_sublist {number : Nat} {own written : List Item} (hown : Sound own)
    (h : (itemsOf number written).Sublist (itemsOf number own)) : Slim number own written where
  fits item hitem := (hown item (mem_itemsOf_iff.mp (h.subset hitem)).1).2
  size := size_le_of_sublist h

namespace Written

variable {inside : Inside} {unread : Item → Bool} {shape : MessageShape} {items written : List Item}
  {records : List Record} {number : Nat} {oneof : Option Nat}

theorem sound_kept (hitems : Sound items) : Sound (shape.settle items).1 :=
  hitems.of_subset (sublist_settle shape items).subset

theorem itemsOf_kept (h : number ∉ itemNumbers (shape.settle items).1) :
    itemsOf number (shape.settle items).1 = [] := by
  refine List.eq_nil_iff_forall_not_mem.mpr fun item hitem => ?_
  obtain ⟨hmem, hnumber⟩ := mem_itemsOf_iff.mp hitem
  exact h (mem_itemNumbers_iff.mpr ⟨item, hmem, hnumber⟩)

theorem text_cases (h : Written inside unread shape items records written) (hitems : Sound items)
    (htext : HasText shape number oneof) :
    (∀ item ∈ itemsOf number (shape.settle items).1, item.text?.isSome) ∧
      ((∃ last, (itemsOf number (shape.settle items).1).getLast? = some last ∧
          itemsOf number written = [last]) ∨
        (itemsOf number written = [] ∧
          ∀ last, (itemsOf number (shape.settle items).1).getLast? = some last →
            last.text? = some "" ∧ oneof = none)) := by
  by_cases hnumber : number ∈ itemNumbers (shape.settle items).1
  · obtain ⟨own, hown, hblock⟩ := h.blocks number hnumber
    obtain ⟨hall, hrecords⟩ := text_of_numberRecords? htext hown
    refine ⟨hall, hrecords.imp ?_ ?_⟩
    · rintro ⟨last, hlast, rfl⟩
      have hmem := (mem_itemsOf_iff.mp (List.mem_of_getLast? hlast)).1
      refine ⟨last, hlast, hblock.eq_of_flatMap ?_ (List.flatMap_singleton _ _)⟩
      exact List.forall_mem_singleton.mpr (sound_kept hitems last hmem).1
    · rintro ⟨rfl, hempty⟩
      exact ⟨hblock.eq_of_flatMap (by simp) rfl, hempty⟩
  · rw [itemsOf_kept hnumber, h.others number hnumber]
    exact ⟨by simp, .inr ⟨rfl, by simp⟩⟩

theorem text (h : Written inside unread shape items records written) (hitems : Sound items)
    (htext : HasText shape number oneof) :
    Slim number (shape.settle items).1 written ∧
      (∀ item ∈ itemsOf number written, item.text?.isSome) ∧
      lastText number written = lastText number (shape.settle items).1 := by
  obtain ⟨hall, hcases⟩ := h.text_cases hitems htext
  have hlastText := lastText?_eq hall
  rcases hcases with ⟨last, hlast, hwritten⟩ | ⟨hwritten, hempty⟩
  · have hmem := List.mem_of_getLast? hlast
    have hread : ∀ item ∈ itemsOf number written, item.text?.isSome := by
      rw [hwritten]
      exact List.forall_mem_singleton.mpr (hall last hmem)
    refine ⟨slim_of_sublist (sound_kept hitems) ?_, hread, ?_⟩
    · rw [hwritten]
      exact List.singleton_sublist.mpr hmem
    · rw [lastText, lastText, hlastText, lastText?_eq hread, hwritten, hlast]
      rfl
  · have hread : ∀ item ∈ itemsOf number written, item.text?.isSome := by
      rw [hwritten]
      simp
    refine ⟨slim_of_sublist (sound_kept hitems) ?_, hread, ?_⟩
    · rw [hwritten]
      exact List.nil_sublist _
    · rw [lastText, lastText, hlastText, lastText?_eq hread, hwritten]
      cases hlast : (itemsOf number (shape.settle items).1).getLast? with
      | none => rfl
      | some last => simp [(hempty last hlast).1]

theorem undeclared (h : Written inside unread shape items records written) (hitems : Sound items)
    (hfield : shape.field? number = none) :
    itemsOf number written = itemsOf number (shape.settle items).1 ∧
      ∀ item ∈ itemsOf number written, unread item = true := by
  by_cases hnumber : number ∈ itemNumbers (shape.settle items).1
  · obtain ⟨own, hown, hblock⟩ := h.blocks number hnumber
    simp only [numberRecords?, hfield] at hown
    split at hown
    · rename_i hunread
      cases hown
      have hsame : itemsOf number written = itemsOf number (shape.settle items).1 :=
        hblock.eq_of_flatMap
          (fun item hitem => (sound_kept hitems item (mem_itemsOf_iff.mp hitem).1).1) rfl
      refine ⟨hsame, fun item hitem => ?_⟩
      rw [hsame] at hitem
      exact List.all_eq_true.mp hunread item hitem
    · cases hown
  · rw [itemsOf_kept hnumber, h.others number hnumber]
    exact ⟨rfl, by simp⟩

end Written

section Messages

variable {inside : Inside} {unread : Item → Bool} {shape : MessageShape}
  {items own written : List Item} {records : List Record} {number : Nat} {type : String}
  {oneof : Option Nat}

/-- The occurrences of a singular message are written as one. -/
theorem message_of_numberRecords? (hmessage : HasMessage shape number type false oneof)
    (h : numberRecords? inside unread shape own number = some records) :
    ∃ inners merged, (itemsOf number own).mapM Item.inner? = some inners ∧
      inside type inners.flatten = some merged ∧
      records = [⟨number, .bytes (encode merged)⟩] := by
  obtain ⟨field, hfield, hkind, hrepeated, -⟩ := hmessage
  have hnumber : field.number = number := by simpa using List.find?_some hfield
  simp only [numberRecords?, hfield, fieldRecords?, hkind, hrepeated, Bool.false_eq_true, if_false,
    hnumber] at h
  obtain ⟨inners, hinners, h⟩ := Option.bind_eq_some_iff.mp h
  obtain ⟨merged, hmerged, h⟩ := Option.bind_eq_some_iff.mp h
  cases h
  exact ⟨inners, merged, hinners, hmerged, rfl⟩

theorem messages_of_numberRecords? (hmessage : HasMessage shape number type true oneof)
    (h : numberRecords? inside unread shape own number = some records) :
    ∃ inners each, (itemsOf number own).mapM Item.inner? = some inners ∧
      inners.mapM (inside type) = some each ∧
      records = each.map fun written => ⟨number, .bytes (encode written)⟩ := by
  obtain ⟨field, hfield, hkind, hrepeated, -⟩ := hmessage
  have hnumber : field.number = number := by simpa using List.find?_some hfield
  simp only [numberRecords?, hfield, fieldRecords?, hkind, hrepeated, if_true, hnumber] at h
  obtain ⟨inners, hinners, h⟩ := Option.bind_eq_some_iff.mp h
  obtain ⟨each, heach, h⟩ := Option.bind_eq_some_iff.mp h
  cases h
  refine ⟨inners, each, hinners, heach, ?_⟩
  rw [List.map_eq_flatMap]
  rfl

namespace Written

theorem message (h : Written inside unread shape items records written)
    (hmessage : HasMessage shape number type false oneof)
    (hnumber : number ∈ itemNumbers (shape.settle items).1) :
    ∃ inners merged, (itemsOf number (shape.settle items).1).mapM Item.inner? = some inners ∧
      inside type inners.flatten = some merged ∧
      itemsOf number written = [.plain ⟨number, .bytes (encode merged)⟩] := by
  obtain ⟨own, hown, hblock⟩ := h.blocks number hnumber
  obtain ⟨inners, merged, hinners, hmerged, rfl⟩ := message_of_numberRecords? hmessage hown
  refine ⟨inners, merged, hinners, hmerged, hblock.eq_of_flatMap ?_ (List.flatMap_singleton _ _)⟩
  exact List.forall_mem_singleton.mpr rfl

theorem messages (h : Written inside unread shape items records written)
    (hmessage : HasMessage shape number type true oneof)
    (hnumber : number ∈ itemNumbers (shape.settle items).1) :
    ∃ inners each, (itemsOf number (shape.settle items).1).mapM Item.inner? = some inners ∧
      inners.mapM (inside type) = some each ∧
      itemsOf number written = each.map fun written => .plain ⟨number, .bytes (encode written)⟩ := by
  obtain ⟨own, hown, hblock⟩ := h.blocks number hnumber
  obtain ⟨inners, each, hinners, heach, rfl⟩ := messages_of_numberRecords? hmessage hown
  refine ⟨inners, each, hinners, heach, hblock.eq_of_flatMap ?_ ?_⟩
  · exact List.forall_mem_map.mpr fun _ _ => rfl
  · rw [List.flatMap_map, List.map_eq_flatMap]
    rfl

end Written

theorem itemsOf_ne_nil (h : number ∈ itemNumbers items) : itemsOf number items ≠ [] := by
  obtain ⟨item, hitem, hnumber⟩ := mem_itemNumbers_iff.mp h
  exact List.ne_nil_of_mem (mem_itemsOf_iff.mpr ⟨hitem, hnumber⟩)

theorem sound_of_inner? {inners : List (List Item)}
    (h : List.Forall₂ (fun item inner => item.inner? = some inner) items inners) :
    Sound inners.flatten := by
  induction h with
  | nil => exact fun item hitem => absurd hitem List.not_mem_nil
  | cons hinner _ ih =>
    obtain ⟨value, -, hread⟩ := Option.bind_eq_some_iff.mp hinner
    rw [List.flatten_cons]
    exact List.forall_mem_append.mpr ⟨(of_readItems? hread).1, ih⟩

theorem sizes_of_inner? {items : List Item} {inners : List (List Item)}
    (h : List.Forall₂ (fun item inner => item.inner? = some inner) items inners)
    (hnumber : ∀ item ∈ items, item.number = number) {each : List (List Record)}
    (heach : List.Forall₂ (fun inner records => (encode records).length ≤ size inner) inners
      each) :
    size (each.map fun written => .plain ⟨number, .bytes (encode written)⟩) ≤ size items := by
  induction h generalizing each with
  | nil =>
    cases heach
    exact Nat.le_refl _
  | @cons item inner rest inners hinner _ ih =>
    rw [List.forall_mem_cons] at hnumber
    cases heach with
    | cons hfirst hrest =>
      obtain ⟨value, hitem, hvalue⟩ := Item.of_inner? hinner
      rw [hnumber.1] at hitem
      have hlater := ih hnumber.2 hrest
      have hhead := length_encode_bytes_mono number (hfirst.trans hvalue)
      rw [List.map_cons, size_cons, size_cons, hitem, Item.records, Item.records,
        encode_singleton, encode_singleton]
      omega

/-- Written as one message they take no more than one by one. -/
theorem size_merged_le {items : List Item} {inners : List (List Item)}
    (h : List.Forall₂ (fun item inner => item.inner? = some inner) items inners)
    (hnumber : ∀ item ∈ items, item.number = number) (hne : items ≠ []) :
    (varint (number * 8 + 2)).length +
      ((varint (size inners.flatten)).length + size inners.flatten) ≤ size items := by
  induction h with
  | nil => exact absurd rfl hne
  | @cons item inner rest inners hinner hrest ih =>
    rw [List.forall_mem_cons] at hnumber
    obtain ⟨value, hitem, hvalue⟩ := Item.of_inner? hinner
    rw [hnumber.1] at hitem
    have hvarint := length_varint_mono hvalue
    rw [List.flatten_cons, size_append, size_cons, hitem, Item.records, encode_singleton,
      length_encode_bytes]
    by_cases hrestNil : rest = []
    · subst hrestNil
      cases hrest
      simp only [List.flatten_nil, size, List.flatMap_nil, encode, List.length_nil, Nat.add_zero]
        at hvalue hvarint ⊢
      omega
    · have hlater := ih hnumber.2 hrestNil
      have hadd := length_varint_add (size inner) (size inners.flatten)
      omega

end Messages

end Wire
end ServiceScaffold
