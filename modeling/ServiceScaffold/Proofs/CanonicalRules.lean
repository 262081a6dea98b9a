import Mathlib
import ServiceScaffold.Proofs.RulePatterns

/-!
# Canonical rules

The value of an option is first read as its declared type and written again, and only then read as
a rule. With the standard declarations of rules that makes no difference to the pattern and the
body, and what is written can always be read.
-/

namespace ServiceScaffold
namespace Wire

open Schema (itemsOf texts lastText? lastText)

theorem levels_plain {record : Record} (h : record.payload.isBracket = false) (level : Nat)
    (rest : List Record) : levels level (record :: rest) = level :: levels level rest ∧
      groupLevels level (record :: rest) = groupLevels level rest := by
  obtain ⟨number, payload⟩ := record
  cases payload with
  | groupStart | groupEnd => cases h
  | varint | fixed64 | bytes | fixed32 => exact ⟨rfl, rfl⟩

theorem Balanced.levels_append {body : List Record} (h : Balanced body) (level : Nat)
    (rest : List Record) : levels level (body ++ rest) = levels level body ++ levels level rest ∧
      groupLevels level (body ++ rest) = groupLevels level body ++ groupLevels level rest := by
  induction h generalizing level rest with
  | nil => exact ⟨rfl, rfl⟩
  | plain hplain _ ih =>
    rw [List.cons_append, (levels_plain hplain level _).1, (levels_plain hplain level _).1,
      (levels_plain hplain level _).2, (levels_plain hplain level _).2, (ih level rest).1,
      (ih level rest).2]
    exact ⟨rfl, rfl⟩
  | group _ _ ihInside ihRest =>
    simp only [Item.records, List.cons_append, List.append_assoc, List.nil_append, levels,
      groupLevels, Nat.add_sub_cancel, (ihInside _ _).1, (ihInside _ _).2, (ihRest _ _).1,
      (ihRest _ _).2, and_self]

theorem Balanced.level_le {body : List Record} (h : Balanced body) {level n : Nat}
    (hn : n ∈ levels level body) : n = level ∨ ∃ m ∈ groupLevels level body, n ≤ m + 1 := by
  induction h generalizing level with
  | nil => cases hn
  | plain hplain _ ih =>
    rw [(levels_plain hplain level _).1] at hn
    rw [(levels_plain hplain level _).2]
    rcases List.mem_cons.mp hn with rfl | hn
    · exact .inl rfl
    · exact ih hn
  | @group number inside rest hinside _ ihInside ihRest =>
    simp only [Item.records, List.cons_append, List.append_assoc, List.nil_append, levels,
      groupLevels, Nat.add_sub_cancel, (hinside.levels_append _ _).1,
      (hinside.levels_append _ _).2, List.mem_cons, List.mem_append] at hn ⊢
    rcases hn with rfl | hn | hn
    · exact .inl rfl
    · rcases ihInside hn with rfl | ⟨m, hm, hle⟩
      · exact .inr ⟨level, .inl rfl, Nat.le_refl _⟩
      · exact .inr ⟨m, .inr (.inl hm), hle⟩
    · rcases ihRest hn with rfl | ⟨m, hm, hle⟩
      · exact .inl rfl
      · exact .inr ⟨m, .inr (.inr hm), hle⟩

/-- Only a level more is needed to pass over what may be kept. -/
theorem skippable_of_keepable {limit : Nat} {item : Item} (hwhole : item.Whole)
    (h : item.keepable limit = true) : item.skippable (limit + 1) = true := by
  have hbalanced : Balanced item.records := by
    simpa using hwhole.balanced .nil
  rw [Item.keepable, List.all_eq_true] at h
  rw [Item.skippable, List.all_eq_true]
  intro n hn
  rw [decide_eq_true_iff]
  rcases hbalanced.level_le hn with rfl | ⟨m, hm, hle⟩
  · exact Nat.succ_pos limit
  · have hm := h m hm
    rw [decide_eq_true_iff] at hm
    omega

structure IsCustomShape (shape : MessageShape) : Prop where
  kind : HasText shape 1 none
  path : HasText shape 2 none
  others : ∀ number, number ≠ 1 → number ≠ 2 → shape.field? number = none

section Customs

variable {shapes : Shapes} {shape : MessageShape} {items : List Item} {records : List Record}

/-- How canonical options keep what they do not know. -/
abbrev keeps (limit : Nat) (item : Item) : Bool :=
  item.keepable limit

theorem custom_of_canonical? {limit : Nat} (hshape : IsCustomShape shape) (hitems : Sound items)
    (h : canonical? shapes keeps limit shape items = some records) :
    ∃ written, items? records = some written ∧ (∀ record ∈ records, record.Fits) ∧
      (encode records).length ≤ size items ∧
      lastText 1 written = lastText 1 items ∧ lastText 2 written = lastText 2 items ∧
      ∀ custom, (written.foldlM (HttpRule.mergeCustom (limit + 1)) custom).isSome := by
  rw [canonical?_eq] at h
  obtain ⟨written, hwritten⟩ := exists_written (balances_insideOf shapes keeps limit)
    (fun item hitem => (hitems item hitem).1) h
  obtain ⟨hkindSlim, hkindRead, hkind⟩ := hwritten.text hitems hshape.kind
  obtain ⟨hpathSlim, hpathRead, hpath⟩ := hwritten.text hitems hshape.path
  have hother {number : Nat} (hone : number ≠ 1) (htwo : number ≠ 2) :=
    hwritten.undeclared hitems (hshape.others number hone htwo)
  obtain ⟨hfits, hlength⟩ := hwritten.fits fun number _ => by
    by_cases hone : number = 1
    · exact hone ▸ hkindSlim
    by_cases htwo : number = 2
    · exact htwo ▸ hpathSlim
    · exact slim_of_sublist (Written.sound_kept hitems) (by rw [(hother hone htwo).1])
  refine ⟨written, hwritten.read, hfits, hlength, ?_, ?_, foldlM_isSome fun item hitem => ?_⟩
  · rw [hkind, lastText_settle hshape.kind.oneofOf]
  · rw [hpath, lastText_settle hshape.path.oneofOf]
  · refine HttpRule.mergeCustom_isSome ?_ fun hone htwo => ?_
    · rintro (hnumber | hnumber)
      · exact hkindRead item (mem_itemsOf_iff.mpr ⟨hitem, hnumber⟩)
      · exact hpathRead item (mem_itemsOf_iff.mpr ⟨hitem, hnumber⟩)
    · have hwhole := (items?_eq_some_iff.mp hwritten.read).1 item hitem
      exact skippable_of_keepable hwhole
        ((hother hone htwo).2 item (mem_itemsOf_iff.mpr ⟨hitem, rfl⟩))

end Customs

structure IsRuleShape (shape : MessageShape) : Prop where
  selector : HasText shape 1 none
  path : ∀ number ∈ patternNumbers, number ≠ 8 → HasText shape number (some 0)
  body : HasText shape 7 none
  custom : HasMessage shape 8 "google.api.CustomHttpPattern" false (some 0)
  bindings : HasMessage shape 11 "google.api.HttpRule" true none
  responseBody : HasText shape 12 none
  others : ∀ number ∉ [1, 2, 3, 4, 5, 6, 7, 8, 11, 12], shape.field? number = none

/-- What is written of the messages inside a rule can be read again, with `limit` levels to go,
and of custom patterns the kind and path stay. -/
structure Inside.KeepsRules (inside : Inside) (limit : Nat) : Prop where
  custom : ∀ inner records, Sound inner →
    inside "google.api.CustomHttpPattern" inner = some records →
    ∃ written, readItems? (encode records) = some written ∧
      (encode records).length ≤ size inner ∧
      lastText 1 written = lastText 1 inner ∧ lastText 2 written = lastText 2 inner ∧
      ∀ custom, (written.foldlM (HttpRule.mergeCustom limit) custom).isSome
  rule : ∀ inner records, Sound inner → size inner < UInt64.size →
    inside "google.api.HttpRule" inner = some records →
    ∃ written, readItems? (encode records) = some written ∧
      (encode records).length ≤ size inner ∧
      (written.foldlM (HttpRule.merge limit) HttpRule.empty).isSome

namespace IsRuleShape

open HttpRule

variable {inside : Inside} {unread : Item → Bool} {shape : MessageShape}
  {items written : List Item} {records : List Record} {limit : Nat}

theorem oneofOf_of_mem (h : IsRuleShape shape) {number : Nat} (hnumber : number ∈ patternNumbers) :
    shape.oneofOf number = some 0 := by
  by_cases hcustom : number = 8
  · exact hcustom ▸ h.custom.oneofOf
  · exact (h.path number hnumber hcustom).oneofOf

theorem oneofOf_of_not_mem (h : IsRuleShape shape) {number : Nat}
    (hnumber : number ∉ patternNumbers) : shape.oneofOf number = none := by
  by_cases hknown : number ∈ [1, 7, 11, 12]
  · simp only [List.mem_cons, List.not_mem_nil, or_false] at hknown
    rcases hknown with rfl | rfl | rfl | rfl
    · exact h.selector.oneofOf
    · exact h.body.oneofOf
    · exact h.bindings.oneofOf
    · exact h.responseBody.oneofOf
  · rw [MessageShape.oneofOf, h.others number (by simp_all [patternNumbers])]
    rfl

/-- What is displaced has no influence on the pattern. -/
theorem foldl_patternStep_settle (h : IsRuleShape shape) (items : List Item) :
    (shape.settle items).1.foldl patternStep none = items.foldl patternStep none := by
  induction items with
  | nil => rfl
  | cons item rest ih =>
    cases hsuper : shape.superseded item rest with
    | true =>
      obtain ⟨oneof, honeof, other, hother, hne, hotherOneof⟩ := superseded_iff.mp hsuper
      have hmem {number : Nat} (hnumber : shape.oneofOf number = some oneof) :
          number ∈ patternNumbers := by
        by_contra hnot
        rw [h.oneofOf_of_not_mem hnot] at hnumber
        cases hnumber
      rw [settle_cons_of_superseded hsuper, List.foldl_cons, ih]
      by_cases hcustom : other.number = 8
      · obtain ⟨next, hnext, hstep⟩ := exists_patternStep (hmem honeof) fun heq =>
          hne (hcustom.trans heq.symm)
        rw [hstep]
        exact foldl_patternStep_congr (.inr ⟨hnext.symm, other, hother, hmem hotherOneof⟩)
      · exact foldl_patternStep_congr (.inl ⟨other, hother, hmem hotherOneof, hcustom⟩)
    | false =>
      rw [settle_cons_of_not_superseded hsuper, List.foldl_cons, List.foldl_cons]
      by_cases hnumber : item.number ∈ patternNumbers
      · have hlater {later : Item} {oneof : Nat} (hmem : later ∈ rest)
            (honeof : shape.oneofOf later.number = some oneof) : later.number = item.number := by
          by_contra hne
          have hzero : shape.oneofOf later.number = some 0 := by
            refine h.oneofOf_of_mem ?_
            by_contra hnot
            rw [h.oneofOf_of_not_mem hnot] at honeof
            cases honeof
          rw [superseded_iff.mpr ⟨0, h.oneofOf_of_mem hnumber, later, hmem, hne, hzero⟩] at hsuper
          cases hsuper
        rw [settle_eq_self fun first hfirst second hsecond oneof honeof hother =>
          (hlater hfirst honeof).trans (hlater hsecond hother).symm]
      · rw [patternStep_of_not_mem hnumber, ih]

theorem exists_patternNumber (h : IsRuleShape shape) (items : List Item) :
    ∃ number ∈ patternNumbers, ∀ item ∈ (shape.settle items).1,
      item.number ∈ patternNumbers → item.number = number := by
  by_cases hexists : ∃ item ∈ (shape.settle items).1, item.number ∈ patternNumbers
  · obtain ⟨item, hitem, hmem⟩ := hexists
    exact ⟨item.number, hmem, fun other hother hotherMem => settle_alone hother hitem
      (h.oneofOf_of_mem hotherMem) (h.oneofOf_of_mem hmem)⟩
  · push Not at hexists
    exact ⟨8, by decide, fun item hitem hmem => absurd hmem (hexists item hitem)⟩

theorem foldl_patternStep_custom (h : IsRuleShape shape) (hinside : inside.KeepsRules limit)
    (hwritten : Written inside unread shape items records written) :
    (itemsOf 8 written).foldl patternStep none =
      (itemsOf 8 (shape.settle items).1).foldl patternStep none := by
  by_cases hkept : 8 ∈ itemNumbers (shape.settle items).1
  · obtain ⟨inners, merged, hinners, hmerged, hown⟩ := hwritten.message h.custom hkept
    have hforall := forall₂_of_mapM_eq_some hinners
    obtain ⟨inner, hinner, -, hkind, hpath, -⟩ :=
      hinside.custom _ _ (sound_of_inner? hforall) hmerged
    have hread : List.Forall₂ (fun item inner => item.inner? = some inner)
        [Item.plain ⟨8, .bytes (encode merged)⟩] [inner] := .cons hinner .nil
    rw [hown, foldl_patternStep_customs hforall (fun item hitem => (mem_itemsOf_iff.mp hitem).2)
      (itemsOf_ne_nil hkept), foldl_patternStep_customs hread (by simp [Item.number]) (by simp),
      List.flatten_singleton]
    rw [lastText, lastText] at hkind hpath
    exact congrArg some (congrArg₂ Pattern.custom hkind hpath)
  · rw [Written.itemsOf_kept hkept, hwritten.others 8 hkept]

theorem foldl_patternStep_path (h : IsRuleShape shape)
    (hwritten : Written inside unread shape items records written) (hitems : Sound items)
    {number : Nat} (hnumber : number ∈ patternNumbers) (hpath : number ≠ 8) :
    (itemsOf number written).foldl patternStep none =
      (itemsOf number (shape.settle items).1).foldl patternStep none := by
  obtain ⟨-, hcases⟩ := hwritten.text_cases hitems (h.path number hnumber hpath)
  rcases hcases with ⟨last, hlast, hown⟩ | ⟨hown, hempty⟩
  · have hlastNumber := (mem_itemsOf_iff.mp (List.mem_of_getLast? hlast)).2
    rw [hown, foldl_patternStep_paths hlast (hlastNumber.symm ▸ hnumber)
      (hlastNumber.symm ▸ hpath)]
    rfl
  · cases hlast : (itemsOf number (shape.settle items).1).getLast? with
    | none => rw [hown, List.getLast?_eq_none_iff.mp hlast]
    | some last => cases (hempty last hlast).2

/-- What is written has the same pattern. -/
theorem foldl_patternStep_written (h : IsRuleShape shape) (hinside : inside.KeepsRules limit)
    (hwritten : Written inside unread shape items records written) (hitems : Sound items) :
    written.foldl patternStep none = items.foldl patternStep none := by
  rw [← h.foldl_patternStep_settle items]
  obtain ⟨number, hnumber, hsame⟩ := h.exists_patternNumber items
  have hsameWritten : ∀ item ∈ written, item.number ∈ patternNumbers → item.number = number := by
    intro item hitem hmem
    by_cases hkept : item.number ∈ itemNumbers (shape.settle items).1
    · obtain ⟨kept, hkeptMem, heq⟩ := mem_itemNumbers_iff.mp hkept
      exact heq ▸ hsame kept hkeptMem (heq.symm ▸ hmem)
    · have hown : item ∈ itemsOf item.number written := mem_itemsOf_iff.mpr ⟨hitem, rfl⟩
      rw [hwritten.others _ hkept] at hown
      cases hown
  rw [foldl_patternStep_itemsOf hsame, foldl_patternStep_itemsOf hsameWritten]
  by_cases hcustom : number = 8
  · rw [hcustom, h.foldl_patternStep_custom hinside hwritten]
  · exact h.foldl_patternStep_path hwritten hitems hnumber hcustom

/-- What is written under a number fits, takes no more, and can be merged into a rule. -/
structure Readable (limit number : Nat) (own written : List Item) : Prop where
  slim : Slim number own written
  merges : ∀ item ∈ itemsOf number written, ∀ rule, (merge (limit + 1) rule item).isSome

theorem merge_isSome_of_text {item : Item} (h : item.number ∈ [1, 2, 3, 4, 5, 6, 7, 12])
    (htext : item.text?.isSome) (rule : HttpRule) : (merge limit rule item).isSome := by
  unfold merge
  split <;> simp_all

theorem readable_text {oneof : Option Nat} {number : Nat}
    (hwritten : Written inside unread shape items records written) (hitems : Sound items)
    (htext : HasText shape number oneof) (hnumber : number ∈ [1, 2, 3, 4, 5, 6, 7, 12]) :
    Readable limit number (shape.settle items).1 written := by
  obtain ⟨hslim, hread, -⟩ := hwritten.text hitems htext
  refine ⟨hslim, fun item hitem rule => merge_isSome_of_text ?_ (hread item hitem) rule⟩
  rwa [(mem_itemsOf_iff.mp hitem).2]

theorem slim_of_messages {number : Nat} {values : List (List Record)} {own : List Item}
    (hpositive : 0 < number) (hbounded : number < 2 ^ 29)
    (hwritten : itemsOf number written =
      values.map fun value => .plain ⟨number, .bytes (encode value)⟩)
    (hsize : size (itemsOf number written) ≤ size (itemsOf number own))
    (hlength : size own < UInt64.size) : Slim number own written := by
  refine ⟨fun item hitem record hrecord => ?_, hsize⟩
  have hitemSize := size_le_of_sublist (List.singleton_sublist.mpr hitem)
  have hownSize : size (itemsOf number own) ≤ size own := size_le_of_sublist List.filter_sublist
  rw [hwritten] at hitem
  obtain ⟨value, -, rfl⟩ := List.mem_map.mp hitem
  rw [Item.records, List.mem_singleton] at hrecord
  subst hrecord
  refine ⟨hpositive, hbounded, show (encode value).length < UInt64.size from ?_⟩
  rw [size, List.flatMap_singleton, Item.records, encode_singleton, length_encode_bytes]
    at hitemSize
  omega

theorem readable_custom (h : IsRuleShape shape) (hinside : inside.KeepsRules limit)
    (hwritten : Written inside unread shape items records written)
    (hlength : size items < UInt64.size) (hkept : 8 ∈ itemNumbers (shape.settle items).1) :
    Readable limit 8 (shape.settle items).1 written := by
  obtain ⟨inners, merged, hinners, hmerged, hown⟩ := hwritten.message h.custom hkept
  have hforall := forall₂_of_mapM_eq_some hinners
  obtain ⟨inner, hinner, hmergedLength, -, -, hmerges⟩ :=
    hinside.custom _ _ (sound_of_inner? hforall) hmerged
  have hkeptLength := (size_le_of_sublist (sublist_settle shape items)).trans_lt hlength
  constructor
  · have hsingle : itemsOf 8 written =
        [merged].map fun value => .plain ⟨8, .bytes (encode value)⟩ := hown
    refine slim_of_messages (by decide) (by decide) hsingle ?_ hkeptLength
    have hsize := size_merged_le hforall (fun item hitem => (mem_itemsOf_iff.mp hitem).2)
      (itemsOf_ne_nil hkept)
    have hvarint := length_varint_mono hmergedLength
    rw [hown, size, List.flatMap_singleton, Item.records, encode_singleton, length_encode_bytes]
    omega
  · intro item hitem rule
    rw [hown, List.mem_singleton] at hitem
    subst hitem
    obtain ⟨⟨kind, path⟩, hcustom⟩ := Option.isSome_iff_exists.mp (hmerges rule.customSoFar)
    exact Option.isSome_of_eq_some (merge_of_merged (.custom rfl hinner hcustom))

theorem readable_bindings (h : IsRuleShape shape) (hinside : inside.KeepsRules limit)
    (hwritten : Written inside unread shape items records written) (hitems : Sound items)
    (hlength : size items < UInt64.size) (hkept : 11 ∈ itemNumbers (shape.settle items).1) :
    Readable limit 11 (shape.settle items).1 written := by
  obtain ⟨inners, each, hinners, heach, hown⟩ := hwritten.messages h.bindings hkept
  have hforall := forall₂_of_mapM_eq_some hinners
  have hkeptLength := (size_le_of_sublist (sublist_settle shape items)).trans_lt hlength
  have hrule : ∀ inner ∈ inners, ∀ records, inside "google.api.HttpRule" inner = some records →
      ∃ written, readItems? (encode records) = some written ∧
        (encode records).length ≤ size inner ∧
        (written.foldlM (merge limit) HttpRule.empty).isSome := by
    intro inner hinner records hrecords
    obtain ⟨item, hitem, hread⟩ := exists_of_mem_mapM hinners hinner
    obtain ⟨value, hvalue, hsize⟩ := Item.of_inner? hread
    have hfits := (Written.sound_kept hitems item (mem_itemsOf_iff.mp hitem).1).2
    rw [hvalue, Item.records, List.forall_mem_singleton] at hfits
    have hsound := sound_of_inner? (.cons hread .nil)
    rw [List.flatten_singleton] at hsound
    exact hinside.rule inner records hsound (hsize.trans_lt hfits.payload) hrecords
  constructor
  · refine slim_of_messages (by decide) (by decide) hown ?_ hkeptLength
    rw [hown]
    have heachLength : List.Forall₂ (fun inner records => (encode records).length ≤ size inner)
        inners each := by
      refine (mem_forall₂_left (forall₂_of_mapM_eq_some heach)).imp fun inner records hmade => ?_
      obtain ⟨-, -, hsize, -⟩ := hrule inner hmade.1 records hmade.2
      exact hsize
    exact sizes_of_inner? hforall (fun item hitem => (mem_itemsOf_iff.mp hitem).2) heachLength
  · intro item hitem rule
    rw [hown] at hitem
    obtain ⟨value, hvalue, rfl⟩ := List.mem_map.mp hitem
    obtain ⟨inner, hinner, hrecords⟩ := exists_of_mem_mapM heach hvalue
    obtain ⟨inside, hinside, -, hmerges⟩ := hrule inner hinner value hrecords
    obtain ⟨binding, hbinding⟩ := Option.isSome_iff_exists.mp hmerges
    exact Option.isSome_of_eq_some (merge_of_merged (.binding rfl hinside hbinding))

theorem readable_undeclared (h : IsRuleShape shape)
    (hwritten : Written inside (keeps limit) shape items records written) (hitems : Sound items)
    {number : Nat} (hnumber : number ∉ [1, 2, 3, 4, 5, 6, 7, 8, 11, 12]) :
    Readable limit number (shape.settle items).1 written := by
  obtain ⟨hown, hunread⟩ := hwritten.undeclared hitems (h.others number hnumber)
  refine ⟨slim_of_sublist (Written.sound_kept hitems) (by rw [hown]), fun item hitem rule => ?_⟩
  obtain ⟨hmem, rfl⟩ := mem_itemsOf_iff.mp hitem
  have hwhole := (items?_eq_some_iff.mp hwritten.read).1 item hmem
  exact Option.isSome_of_eq_some
    (merge_of_merged (.unknown hnumber (skippable_of_keepable hwhole (hunread item hitem))))

theorem rule_of_messageRecords? (h : IsRuleShape shape) (hinside : inside.KeepsRules limit)
    (hbalances : inside.Balances) (hitems : Sound items) (hlength : size items < UInt64.size)
    (hrecords : messageRecords? inside (keeps limit) shape items = some records) :
    ∃ written rule, readItems? (encode records) = some written ∧
      (encode records).length ≤ size items ∧
      written.foldlM (merge (limit + 1)) HttpRule.empty = some rule ∧
      rule.pattern = items.foldl patternStep none ∧ rule.body = lastText 7 items := by
  obtain ⟨written, hwritten⟩ := exists_written hbalances (fun item hitem => (hitems item hitem).1)
    hrecords
  have hreadable {number : Nat} (hkept : number ∈ itemNumbers (shape.settle items).1) :
      Readable limit number (shape.settle items).1 written := by
    by_cases hknown : number ∈ [1, 2, 3, 4, 5, 6, 7, 8, 11, 12]
    · simp only [List.mem_cons, List.not_mem_nil, or_false] at hknown
      rcases hknown with rfl | rfl | rfl | rfl | rfl | rfl | rfl | rfl | rfl | rfl
      · exact readable_text hwritten hitems h.selector (by decide)
      iterate 5
        · exact readable_text hwritten hitems (h.path _ (by decide) (by decide)) (by decide)
      · exact readable_text hwritten hitems h.body (by decide)
      · exact h.readable_custom hinside hwritten hlength hkept
      · exact h.readable_bindings hinside hwritten hitems hlength hkept
      · exact readable_text hwritten hitems h.responseBody (by decide)
    · exact h.readable_undeclared hwritten hitems hknown
  obtain ⟨hfits, hsize⟩ := hwritten.fits fun number hkept => (hreadable hkept).slim
  have hmerges : (written.foldlM (merge (limit + 1)) HttpRule.empty).isSome := by
    refine foldlM_isSome (fun item hitem rule => ?_) _
    have hown : item ∈ itemsOf item.number written := mem_itemsOf_iff.mpr ⟨hitem, rfl⟩
    by_cases hkept : item.number ∈ itemNumbers (shape.settle items).1
    · exact (hreadable hkept).merges item hown rule
    · rw [hwritten.others _ hkept] at hown
      cases hown
  obtain ⟨rule, hrule⟩ := Option.isSome_iff_exists.mp hmerges
  obtain ⟨hpattern, hbody⟩ := of_foldlM_merge hrule
  refine ⟨written, rule, readItems?_of_items? hfits hwritten.read, hsize, hrule, ?_, ?_⟩
  · rw [hpattern]
    exact h.foldl_patternStep_written hinside hwritten hitems
  · rw [hbody, ← lastText_settle h.body.oneofOf, ← (hwritten.text hitems h.body).2.2]
    rfl

end IsRuleShape

/-- The declarations of rules and of custom patterns are the standard ones. -/
structure Shapes.KnowRules (shapes : Shapes) : Prop where
  rule : ∃ shape, shapes.find "google.api.HttpRule" = some shape ∧ IsRuleShape shape
  custom : ∃ shape, shapes.find "google.api.CustomHttpPattern" = some shape ∧ IsCustomShape shape

variable {shapes : Shapes} {items : List Item} {records : List Record}

theorem keepsRules_insideOf (hshapes : shapes.KnowRules) (limit : Nat) :
    (insideOf shapes keeps limit).KeepsRules limit := by
  obtain ⟨⟨ruleShape, hrule, hruleShape⟩, customShape, hcustom, hcustomShape⟩ := hshapes
  induction limit with
  | zero =>
    refine ⟨fun inner records _ h => ?_, fun inner records _ _ h => ?_⟩
    · obtain ⟨_, _, hlimit, -⟩ := of_insideOf h
      cases hlimit
    · obtain ⟨_, _, hlimit, -⟩ := of_insideOf h
      cases hlimit
  | succ limit ih =>
    refine ⟨fun inner records hinner h => ?_, fun inner records hinner hlength h => ?_⟩
    · obtain ⟨below, shape, hlimit, hshape, h⟩ := of_insideOf h
      cases hlimit
      rw [hcustom, Option.some.injEq] at hshape
      subst hshape
      obtain ⟨written, hread, hfits, hsize, hkind, hpath, hmerges⟩ :=
        custom_of_canonical? hcustomShape hinner h
      exact ⟨written, readItems?_of_items? hfits hread, hsize, hkind, hpath, hmerges⟩
    · obtain ⟨below, shape, hlimit, hshape, h⟩ := of_insideOf h
      cases hlimit
      rw [hrule, Option.some.injEq] at hshape
      subst hshape
      rw [canonical?_eq] at h
      obtain ⟨written, rule, hread, hsize, hmerged, -⟩ :=
        hruleShape.rule_of_messageRecords? ih (balances_insideOf shapes keeps limit) hinner hlength h
      exact ⟨written, hread, hsize, Option.isSome_of_eq_some hmerged⟩

/-- The canonical records of a rule can be read as a rule, and if what they were made from is a
rule, that has the same pattern and body. -/
theorem decode?_of_canonical? {limit : Nat} {shape : MessageShape} (hshapes : shapes.KnowRules)
    (hshape : shapes.find "google.api.HttpRule" = some shape) (hlimit : limit + 1 = nestingLimit)
    (hitems : Sound items) (hlength : size items < UInt64.size)
    (h : canonical? shapes keeps limit shape items = some records) :
    ∃ rule, HttpRule.decode? (encode records) = some rule ∧
      ∀ other, items.foldlM (HttpRule.merge nestingLimit) HttpRule.empty = some other →
        rule.pattern = other.pattern ∧ rule.body = other.body := by
  obtain ⟨found, hfound, hrule⟩ := hshapes.rule
  rw [hshape, Option.some.injEq] at hfound
  subst hfound
  rw [canonical?_eq] at h
  obtain ⟨written, rule, hread, -, hmerged, hpattern, hbody⟩ := hrule.rule_of_messageRecords?
    (keepsRules_insideOf hshapes limit) (balances_insideOf shapes keeps limit) hitems hlength h
  refine ⟨rule, ?_, fun other hother => ?_⟩
  · rw [HttpRule.decode?, hread, Option.bind_eq_bind, Option.bind_some, ← hlimit, hmerged]
  · obtain ⟨hotherPattern, hotherBody⟩ := HttpRule.of_foldlM_merge hother
    rw [hpattern, hotherPattern, hbody, hotherBody]
    exact ⟨rfl, rfl⟩

end Wire
end ServiceScaffold
