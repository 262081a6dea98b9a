import Mathlib
import ServiceScaffold.Wire.HttpRule
import ServiceScaffold.Proofs.ReadMessages

/-!
# Merging rules

What one item does to a rule. A rule that is read item by item is nested no deeper than the limit
allows, and it is written in no more bytes than it was read from.
-/

namespace ServiceScaffold
namespace Wire

section Fold

variable {α : Type} {f : α → Item → Option α} {items : List Item} {a b : α}

theorem foldlM_invariant {P : α → Prop}
    (hstep : ∀ item ∈ items, ∀ a b, P a → f a item = some b → P b)
    (h : items.foldlM f a = some b) (ha : P a) : P b := by
  induction items generalizing a with
  | nil =>
    cases h
    exact ha
  | cons item rest ih =>
    rw [List.forall_mem_cons] at hstep
    obtain ⟨next, hnext, h⟩ := Option.bind_eq_some_iff.mp h
    exact ih hstep.2 h (hstep.1 a next ha hnext)

theorem foldlM_size_le {m : α → Nat} (hstep : ∀ item a b, f a item = some b →
    m b ≤ m a + (encode item.records).length) (h : items.foldlM f a = some b) :
    m b ≤ m a + size items := by
  induction items generalizing a with
  | nil =>
    cases h
    exact Nat.le_add_right _ _
  | cons item rest ih =>
    obtain ⟨next, hnext, h⟩ := Option.bind_eq_some_iff.mp h
    have hfirst := hstep item a next hnext
    have hrest := ih h
    rw [size_cons]
    omega

end Fold

theorem encode_append (first second : List Record) :
    encode (first ++ second) = encode first ++ encode second := by
  simp [encode]

theorem encode_singleton (record : Record) : encode [record] = record.encode := by
  simp [encode]

theorem length_encode_bytes (number : Nat) (value : Bytes) :
    (Record.encode ⟨number, .bytes value⟩).length =
      (varint (number * 8 + 2)).length + ((varint value.length).length + value.length) := by
  simp [Record.encode, Payload.encode, Payload.form]

theorem length_encode_bytes_mono (number : Nat) {value other : Bytes}
    (h : value.length ≤ other.length) :
    (Record.encode ⟨number, .bytes value⟩).length ≤
      (Record.encode ⟨number, .bytes other⟩).length := by
  have hlength := length_varint_mono h
  rw [length_encode_bytes, length_encode_bytes]
  omega

theorem length_value_le {records : List Record} {number : Nat} {value : Bytes}
    (h : ⟨number, .bytes value⟩ ∈ records) : value.length ≤ (encode records).length := by
  obtain ⟨before, after, rfl⟩ := List.append_of_mem h
  rw [encode_append, encode, encode, List.flatMap_cons, List.length_append, List.length_append,
    length_encode_bytes]
  omega

namespace Item

variable {item : Item}

theorem of_bytes? {value : Bytes} (h : item.bytes? = some value) :
    item = .plain ⟨item.number, .bytes value⟩ := by
  unfold bytes? at h
  split at h
  · cases h
    rfl
  · cases h

theorem of_text? {text : String} (h : item.text? = some text) :
    ∃ value, item = .plain ⟨item.number, .bytes value⟩ ∧
      (Utf8.ofString text).length ≤ value.length := by
  obtain ⟨value, hvalue, htext⟩ := Option.bind_eq_some_iff.mp h
  obtain ⟨chars, hchars, rfl⟩ := Option.map_eq_some_iff.mp htext
  refine ⟨value, of_bytes? hvalue, ?_⟩
  rw [Utf8.ofString, String.toList_ofList]
  exact (congrArg List.length (Utf8.encode_of_decode? hchars)).le

theorem text?_ofString (number : Nat) (text : String) :
    (Item.plain ⟨number, .bytes (Utf8.ofString text)⟩).text? = some text := by
  simp [text?, bytes?, Utf8.toString?_ofString]

theorem of_inner? {inside : List Item} (h : item.inner? = some inside) :
    ∃ value, item = .plain ⟨item.number, .bytes value⟩ ∧ size inside ≤ value.length := by
  obtain ⟨value, hvalue, hinside⟩ := Option.bind_eq_some_iff.mp h
  exact ⟨value, of_bytes? hvalue, (of_readItems? hinside).2⟩

end Item

/-- The pattern that a number and a path stand for; a custom pattern is no such pair. -/
def Pattern.ofPath? (number : Nat) (path : String) : Option Pattern :=
  match number with
  | 2 => some (.get path)
  | 3 => some (.put path)
  | 4 => some (.post path)
  | 5 => some (.delete path)
  | 6 => some (.patch path)
  | _ => none

namespace HttpRule

inductive TextField
  | selector
  | body
  | responseBody

namespace TextField

def number : TextField → Nat
  | selector => 1
  | body => 7
  | responseBody => 12

def get : TextField → HttpRule → String
  | selector => HttpRule.selector
  | body => HttpRule.body
  | responseBody => HttpRule.responseBody

def set : TextField → HttpRule → String → HttpRule
  | selector => withSelector
  | body => withBody
  | responseBody => withResponseBody

theorem set_get (field : TextField) (rule : HttpRule) : field.set rule (field.get rule) = rule := by
  cases rule
  cases field <;> rfl

@[simp] theorem pattern_set (field : TextField) (rule : HttpRule) (text : String) :
    (field.set rule text).pattern = rule.pattern := by
  cases field <;> rfl

@[simp] theorem additionalBindings_set (field : TextField) (rule : HttpRule) (text : String) :
    (field.set rule text).additionalBindings = rule.additionalBindings := by
  cases field <;> rfl

end TextField

/-- One constructor for each thing that an item can do to a rule, `limit` levels from the end. -/
inductive Merged (rule : HttpRule) (item : Item) : Nat → HttpRule → Prop
  | text {limit : Nat} {text : String} (field : TextField) (number : item.number = field.number)
      (read : item.text? = some text) : Merged rule item limit (field.set rule text)
  | path {limit : Nat} {text : String} {pattern : Pattern}
      (number : Pattern.ofPath? item.number text = some pattern)
      (read : item.text? = some text) : Merged rule item limit (rule.withPattern pattern)
  | custom {limit : Nat} {inside : List Item} {kind path : String} (number : item.number = 8)
      (read : item.inner? = some inside)
      (merged : inside.foldlM (mergeCustom limit) rule.customSoFar = some (kind, path)) :
      Merged rule item (limit + 1) (rule.withPattern (.custom kind path))
  | binding {limit : Nat} {inside : List Item} {binding : HttpRule} (number : item.number = 11)
      (read : item.inner? = some inside)
      (merged : inside.foldlM (merge limit) empty = some binding) :
      Merged rule item (limit + 1) (rule.withBinding binding)
  | unknown {limit : Nat} (number : item.number ∉ [1, 2, 3, 4, 5, 6, 7, 8, 11, 12])
      (skipped : item.skippable limit = true) : Merged rule item limit rule

theorem merged_of_merge {limit : Nat} {rule later : HttpRule} {item : Item}
    (h : merge limit rule item = some later) : Merged rule item limit later := by
  unfold merge at h
  split at h
  · obtain ⟨text, htext, rfl⟩ := Option.map_eq_some_iff.mp h
    exact .text .selector ‹_› htext
  iterate 5
    · rename_i hnumber
      obtain ⟨text, htext, rfl⟩ := Option.map_eq_some_iff.mp h
      exact .path (by rw [hnumber]; rfl) htext
  · obtain ⟨text, htext, rfl⟩ := Option.map_eq_some_iff.mp h
    exact .text .body ‹_› htext
  · cases limit with
    | zero => cases h
    | succ limit =>
      obtain ⟨inside, hinside, h⟩ := Option.bind_eq_some_iff.mp h
      obtain ⟨⟨kind, path⟩, hcustom, h⟩ := Option.bind_eq_some_iff.mp h
      cases h
      exact .custom ‹_› hinside hcustom
  · cases limit with
    | zero => cases h
    | succ limit =>
      obtain ⟨inside, hinside, h⟩ := Option.bind_eq_some_iff.mp h
      obtain ⟨binding, hbinding, h⟩ := Option.bind_eq_some_iff.mp h
      cases h
      exact .binding ‹_› hinside hbinding
  · obtain ⟨text, htext, rfl⟩ := Option.map_eq_some_iff.mp h
    exact .text .responseBody ‹_› htext
  · split at h
    · cases h
      exact .unknown (by simp_all) ‹_›
    · cases h

theorem merge_of_merged {limit : Nat} {rule later : HttpRule} {item : Item}
    (h : Merged rule item limit later) : merge limit rule item = some later := by
  unfold merge
  cases h with
  | text field number read => cases field <;> simp [number, read, TextField.number, TextField.set]
  | custom number read merged | binding number read merged => simp [number, read, merged]
  | path number read =>
    unfold Pattern.ofPath? at number
    split at number <;> simp_all
  | unknown number skipped =>
    simp only [List.mem_cons, List.not_mem_nil, or_false, not_or] at number
    split <;> simp_all

end HttpRule

/-- A custom pattern is a message of its own. -/
def Pattern.depth : Pattern → Nat
  | .custom _ _ => 1
  | _ => 0

theorem Pattern.depth_ofPath? {number : Nat} {path : String} {pattern : Pattern}
    (h : Pattern.ofPath? number path = some pattern) : pattern.depth = 0 := by
  unfold ofPath? at h
  split at h <;> cases h <;> rfl

namespace HttpRule

mutual

/-- How deep the messages inside a rule are nested. -/
def depth : HttpRule → Nat
  | .mk _ pattern _ _ bindings => max (pattern.elim 0 Pattern.depth) (bindingsDepth bindings)

def bindingsDepth : List HttpRule → Nat
  | [] => 0
  | binding :: rest => max (depth binding + 1) (bindingsDepth rest)

end

theorem depth_eq (rule : HttpRule) : rule.depth =
    max (rule.pattern.elim 0 Pattern.depth) (bindingsDepth rule.additionalBindings) := by
  cases rule
  rw [depth]
  rfl

theorem bindingsDepth_append (first second : List HttpRule) :
    bindingsDepth (first ++ second) = max (bindingsDepth first) (bindingsDepth second) := by
  induction first with
  | nil => simp [bindingsDepth]
  | cons binding rest ih => rw [List.cons_append, bindingsDepth, bindingsDepth, ih, max_assoc]

/-- What is read with `limit` levels to go is nested no deeper. -/
theorem depth_merge_le {limit : Nat} {rule later : HttpRule} {item : Item}
    (h : merge limit rule item = some later) (hrule : rule.depth ≤ limit) :
    later.depth ≤ limit := by
  induction limit using Nat.strong_induction_on generalizing rule later item with
  | _ limit ih =>
    rw [depth_eq, max_le_iff] at hrule
    have hstep := merged_of_merge h
    clear h
    cases hstep with
    | text field =>
      rw [depth_eq, field.pattern_set, field.additionalBindings_set]
      exact max_le_iff.mpr hrule
    | unknown =>
      rw [depth_eq]
      exact max_le_iff.mpr hrule
    | path number => exact max_le_iff.mpr ⟨by simp [Pattern.depth_ofPath? number], hrule.2⟩
    | custom => exact max_le_iff.mpr ⟨by simp [Pattern.depth], hrule.2⟩
    | @binding below inside binding _ _ merged =>
      have hbinding : binding.depth ≤ below := by
        refine foldlM_invariant (P := fun rule => rule.depth ≤ below) ?_ merged (Nat.zero_le _)
        exact fun item _ before after hbefore hmerge =>
          ih below (Nat.lt_succ_self below) hmerge hbefore
      refine max_le_iff.mpr ⟨hrule.1, ?_⟩
      rw [bindingsDepth_append, bindingsDepth, bindingsDepth]
      simp only [max_le_iff]
      exact ⟨hrule.2, by omega, Nat.zero_le _⟩

theorem bindingRecords_append (first second : List HttpRule) :
    bindingRecords (first ++ second) = bindingRecords first ++ bindingRecords second := by
  induction first with
  | nil => rfl
  | cons binding rest ih =>
    rw [List.cons_append, bindingRecords, bindingRecords, ih, List.cons_append]

theorem length_encode_mk (selector : String) (pattern : Option Pattern)
    (body responseBody : String) (bindings : List HttpRule) :
    (encode (.mk selector pattern body responseBody bindings)).length =
      (Wire.encode (textRecords 1 selector)).length +
      (Wire.encode (pattern.toList.map patternRecord)).length +
      (Wire.encode (textRecords 7 body)).length +
      (Wire.encode (bindingRecords bindings)).length +
      (Wire.encode (textRecords 12 responseBody)).length := by
  simp [encode, records, encode_append, Nat.add_assoc]

theorem length_textRecords_le (number : Nat) {text : String} {value : Bytes}
    (h : (Utf8.ofString text).length ≤ value.length) :
    (Wire.encode (textRecords number text)).length ≤
      (Record.encode ⟨number, .bytes value⟩).length := by
  unfold textRecords
  split
  · exact Nat.zero_le _
  · rw [encode_singleton]
    exact length_encode_bytes_mono number h

def customSize (custom : String × String) : Nat :=
  (Wire.encode (textRecords 1 custom.1 ++ textRecords 2 custom.2)).length

theorem customSize_mergeCustom_le {limit : Nat} {item : Item} {custom later : String × String}
    (h : mergeCustom limit custom item = some later) :
    customSize later ≤ customSize custom + (Wire.encode item.records).length := by
  unfold mergeCustom at h
  simp only [customSize, encode_append, List.length_append]
  split at h
  · rename_i hnumber
    obtain ⟨text, htext, rfl⟩ := Option.map_eq_some_iff.mp h
    obtain ⟨value, hitem, hlength⟩ := Item.of_text? htext
    have hle := length_textRecords_le 1 hlength
    rw [hitem, hnumber, Item.records, encode_singleton]
    dsimp only
    omega
  · rename_i hnumber
    obtain ⟨text, htext, rfl⟩ := Option.map_eq_some_iff.mp h
    obtain ⟨value, hitem, hlength⟩ := Item.of_text? htext
    have hle := length_textRecords_le 2 hlength
    rw [hitem, hnumber, Item.records, encode_singleton]
    dsimp only
    omega
  · split at h
    · cases h
      omega
    · cases h

theorem TextField.length_encode_set_le (field : TextField) (rule : HttpRule) (text : String) :
    (field.set rule text).encode.length ≤
      rule.encode.length + (Wire.encode (textRecords field.number text)).length := by
  cases rule
  cases field <;>
    simp only [set, number, withSelector, withBody, withResponseBody, length_encode_mk,
      HttpRule.selector, HttpRule.pattern, HttpRule.body, HttpRule.responseBody,
      additionalBindings] <;>
    omega

theorem length_encode_withPattern (rule : HttpRule) (next : Pattern) :
    (rule.withPattern next).encode.length +
        (Wire.encode (rule.pattern.toList.map patternRecord)).length =
      rule.encode.length + (patternRecord next).encode.length := by
  cases rule
  rw [withPattern, length_encode_mk, length_encode_mk, Option.toList_some, List.map_singleton,
    encode_singleton]
  dsimp only [selector, pattern, body, responseBody, additionalBindings]
  omega

theorem length_encode_withBinding (rule binding : HttpRule) :
    (rule.withBinding binding).encode.length =
      rule.encode.length + (Record.encode ⟨11, .bytes binding.encode⟩).length := by
  cases rule
  rw [withBinding, length_encode_mk, length_encode_mk]
  have hinside : binding.encode = Wire.encode binding.records := rfl
  simp only [selector, pattern, body, responseBody, additionalBindings, bindingRecords_append,
    bindingRecords, encode_append, encode_singleton, List.length_append, hinside]
  omega

theorem patternRecord_ofPath? {number : Nat} {path : String} {pattern : Pattern}
    (h : Pattern.ofPath? number path = some pattern) :
    patternRecord pattern = ⟨number, .bytes (Utf8.ofString path)⟩ := by
  unfold Pattern.ofPath? at h
  split at h <;> cases h <;> rfl

theorem length_patternRecord_custom (kind path : String) :
    (patternRecord (.custom kind path)).encode.length =
      (varint (8 * 8 + 2)).length +
        ((varint (customSize (kind, path))).length + customSize (kind, path)) := by
  rw [patternRecord, length_encode_bytes]
  rfl

/-- What a custom pattern adds to takes no more than the pattern that it replaces. -/
theorem length_custom_add_le (rule : HttpRule) (n : Nat) :
    (varint (customSize rule.customSoFar + n)).length + customSize rule.customSoFar ≤
      (Wire.encode (rule.pattern.toList.map patternRecord)).length + (varint n).length := by
  have hnone : customSize ("", "") = 0 := rfl
  unfold customSoFar
  split
  · rename_i kind path hpattern
    have hadd := length_varint_add (customSize (kind, path)) n
    rw [hpattern, Option.toList_some, List.map_singleton, encode_singleton,
      length_patternRecord_custom]
    omega
  · rw [hnone, Nat.zero_add]
    omega

/-- What stands for a rule takes no more than what it was read from. -/
theorem length_encode_merge_le {limit : Nat} {rule later : HttpRule} {item : Item}
    (h : merge limit rule item = some later) :
    later.encode.length ≤ rule.encode.length + (Wire.encode item.records).length := by
  induction limit using Nat.strong_induction_on generalizing rule later item with
  | _ limit ih =>
    have hstep := merged_of_merge h
    clear h
    cases hstep with
    | @text _ text field number read =>
      obtain ⟨value, hitem, hlength⟩ := Item.of_text? read
      rw [hitem, number, Item.records, encode_singleton]
      exact (field.length_encode_set_le rule text).trans
        (Nat.add_le_add_left (length_textRecords_le field.number hlength) _)
    | unknown => exact Nat.le_add_right _ _
    | @path _ text pattern number read =>
      obtain ⟨value, hitem, hlength⟩ := Item.of_text? read
      have hreplaced := length_encode_withPattern rule pattern
      have hle := length_encode_bytes_mono item.number hlength
      rw [patternRecord_ofPath? number] at hreplaced
      rw [hitem, Item.records, encode_singleton]
      omega
    | @custom below inside kind path number read merged =>
      obtain ⟨value, hitem, hlength⟩ := Item.of_inner? read
      have hreplaced := length_encode_withPattern rule (.custom kind path)
      have hsize := foldlM_size_le (fun _ _ _ => customSize_mergeCustom_le) merged
      have hgroups := length_varint_mono (hsize.trans (Nat.add_le_add_left hlength _))
      have hadd := length_custom_add_le rule value.length
      rw [length_patternRecord_custom] at hreplaced
      rw [hitem, number, Item.records, encode_singleton, length_encode_bytes]
      omega
    | @binding below inside binding number read merged =>
      obtain ⟨value, hitem, hlength⟩ := Item.of_inner? read
      have hsize := foldlM_size_le (m := fun rule => rule.encode.length)
        (fun _ _ _ => ih below (Nat.lt_succ_self below)) merged
      have hempty : empty.encode.length = 0 := rfl
      rw [hempty, Nat.zero_add] at hsize
      rw [hitem, number, Item.records, encode_singleton, length_encode_withBinding]
      exact Nat.add_le_add_left (length_encode_bytes_mono 11 (hsize.trans hlength)) _

theorem of_decode? {bytes : Bytes} {rule : HttpRule} (h : decode? bytes = some rule) :
    rule.depth ≤ nestingLimit ∧ rule.encode.length ≤ bytes.length := by
  obtain ⟨items, hitems, h⟩ := Option.bind_eq_some_iff.mp h
  constructor
  · exact foldlM_invariant (P := fun rule => rule.depth ≤ nestingLimit)
      (fun _ _ _ _ hbefore hmerge => depth_merge_le hmerge hbefore) h (Nat.zero_le _)
  · have hsize := foldlM_size_le (m := fun rule => rule.encode.length)
      (fun _ _ _ => length_encode_merge_le) h
    have hempty : empty.encode.length = 0 := rfl
    have hread := (of_readItems? hitems).2
    omega

end HttpRule

end Wire
end ServiceScaffold
