import Mathlib
import ServiceScaffold.Proofs.CanonicalFields

/-!
# Patterns of rules

The pattern of a rule as a fold over its items. A path replaces what was there, a custom pattern
adds to an earlier one, and so only the last items of the oneof matter.
-/

namespace ServiceScaffold
namespace Wire

open Schema (itemsOf texts lastText? lastText)

theorem foldlM_isSome {α : Type} {f : α → Item → Option α} {items : List Item}
    (h : ∀ item ∈ items, ∀ a, (f a item).isSome) (a : α) : (items.foldlM f a).isSome := by
  induction items generalizing a with
  | nil => rfl
  | cons item rest ih =>
    rw [List.forall_mem_cons] at h
    obtain ⟨next, hnext⟩ := Option.isSome_iff_exists.mp (h.1 a)
    rw [List.foldlM_cons, hnext]
    exact ih h.2 next

namespace HttpRule

theorem mergeCustom_isSome {limit : Nat} {item : Item}
    (htext : item.number = 1 ∨ item.number = 2 → item.text?.isSome)
    (hother : item.number ≠ 1 → item.number ≠ 2 → item.skippable limit = true)
    (custom : String × String) : (mergeCustom limit custom item).isSome := by
  unfold mergeCustom
  split
  · simpa using htext (.inl ‹_›)
  · simpa using htext (.inr ‹_›)
  · rw [if_pos (hother ‹_› ‹_›)]
    rfl

theorem of_foldlM_mergeCustom {limit : Nat} {items : List Item} {custom later : String × String}
    (h : items.foldlM (mergeCustom limit) custom = some later) :
    later = ((lastText? 1 items).getD custom.1, (lastText? 2 items).getD custom.2) := by
  induction items generalizing custom with
  | nil =>
    cases h
    rfl
  | cons item rest ih =>
    obtain ⟨next, hnext, h⟩ := Option.bind_eq_some_iff.mp h
    rw [ih h]
    unfold mergeCustom at hnext
    split at hnext
    · rename_i hnumber
      obtain ⟨kind, hkind, rfl⟩ := Option.map_eq_some_iff.mp hnext
      rw [lastText?_cons hnumber hkind, lastText?_cons_of_ne (by simp [hnumber]), Option.getD_some]
    · rename_i hnumber
      obtain ⟨path, hpath, rfl⟩ := Option.map_eq_some_iff.mp hnext
      rw [lastText?_cons hnumber hpath, lastText?_cons_of_ne (by simp [hnumber]), Option.getD_some]
    · rename_i hkind hpath
      split at hnext
      · cases hnext
        rw [lastText?_cons_of_ne hkind, lastText?_cons_of_ne hpath]
      · cases hnext

end HttpRule

def patternNumbers : List Nat :=
  [2, 3, 4, 5, 6, 8]

namespace HttpRule

/-- What a custom pattern adds to where this pattern was. -/
def customIn (pattern : Option Pattern) : String × String :=
  (HttpRule.mk "" pattern "" "" []).customSoFar

def patternStep (pattern : Option Pattern) (item : Item) : Option Pattern :=
  if item.number = 8 then
    let inside := item.inner?.getD []
    some (.custom ((lastText? 1 inside).getD (customIn pattern).1)
      ((lastText? 2 inside).getD (customIn pattern).2))
  else (Pattern.ofPath? item.number (item.text?.getD "")).or pattern

theorem ofPath?_eq_none {number : Nat} (h : number ∉ patternNumbers) (path : String) :
    Pattern.ofPath? number path = none := by
  unfold Pattern.ofPath?
  split <;> simp_all [patternNumbers]

theorem exists_ofPath? {number : Nat} (h : number ∈ patternNumbers) (hne : number ≠ 8)
    (path : String) : ∃ pattern, Pattern.ofPath? number path = some pattern ∧
      customIn (some pattern) = ("", "") := by
  simp only [patternNumbers, List.mem_cons, List.not_mem_nil, or_false, hne] at h
  rcases h with rfl | rfl | rfl | rfl | rfl <;> exact ⟨_, rfl, rfl⟩

theorem patternStep_of_not_mem {item : Item} (h : item.number ∉ patternNumbers)
    (pattern : Option Pattern) : patternStep pattern item = pattern := by
  have hne : item.number ≠ 8 := fun heq => h (by simp [heq, patternNumbers])
  rw [patternStep, if_neg hne, ofPath?_eq_none h, Option.none_or]

theorem exists_patternStep {item : Item} (h : item.number ∈ patternNumbers)
    (hne : item.number ≠ 8) : ∃ next, customIn (some next) = ("", "") ∧
      ∀ pattern, patternStep pattern item = some next := by
  obtain ⟨next, hnext, hcustom⟩ := exists_ofPath? h hne (item.text?.getD "")
  refine ⟨next, hcustom, fun pattern => ?_⟩
  rw [patternStep, if_neg hne, hnext, Option.some_or]

/-- Of the pattern before, a custom pattern needs only what it adds to. -/
theorem patternStep_congr {item : Item} (h : item.number ∈ patternNumbers)
    {first second : Option Pattern} (hcustom : item.number = 8 → customIn first = customIn second) :
    patternStep first item = patternStep second item := by
  by_cases hnumber : item.number = 8
  · rw [patternStep, patternStep, if_pos hnumber, if_pos hnumber, hcustom hnumber]
  · obtain ⟨next, -, hnext⟩ := exists_patternStep h hnumber
    rw [hnext, hnext]

theorem pattern_of_merged {limit : Nat} {rule later : HttpRule} {item : Item}
    (h : Merged rule item limit later) : later.pattern = patternStep rule.pattern item := by
  have hother (hnumber : item.number ∉ patternNumbers) (hsame : later.pattern = rule.pattern) :
      later.pattern = patternStep rule.pattern item := by
    rw [patternStep_of_not_mem hnumber, hsame]
  cases h with
  | text field number read =>
    exact hother (by rw [number]; cases field <;> decide) (field.pattern_set rule _)
  | binding number read _ => exact hother (by rw [number]; decide) rfl
  | unknown number _ => exact hother (by simp_all [patternNumbers]) rfl
  | @path limit text pattern number read =>
    have hne : item.number ≠ 8 := fun heq => by
      rw [heq] at number
      cases number
    rw [patternStep, if_neg hne, read, Option.getD_some, number, Option.some_or]
    rfl
  | @custom limit inside kind path number read merged =>
    have hcustom := of_foldlM_mergeCustom merged
    rw [Prod.mk.injEq] at hcustom
    rw [patternStep, if_pos number, read, Option.getD_some, hcustom.1, hcustom.2]
    rfl

theorem body_of_merged {limit : Nat} {rule later : HttpRule} {item : Item}
    (h : Merged rule item limit later) (rest : List Item) :
    (lastText? 7 rest).getD later.body = (lastText? 7 (item :: rest)).getD rule.body := by
  have hother (hnumber : item.number ≠ 7) (hsame : later.body = rule.body) :
      (lastText? 7 rest).getD later.body = (lastText? 7 (item :: rest)).getD rule.body := by
    rw [lastText?_cons_of_ne hnumber, hsame]
  cases h with
  | text field number read =>
    cases field with
    | selector | responseBody => exact hother (by rw [number]; decide) rfl
    | body =>
      have hnumber : item.number = 7 := number
      rw [lastText?_cons hnumber read, Option.getD_some]
      rfl
  | custom number read _ | binding number read _ => exact hother (by rw [number]; decide) rfl
  | unknown number _ => exact hother (by simp_all) rfl
  | path number read =>
    refine hother (fun heq => ?_) rfl
    rw [heq] at number
    cases number

/-- The pattern and the body that items give. -/
theorem of_foldlM_merge {limit : Nat} {items : List Item} {rule later : HttpRule}
    (h : items.foldlM (merge limit) rule = some later) :
    later.pattern = items.foldl patternStep rule.pattern ∧
      later.body = (lastText? 7 items).getD rule.body := by
  induction items generalizing rule with
  | nil =>
    cases h
    exact ⟨rfl, rfl⟩
  | cons item rest ih =>
    obtain ⟨next, hnext, h⟩ := Option.bind_eq_some_iff.mp h
    have hmerged := merged_of_merge hnext
    obtain ⟨hpattern, hbody⟩ := ih h
    rw [hpattern, hbody, List.foldl_cons, pattern_of_merged hmerged, body_of_merged hmerged]
    exact ⟨rfl, rfl⟩

theorem foldl_patternStep_congr {items : List Item} {first second : Option Pattern}
    (h : (∃ item ∈ items, item.number ∈ patternNumbers ∧ item.number ≠ 8) ∨
      customIn first = customIn second ∧ ∃ item ∈ items, item.number ∈ patternNumbers) :
    items.foldl patternStep first = items.foldl patternStep second := by
  induction items generalizing first second with
  | nil => simp at h
  | cons item rest ih =>
    rw [List.foldl_cons, List.foldl_cons]
    by_cases hnumber : item.number ∈ patternNumbers
    · by_cases hcustom : item.number = 8
      · rcases h with ⟨path, hpath, hmem, hne⟩ | ⟨hsame, -⟩
        · rcases List.mem_cons.mp hpath with rfl | hpath
          · exact absurd hcustom hne
          · exact ih (.inl ⟨path, hpath, hmem, hne⟩)
        · rw [patternStep_congr hnumber fun _ => hsame]
      · rw [patternStep_congr hnumber fun heq => absurd heq hcustom]
    · rw [patternStep_of_not_mem hnumber, patternStep_of_not_mem hnumber]
      refine ih (h.imp ?_ (And.imp_right ?_))
      · rintro ⟨path, hpath, hmem, hne⟩
        exact ⟨path, (List.mem_cons.mp hpath).resolve_left (fun heq => hnumber (heq ▸ hmem)),
          hmem, hne⟩
      · rintro ⟨other, hother, hmem⟩
        exact ⟨other, (List.mem_cons.mp hother).resolve_left (fun heq => hnumber (heq ▸ hmem)),
          hmem⟩

/-- If the pattern items have one number, only they matter. -/
theorem foldl_patternStep_itemsOf {items : List Item} {number : Nat}
    (h : ∀ item ∈ items, item.number ∈ patternNumbers → item.number = number)
    (pattern : Option Pattern) :
    items.foldl patternStep pattern = (itemsOf number items).foldl patternStep pattern := by
  induction items generalizing pattern with
  | nil => rfl
  | cons item rest ih =>
    rw [List.forall_mem_cons] at h
    rw [List.foldl_cons, ih h.2]
    by_cases hown : item.number = number
    · simp [itemsOf, hown]
    · rw [patternStep_of_not_mem fun hmem => hown (h.1 hmem)]
      simp [itemsOf, hown]

theorem foldl_patternStep_paths {items : List Item} {last : Item}
    (hlast : items.getLast? = some last) (hnumber : last.number ∈ patternNumbers)
    (hne : last.number ≠ 8) : items.foldl patternStep none = patternStep none last := by
  obtain ⟨before, rfl⟩ := List.getLast?_eq_some_iff.mp hlast
  rw [List.foldl_append, List.foldl_cons, List.foldl_nil]
  exact patternStep_congr hnumber fun heq => absurd heq hne

theorem foldl_patternStep_customs {items : List Item} {inners : List (List Item)}
    (h : List.Forall₂ (fun item inner => item.inner? = some inner) items inners)
    (hnumber : ∀ item ∈ items, item.number = 8) (hne : items ≠ []) (pattern : Option Pattern) :
    items.foldl patternStep pattern =
      some (.custom ((lastText? 1 inners.flatten).getD (customIn pattern).1)
        ((lastText? 2 inners.flatten).getD (customIn pattern).2)) := by
  induction h generalizing pattern with
  | nil => exact absurd rfl hne
  | @cons item inner rest inners hinner hrest ih =>
    rw [List.forall_mem_cons] at hnumber
    have hstep : patternStep pattern item =
        some (.custom ((lastText? 1 inner).getD (customIn pattern).1)
          ((lastText? 2 inner).getD (customIn pattern).2)) := by
      rw [patternStep, if_pos hnumber.1, hinner, Option.getD_some]
    rw [List.foldl_cons, hstep, List.flatten_cons, lastText?_append, lastText?_append]
    by_cases hrestNil : rest = []
    · subst hrestNil
      cases hrest
      simp [lastText?, texts, itemsOf]
    · rw [ih hnumber.2 hrestNil, Option.getD_or, Option.getD_or]
      rfl

end HttpRule

end Wire
end ServiceScaffold
