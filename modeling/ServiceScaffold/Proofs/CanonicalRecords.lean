import Mathlib
import ServiceScaffold.Wire.Shape

/-!
# Canonical records

When a message has canonical records, each of its items has passed the check of its own number,
also an item that a later member of its oneof displaces.
-/

namespace ServiceScaffold

theorem forall₂_of_mapM_eq_some {α β : Type} {f : α → Option β} {as : List α} {bs : List β}
    (h : as.mapM f = some bs) : List.Forall₂ (fun a b => f a = some b) as bs := by
  induction as generalizing bs with
  | nil =>
    rw [List.mapM_nil] at h
    cases h
    exact .nil
  | cons a as ih =>
    rw [List.mapM_cons] at h
    obtain ⟨b, hb, h⟩ := Option.bind_eq_some_iff.mp h
    obtain ⟨rest, hrest, h⟩ := Option.bind_eq_some_iff.mp h
    cases h
    exact .cons hb (ih hrest)

theorem exists_right_of_forall₂ {α β : Type} {R : α → β → Prop} {as : List α} {bs : List β}
    (h : List.Forall₂ R as bs) {a : α} (ha : a ∈ as) : ∃ b ∈ bs, R a b := by
  induction h with
  | nil => exact absurd ha List.not_mem_nil
  | @cons first b _ bs hfirst _ ih =>
    rcases List.mem_cons.mp ha with rfl | ha
    · exact ⟨b, List.mem_cons_self, hfirst⟩
    · obtain ⟨other, hother, hR⟩ := ih ha
      exact ⟨other, List.mem_cons_of_mem b hother, hR⟩

theorem exists_left_of_forall₂ {α β : Type} {R : α → β → Prop} {as : List α} {bs : List β}
    (h : List.Forall₂ R as bs) {b : β} (hb : b ∈ bs) : ∃ a ∈ as, R a b :=
  exists_right_of_forall₂ h.flip hb

theorem exists_of_mapM_eq_some {α β : Type} {f : α → Option β} {as : List α} {bs : List β}
    (h : as.mapM f = some bs) {a : α} (ha : a ∈ as) : ∃ b ∈ bs, f a = some b :=
  exists_right_of_forall₂ (forall₂_of_mapM_eq_some h) ha

theorem exists_of_mem_mapM {α β : Type} {f : α → Option β} {as : List α} {bs : List β}
    (h : as.mapM f = some bs) {b : β} (hb : b ∈ bs) : ∃ a ∈ as, f a = some b :=
  exists_left_of_forall₂ (forall₂_of_mapM_eq_some h) hb

theorem filterMap_of_mapM_eq_some {α β : Type} {f : α → Option β} {as : List α} {bs : List β}
    (h : as.mapM f = some bs) : as.filterMap f = bs := by
  have hforall := forall₂_of_mapM_eq_some h
  clear h
  induction hforall with
  | nil => rfl
  | cons hfirst _ ih => rw [List.filterMap_cons_some hfirst, ih]

theorem mem_forall₂_left {α β : Type} {R : α → β → Prop} {as : List α} {bs : List β}
    (h : List.Forall₂ R as bs) : List.Forall₂ (fun a b => a ∈ as ∧ R a b) as bs :=
  (List.forall₂_and_left (p := (· ∈ as)) _ _).mpr ⟨fun _ => id, h⟩

theorem forall₂_of_filterMap {α β γ : Type} {f : α → Option β} {R : β → γ → Prop} {as : List α}
    {cs : List γ} (hfound : ∀ a ∈ as, (f a).isSome) (h : List.Forall₂ R (as.filterMap f) cs) :
    List.Forall₂ (fun a c => ∃ b, f a = some b ∧ R b c) as cs := by
  induction as generalizing cs with
  | nil =>
    cases h
    exact .nil
  | cons a as ih =>
    rw [List.forall_mem_cons] at hfound
    obtain ⟨b, hb⟩ := Option.isSome_iff_exists.mp hfound.1
    rw [List.filterMap_cons_some hb] at h
    cases h with
    | cons hR hrest => exact .cons ⟨b, hb, hR⟩ (ih hfound.2 hrest)

namespace Wire

variable {inside : Inside} {unread : Item → Bool} {shape : MessageShape} {items own : List Item}
  {records : List Record} {item : Item}

theorem mem_insertNumber_iff {m n : Nat} {numbers : List Nat} :
    m ∈ insertNumber n numbers ↔ m = n ∨ m ∈ numbers := by
  induction numbers with
  | nil => simp [insertNumber]
  | cons first rest ih =>
    rw [insertNumber]
    split
    · simp
    split
    · rename_i heq
      simp [heq]
    · rw [List.mem_cons, ih, List.mem_cons, or_left_comm]

theorem mem_itemNumbers_iff {n : Nat} :
    n ∈ itemNumbers items ↔ ∃ item ∈ items, item.number = n := by
  induction items with
  | nil => simp [itemNumbers]
  | cons first rest ih =>
    rw [itemNumbers] at ih
    rw [itemNumbers, List.foldr_cons, mem_insertNumber_iff, ih]
    simp [eq_comm]

theorem settle_cons_of_superseded {later : List Item}
    (h : shape.superseded item later = true) :
    shape.settle (item :: later) =
      ((shape.settle later).1, item :: (shape.settle later).2) := by
  simp [MessageShape.settle, h]

theorem settle_cons_of_not_superseded {later : List Item}
    (h : shape.superseded item later = false) :
    shape.settle (item :: later) =
      (item :: (shape.settle later).1, (shape.settle later).2) := by
  simp [MessageShape.settle, h]

theorem mem_settle_iff (shape : MessageShape) :
    item ∈ items ↔ item ∈ (shape.settle items).1 ∨ item ∈ (shape.settle items).2 := by
  induction items with
  | nil => simp [MessageShape.settle]
  | cons first rest ih =>
    cases h : shape.superseded first rest with
    | true => simp [settle_cons_of_superseded h, ih, or_left_comm]
    | false => simp [settle_cons_of_not_superseded h, ih, or_assoc]

/-- The items of a message pass the checks of their numbers; those that stay give its records. -/
theorem messageRecords?_eq_some (h : messageRecords? inside unread shape items = some records) :
    (∀ item ∈ (shape.settle items).2,
      (numberRecords? inside unread shape [item] item.number).isSome) ∧
    ∃ each, (itemNumbers (shape.settle items).1).mapM
        (numberRecords? inside unread shape (shape.settle items).1) = some each ∧
      records = each.flatten := by
  obtain ⟨displaced, hdisplaced, h⟩ := Option.bind_eq_some_iff.mp h
  obtain ⟨each, heach, h⟩ := Option.bind_eq_some_iff.mp h
  cases h
  refine ⟨fun item hitem => ?_, each, heach, rfl⟩
  obtain ⟨found, -, hfound⟩ := exists_of_mapM_eq_some hdisplaced hitem
  exact Option.isSome_of_eq_some hfound

theorem exists_numberRecords? (h : messageRecords? inside unread shape items = some records)
    (hitem : item ∈ items) :
    ∃ own, item ∈ own ∧ (numberRecords? inside unread shape own item.number).isSome := by
  obtain ⟨hdisplaced, each, heach, -⟩ := messageRecords?_eq_some h
  rcases (mem_settle_iff shape).mp hitem with hkept | hlost
  · have hnumber := mem_itemNumbers_iff.mpr ⟨item, hkept, rfl⟩
    obtain ⟨found, -, hfound⟩ := exists_of_mapM_eq_some heach hnumber
    exact ⟨_, hkept, Option.isSome_of_eq_some hfound⟩
  · exact ⟨[item], List.mem_cons_self, hdisplaced item hlost⟩

theorem exists_inner (h : messageRecords? inside unread shape items = some records)
    (hitem : item ∈ items) {field : FieldShape} (hfield : shape.field? item.number = some field)
    {type : String} (hkind : field.kind = .message type) (hrepeated : field.repeated = true) :
    ∃ inner, item.inner? = some inner ∧ (inside type inner).isSome := by
  obtain ⟨own, hown, hsome⟩ := exists_numberRecords? h hitem
  obtain ⟨found, hfound⟩ := Option.isSome_iff_exists.mp hsome
  simp only [numberRecords?, hfield, fieldRecords?, hkind, hrepeated, if_true] at hfound
  obtain ⟨inners, hinners, hfound⟩ := Option.bind_eq_some_iff.mp hfound
  obtain ⟨each, heach, -⟩ := Option.bind_eq_some_iff.mp hfound
  obtain ⟨inner, hinner, hread⟩ :=
    exists_of_mapM_eq_some hinners (List.mem_filter.mpr ⟨hown, by simp⟩)
  obtain ⟨written, -, hwritten⟩ := exists_of_mapM_eq_some heach hinner
  exact ⟨inner, hread, Option.isSome_of_eq_some hwritten⟩

/-- In a declared message, the items of a repeated message field are canonical in turn. -/
theorem exists_inner_of_canonical? {shapes : Shapes} {unread : Nat → Item → Bool} {limit : Nat}
    (h : (canonical? shapes unread limit shape items).isSome) (hitem : item ∈ items)
    {field : FieldShape} (hfield : shape.field? item.number = some field) {type : String}
    (hkind : field.kind = .message type) (hrepeated : field.repeated = true) :
    ∃ inner found below, item.inner? = some inner ∧ shapes.find type = some found ∧
      (canonical? shapes unread below found inner).isSome := by
  obtain ⟨records, hrecords⟩ := Option.isSome_iff_exists.mp h
  cases limit with
  | zero =>
    obtain ⟨inner, -, hsome⟩ := exists_inner hrecords hitem hfield hkind hrepeated
    cases hsome
  | succ below =>
    obtain ⟨inner, hinner, hsome⟩ := exists_inner hrecords hitem hfield hkind hrepeated
    obtain ⟨written, hwritten⟩ := Option.isSome_iff_exists.mp hsome
    obtain ⟨found, hfound, hwritten⟩ := Option.bind_eq_some_iff.mp hwritten
    exact ⟨inner, found, below, hinner, hfound, Option.isSome_of_eq_some hwritten⟩

end Wire
end ServiceScaffold
