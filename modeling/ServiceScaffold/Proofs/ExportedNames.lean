import Mathlib
import ServiceScaffold.Go.Name
import ServiceScaffold.Proofs.Declarations

/-!
# Exported names

Camel case makes exported identifiers of the names in description files: a capital, and then words,
digits and underscores, where a lower-case letter only continues a word. Names of this form are in
camel case already.
-/

namespace ServiceScaffold

open Handler (IsPlain)

structure Schema.IsIdentifier (name : String) : Prop where
  first : ∃ c cs, name.toList = c :: cs ∧ (c.isAlpha = true ∨ c = '_')
  plain : IsPlain name

theorem Schema.isIdentifier_iff {name : String} : Schema.IsIdentifier name ↔
    (name.toList.head?.any fun c => c.isAlpha || c == '_') = true ∧ IsPlain name := by
  have hfirst : (∃ c cs, name.toList = c :: cs ∧ (c.isAlpha = true ∨ c = '_')) ↔
      (name.toList.head?.any fun c => c.isAlpha || c == '_') = true := by
    cases name.toList <;> simp
  exact ⟨fun h => ⟨hfirst.mp h.first, h.plain⟩, fun h => ⟨hfirst.mpr h.1, h.2⟩⟩

instance (name : String) : Decidable (Schema.IsIdentifier name) :=
  decidable_of_iff _ Schema.isIdentifier_iff.symm

namespace Go

/-- What an exported name can go on with; `inWord` says that a letter comes before. -/
inductive ExportedRest : Bool → List Char → Prop
  | nil {inWord : Bool} : ExportedRest inWord []
  | lower {c : Char} {cs : List Char} (hc : c.isLower = true) (rest : ExportedRest true cs) :
      ExportedRest true (c :: cs)
  | upper {inWord : Bool} {c : Char} {cs : List Char} (hc : c.isUpper = true)
      (rest : ExportedRest true cs) : ExportedRest inWord (c :: cs)
  | digit {inWord : Bool} {c : Char} {cs : List Char} (hc : c.isDigit = true)
      (rest : ExportedRest false cs) : ExportedRest inWord (c :: cs)
  | underscore {inWord : Bool} {cs : List Char} (rest : ExportedRest false cs) :
      ExportedRest inWord ('_' :: cs)

def Exported (name : List Char) : Prop :=
  ∃ c cs, name = c :: cs ∧ c.isUpper = true ∧ ExportedRest true cs

theorem isUpper_iff {c : Char} : c.isUpper = true ↔ 65 ≤ c.toNat ∧ c.toNat ≤ 90 := by
  simp [Char.isUpper, UInt32.le_iff_toNat_le, ← Char.toNat_val]

theorem isLower_iff {c : Char} : c.isLower = true ↔ 97 ≤ c.toNat ∧ c.toNat ≤ 122 := by
  simp [Char.isLower, UInt32.le_iff_toNat_le, ← Char.toNat_val]

theorem isDigit_iff {c : Char} : c.isDigit = true ↔ 48 ≤ c.toNat ∧ c.toNat ≤ 57 := by
  simp [Char.isDigit, UInt32.le_iff_toNat_le, ← Char.toNat_val]

theorem isLower_eq_false_of_isUpper {c : Char} (h : c.isUpper = true) : c.isLower = false := by
  rw [← Bool.not_eq_true, isLower_iff]
  have := isUpper_iff.mp h
  omega

theorem isLower_eq_false_of_isDigit {c : Char} (h : c.isDigit = true) : c.isLower = false := by
  rw [← Bool.not_eq_true, isLower_iff]
  have := isDigit_iff.mp h
  omega

theorem isDigit_eq_false_of_isAlpha {c : Char} (h : c.isAlpha = true) : c.isDigit = false := by
  rw [Char.isAlpha, Bool.or_eq_true, isUpper_iff, isLower_iff] at h
  rw [← Bool.not_eq_true, isDigit_iff]
  omega

theorem ne_of_isAlphanum {c : Char} (h : c.isAlphanum = true) : c ≠ '.' ∧ c ≠ '_' := by
  constructor <;> rintro rfl <;> cases h

theorem camelFrom_of_isAlpha {c : Char} (h : c.isAlpha = true) (atStart : Bool) (cs : List Char) :
    camelFrom atStart false (c :: cs) = c.toUpper :: camelFrom false true cs := by
  obtain ⟨hdot, hunderscore⟩ := ne_of_isAlphanum (c := c) (by simp [Char.isAlphanum, h])
  simp [camelFrom, hdot, hunderscore, isDigit_eq_false_of_isAlpha h]

theorem camelFrom_of_isUpper {c : Char} (h : c.isUpper = true) (atStart inWord : Bool)
    (cs : List Char) : camelFrom atStart inWord (c :: cs) = c :: camelFrom false true cs := by
  have hlower := isLower_eq_false_of_isUpper h
  have hoff : camelFrom atStart inWord (c :: cs) = camelFrom atStart false (c :: cs) := by
    rw [camelFrom, camelFrom]
    simp only [hlower, Bool.and_false]
  rw [hoff, camelFrom_of_isAlpha (by simp [Char.isAlpha, h]),
    Char.toUpper_eq_of_not_isLower (by simp [hlower])]

namespace ExportedRest

variable {inWord : Bool} {cs : List Char}

theorem weaken (h : ExportedRest false cs) (inWord : Bool) : ExportedRest inWord cs := by
  cases h with
  | nil => exact .nil
  | upper hc rest => exact .upper hc rest
  | digit hc rest => exact .digit hc rest
  | underscore rest => exact .underscore rest

theorem head_not_isLower (h : ExportedRest false cs) : cs.head?.any Char.isLower = false := by
  cases h with
  | nil => rfl
  | upper hc rest => exact isLower_eq_false_of_isUpper hc
  | digit hc rest => exact isLower_eq_false_of_isDigit hc
  | underscore rest => rfl

theorem isPlain (h : ExportedRest inWord cs) : ∀ c ∈ cs, c.isAlphanum = true ∨ c = '_' := by
  induction h with
  | nil => exact fun c hc => absurd hc List.not_mem_nil
  | lower hc rest ih =>
    exact List.forall_mem_cons.mpr ⟨Or.inl (by simp [Char.isAlphanum, Char.isAlpha, hc]), ih⟩
  | upper hc rest ih =>
    exact List.forall_mem_cons.mpr ⟨Or.inl (by simp [Char.isAlphanum, Char.isAlpha, hc]), ih⟩
  | digit hc rest ih =>
    exact List.forall_mem_cons.mpr ⟨Or.inl (by simp [Char.isAlphanum, hc]), ih⟩
  | underscore rest ih => exact List.forall_mem_cons.mpr ⟨Or.inr rfl, ih⟩

theorem isChain (h : ExportedRest inWord cs) {before : Char}
    (hbefore : inWord = true → before.isAlpha = true) :
    (before :: cs).IsChain fun c d => d.isLower = true → c.isAlpha = true := by
  induction h generalizing before with
  | nil => exact List.isChain_singleton before
  | lower hc rest ih =>
    exact List.isChain_cons_cons.mpr ⟨fun _ => hbefore rfl, ih fun _ => by simp [Char.isAlpha, hc]⟩
  | upper hc rest ih =>
    refine List.isChain_cons_cons.mpr ⟨fun hlower => ?_, ih fun _ => by simp [Char.isAlpha, hc]⟩
    rw [isLower_eq_false_of_isUpper hc] at hlower
    cases hlower
  | digit hc rest ih =>
    refine List.isChain_cons_cons.mpr ⟨fun hlower => ?_, ih nofun⟩
    rw [isLower_eq_false_of_isDigit hc] at hlower
    cases hlower
  | underscore rest ih =>
    exact List.isChain_cons_cons.mpr ⟨fun hlower => absurd hlower (by decide), ih nofun⟩

theorem camelFrom_eq (h : ExportedRest inWord cs) : camelFrom false inWord cs = cs := by
  induction h with
  | nil => rfl
  | lower hc rest ih => rw [camelFrom, if_pos (by simpa using hc), ih]
  | upper hc rest ih => rw [camelFrom_of_isUpper hc, ih]
  | @digit inWord c cs hc rest ih =>
    obtain ⟨hdot, hunderscore⟩ := ne_of_isAlphanum (c := c) (by simp [Char.isAlphanum, hc])
    simp [camelFrom, isLower_eq_false_of_isDigit hc, hdot, hunderscore, hc, ih]
  | @underscore inWord cs rest ih =>
    rw [camelFrom, if_neg (by simp), if_neg (by decide), if_pos rfl, if_neg Bool.false_ne_true,
      rest.head_not_isLower, if_neg Bool.false_ne_true, ih]

end ExportedRest

theorem Exported.camelCase_eq {name : String} (h : Exported name.toList) :
    camelCase name = name := by
  obtain ⟨c, cs, hchars, hc, hrest⟩ := h
  rw [camelCase, hchars, camelFrom_of_isUpper hc, hrest.camelFrom_eq, ← hchars,
    String.ofList_toList]

/-- Of letters, digits, underscores and dots, camel case makes what an exported name can go on
with. -/
theorem exportedRest_camelFrom {cs : List Char}
    (h : ∀ c ∈ cs, c.isAlphanum = true ∨ c = '_' ∨ c = '.') (atStart inWord : Bool) :
    ExportedRest inWord (camelFrom atStart inWord cs) := by
  induction cs generalizing atStart inWord with
  | nil => exact .nil
  | cons c cs ih =>
    rw [List.forall_mem_cons] at h
    have ih := ih h.2
    rw [camelFrom]
    split
    · rename_i hlower
      rw [Bool.and_eq_true] at hlower
      rw [hlower.1]
      exact .lower hlower.2 (ih false true)
    split
    · split
      · exact (ih true false).weaken inWord
      · exact .underscore (ih true false)
    rename_i hdot
    split
    · split
      · exact .upper (by decide) (ih false false |>.weaken true)
      split
      · exact (ih false false).weaken inWord
      · exact .underscore (ih false false)
    rename_i hunderscore
    split
    · rename_i hdigit
      exact .digit hdigit (ih false false)
    · rename_i hdigit
      refine .upper ?_ (ih false true)
      rcases h.1 with halpha | rfl | rfl
      · simpa [Char.isAlphanum, hdigit] using halpha
      · exact absurd rfl hunderscore
      · exact absurd rfl hdot

theorem path_toList {first : String} {rest : List String}
    (h : ∀ name ∈ first :: rest, Schema.IsIdentifier name) :
    (∃ c cs, (Text.join "." (first :: rest)).toList = c :: cs ∧ (c.isAlpha = true ∨ c = '_')) ∧
      ∀ c ∈ (Text.join "." (first :: rest)).toList,
        c.isAlphanum = true ∨ c = '_' ∨ c = '.' := by
  induction rest generalizing first with
  | nil =>
    have hfirst := h first List.mem_cons_self
    refine ⟨hfirst.first, fun c hc => ?_⟩
    rcases hfirst.plain c hc with hc | hc
    · exact Or.inl hc
    · exact Or.inr (Or.inl hc)
  | cons second rest ih =>
    have hfirst := h first List.mem_cons_self
    obtain ⟨-, hrest⟩ := ih fun name hname => h name (List.mem_cons_of_mem first hname)
    obtain ⟨c, cs, hchars, hc⟩ := hfirst.first
    have hjoin : (Text.join "." (first :: second :: rest)).toList =
        first.toList ++ '.' :: (Text.join "." (second :: rest)).toList := by
      simp [Text.join]
    rw [hjoin]
    refine ⟨⟨c, _, by rw [hchars, List.cons_append], hc⟩, fun d hd => ?_⟩
    rcases List.mem_append.mp hd with hd | hd
    · rcases hfirst.plain d hd with hd | hd
      · exact Or.inl hd
      · exact Or.inr (Or.inl hd)
    · rcases List.mem_cons.mp hd with rfl | hd
      · exact Or.inr (Or.inr rfl)
      · exact hrest d hd

theorem exported_camelCase {names : List String} (hne : names ≠ [])
    (h : ∀ name ∈ names, Schema.IsIdentifier name) :
    Exported (camelCase (Text.join "." names)).toList := by
  obtain ⟨first, rest, rfl⟩ := List.exists_cons_of_ne_nil hne
  obtain ⟨⟨c, cs, hchars, hc⟩, hall⟩ := path_toList h
  rw [hchars, List.forall_mem_cons] at hall
  have hrest (atStart inWord : Bool) := exportedRest_camelFrom hall.2 atStart inWord
  rw [camelCase, String.toList_ofList, hchars]
  rcases hc with hc | rfl
  · refine ⟨c.toUpper, _, camelFrom_of_isAlpha hc true cs, ?_, hrest false true⟩
    rw [Char.isUpper_toUpper_eq_isAlpha, hc]
  · exact ⟨'X', camelFrom false false cs, rfl, rfl, (hrest false false).weaken true⟩

structure IsExportedName (name : String) : Prop where
  first : ∃ c cs, name.toList = c :: cs ∧ c.isUpper = true
  plain : IsPlain name
  /-- Every lower-case letter directly follows a letter. -/
  words : name.toList.IsChain fun c d => d.isLower = true → c.isAlpha = true
  underscores : ∀ c, ['_', c] <:+: name.toList → c.isLower = false
  /-- It is in camel case already. -/
  settled : camelCase name = name

/-- The camel case of a dotted path of identifiers is an exported identifier. -/
theorem isExportedName_camelCase {names : List String} (hne : names ≠ [])
    (h : ∀ name ∈ names, Schema.IsIdentifier name) :
    IsExportedName (camelCase (Text.join "." names)) := by
  have hexported := exported_camelCase hne h
  have hsettled := hexported.camelCase_eq
  generalize camelCase (Text.join "." names) = name at hexported hsettled ⊢
  obtain ⟨c, cs, hchars, hc, hrest⟩ := hexported
  have halpha : c.isAlpha = true := by simp [Char.isAlpha, hc]
  have hwords : name.toList.IsChain fun c d => d.isLower = true → c.isAlpha = true := by
    rw [hchars]
    exact hrest.isChain fun _ => halpha
  refine ⟨⟨c, cs, hchars, hc⟩, ?_, hwords, fun d hinfix => ?_, hsettled⟩
  · rw [IsPlain, hchars, List.forall_mem_cons]
    exact ⟨Or.inl (by simp [Char.isAlphanum, halpha]), hrest.isPlain⟩
  · rw [← Bool.not_eq_true]
    have hpair := List.IsChain.infix hwords hinfix
    exact fun hlower => absurd (List.isChain_pair.mp hpair hlower) (by decide)

/-- Dots and underscores go before lower-case letters, and an underscore at the beginning of an
identifier becomes a letter. -/
theorem isExportedName_camelCase_hidden :
    (∀ name ∈ ["_hidden", "outer_v1", "_2nd_Item"], Schema.IsIdentifier name) ∧
      camelCase (Text.join "." ["_hidden", "outer_v1", "_2nd_Item"]) = "XHiddenOuterV1_X2Nd_Item" ∧
      IsExportedName "XHiddenOuterV1_X2Nd_Item" := by
  have hnames : ∀ name ∈ ["_hidden", "outer_v1", "_2nd_Item"], Schema.IsIdentifier name := by
    decide +kernel
  have hcamel : camelCase (Text.join "." ["_hidden", "outer_v1", "_2nd_Item"]) =
      "XHiddenOuterV1_X2Nd_Item" := by
    decide +kernel
  exact ⟨hnames, hcamel, hcamel ▸ isExportedName_camelCase (List.cons_ne_nil _ _) hnames⟩

end Go
end ServiceScaffold
