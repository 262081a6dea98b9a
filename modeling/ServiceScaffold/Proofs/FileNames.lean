import Mathlib
import ServiceScaffold.Proofs.ExportedNames
import ServiceScaffold.Proofs.KeptHandlers

/-!
# Services with the same handler file

The file name of an exported name can be read back: an underscore before a lower-case letter marks a
capital, and any other underscore is one of the name itself. So two services share a handler file
only where the suffix that file names leave out makes the difference.
-/

namespace ServiceScaffold

open Go

namespace Text

theorem onRun_capitals (c : Char) : onRun 65 90 1 c.toNat = c.isUpper := by
  rw [Bool.eq_iff_iff, isUpper_iff]
  simp [onRun, Nat.mod_one]

theorem isUppercase_of_lt {c : Char} (h : c.toNat < 128) : isUppercase c = c.isUpper := by
  obtain ⟨others, hruns⟩ : ∃ others, uppercaseRuns = (65, 90, 1) :: others := ⟨_, rfl⟩
  have hothers : ∀ run ∈ uppercaseRuns.tail, 128 ≤ run.1 := by decide +kernel
  have hoff : ∀ run ∈ others, onRun run.1 run.2.1 run.2.2 c.toNat ≠ true := by
    intro run hrun
    have := hothers run (by simpa [hruns] using hrun)
    simp [onRun]
    omega
  rw [isUppercase, hruns, List.any_cons, List.any_eq_false.mpr hoff, Bool.or_false]
  exact onRun_capitals c

theorem lowercase_of_isUpper {c : Char} (h : c.isUpper = true) : lowercase c = [c.toLower] := by
  obtain ⟨others, hruns⟩ : ∃ others, lowercaseRuns = (65, 90, 1, 32) :: others := ⟨_, rfl⟩
  have hdotted : c ≠ '\u0130' := by
    rintro rfl
    cases h
  have hall : ∀ n < 91, 65 ≤ n →
      Char.ofNat (((Char.ofNat n).toNat : Int) + 32).toNat = (Char.ofNat n).toLower := by
    decide +kernel
  have hbounds := isUpper_iff.mp h
  have hlower := hall c.toNat (by omega) hbounds.1
  rw [Char.ofNat_toNat] at hlower
  simp [lowercase, hdotted, hruns, onRun_capitals, h, hlower]

end Text

namespace Handler

theorem snakeChar_of_isUpper {c : Char} (h : c.isUpper = true) :
    snakeChar true c = [c.toLower] ∧ snakeChar false c = ['_', c.toLower] := by
  have hsmall : c.toNat < 128 := by
    have := isUpper_iff.mp h
    omega
  have hcapital : Text.isUppercase c = true := (Text.isUppercase_of_lt hsmall).trans h
  rw [snakeChar, snakeChar, if_pos hcapital, if_pos hcapital, if_pos rfl,
    if_neg Bool.false_ne_true, Text.lowercase_of_isUpper h]
  exact ⟨rfl, rfl⟩

theorem snakeChar_of_not_isUpper {c : Char} (hsmall : c.toNat < 128) (h : c.isUpper = false)
    (first : Bool) : snakeChar first c = [c] := by
  rw [snakeChar, Text.isUppercase_of_lt hsmall, h, if_neg Bool.false_ne_true]

theorem snakeChar_of_isLower {c : Char} (h : c.isLower = true) (first : Bool) :
    snakeChar first c = [c] := by
  have hbounds := isLower_iff.mp h
  refine snakeChar_of_not_isUpper (by omega) ?_ first
  rw [← Bool.not_eq_true, isUpper_iff]
  omega

theorem snakeChar_of_isDigit {c : Char} (h : c.isDigit = true) (first : Bool) :
    snakeChar first c = [c] := by
  have hbounds := isDigit_iff.mp h
  refine snakeChar_of_not_isUpper (by omega) ?_ first
  rw [← Bool.not_eq_true, isUpper_iff]
  omega

theorem snakeChar_underscore (first : Bool) : snakeChar first '_' = ['_'] :=
  snakeChar_of_not_isUpper (by decide) (by decide) first

theorem toUpper_eq_of_isUpper {c : Char} (h : c.isUpper = true) : c.toUpper = c :=
  Char.toUpper_eq_of_not_isLower (by simp [isLower_eq_false_of_isUpper h])

def readSnake : List Char → List Char
  | '_' :: c :: cs => if c.isLower then c.toUpper :: readSnake cs else '_' :: readSnake (c :: cs)
  | c :: cs => c :: readSnake cs
  | [] => []

theorem readSnake_of_ne {c : Char} (h : c ≠ '_') (cs : List Char) :
    readSnake (c :: cs) = c :: readSnake cs := by
  conv_lhs => unfold readSnake
  split <;> simp_all

theorem readSnake_underscore {cs : List Char} (h : cs.head?.any Char.isLower = false) :
    readSnake ('_' :: cs) = '_' :: readSnake cs := by
  cases cs with
  | nil => rfl
  | cons c cs => rw [readSnake, if_neg (by simpa using h)]

/-- An underscore of the name is not taken for the mark of a capital. -/
theorem head_flatMap_snakeChar {cs : List Char} (h : ExportedRest false cs) :
    (cs.flatMap (snakeChar false)).head?.any Char.isLower = false := by
  cases h with
  | nil => rfl
  | upper hc rest => simp [(snakeChar_of_isUpper hc).2]
  | digit hc rest => simp [snakeChar_of_isDigit hc, isLower_eq_false_of_isDigit hc]
  | underscore rest => simp [snakeChar_underscore]

/-- The rest of a file name is that of one exported name. -/
theorem readSnake_flatMap {inWord : Bool} {cs : List Char} (h : ExportedRest inWord cs) :
    readSnake (cs.flatMap (snakeChar false)) = cs := by
  induction h with
  | nil => rfl
  | @lower c cs hc rest ih =>
    obtain ⟨-, hne⟩ := ne_of_isAlphanum (c := c) (by simp [Char.isAlphanum, Char.isAlpha, hc])
    simp [snakeChar_of_isLower hc, readSnake_of_ne hne, ih]
  | @upper inWord c cs hc rest ih =>
    have hlower : c.toLower.isLower = true := by simp [Char.isAlpha, hc]
    simp [(snakeChar_of_isUpper hc).2, readSnake, hlower, toUpper_eq_of_isUpper hc, ih]
  | @digit inWord c cs hc rest ih =>
    obtain ⟨-, hne⟩ := ne_of_isAlphanum (c := c) (by simp [Char.isAlphanum, hc])
    simp [snakeChar_of_isDigit hc, readSnake_of_ne hne, ih]
  | @underscore inWord cs rest ih =>
    simp [snakeChar_underscore, readSnake_underscore (head_flatMap_snakeChar rest), ih]

theorem eq_of_snakeCase_eq_snakeCase {first second : List Char} (hfirst : Exported first)
    (hsecond : Exported second) (h : snakeCase first = snakeCase second) : first = second := by
  obtain ⟨c, cs, rfl, hc, hcs⟩ := hfirst
  obtain ⟨d, ds, rfl, hd, hds⟩ := hsecond
  rw [snakeCase, snakeCase, (snakeChar_of_isUpper hc).1, (snakeChar_of_isUpper hd).1,
    List.singleton_append, List.singleton_append, List.cons.injEq] at h
  have hcapital : c = d := by
    rw [← toUpper_eq_of_isUpper hc, ← Char.toUpper_toLower_eq_toUpper, h.1,
      Char.toUpper_toLower_eq_toUpper, toUpper_eq_of_isUpper hd]
  rw [hcapital, ← readSnake_flatMap hcs, h.2, readSnake_flatMap hds]

theorem exportedRest_of_append {inWord : Bool} {cs ds : List Char}
    (h : ExportedRest inWord (cs ++ ds)) : ExportedRest inWord cs := by
  induction cs generalizing inWord with
  | nil => exact .nil
  | cons c cs ih =>
    cases h with
    | lower hc rest => exact .lower hc (ih rest)
    | upper hc rest => exact .upper hc (ih rest)
    | digit hc rest => exact .digit hc (ih rest)
    | underscore rest => exact .underscore (ih rest)

theorem shortName_ne_nil {receiver : List Char} (h : receiver ≠ []) : shortName receiver ≠ [] := by
  unfold shortName
  split
  · exact List.cons_ne_nil _ _
  · exact h

theorem exported_shortName {receiver : List Char} (h : Exported receiver) :
    Exported (shortName receiver) := by
  obtain ⟨c, cs, hreceiver, hc, hrest⟩ := h
  rcases eq_of_shortName_eq (Eq.refl (shortName receiver)) with hsame | hsuffix
  · rw [← hsame]
    exact ⟨c, cs, hreceiver, hc, hrest⟩
  · have hne : receiver ≠ [] := hreceiver ▸ List.cons_ne_nil c cs
    obtain ⟨d, ds, hshort⟩ := List.exists_cons_of_ne_nil (shortName_ne_nil hne)
    have hcons : c :: cs = d :: (ds ++ "Service".toList) := by
      rw [← hreceiver, ← List.cons_append, ← hshort]
      exact hsuffix
    obtain ⟨rfl, rfl⟩ := List.cons.inj hcons
    exact ⟨c, ds, hshort, hc, exportedRest_of_append hrest⟩

theorem shortName_eq_of_fileName_eq {first second : String} (hfirst : Exported first.toList)
    (hsecond : Exported second.toList) (h : fileName first = fileName second) :
    shortName first.toList = shortName second.toList := by
  have hchars := congrArg String.toList h
  simp only [fileName, String.toList_ofList, List.append_left_inj] at hchars
  exact eq_of_snakeCase_eq_snakeCase (exported_shortName hfirst) (exported_shortName hsecond) hchars

/-- Two Go names of services have the same handler file only if they are equal or one of them is
the other with the suffix that file names leave out. -/
theorem eq_or_suffix_of_fileName_eq {first second : String}
    (hfirst : Schema.IsIdentifier first) (hsecond : Schema.IsIdentifier second)
    (h : fileName (camelCase first) = fileName (camelCase second)) :
    camelCase first = camelCase second ∨ camelCase first = camelCase second ++ "Service" ∨
      camelCase second = camelCase first ++ "Service" := by
  have hexported {name : String} (hname : Schema.IsIdentifier name) :
      Exported (camelCase name).toList := by
    simpa [Text.join] using exported_camelCase (List.cons_ne_nil name [])
      (List.forall_mem_singleton.mpr hname)
  have hshort := shortName_eq_of_fileName_eq (hexported hfirst) (hexported hsecond) h
  simp only [← String.toList_inj, String.toList_append]
  rcases eq_of_shortName_eq hshort with h1 | h1
  · rcases eq_of_shortName_eq (Eq.refl (shortName (camelCase second).toList)) with h2 | h2
    · exact Or.inl (h1.trans h2.symm)
    · rw [← h1] at h2
      exact Or.inr (Or.inr h2)
  · rcases eq_of_shortName_eq (Eq.refl (shortName (camelCase second).toList)) with h2 | h2
    · rw [← h2] at h1
      exact Or.inr (Or.inl h1)
    · exact Or.inl (h1.trans h2.symm)

theorem eq_or_suffix_of_fileName_eq_order :
    (Schema.IsIdentifier "order" ∧ Schema.IsIdentifier "order_service" ∧
      fileName (camelCase "order") = fileName (camelCase "order_service")) ∧
    (camelCase "order" = camelCase "order_service" ∨
      camelCase "order" = camelCase "order_service" ++ "Service" ∨
      camelCase "order_service" = camelCase "order" ++ "Service") := by
  have hfirst : Schema.IsIdentifier "order" := by decide +kernel
  have hsecond : Schema.IsIdentifier "order_service" := by decide +kernel
  have hsame : fileName (camelCase "order") = fileName (camelCase "order_service") := by
    decide +kernel
  exact ⟨⟨hfirst, hsecond, hsame⟩, eq_or_suffix_of_fileName_eq hfirst hsecond hsame⟩

end Handler
end ServiceScaffold
