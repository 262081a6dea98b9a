import Mathlib
import ServiceScaffold.Go.Name
import ServiceScaffold.Proofs.Letters

/-!
# Package names

A package name is never a reserved word, begins with no ASCII digit, and holds nothing but
alphanumeric characters and underscores. It is an identifier unless the text of which it is made has
an alphanumeric character that is neither a letter nor a decimal digit, or begins with a decimal
digit of another script: those are kept, and no underscore is put in front.
-/

namespace ServiceScaffold
namespace Go

def startsIdentifier (c : Char) : Bool :=
  Text.isLetter c || c = '_'

def continuesIdentifier (c : Char) : Bool :=
  startsIdentifier c || Text.isDecimal c

/-- An identifier of the language: a letter or an underscore, and then letters, underscores and
decimal digits. -/
def IsIdentifier (name : String) : Prop :=
  ∃ c cs, name.toList = c :: cs ∧ startsIdentifier c = true ∧
    ∀ d ∈ cs, continuesIdentifier d = true

theorem isNameChar_iff {c : Char} :
    isNameChar c = true ↔ Text.isAlphanumeric c = true ∨ c = '_' := by
  simp [isNameChar]

theorem startsIdentifier_iff {c : Char} :
    startsIdentifier c = true ↔ Text.isLetter c = true ∨ c = '_' := by
  simp [startsIdentifier]

theorem continuesIdentifier_iff {c : Char} : continuesIdentifier c = true ↔
    startsIdentifier c = true ∨ Text.isDecimal c = true := by
  simp [continuesIdentifier]

theorem ne_underscore_of_isDecimal {c : Char} (h : Text.isDecimal c = true) : c ≠ '_' := by
  rintro rfl
  exact absurd h (by decide +kernel)

theorem not_startsIdentifier_of_isDecimal {c : Char} (h : Text.isDecimal c = true) :
    ¬startsIdentifier c = true := by
  rw [startsIdentifier_iff, Text.isLetter_eq_false_of_isDecimal h]
  simp [ne_underscore_of_isDecimal h]

def keptChar (c : Char) : Char :=
  if isNameChar c then c else '_'

theorem keptChar_of_isAlphanumeric {c : Char} (h : Text.isAlphanumeric c = true) :
    keptChar c = c :=
  if_pos (isNameChar_iff.mpr (Or.inl h))

theorem keptChar_cases (c : Char) : keptChar c = c ∨ keptChar c = '_' := by
  rw [keptChar]
  split
  · exact Or.inl rfl
  · exact Or.inr rfl

theorem isNameChar_keptChar (c : Char) : isNameChar (keptChar c) = true := by
  by_cases h : isNameChar c = true
  · rwa [keptChar, if_pos h]
  · rw [keptChar, if_neg h]
    exact isNameChar_iff.mpr (Or.inr rfl)

theorem continuesIdentifier_keptChar_iff {c : Char} : continuesIdentifier (keptChar c) = true ↔
    (Text.isAlphanumeric c = true → Text.isLetter c = true ∨ Text.isDecimal c = true) := by
  have hunderscore : continuesIdentifier '_' = true :=
    continuesIdentifier_iff.mpr (Or.inl (startsIdentifier_iff.mpr (Or.inr rfl)))
  by_cases hc : Text.isAlphanumeric c = true
  · have hne : c ≠ '_' := by
      rintro rfl
      exact absurd hc (by decide +kernel)
    rw [keptChar_of_isAlphanumeric hc, continuesIdentifier_iff, startsIdentifier_iff]
    simp [hc, hne]
  · have hkept : keptChar c = '_' := by
      by_cases hsame : c = '_'
      · rcases keptChar_cases c with h | h
        · rw [h, hsame]
        · exact h
      · rw [keptChar, if_neg (by simp [isNameChar_iff, hc, hsame])]
    simp [hkept, hunderscore, hc]

/-- Whether a text is no name without an underscore in front. -/
def needsUnderscore (kept : List Char) : Bool :=
  kept.isEmpty || kept.head?.any Char.isDigit || keywords.contains (String.ofList kept)

theorem needsUnderscore_cons_iff {c : Char} {cs : List Char} :
    needsUnderscore (c :: cs) = true ↔ c.isDigit = true ∨ String.ofList (c :: cs) ∈ keywords := by
  simp [needsUnderscore]

theorem sanitize_eq (text : String) : sanitize text =
    if needsUnderscore (text.toList.map keptChar) then
      String.ofList ('_' :: text.toList.map keptChar)
    else String.ofList (text.toList.map keptChar) := rfl

theorem toList_sanitize (text : String) : (sanitize text).toList =
    if needsUnderscore (text.toList.map keptChar) then '_' :: text.toList.map keptChar
    else text.toList.map keptChar := by
  rw [sanitize_eq]
  split <;> exact String.toList_ofList

theorem isLower_of_mem_keywords {word : String} (h : word ∈ keywords) :
    ∃ c cs, word.toList = c :: cs ∧ c.isLower = true := by
  have hall : (keywords.all fun word => word.toList.head?.any Char.isLower) = true := by decide
  obtain ⟨c, hc, hlower⟩ := Option.any_eq_true _ _ |>.mp (List.all_eq_true.mp hall word h)
  obtain ⟨cs, hcs⟩ := List.head?_eq_some_iff.mp hc
  exact ⟨c, cs, hcs, hlower⟩

theorem isLower_of_ofList_mem_keywords {c : Char} {cs : List Char}
    (h : String.ofList (c :: cs) ∈ keywords) : c.isLower = true := by
  obtain ⟨first, rest, htext, hlower⟩ := isLower_of_mem_keywords h
  rw [String.toList_ofList] at htext
  rwa [(List.cons.inj htext).1]

theorem sanitize_not_mem_keywords (text : String) : sanitize text ∉ keywords := by
  intro hmem
  rw [sanitize_eq] at hmem
  split at hmem
  · exact absurd (isLower_of_ofList_mem_keywords hmem) (by decide)
  · rename_i hneeds
    exact hneeds (by simp [needsUnderscore, hmem])

/-- What every sanitized text looks like. -/
theorem exists_toList_sanitize (text : String) : ∃ c cs, (sanitize text).toList = c :: cs ∧
    c.isDigit = false ∧ ∀ d ∈ c :: cs, isNameChar d = true := by
  have hkept : ∀ d ∈ text.toList.map keptChar, isNameChar d = true :=
    List.forall_mem_map.mpr fun c _ => isNameChar_keptChar c
  rw [toList_sanitize]
  split
  · exact ⟨'_', _, rfl, by decide,
      List.forall_mem_cons.mpr ⟨isNameChar_iff.mpr (Or.inr rfl), hkept⟩⟩
  · rename_i hneeds
    cases hmap : text.toList.map keptChar with
    | nil => exact absurd (by rw [hmap]; rfl) hneeds
    | cons c cs =>
      rw [hmap, needsUnderscore_cons_iff, not_or, Bool.not_eq_true] at hneeds
      rw [hmap] at hkept
      exact ⟨c, cs, rfl, hneeds.1, hkept⟩

theorem keptChar_of_isDecimal {c : Char} (h : Text.isDecimal c = true) : keptChar c = c :=
  keptChar_of_isAlphanumeric (Text.isAlphanumeric_of_isDecimal h)

theorem isDecimal_of_keptChar {c : Char} (h : Text.isDecimal (keptChar c) = true) :
    Text.isDecimal c = true := by
  rcases keptChar_cases c with hkept | hkept
  · rwa [hkept] at h
  · exact absurd hkept (ne_underscore_of_isDecimal h)

theorem isDigit_of_needsUnderscore {c : Char} {cs : List Char}
    (h : needsUnderscore ((c :: cs).map keptChar) = true) (hc : Text.isDecimal c = true) :
    c.isDigit = true := by
  rw [List.map_cons, keptChar_of_isDecimal hc, needsUnderscore_cons_iff] at h
  refine h.resolve_right fun hword => ?_
  have hletter := Text.isLetter_of_isLower (isLower_of_ofList_mem_keywords hword)
  rw [Text.isLetter_eq_false_of_isDecimal hc] at hletter
  cases hletter

/-- A text becomes an identifier exactly if all that it has is known to the language. -/
theorem isIdentifier_sanitize_iff (text : String) : IsIdentifier (sanitize text) ↔
    (∀ c ∈ text.toList, Text.isAlphanumeric c = true →
      Text.isLetter c = true ∨ Text.isDecimal c = true) ∧
    ∀ c ∈ text.toList.head?, Text.isDecimal c = true → c.isDigit = true := by
  have hcontinues : (∀ c ∈ text.toList, Text.isAlphanumeric c = true →
      Text.isLetter c = true ∨ Text.isDecimal c = true) ↔
      ∀ d ∈ text.toList.map keptChar, continuesIdentifier d = true := by
    simp only [List.forall_mem_map, continuesIdentifier_keptChar_iff]
  rw [hcontinues, IsIdentifier, toList_sanitize]
  cases text.toList with
  | nil => simp [needsUnderscore, startsIdentifier]
  | cons first rest =>
    simp only [List.head?_cons, Option.mem_some_iff, forall_eq']
    split
    · rename_i hneeds
      constructor
      · rintro ⟨c, cs, heq, -, hrest⟩
        obtain ⟨rfl, rfl⟩ := List.cons.inj heq
        exact ⟨hrest, isDigit_of_needsUnderscore hneeds⟩
      · rintro ⟨hall, -⟩
        exact ⟨'_', _, rfl, startsIdentifier_iff.mpr (Or.inr rfl), hall⟩
    · rename_i hneeds
      rw [List.map_cons, needsUnderscore_cons_iff, not_or] at hneeds
      constructor
      · rintro ⟨c, cs, heq, hstart, hrest⟩
        obtain ⟨rfl, rfl⟩ := List.cons.inj heq
        refine ⟨List.forall_mem_cons.mpr ⟨continuesIdentifier_iff.mpr (Or.inl hstart), hrest⟩, ?_⟩
        intro hdecimal
        rw [keptChar_of_isDecimal hdecimal] at hstart
        exact absurd hstart (not_startsIdentifier_of_isDecimal hdecimal)
      · rintro ⟨hall, hfirst⟩
        rw [List.map_cons, List.forall_mem_cons, continuesIdentifier_iff] at hall
        refine ⟨keptChar first, rest.map keptChar, rfl, hall.1.resolve_right ?_, hall.2⟩
        intro hdecimal
        have hsame := isDecimal_of_keptChar hdecimal
        rw [keptChar_of_isDecimal hsame] at hneeds
        exact hneeds.1 (hfirst hsame)

def nameSource (importPath : Option String) (package fileName : String) : List Char :=
  match importPath.filter (!·.isEmpty) with
  | some path => ((Text.cut? ';' path.toList).map Prod.snd).getD (Text.lastPiece '/' path.toList)
  | none =>
    if package.isEmpty then
      (Text.dropEnding? ".proto".toList (Text.lastPiece '/' fileName.toList)).getD
        (Text.lastPiece '/' fileName.toList)
    else package.toList

theorem packageName_eq (importPath : Option String) (package fileName : String) :
    packageName importPath package fileName =
      sanitize (String.ofList (nameSource importPath package fileName)) := by
  unfold packageName nameSource
  cases importPath.filter (!·.isEmpty) with
  | some path =>
    simp only
    cases Text.cut? ';' path.toList <;> rfl
  | none =>
    simp only
    split
    · rfl
    · rw [String.ofList_toList]

/-- A package name begins with no ASCII digit, has only characters that a name keeps, and is no
reserved word. It is an identifier exactly if the text of which it is made has no other alphanumeric
characters than letters and decimal digits, and no decimal digit but an ASCII one comes first. -/
theorem isIdentifier_packageName_iff (importPath : Option String) (package fileName : String) :
    packageName importPath package fileName ∉ keywords ∧
      (∃ c cs, (packageName importPath package fileName).toList = c :: cs ∧ c.isDigit = false ∧
        ∀ d ∈ c :: cs, isNameChar d = true) ∧
      (IsIdentifier (packageName importPath package fileName) ↔
        (∀ c ∈ nameSource importPath package fileName, Text.isAlphanumeric c = true →
          Text.isLetter c = true ∨ Text.isDecimal c = true) ∧
        ∀ c ∈ (nameSource importPath package fileName).head?,
          Text.isDecimal c = true → c.isDigit = true) := by
  have hiff := isIdentifier_sanitize_iff (String.ofList (nameSource importPath package fileName))
  rw [String.toList_ofList] at hiff
  rw [packageName_eq]
  exact ⟨sanitize_not_mem_keywords _, exists_toList_sanitize _, hiff⟩

/-- The file of user information has a package name that is an identifier. -/
theorem isIdentifier_packageName_userInfo :
    IsIdentifier (packageName none "" "api/user-info.proto") := by
  have hsource : nameSource none "" "api/user-info.proto" =
      ['u', 's', 'e', 'r', '-', 'i', 'n', 'f', 'o'] := by
    decide +kernel
  have hall : (['u', 's', 'e', 'r', '-', 'i', 'n', 'f', 'o'].all fun c =>
      !Text.isAlphanumeric c || Text.isLetter c) = true := by
    decide +kernel
  refine (isIdentifier_packageName_iff none "" "api/user-info.proto").2.2.mpr ⟨?_, ?_⟩
  all_goals rw [hsource]
  · intro c hc halphanumeric
    have hc := List.all_eq_true.mp hall c hc
    rw [halphanumeric, Bool.not_true, Bool.false_or] at hc
    exact Or.inl hc
  · rintro c ⟨⟩ hdecimal
    have hletter := Text.isLetter_of_isLower (show 'u'.isLower = true by decide)
    rw [Text.isLetter_eq_false_of_isDecimal hdecimal] at hletter
    cases hletter

/-- A superscript digit is kept, though no identifier has one. -/
theorem not_isIdentifier_packageName : ¬∀ (importPath : Option String) (package fileName : String),
    IsIdentifier (packageName importPath package fileName) := by
  intro hall
  have hsource : nameSource none "" "m².proto" = ['m', '²'] := by decide +kernel
  have hidentifier := hall none "" "m².proto"
  rw [packageName_eq, hsource, isIdentifier_sanitize_iff, String.toList_ofList] at hidentifier
  have hknown := hidentifier.1 '²' (by decide) (by decide +kernel)
  exact absurd hknown (by decide +kernel)

end Go
end ServiceScaffold
