import Mathlib
import ServiceScaffold.Go.Module
import ServiceScaffold.Proofs.Replacement

/-!
# Module directives

A module file declares a path in the first of its lines that is a directive. The search goes by the
letters of the directive's word alone, so that it can stop at an earlier line that merely begins
with them, and what it finds keeps a comment that stands behind the path.
-/

namespace ServiceScaffold

namespace Text

theorem count_dropWhile {α : Type} [DecidableEq α] {p : α → Bool} {c : α} (hc : p c = false)
    (s : List α) : (s.dropWhile p).count c = s.count c := by
  have htaken : (s.takeWhile p).count c = 0 := by
    rw [List.count_eq_zero]
    intro hmem
    rw [List.mem_takeWhile_imp hmem] at hc
    cases hc
  calc (s.dropWhile p).count c
      = (s.takeWhile p).count c + (s.dropWhile p).count c := by rw [htaken, Nat.zero_add]
    _ = s.count c := by rw [← List.count_append, List.takeWhile_append_dropWhile]

theorem count_trim {α : Type} [DecidableEq α] {p : α → Bool} {c : α} (hc : p c = false)
    (s : List α) : (trim p s).count c = s.count c := by
  rw [trim, dropEndWhile, List.count_reverse, count_dropWhile hc, List.count_reverse,
    count_dropWhile hc]

/-- Two places of a list are one if neither element stands before the other's place. -/
theorem split_unique {α : Type} {before before' after after' : List α} {a a' : α}
    (h : before ++ a :: after = before' ++ a' :: after') (ha : a ∉ before') (ha' : a' ∉ before) :
    before = before' ∧ a = a' := by
  rcases List.append_eq_append_iff.mp h with ⟨between, rfl, htail⟩ | ⟨between, rfl, htail⟩
  · cases between with
    | nil => exact ⟨(List.append_nil before).symm, (List.cons.inj htail).1⟩
    | cons c cs =>
      obtain ⟨rfl, -⟩ := List.cons.inj htail
      exact absurd (List.mem_append_right _ List.mem_cons_self) ha
  · cases between with
    | nil => exact ⟨List.append_nil before', (List.cons.inj htail).1.symm⟩
    | cons c cs =>
      obtain ⟨rfl, -⟩ := List.cons.inj htail
      exact absurd (List.mem_append_right _ List.mem_cons_self) ha'

end Text

namespace Go

/-- The text without white space at its ends and, inside it, quotes. -/
def unquote (s : List Char) : List Char :=
  Text.trim (· = '"') (Text.trimBlank s)

/-- A line that is the word `module`, white space, and a path that is not empty without its quotes.
The text behind the word is `rest`. -/
structure IsDirective (line rest : List Char) : Prop where
  spelled : Text.trimBlank line = "module".toList ++ rest
  apart : ∃ c cs, rest = c :: cs ∧ Text.isBlank c = true
  nonempty : unquote rest ≠ []

def BeginsLikeDirective (line : List Char) : Prop :=
  "module".toList <+: Text.trimBlank line

/-- The text before the first `//` that is not inside quotes. -/
def beforeComment : Bool → List Char → List Char
  | _, [] => []
  | quoted, '"' :: s => '"' :: beforeComment (!quoted) s
  | false, '/' :: '/' :: _ => []
  | quoted, c :: s => c :: beforeComment quoted s

def declaredPath (rest : List Char) : List Char :=
  unquote (beforeComment false rest)

instance (line : List Char) : Decidable (BeginsLikeDirective line) :=
  inferInstanceAs (Decidable ("module".toList <+: Text.trimBlank line))

theorem IsDirective.beginsLikeDirective {line rest : List Char} (h : IsDirective line rest) :
    BeginsLikeDirective line :=
  ⟨rest, h.spelled.symm⟩

theorem IsDirective.rest_unique {line rest rest' : List Char} (h : IsDirective line rest)
    (h' : IsDirective line rest') : rest = rest' :=
  List.append_cancel_left (h.spelled.symm.trans h'.spelled)

theorem isDirective_of_space {line path : List Char}
    (hspelled : Text.trimBlank line = "module".toList ++ ' ' :: path)
    (hne : unquote (' ' :: path) ≠ []) : IsDirective line (' ' :: path) :=
  ⟨hspelled, ⟨' ', path, rfl, by decide⟩, hne⟩

theorem beforeComment_eq_or (quoted : Bool) (s : List Char) : beforeComment quoted s = s ∨
    ∃ comment, s = beforeComment quoted s ++ '/' :: '/' :: comment := by
  fun_induction beforeComment quoted s with
  | case1 => exact Or.inl rfl
  | case2 quoted s ih =>
    rcases ih with ih | ⟨comment, ih⟩
    · exact Or.inl (congrArg _ ih)
    · exact Or.inr ⟨comment, congrArg _ ih⟩
  | case3 comment => exact Or.inr ⟨comment, rfl⟩
  | case4 quoted c s _ _ ih =>
    rcases ih with ih | ⟨comment, ih⟩
    · exact Or.inl (congrArg _ ih)
    · exact Or.inr ⟨comment, congrArg _ ih⟩

theorem count_slash_unquote (s : List Char) : (unquote s).count '/' = s.count '/' := by
  rw [unquote, Text.trimBlank, Text.count_trim (by decide), Text.count_trim (by decide)]

theorem unquote_eq_declaredPath_iff {rest : List Char} :
    unquote rest = declaredPath rest ↔ beforeComment false rest = rest := by
  constructor
  · intro h
    refine (beforeComment_eq_or false rest).resolve_right ?_
    rintro ⟨comment, hcomment⟩
    -- White space and quotes are no slashes, so those of the comment would be missing.
    have hcount : (beforeComment false rest).count '/' = rest.count '/' := by
      rw [← count_slash_unquote, ← count_slash_unquote rest]
      exact congrArg _ h.symm
    have hlonger := congrArg (List.count '/') hcomment
    rw [List.count_append, List.count_cons_self, List.count_cons_self] at hlonger
    omega
  · intro h
    rw [declaredPath, h]

/-- The search stops at the first line that begins with the letters of the word. -/
theorem directiveRest?_eq_some_iff {text rest : List Char} : directiveRest? text = some rest ↔
    ∃ before line after, Text.lines '\n' '\r' text = before ++ line :: after ∧
      (∀ other ∈ before, ¬BeginsLikeDirective other) ∧
      Text.trimBlank line = "module".toList ++ rest := by
  rw [directiveRest?, List.findSome?_map, List.findSome?_eq_some_iff]
  simp only [Function.comp_apply, Text.dropStart?_eq_some_iff, Text.dropStart?_eq_none_iff]
  constructor
  · rintro ⟨before, line, after, hlines, hline, hbefore⟩
    exact ⟨before, line, after, hlines, hbefore, hline⟩
  · rintro ⟨before, line, after, hlines, hbefore, hline⟩
    exact ⟨before, line, after, hlines, hline, hbefore⟩

theorem filter_directiveArgument?_eq_some_iff {rest name : List Char} :
    (directiveArgument? rest).filter (!·.isEmpty) = some name ↔
      (∃ c cs, rest = c :: cs ∧ Text.isBlank c = true) ∧ unquote rest ≠ [] ∧
        unquote rest = name := by
  cases rest with
  | nil =>
    have hempty : (directiveArgument? []).filter (!·.isEmpty) = none := rfl
    simp [hempty]
  | cons c cs =>
    rw [directiveArgument?, ← unquote]
    by_cases hc : Text.isBlank c = true
    · simp only [List.head?_cons, Option.all_some, hc, ↓reduceIte, Option.filter_eq_some_iff,
        Option.some.injEq, List.cons.injEq]
      constructor
      · rintro ⟨rfl, hne⟩
        exact ⟨⟨c, cs, ⟨rfl, rfl⟩, hc⟩, by simpa using hne, rfl⟩
      · rintro ⟨-, hne, rfl⟩
        exact ⟨rfl, by simpa using hne⟩
    · simp [hc]

theorem declaredModule?_eq_some_iff {text name : List Char} : declaredModule? text = some name ↔
    ∃ before line after rest, Text.lines '\n' '\r' text = before ++ line :: after ∧
      (∀ other ∈ before, ¬BeginsLikeDirective other) ∧ IsDirective line rest ∧
      unquote rest = name := by
  have hfilter : declaredModule? text = some name ↔ ∃ rest, directiveRest? text = some rest ∧
      (directiveArgument? rest).filter (!·.isEmpty) = some name := by
    cases h : directiveRest? text <;> simp [declaredModule?, h]
  rw [hfilter]
  simp only [directiveRest?_eq_some_iff, filter_directiveArgument?_eq_some_iff]
  constructor
  · rintro ⟨rest, ⟨before, line, after, hlines, hbefore, hline⟩, hapart, hne, hname⟩
    exact ⟨before, line, after, rest, hlines, hbefore, ⟨hline, hapart, hne⟩, hname⟩
  · rintro ⟨before, line, after, rest, hlines, hbefore, hdirective, hname⟩
    exact ⟨rest, ⟨before, line, after, hlines, hbefore, hdirective.spelled⟩, hdirective.apart,
      hdirective.nonempty, hname⟩

/-- Of the first directive, its path is found unless the search stops before it. -/
theorem declaredModule?_eq_some_iff_of_first {text line rest name : List Char}
    {before after : List (List Char)} (hlines : Text.lines '\n' '\r' text = before ++ line :: after)
    (hfirst : ∀ other ∈ before, ∀ rest, ¬IsDirective other rest) (hline : IsDirective line rest) :
    declaredModule? text = some name ↔
      (∀ other ∈ before, ¬BeginsLikeDirective other) ∧ unquote rest = name := by
  rw [declaredModule?_eq_some_iff]
  constructor
  · rintro ⟨before', line', after', rest', hlines', hbefore', hline', hname⟩
    obtain ⟨rfl, rfl⟩ := Text.split_unique (hlines.symm.trans hlines')
      (fun hmem => hbefore' line hmem hline.beginsLikeDirective)
      (fun hmem => hfirst line' hmem rest' hline')
    obtain rfl := hline.rest_unique hline'
    exact ⟨hbefore', hname⟩
  · rintro ⟨hbefore, hname⟩
    exact ⟨before, line, after, rest, hlines, hbefore, hline, hname⟩

theorem moduleFile_eq_ok_iff {tree : FileTree} {dir text name : String}
    (h : tree.readText (Path.join dir "go.mod") = .ok text) :
    moduleFile tree dir = .ok name ↔ declaredModule? text.toList = some name.toList := by
  unfold moduleFile
  simp only [h]
  cases declaredModule? text.toList with
  | none => simp
  | some found =>
    simp only [Except.ok.injEq, Option.some.injEq]
    constructor
    · rintro rfl
      exact String.toList_ofList.symm
    · rintro rfl
      exact String.ofList_toList

/-- The module file is read as its first line that begins with the letters of the word says, if that
is a directive. So of the first directive, the module is found exactly if no such line stands before
it, and then what is found is the path that it declares exactly if no comment is behind it. -/
theorem moduleFile_finds_directive {tree : FileTree} {dir text : String}
    (h : tree.readText (Path.join dir "go.mod") = .ok text) :
    (∀ name, moduleFile tree dir = .ok name ↔
      ∃ before line after rest, Text.lines '\n' '\r' text.toList = before ++ line :: after ∧
        (∀ other ∈ before, ¬BeginsLikeDirective other) ∧ IsDirective line rest ∧
        unquote rest = name.toList) ∧
    ∀ before line after rest, Text.lines '\n' '\r' text.toList = before ++ line :: after →
      (∀ other ∈ before, ∀ rest, ¬IsDirective other rest) → IsDirective line rest →
      ((∃ name, moduleFile tree dir = .ok name) ↔ ∀ other ∈ before, ¬BeginsLikeDirective other) ∧
      (moduleFile tree dir = .ok (String.ofList (declaredPath rest)) ↔
        (∀ other ∈ before, ¬BeginsLikeDirective other) ∧ beforeComment false rest = rest) := by
  constructor
  · intro name
    rw [moduleFile_eq_ok_iff h, declaredModule?_eq_some_iff]
  · intro before line after rest hlines hfirst hline
    have hname (name : String) : moduleFile tree dir = .ok name ↔
        (∀ other ∈ before, ¬BeginsLikeDirective other) ∧ unquote rest = name.toList := by
      rw [moduleFile_eq_ok_iff h, declaredModule?_eq_some_iff_of_first hlines hfirst hline]
    constructor
    · constructor
      · rintro ⟨name, hok⟩
        exact ((hname name).mp hok).1
      · intro hbefore
        exact ⟨String.ofList (unquote rest), (hname _).mpr ⟨hbefore, String.toList_ofList.symm⟩⟩
    · rw [hname, String.toList_ofList, unquote_eq_declaredPath_iff]

def moduleTree (text : String) : FileTree :=
  ⟨[(["go.mod"], .file (Utf8.ofString text))], []⟩

theorem readText_moduleTree (text : String) :
    (moduleTree text).readText (Path.join "." "go.mod") = .ok text := by
  have hread : (moduleTree text).read (Path.join "." "go.mod") = .ok (Utf8.ofString text) := rfl
  simp only [FileTree.readText, hread, bind, Except.bind, Utf8.toString?_ofString]
  rfl

/-- The directive is found behind a comment and before a line that is none. -/
theorem moduleFile_finds_directive_quoted :
    moduleFile (moduleTree "// the shop\nmodule \"example.com/app\"\nmodules\n") "." =
      .ok "example.com/app" := by
  have hline : IsDirective "module \"example.com/app\"".toList
      (' ' :: "\"example.com/app\"".toList) :=
    isDirective_of_space (by decide +kernel) (by decide +kernel)
  have hbefore : ∀ other ∈ ["// the shop".toList], ¬BeginsLikeDirective other := by decide +kernel
  refine ((moduleFile_finds_directive (readText_moduleTree _)).2 ["// the shop".toList] _
    ["modules".toList] _ (by decide +kernel) ?_ hline).2.mpr ⟨hbefore, by decide +kernel⟩
  exact fun other hother rest hdirective =>
    hbefore other hother hdirective.beginsLikeDirective

/-- A requirement whose path begins with the letters of the word hides the directive behind it, and
a comment behind the path is taken for a part of it. -/
theorem not_moduleFile_finds_directive :
    (¬∀ (tree : FileTree) (dir text : String),
      tree.readText (Path.join dir "go.mod") = .ok text →
      ((∃ name, moduleFile tree dir = .ok name) ↔
        ∃ line ∈ Text.lines '\n' '\r' text.toList, ∃ rest, IsDirective line rest)) ∧
    ¬∀ (tree : FileTree) (dir text : String),
      tree.readText (Path.join dir "go.mod") = .ok text →
      ∀ before line after rest, Text.lines '\n' '\r' text.toList = before ++ line :: after →
        (∀ other ∈ before, ∀ rest, ¬IsDirective other rest) → IsDirective line rest →
        ∀ name, moduleFile tree dir = .ok name → name.toList = declaredPath rest := by
  constructor
  · intro hall
    have hmem : "module example.com/app".toList ∈ Text.lines '\n' '\r'
        "require (\n\tmodules.example.com/lib v1.2.0\n)\n\nmodule example.com/app\n".toList := by
      decide +kernel
    have hline : IsDirective "module example.com/app".toList (' ' :: "example.com/app".toList) :=
      isDirective_of_space (by decide +kernel) (by decide +kernel)
    obtain ⟨name, hname⟩ := (hall _ "." _ (readText_moduleTree _)).mpr
      ⟨_, hmem, _, hline⟩
    rw [moduleFile_eq_ok_iff (readText_moduleTree _)] at hname
    have hnone : declaredModule?
        "require (\n\tmodules.example.com/lib v1.2.0\n)\n\nmodule example.com/app\n".toList =
          none := by
      decide +kernel
    rw [hnone] at hname
    cases hname
  · intro hall
    have hline : IsDirective "module example.com/app // the shop".toList
        (' ' :: "example.com/app // the shop".toList) :=
      isDirective_of_space (by decide +kernel) (by decide +kernel)
    have hname : moduleFile (moduleTree "module example.com/app // the shop\n") "." =
        .ok "example.com/app // the shop" := by
      rw [moduleFile_eq_ok_iff (readText_moduleTree _)]
      decide +kernel
    exact absurd (hall _ "." _ (readText_moduleTree _) [] _ [] _ (by decide +kernel)
      (List.forall_mem_nil _) hline _ hname) (by decide +kernel)

end Go
end ServiceScaffold
