import Mathlib
import ServiceScaffold.Handler.Stub

/-!
# Replacing a pattern

Where a replacement from the left leaves a text as it is, where it puts the value in, and how the
replacements of all placeholders, one after another, fill a template.
-/

namespace ServiceScaffold
namespace Text

variable {α : Type} [DecidableEq α] {pattern : List α}

theorem dropStart?_eq_none_iff {start s : List α} : dropStart? start s = none ↔ ¬start <+: s := by
  rw [Option.eq_none_iff_forall_ne_some]
  simp only [ne_eq, dropStart?_eq_some_iff]
  constructor
  · rintro h ⟨rest, hrest⟩
    exact h rest hrest.symm
  · rintro h rest rfl
    exact h (List.prefix_append start rest)

theorem replaceFrom_length_append (value covered rest : List α) :
    replaceFrom pattern value covered.length (covered ++ rest) = replaceAll pattern value rest := by
  induction covered with
  | nil => rfl
  | cons c cs ih => simpa [replaceFrom] using ih

theorem replaceAll_pattern_append (h : pattern ≠ []) (value rest : List α) :
    replaceAll pattern value (pattern ++ rest) = value ++ replaceAll pattern value rest := by
  cases pattern with
  | nil => exact absurd rfl h
  | cons c cs =>
    have hstart : dropStart? (c :: cs) (c :: (cs ++ rest)) = some rest :=
      dropStart?_eq_some_iff.mpr rfl
    simp only [replaceAll, List.cons_append, replaceFrom, hstart, List.length_cons,
      Nat.add_sub_cancel]
    rw [replaceFrom_length_append]
    rfl

theorem replaceAll_cons_of_unmatched {c : α} {s : List α} (h : ¬pattern <+: c :: s)
    (value : List α) : replaceAll pattern value (c :: s) = c :: replaceAll pattern value s := by
  simp only [replaceAll, replaceFrom, dropStart?_eq_none_iff.mpr h]

theorem replaceAll_append_of_unmatched {before rest : List α}
    (h : ∀ stretch, stretch ≠ [] → stretch <:+ before → ¬pattern <+: stretch ++ rest)
    (value : List α) :
    replaceAll pattern value (before ++ rest) = before ++ replaceAll pattern value rest := by
  induction before with
  | nil => rfl
  | cons c cs ih =>
    rw [List.cons_append, replaceAll_cons_of_unmatched, ih, List.cons_append]
    · exact fun stretch hne hsuffix => h stretch hne (hsuffix.trans (List.suffix_cons c cs))
    · exact h (c :: cs) (by simp) (List.suffix_refl _)

theorem replaceAll_append_of_not_mem {c : α} {cs before : List α} (h : c ∉ before)
    (value rest : List α) :
    replaceAll (c :: cs) value (before ++ rest) = before ++ replaceAll (c :: cs) value rest := by
  refine replaceAll_append_of_unmatched (fun stretch hne hsuffix hstart => ?_) value
  obtain ⟨d, ds, rfl⟩ := List.exists_cons_of_ne_nil hne
  obtain ⟨rfl, -⟩ := List.cons_prefix_cons.mp hstart
  exact h (hsuffix.subset (by simp))

theorem replaceAll_of_not_infix {s : List α} (h : ¬pattern <:+: s) (value : List α) :
    replaceAll pattern value s = s := by
  have hs : ∀ stretch, stretch ≠ [] → stretch <:+ s → ¬pattern <+: stretch ++ [] := by
    intro stretch _ hsuffix hstart
    rw [List.append_nil] at hstart
    exact h (hstart.isInfix.trans hsuffix.isInfix)
  have hall := replaceAll_append_of_unmatched hs value
  rwa [List.append_nil, show replaceAll pattern value [] = [] by simp [replaceAll, replaceFrom],
    List.append_nil] at hall

theorem mem_replaceFrom {value s : List α} {c : α} {skip : Nat}
    (h : c ∈ replaceFrom pattern value skip s) : c ∈ value ∨ c ∈ s := by
  induction s generalizing skip with
  | nil => simp [replaceFrom] at h
  | cons d ds ih =>
    cases skip with
    | succ skip => exact (ih h).imp_right (List.mem_cons_of_mem d)
    | zero =>
      unfold replaceFrom at h
      split at h
      · exact (List.mem_append.mp h).elim Or.inl
          fun hrest => (ih hrest).imp_right (List.mem_cons_of_mem d)
      · rcases List.mem_cons.mp h with rfl | hrest
        · exact Or.inr List.mem_cons_self
        · exact (ih hrest).imp_right (List.mem_cons_of_mem d)

theorem mem_replaceAll {value s : List α} {c : α} (h : c ∈ replaceAll pattern value s) :
    c ∈ value ∨ c ∈ s :=
  mem_replaceFrom h

omit [DecidableEq α] in
theorem prefix_of_prefix_append_cons {c : α} {s t : List α} (h : c ∉ pattern)
    (hp : pattern <+: s ++ c :: t) : pattern <+: s := by
  have hc : s ++ [c] <+: s ++ c :: t := ⟨t, by simp⟩
  rcases List.prefix_or_prefix_of_prefix hp hc with hshort | hlong
  · rcases List.prefix_concat_iff.mp hshort with rfl | hs
    · simp at h
    · exact hs
  · exact absurd (hlong.subset (by simp)) h

theorem replaceFrom_append_cons {c : α} (h : c ∉ pattern) (hne : pattern ≠ []) (value a b : List α)
    {skip : Nat} (hskip : skip ≤ a.length) :
    replaceFrom pattern value skip (a ++ c :: b) =
      replaceFrom pattern value skip a ++ c :: replaceAll pattern value b := by
  induction a generalizing skip with
  | nil =>
    obtain rfl : skip = 0 := by simpa using hskip
    have hstart : ¬pattern <+: c :: b := fun hp =>
      hne (List.prefix_nil.mp (prefix_of_prefix_append_cons (s := []) h hp))
    exact replaceAll_cons_of_unmatched hstart value
  | cons x xs ih =>
    cases skip with
    | succ skip => exact ih (by simpa using hskip)
    | zero =>
      by_cases hp : pattern <+: x :: xs
      · obtain ⟨rest, hrest⟩ := hp
        have hlen : pattern.length - 1 ≤ xs.length := by
          have := congrArg List.length hrest
          simp only [List.length_append, List.length_cons] at this
          omega
        have hshort : dropStart? pattern (x :: xs) = some rest :=
          dropStart?_eq_some_iff.mpr hrest.symm
        have hlong : dropStart? pattern (x :: (xs ++ c :: b)) = some (rest ++ c :: b) :=
          dropStart?_eq_some_iff.mpr (by rw [← List.cons_append, ← hrest, List.append_assoc])
        simp only [List.cons_append, replaceFrom, hshort, hlong, List.append_assoc, ih hlen]
      · have hlong : ¬pattern <+: x :: (xs ++ c :: b) := fun hl =>
          hp (prefix_of_prefix_append_cons h hl)
        simp only [List.cons_append, replaceFrom, dropStart?_eq_none_iff.mpr hp,
          dropStart?_eq_none_iff.mpr hlong, ih (Nat.zero_le _)]

theorem replaceAll_append_cons {c : α} (h : c ∉ pattern) (hne : pattern ≠ [])
    (value a b : List α) :
    replaceAll pattern value (a ++ c :: b) =
      replaceAll pattern value a ++ c :: replaceAll pattern value b :=
  replaceFrom_append_cons h hne value a b (Nat.zero_le _)

end Text

namespace Handler

open Text

namespace Template

/-- The template after some of its holes have been filled; the others are still placeholders. -/
def partlyFilled (template : Template) (value : Hole → Option (List Char)) : List Char :=
  template.flatMap fun
    | .text s => s.toList
    | .hole h => (value h).getD h.placeholder

@[simp] theorem partlyFilled_text_cons (s : String) (template : Template)
    (value : Hole → Option (List Char)) :
    partlyFilled (.text s :: template) value = s.toList ++ template.partlyFilled value := rfl

@[simp] theorem partlyFilled_hole_cons (h : Hole) (template : Template)
    (value : Hole → Option (List Char)) :
    partlyFilled (.hole h :: template) value =
      (value h).getD h.placeholder ++ template.partlyFilled value := rfl

theorem source_eq_partlyFilled (template : Template) :
    template.source = template.partlyFilled fun _ => none := by
  simp only [source, partlyFilled]
  congr 1

theorem fill_eq_partlyFilled (template : Template) (value : Hole → List Char) :
    template.fill value = template.partlyFilled fun h => some (value h) := by
  simp only [fill, partlyFilled]
  congr 1

/-- No dollar sign but those of placeholders. -/
def Clean (template : Template) (value : Hole → Option (List Char)) : Prop :=
  ∀ segment ∈ template, match segment with
    | .text s => '$' ∉ s.toList
    | .hole h => ∀ filling, value h = some filling → '$' ∉ filling

end Template

theorem Hole.placeholder_eq_cons (h : Hole) : ∃ name, h.placeholder = '$' :: name ∧ '$' ∉ name := by
  cases h <;> exact ⟨_, rfl, by decide⟩

theorem Hole.placeholder_ne_nil (h : Hole) : h.placeholder ≠ [] :=
  List.cons_ne_nil _ _

theorem Hole.mem_all (h : Hole) : h ∈ Hole.all := by
  cases h <;> decide

/-- Two placeholders differ before the shorter one ends. -/
theorem Hole.not_placeholder_prefix {h h' : Hole} (hne : h ≠ h') (rest : List Char) :
    ¬h.placeholder <+: h'.placeholder ++ rest := by
  rw [← dropStart?_eq_none_iff]
  cases h <;> cases h' <;> first | exact absurd rfl hne | rfl

/-- Replacing one placeholder fills its hole and leaves the rest of the template alone. -/
theorem replaceAll_partlyFilled (template : Template) {value : Hole → Option (List Char)}
    (hclean : template.Clean value) {h : Hole} (hh : value h = none)
    (filling rest : List Char) :
    replaceAll h.placeholder filling (template.partlyFilled value ++ rest) =
      template.partlyFilled (Function.update value h (some filling)) ++
        replaceAll h.placeholder filling rest := by
  obtain ⟨name, hname, -⟩ := h.placeholder_eq_cons
  have hkeep (before rest : List Char) (hbefore : '$' ∉ before) :
      replaceAll h.placeholder filling (before ++ rest) =
        before ++ replaceAll h.placeholder filling rest := by
    rw [hname]
    exact replaceAll_append_of_not_mem hbefore filling rest
  induction template with
  | nil => rfl
  | cons segment template ih =>
    have hsegments := ih fun s hs => hclean s (List.mem_cons_of_mem _ hs)
    have hsegment := hclean segment List.mem_cons_self
    cases segment with
    | text s => simp only [Template.partlyFilled_text_cons, List.append_assoc, hkeep _ _ hsegment,
        hsegments]
    | hole k =>
      simp only [Template.partlyFilled_hole_cons, List.append_assoc]
      by_cases hk : k = h
      · subst hk
        rw [hh, Option.getD_none, replaceAll_pattern_append k.placeholder_ne_nil, hsegments,
          Function.update_self, Option.getD_some]
      · rw [Function.update_of_ne hk]
        cases hv : value k with
        | some other => rw [Option.getD_some, hkeep _ _ (hsegment other hv), hsegments]
        | none =>
          obtain ⟨other, hother, hclear⟩ := k.placeholder_eq_cons
          have hstart := Hole.not_placeholder_prefix (Ne.symm hk)
            (Template.partlyFilled template value ++ rest)
          rw [hother, List.cons_append] at hstart
          rw [Option.getD_none, hother, List.cons_append, replaceAll_cons_of_unmatched hstart,
            hkeep _ _ hclear, hsegments, List.cons_append]

theorem replaceInTurn_cons {value : Hole → List Char} (hole : Hole) (holes : List Hole)
    (text : List Char) :
    replaceInTurn value (hole :: holes) text =
      replaceInTurn value holes (replaceAll hole.placeholder (value hole) text) := rfl

@[simp] theorem replaceInTurn_nil {value : Hole → List Char} (holes : List Hole) :
    replaceInTurn value holes [] = [] := by
  induction holes with
  | nil => rfl
  | cons hole holes ih =>
    rw [replaceInTurn_cons, show replaceAll hole.placeholder (value hole) [] = [] from rfl, ih]

/-- Replacing placeholders in turn fills their holes, if what was put into the template before
the last turn has no dollar sign. -/
theorem replaceInTurn_partlyFilled (template : Template) (filling : Hole → List Char)
    {holes : List Hole} (hnodup : holes.Nodup) {value : Hole → Option (List Char)}
    (hclean : template.Clean value) (hfresh : ∀ h ∈ holes, value h = none)
    (hfilling : ∀ h ∈ holes.dropLast, .hole h ∈ template → '$' ∉ filling h) (rest : List Char) :
    replaceInTurn filling holes (template.partlyFilled value ++ rest) =
      template.partlyFilled (fun h => if h ∈ holes then some (filling h) else value h) ++
        replaceInTurn filling holes rest := by
  induction holes generalizing value rest with
  | nil => simp [replaceInTurn]
  | cons h later ih =>
    obtain ⟨hnot, hlater⟩ := List.nodup_cons.mp hnodup
    have hstep := replaceAll_partlyFilled template hclean (hfresh h List.mem_cons_self)
      (filling h) rest
    have hupdate : (fun k => if k ∈ later then some (filling k)
        else Function.update value h (some (filling h)) k) =
        fun k => if k ∈ h :: later then some (filling k) else value k := by
      funext k
      by_cases hk : k = h
      · subst hk
        simp [hnot]
      · simp [hk]
    cases later with
    | nil =>
      simp only [List.not_mem_nil, if_false] at hupdate
      rw [← hupdate]
      exact hstep
    | cons next more =>
      have hclean' : template.Clean (Function.update value h (some (filling h))) := by
        intro segment hsegment
        have hold := hclean segment hsegment
        cases segment with
        | text s => exact hold
        | hole k =>
          intro other hother
          by_cases hk : k = h
          · subst hk
            rw [Function.update_self, Option.some.injEq] at hother
            subst hother
            exact hfilling k (by simp) hsegment
          · rw [Function.update_of_ne hk] at hother
            exact hold other hother
      have hrest := ih hlater hclean'
        (fun k hk => by
          rw [Function.update_of_ne (by rintro rfl; exact hnot hk)]
          exact hfresh k (List.mem_cons_of_mem _ hk))
        (fun k hk => hfilling k (by simp [hk]))
        (replaceAll h.placeholder (filling h) rest)
      rw [← hupdate]
      simp only [replaceInTurn, List.foldl_cons] at hrest ⊢
      rw [hstep, hrest]

theorem replaceInTurn_source_append (template : Template) (filling : Hole → List Char)
    (htext : ∀ s, .text s ∈ template → '$' ∉ s.toList)
    (hfilling : ∀ h, h ≠ .methodPath → .hole h ∈ template → '$' ∉ filling h) (rest : List Char) :
    replaceInTurn filling Hole.all (template.source ++ rest) =
      template.fill filling ++ replaceInTurn filling Hole.all rest := by
  have hclean : template.Clean fun _ => none := by
    intro segment hsegment
    cases segment with
    | text s => exact htext s hsegment
    | hole h => simp
  have hnodup : Hole.all.Nodup := by decide
  have hturns := replaceInTurn_partlyFilled template filling hnodup hclean
    (fun _ _ => rfl)
    (fun h hh hmem => hfilling h (by rintro rfl; exact absurd hh (by decide)) hmem) rest
  simpa only [Template.source_eq_partlyFilled, Template.fill_eq_partlyFilled, Hole.mem_all, if_true]
    using hturns

end Handler
end ServiceScaffold
