import Mathlib
import ServiceScaffold.CommandLine.Invocation

/-!
# Options written as words

An option can be written as one word, with its value after an equals sign. Words of this form are
read as the options that they were written for, in their order, and the value of an option that is
given once does not depend on the order.
-/

namespace ServiceScaffold
namespace CommandLine

def Given.word (given : Given) : String :=
  "--" ++ given.name ++ "=" ++ given.value

/-- The option is one of those with this shape, and the value is one that it can have. -/
structure Given.Fits (shapes : List OptionShape) (given : Given) (shape : OptionShape) : Prop where
  found : shapes.find? (·.name = given.name) = some shape
  takes : shape.takes ≠ .nothing
  path : shape.takes = .path → given.value ≠ ""
  proper : shape.name ≠ helpName ∧ shape.name ≠ versionName
  equals : '=' ∉ shape.name.toList

/-- Two options may both be given: they have different names, or the same name for a list. -/
def Compatible (shapes : List OptionShape) (given other : Given) : Prop :=
  given.name = other.name → ∀ shape, shapes.find? (·.name = given.name) = some shape →
    shape.takes = .texts

theorem Compatible.symm {shapes : List OptionShape} {given other : Given}
    (h : Compatible shapes given other) : Compatible shapes other given :=
  fun heq shape hshape => h heq.symm shape (heq ▸ hshape)

theorem Compatible.once {shapes : List OptionShape} {shape : OptionShape} {given other : Given}
    {name : String} (h : Compatible shapes given other)
    (hfound : shapes.find? (·.name = name) = some shape) (htakes : shape.takes ≠ .texts) :
    given.name = name → other.name ≠ name := by
  rintro rfl hother
  exact htakes (h hother.symm shape hfound)

variable {shapes : List OptionShape} {shape : OptionShape} {given : Given} {before : List Given}

theorem Given.Fits.name (h : given.Fits shapes shape) : shape.name = given.name := by
  simpa using List.find?_some h.found

theorem accept_of_fits (h : given.Fits shapes shape)
    (hbefore : ∀ other ∈ before, Compatible shapes other given) :
    accept before shape given.value = .ok (before ++ [given]) := by
  have hfirst : ¬(shape.takes ≠ .texts ∧ before.any (·.name = shape.name)) := by
    rintro ⟨htakes, hany⟩
    obtain ⟨other, hother, heq⟩ := List.any_eq_true.mp hany
    have hname : other.name = given.name := by simpa [h.name] using heq
    exact htakes (hbefore other hother hname shape (hname ▸ h.found))
  have hvalue : ¬(shape.takes = .path ∧ given.value.isEmpty) := by
    rintro ⟨htakes, hempty⟩
    exact h.path htakes (String.isEmpty_iff.mp hempty)
  rw [accept, if_neg h.proper.1, if_neg h.proper.2, if_neg hfirst, if_neg hvalue, h.name]

theorem span_ne_append_cons {c : Char} {name : List Char} (h : c ∉ name) (value : List Char) :
    (name ++ c :: value).span (· ≠ c) = (name, c :: value) := by
  have hname : ∀ d ∈ name, decide (d ≠ c) = true :=
    fun d hd => decide_eq_true (ne_of_mem_of_not_mem hd h)
  rw [List.span_eq_takeWhile_dropWhile, List.takeWhile_append_of_pos hname,
    List.dropWhile_append_of_pos hname]
  simp

theorem Given.toList_word (given : Given) :
    given.word.toList = '-' :: '-' :: (given.name.toList ++ '=' :: given.value.toList) := by
  simp [Given.word]

theorem word_ne_of_length_lt {word : String} (h : word.toList.length < 3) : given.word ≠ word := by
  rintro rfl
  simp [Given.toList_word] at h
  omega

theorem isOptionWord_word (given : Given) : isOptionWord given.word = true := by
  have hdash : given.word ≠ "-" := word_ne_of_length_lt (by decide)
  rw [isOptionWord, Given.toList_word, decide_eq_true hdash]
  rfl

theorem readOptionWord_word (h : given.Fits shapes shape)
    (hbefore : ∀ other ∈ before, Compatible shapes other given) :
    readOptionWord shapes before given.word = .ok ⟨before ++ [given], none⟩ := by
  have hequals : '=' ∉ given.name.toList := h.name ▸ h.equals
  simp only [readOptionWord, Given.toList_word, readLong, span_ne_append_cons hequals,
    String.ofList_toList, h.found, if_neg h.takes, accept_of_fits h hbefore]
  rfl

/-- Words of options are read as the options, after those that were read before. -/
theorem readOptions_words {options : List Given}
    (hfits : ∀ given ∈ options, ∃ shape, given.Fits shapes shape)
    (hpairs : (before ++ options).Pairwise (Compatible shapes)) :
    readOptions shapes before (options.map Given.word) = .ok ⟨before ++ options, none⟩ := by
  induction options generalizing before with
  | nil =>
    rw [List.append_nil]
    rfl
  | cons given rest ih =>
    rw [List.forall_mem_cons] at hfits
    obtain ⟨⟨shape, hshape⟩, hrest⟩ := hfits
    have hbefore : ∀ other ∈ before, Compatible shapes other given :=
      fun other hother => (List.pairwise_append.mp hpairs).2.2 other hother given List.mem_cons_self
    have hpairs' : (before ++ [given] ++ rest).Pairwise (Compatible shapes) := by
      rwa [List.append_assoc, List.singleton_append]
    rw [List.map_cons, readOptions, if_neg (word_ne_of_length_lt (by decide)),
      if_pos (isOptionWord_word given), readOptionWord_word hshape hbefore]
    simp only [ih hrest hpairs', List.append_assoc, List.singleton_append]

theorem value?_eq_some_iff {options : List Given} {name value : String}
    (h : options.Pairwise fun given other => given.name = name → other.name ≠ name) :
    value? options name = some value ↔ ⟨name, value⟩ ∈ options := by
  induction options with
  | nil => simp [value?]
  | cons given rest ih =>
    rw [List.pairwise_cons] at h
    have hrest := ih h.2
    rw [value?] at hrest ⊢
    obtain ⟨found, first⟩ := given
    by_cases hname : found = name
    · subst hname
      have hother : ⟨found, value⟩ ∉ rest := fun hmem => h.1 _ hmem rfl rfl
      simp [hother, eq_comm]
    · simp [hname, hrest, Ne.symm hname]

theorem mem_values_iff {options : List Given} {name value : String} :
    value ∈ values options name ↔ ⟨name, value⟩ ∈ options := by
  simp only [values, List.mem_map, List.mem_filter, decide_eq_true_eq]
  constructor
  · rintro ⟨⟨found, value⟩, ⟨hmem, rfl⟩, rfl⟩
    exact hmem
  · exact fun hmem => ⟨_, ⟨hmem, rfl⟩, rfl⟩

end CommandLine
end ServiceScaffold
