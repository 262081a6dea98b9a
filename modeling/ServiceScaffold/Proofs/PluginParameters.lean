import Mathlib
import ServiceScaffold.Settings.Parameter

/-!
# What parameters do

The entries of a parameter come back from between its commas. When all of their keys are known, the
settings after them are those before with the last value of every key.
-/

namespace ServiceScaffold

namespace Text

theorem dropWhile_eq_self {α : Type} {p : α → Bool} {s : List α}
    (h : ∀ c ∈ s.head?, p c = false) : s.dropWhile p = s := by
  cases s with
  | nil => rfl
  | cons c cs => exact List.dropWhile_cons_of_neg (by simp [h c rfl])

theorem trim_eq_self {α : Type} {p : α → Bool} {s : List α} (hfirst : ∀ c ∈ s.head?, p c = false)
    (hlast : ∀ c ∈ s.getLast?, p c = false) : trim p s = s := by
  rw [trim, dropEndWhile, dropWhile_eq_self hfirst, dropWhile_eq_self (by simpa using hlast),
    List.reverse_reverse]

end Text

namespace Settings

/-- An entry that stands between commas as it is. -/
structure IsEntry (entry : String) : Prop where
  comma : ',' ∉ entry.toList
  nonempty : entry.toList ≠ []
  first : ∀ c ∈ entry.toList.head?, Text.isBlank c = false
  last : ∀ c ∈ entry.toList.getLast?, Text.isBlank c = false

theorem parameterEntries_join {entries : List String} (h : ∀ entry ∈ entries, IsEntry entry) :
    parameterEntries (Text.join "," entries) = entries.map String.toList := by
  cases entries with
  | nil => rfl
  | cons first rest =>
    have htrim : ((first :: rest).map String.toList).map Text.trimBlank =
        (first :: rest).map String.toList := by
      rw [List.map_map]
      exact List.map_congr_left fun entry hentry =>
        Text.trim_eq_self (h entry hentry).first (h entry hentry).last
    rw [parameterEntries, Text.pieces_join (by decide) first rest fun entry hentry =>
      (h entry hentry).comma, htrim, List.filter_eq_self]
    intro entry hentry
    obtain ⟨text, htext, rfl⟩ := List.mem_map.mp hentry
    simpa using (h text htext).nonempty

theorem parameterEntry_append {key : String} (h : '=' ∉ key.toList) (value : String) :
    parameterEntry (key ++ "=" ++ value).toList = .ok (key, value) := by
  have hentry : (key ++ "=" ++ value).toList = key.toList ++ '=' :: value.toList := by simp
  rw [parameterEntry, hentry, Text.cut?_append_cons h]
  simp

/-- Keys and values come back from a parameter. -/
theorem mapM_parameterEntry_join {entries : List (String × String)}
    (hkeys : ∀ entry ∈ entries, '=' ∉ entry.1.toList)
    (hentries : ∀ entry ∈ entries, IsEntry (entry.1 ++ "=" ++ entry.2)) :
    (parameterEntries (Text.join "," (entries.map fun entry => entry.1 ++ "=" ++ entry.2))).mapM
      parameterEntry = .ok entries := by
  rw [parameterEntries_join (List.forall_mem_map.mpr hentries), List.map_map]
  clear hentries
  induction entries with
  | nil => rfl
  | cons entry rest ih =>
    rw [List.forall_mem_cons] at hkeys
    rw [List.map_cons, List.mapM_cons, ih hkeys.2, Function.comp_apply,
      parameterEntry_append hkeys.1]
    rfl

def parameterKeys : List String :=
  ["config", "handler_path", "module", "proto_import_path", "package", "framework_import", "import"]

def lastValue (entries : List (String × String)) (key : String) : Option String :=
  entries.reverse.lookup key

theorem lastValue_concat (entries : List (String × String)) (last value key : String) :
    lastValue (entries ++ [(last, value)]) key =
      if key = last then some value else lastValue entries key := by
  rw [lastValue, List.reverse_concat, List.lookup_cons]
  split <;> simp_all [lastValue]

/-- The settings with the last value of every key, and with all imports. -/
def after (base : Settings) (entries : List (String × String)) : Settings :=
  { base with
    handlerPath := (lastValue entries "handler_path").getD base.handlerPath
    module := (lastValue entries "module").or base.module
    protoImportPath := (lastValue entries "proto_import_path").or base.protoImportPath
    packageName := (lastValue entries "package").getD base.packageName
    frameworkImport := (lastValue entries "framework_import").getD base.frameworkImport
    extraImports := base.extraImports ++ (entries.filter (·.1 = "import")).map Prod.snd }

theorem withParameter_after (base : Settings) (entries : List (String × String)) {key : String}
    (hkey : key ∈ parameterKeys) (value : String) :
    (base.after entries).withParameter key value =
      .ok (base.after (entries ++ [(key, value)])) := by
  simp only [parameterKeys, List.mem_cons, List.not_mem_nil, or_false] at hkey
  rcases hkey with rfl | rfl | rfl | rfl | rfl | rfl | rfl
  all_goals simp [withParameter, after, lastValue_concat]

theorem foldlM_withParameter (base : Settings) {entries : List (String × String)}
    (hkeys : ∀ entry ∈ entries, entry.1 ∈ parameterKeys) :
    entries.foldlM (fun settings (key, value) => settings.withParameter key value) base =
      .ok (base.after entries) := by
  induction entries using List.reverseRecOn with
  | nil => simp [after, lastValue, pure, Except.pure]
  | append_singleton entries last ih =>
    simp only [List.mem_append, List.mem_singleton] at hkeys
    rw [List.foldlM_append, ih fun entry hentry => hkeys entry (Or.inl hentry)]
    simp only [List.foldlM_cons, List.foldlM_nil, bind_pure]
    exact withParameter_after base entries (hkeys last (Or.inr rfl)) last.2

theorem lookup_eq_some_iff_of_nodup {α β : Type} [DecidableEq α] {entries : List (α × β)}
    (h : (entries.map Prod.fst).Nodup) {key : α} {value : β} :
    entries.lookup key = some value ↔ (key, value) ∈ entries := by
  induction entries with
  | nil => simp
  | cons entry rest ih =>
    obtain ⟨first, found⟩ := entry
    rw [List.map_cons, List.nodup_cons] at h
    by_cases hkey : key = first
    · subst hkey
      have hother : (key, value) ∉ rest := fun hmem => h.1 (List.mem_map.mpr ⟨_, hmem, rfl⟩)
      simp [hother, eq_comm]
    · simp [List.lookup_cons, beq_eq_false_iff_ne.mpr hkey, hkey, ih h.2]

theorem lastValue_eq_some_iff {entries : List (String × String)}
    (h : (entries.map Prod.fst).Nodup) {key value : String} :
    lastValue entries key = some value ↔ (key, value) ∈ entries := by
  have hreverse : (entries.reverse.map Prod.fst).Nodup := by
    rwa [List.map_reverse, List.nodup_reverse]
  rw [lastValue, lookup_eq_some_iff_of_nodup hreverse, List.mem_reverse]

end Settings
end ServiceScaffold
