import Mathlib
import ServiceScaffold.Proofs.TreeGrowth
import ServiceScaffold.Proofs.PluginParameters

/-!
# Layers of a parameter

Which parameters are accepted, and the settings that they make: below lie those of the settings file
that is named first, or else those of the run, and over them the last value of every key. Entries
count by key alone, so that entries with different keys can change places.
-/

namespace ServiceScaffold
namespace Settings

/-- The key of an entry and its value, which stand before and after its first equals sign. -/
def assignment? (entry : List Char) : Option (String × String) :=
  (Text.cut? '=' entry).map fun parts => (String.ofList parts.1, String.ofList parts.2)

def entryKey (entry : List Char) : Option String :=
  (assignment? entry).map Prod.fst

def assignments (parameter : String) : List (String × String) :=
  (parameterEntries parameter).filterMap assignment?

theorem mem_iff_assignment? {entry : List Char} :
    '=' ∈ entry ↔ ∃ assigned, assignment? entry = some assigned := by
  rw [← not_iff_not, ← Text.cut?_eq_none_iff, assignment?]
  cases Text.cut? '=' entry <;> simp

theorem parameterEntry_eq_ok_iff {entry : List Char} {assigned : String × String} :
    parameterEntry entry = .ok assigned ↔ assignment? entry = some assigned := by
  rw [parameterEntry, assignment?]
  cases Text.cut? '=' entry <;> simp

theorem mapM_parameterEntry_eq_ok_iff {entries : List (List Char)}
    {found : List (String × String)} :
    entries.mapM parameterEntry = .ok found ↔
      (∀ entry ∈ entries, '=' ∈ entry) ∧ found = entries.filterMap assignment? := by
  induction entries generalizing found with
  | nil => simp [pure, Except.pure, eq_comm]
  | cons entry rest ih =>
    rw [List.mapM_cons, bind_eq_ok_iff, List.forall_mem_cons, mem_iff_assignment?]
    constructor
    · rintro ⟨assigned, hentry, hrest⟩
      obtain ⟨others, hothers, hfound⟩ := bind_eq_ok_iff.mp hrest
      obtain ⟨hall, rfl⟩ := ih.mp hothers
      rw [parameterEntry_eq_ok_iff] at hentry
      rw [List.filterMap_cons_some hentry]
      exact ⟨⟨⟨assigned, hentry⟩, hall⟩, (Except.ok.inj hfound).symm⟩
    · rintro ⟨⟨⟨assigned, hentry⟩, hall⟩, rfl⟩
      refine ⟨assigned, parameterEntry_eq_ok_iff.mpr hentry, bind_eq_ok_iff.mpr ?_⟩
      rw [List.filterMap_cons_some hentry]
      exact ⟨_, ih.mpr ⟨hall, rfl⟩, rfl⟩

theorem mem_parameterKeys_of_withParameter {base settings : Settings} {key value : String}
    (h : base.withParameter key value = .ok settings) : key ∈ parameterKeys := by
  unfold withParameter at h
  split at h
  all_goals first | decide | cases h

theorem known_of_foldlM {base settings : Settings} {entries : List (String × String)}
    (h : entries.foldlM (fun settings (key, value) => settings.withParameter key value) base =
      .ok settings) : ∀ entry ∈ entries, entry.1 ∈ parameterKeys := by
  induction entries generalizing base with
  | nil => exact List.forall_mem_nil _
  | cons entry rest ih =>
    rw [List.foldlM_cons] at h
    obtain ⟨next, hnext, hrest⟩ := bind_eq_ok_iff.mp h
    exact List.forall_mem_cons.mpr ⟨mem_parameterKeys_of_withParameter hnext, ih hrest⟩

/-- Entries are all applied when all of their keys are known, and else none is accepted. -/
theorem foldlM_withParameter_eq_ok_iff {base settings : Settings}
    {entries : List (String × String)} :
    entries.foldlM (fun settings (key, value) => settings.withParameter key value) base =
        .ok settings ↔
      (∀ entry ∈ entries, entry.1 ∈ parameterKeys) ∧ settings = base.after entries := by
  constructor
  · intro h
    have hknown := known_of_foldlM h
    rw [foldlM_withParameter base hknown] at h
    exact ⟨hknown, (Except.ok.inj h).symm⟩
  · rintro ⟨hknown, rfl⟩
    exact foldlM_withParameter base hknown

/-- The settings on which the values of a parameter are laid: those of the settings file that it
names first, or else those of the run. -/
def bottomLayer (base : Settings) (tree : FileTree) (entries : List (String × String)) :
    Except Fault Settings :=
  match entries.lookup "config" with
  | none => .ok base
  | some path => load tree path

theorem parameterBase_eq_ok_iff {base kept : Settings} {tree : FileTree}
    {entries : List (String × String)} :
    base.parameterBase tree entries = .ok kept ↔
      ∃ start, base.bottomLayer tree entries = .ok start ∧
        kept = { start with version := base.version, workDir := base.workDir } := by
  rw [parameterBase, bottomLayer]
  cases entries.lookup "config" with
  | none =>
    constructor
    · rintro ⟨⟩
      exact ⟨base, rfl, rfl⟩
    · rintro ⟨_, ⟨⟩, rfl⟩
      rfl
  | some path =>
    simp only [bind_eq_ok_iff, pure, Except.pure, Except.ok.injEq]
    exact exists_congr fun start => and_congr_right fun _ => eq_comm

theorem after_kept (start : Settings) (version workDir : String)
    (entries : List (String × String)) :
    after { start with version := version, workDir := workDir } entries =
      { start.after entries with version := version, workDir := workDir } := by
  simp only [after]

theorem applyParameter_eq_ok_iff {base settings : Settings} {tree : FileTree} {parameter : String} :
    base.applyParameter tree parameter = .ok settings ↔
      (∀ entry ∈ parameterEntries parameter, '=' ∈ entry) ∧
      (∀ entry ∈ assignments parameter, entry.1 ∈ parameterKeys) ∧
      ∃ start, base.bottomLayer tree (assignments parameter) = .ok start ∧
        settings = { start.after (assignments parameter) with
          version := base.version, workDir := base.workDir } := by
  rw [applyParameter, bind_eq_ok_iff]
  constructor
  · rintro ⟨entries, hentries, h⟩
    obtain ⟨hall, rfl⟩ := mapM_parameterEntry_eq_ok_iff.mp hentries
    obtain ⟨kept, hkept, hfold⟩ := bind_eq_ok_iff.mp h
    obtain ⟨start, hstart, rfl⟩ := parameterBase_eq_ok_iff.mp hkept
    obtain ⟨hknown, rfl⟩ := foldlM_withParameter_eq_ok_iff.mp hfold
    exact ⟨hall, hknown, start, hstart, after_kept start _ _ _⟩
  · rintro ⟨hall, hknown, start, hstart, rfl⟩
    refine ⟨assignments parameter, mapM_parameterEntry_eq_ok_iff.mpr ⟨hall, rfl⟩,
      bind_eq_ok_iff.mpr ⟨_, parameterBase_eq_ok_iff.mpr ⟨start, hstart, rfl⟩, ?_⟩⟩
    exact foldlM_withParameter_eq_ok_iff.mpr ⟨hknown, (after_kept start _ _ _).symm⟩

/-- Lists in which the entries with any one key are the same, in the same order. -/
def AgreeByKey (first second : List (List Char)) : Prop :=
  ∀ key, first.filter (entryKey · = key) = second.filter (entryKey · = key)

/-- A change in the order of entries: the first that names a settings file goes to another place
before all others that name one, or neighbours with different keys change places. -/
inductive Reordered : List (List Char) → List (List Char) → Prop
  | config {before after before' after' : List (List Char)} {entry : List Char}
      (hkey : entryKey entry = some "config") (hothers : before ++ after = before' ++ after')
      (hfirst : ∀ other ∈ before, entryKey other ≠ some "config")
      (hmoved : ∀ other ∈ before', entryKey other ≠ some "config") :
      Reordered (before ++ entry :: after) (before' ++ entry :: after')
  | swap {before after : List (List Char)} {first second : List Char}
      (hkeys : entryKey first ≠ entryKey second) :
      Reordered (before ++ first :: second :: after) (before ++ second :: first :: after)

theorem Reordered.agreeByKey {first second : List (List Char)} (h : Reordered first second) :
    AgreeByKey first second := by
  intro key
  cases h with
  | @config before after before' after' entry hkey hothers hfirst hmoved =>
    have hfilter := congrArg (List.filter (entryKey · = key)) hothers
    rw [List.filter_append, List.filter_append] at hfilter
    by_cases hconfig : key = some "config"
    · subst hconfig
      have hbefore : before.filter (entryKey · = some "config") = [] :=
        List.filter_eq_nil_iff.mpr fun other hother => by simpa using hfirst other hother
      have hbefore' : before'.filter (entryKey · = some "config") = [] :=
        List.filter_eq_nil_iff.mpr fun other hother => by simpa using hmoved other hother
      rw [hbefore, hbefore', List.nil_append, List.nil_append] at hfilter
      simp [List.filter_append, hbefore, hbefore', hkey, hfilter]
    · have hskip : ¬entryKey entry = key := fun heq => hconfig (heq.symm.trans hkey)
      simpa [List.filter_append, List.filter_cons, hskip] using hfilter
  | @swap before after first second hkeys =>
    by_cases hkey : entryKey first = key
    · have hother : ¬entryKey second = key := fun heq => hkeys (hkey.trans heq.symm)
      simp [List.filter_append, hkey, hother]
    · simp [List.filter_append, List.filter_cons, hkey]

theorem AgreeByKey.mem_iff {first second : List (List Char)} (h : AgreeByKey first second)
    {entry : List Char} : entry ∈ first ↔ entry ∈ second := by
  have hkey (entries : List (List Char)) :
      entry ∈ entries ↔ entry ∈ entries.filter (entryKey · = entryKey entry) := by
    simp
  rw [hkey first, hkey second, h]

theorem filter_filterMap_assignment? (entries : List (List Char)) (key : String) :
    (entries.filterMap assignment?).filter (·.1 = key) =
      (entries.filter (entryKey · = some key)).filterMap assignment? := by
  induction entries with
  | nil => rfl
  | cons entry rest ih =>
    cases hentry : assignment? entry with
    | none => simp [hentry, entryKey, ih]
    | some assigned =>
      by_cases hkey : assigned.1 = key
      · simp [hentry, entryKey, ih, hkey]
      · simp [hentry, entryKey, ih, hkey]

theorem AgreeByKey.filter_eq {first second : List (List Char)} (h : AgreeByKey first second)
    (key : String) : (first.filterMap assignment?).filter (·.1 = key) =
      (second.filterMap assignment?).filter (·.1 = key) := by
  rw [filter_filterMap_assignment?, filter_filterMap_assignment?, h]

theorem lookup_eq_head? (entries : List (String × String)) (key : String) :
    entries.lookup key = ((entries.filter (·.1 = key)).head?).map Prod.snd := by
  induction entries with
  | nil => rfl
  | cons entry rest ih =>
    obtain ⟨first, value⟩ := entry
    by_cases hkey : key = first
    · subst hkey
      simp
    · simp [List.lookup_cons, beq_eq_false_iff_ne.mpr hkey, Ne.symm hkey, ih]

theorem lastValue_eq_getLast? (entries : List (String × String)) (key : String) :
    lastValue entries key = ((entries.filter (·.1 = key)).getLast?).map Prod.snd := by
  rw [lastValue, lookup_eq_head?, List.filter_reverse, List.head?_reverse]

theorem after_congr {first second : List (String × String)}
    (h : ∀ key, first.filter (·.1 = key) = second.filter (·.1 = key)) (base : Settings) :
    base.after first = base.after second := by
  have hlast (key : String) : lastValue first key = lastValue second key := by
    rw [lastValue_eq_getLast?, lastValue_eq_getLast?, h]
  simp only [after, hlast, h]

theorem bottomLayer_congr {first second : List (String × String)}
    (h : ∀ key, first.filter (·.1 = key) = second.filter (·.1 = key)) (base : Settings)
    (tree : FileTree) : base.bottomLayer tree first = base.bottomLayer tree second := by
  rw [bottomLayer, bottomLayer, lookup_eq_head?, lookup_eq_head?, h]

/-- Only the entries with one key among themselves have an order that counts. -/
theorem applyParameter_of_agreeByKey {base settings : Settings} {tree : FileTree}
    {parameter other : String}
    (hagree : AgreeByKey (parameterEntries parameter) (parameterEntries other))
    (h : base.applyParameter tree parameter = .ok settings) :
    base.applyParameter tree other = .ok settings := by
  obtain ⟨hall, hknown, start, hstart, rfl⟩ := applyParameter_eq_ok_iff.mp h
  have hfilter : ∀ key, (assignments parameter).filter (·.1 = key) =
      (assignments other).filter (·.1 = key) := fun key => hagree.filter_eq key
  refine applyParameter_eq_ok_iff.mpr ⟨?_, ?_, start, ?_, ?_⟩
  · exact fun entry hentry => hall entry (hagree.mem_iff.mpr hentry)
  · intro assigned hassigned
    obtain ⟨entry, hentry, heq⟩ := List.mem_filterMap.mp hassigned
    exact hknown assigned (List.mem_filterMap.mpr ⟨entry, hagree.mem_iff.mpr hentry, heq⟩)
  · rw [← bottomLayer_congr hfilter, hstart]
  · rw [after_congr hfilter]

/-- A parameter is accepted if every entry has a value, all keys are known, and the settings file
that is named first, if there is one, can be loaded. It then makes the settings of that file, or
else those of the run, with the last value of every key and all imports, and with the version and
the directory of the run. Another order of the entries makes the same settings. -/
theorem applyParameter_layers (base : Settings) (tree : FileTree) (parameter : String) :
    ((∃ settings, base.applyParameter tree parameter = .ok settings) ↔
      (∀ entry ∈ parameterEntries parameter, '=' ∈ entry) ∧
      (∀ assigned ∈ assignments parameter, assigned.1 ∈ parameterKeys) ∧
      ∀ path, (assignments parameter).lookup "config" = some path →
        ∃ loaded, load tree path = .ok loaded) ∧
    ∀ settings, base.applyParameter tree parameter = .ok settings →
      (∃ start, base.bottomLayer tree (assignments parameter) = .ok start ∧
        settings = { start.after (assignments parameter) with
          version := base.version, workDir := base.workDir }) ∧
      ∀ other, Reordered (parameterEntries parameter) (parameterEntries other) →
        base.applyParameter tree other = .ok settings := by
  have hbottom : (∃ start, base.bottomLayer tree (assignments parameter) = .ok start) ↔
      ∀ path, (assignments parameter).lookup "config" = some path →
        ∃ loaded, load tree path = .ok loaded := by
    rw [bottomLayer]
    cases (assignments parameter).lookup "config" <;> simp
  refine ⟨⟨?_, ?_⟩, ?_⟩
  · rintro ⟨settings, h⟩
    obtain ⟨hall, hknown, start, hstart, -⟩ := applyParameter_eq_ok_iff.mp h
    exact ⟨hall, hknown, hbottom.mp ⟨start, hstart⟩⟩
  · rintro ⟨hall, hknown, hloads⟩
    obtain ⟨start, hstart⟩ := hbottom.mpr hloads
    exact ⟨_, applyParameter_eq_ok_iff.mpr ⟨hall, hknown, start, hstart, rfl⟩⟩
  · intro settings h
    obtain ⟨-, -, hlayers⟩ := applyParameter_eq_ok_iff.mp h
    exact ⟨hlayers, fun other hother => applyParameter_of_agreeByKey hother.agreeByKey h⟩

def settingsTree : FileTree :=
  ⟨[(["c.yaml"], .file (Utf8.ofString
    "handler_path: ./yaml\npackage_name: api\nversion: v9\nextra_imports:\n  - strings\n"))], []⟩

/-- A settings file lies below the values, wherever it is named. -/
theorem applyParameter_layers_yaml :
    applyParameter {} settingsTree "handler_path=./a,import=fmt, config=c.yaml" =
        .ok { handlerPath := "./a", packageName := "api", extraImports := ["strings", "fmt"] } ∧
      applyParameter {} settingsTree "config=c.yaml,handler_path=./a,import=fmt" =
        .ok { handlerPath := "./a", packageName := "api", extraImports := ["strings", "fmt"] } := by
  have hfirst : applyParameter {} settingsTree "handler_path=./a,import=fmt, config=c.yaml" =
      .ok { handlerPath := "./a", packageName := "api", extraImports := ["strings", "fmt"] } := by
    decide +kernel
  have hreordered : Reordered
      (["handler_path=./a".toList, "import=fmt".toList] ++ "config=c.yaml".toList :: [])
      ([] ++ "config=c.yaml".toList :: ["handler_path=./a".toList, "import=fmt".toList]) :=
    .config (by decide) (by decide) (by decide) (by decide)
  have hentries : parameterEntries "handler_path=./a,import=fmt, config=c.yaml" =
      ["handler_path=./a".toList, "import=fmt".toList] ++ "config=c.yaml".toList :: [] := by
    decide +kernel
  have hmoved : parameterEntries "config=c.yaml,handler_path=./a,import=fmt" =
      [] ++ "config=c.yaml".toList :: ["handler_path=./a".toList, "import=fmt".toList] := by
    decide +kernel
  rw [← hentries, ← hmoved] at hreordered
  obtain ⟨-, hlayers⟩ := applyParameter_layers {} settingsTree
    "handler_path=./a,import=fmt, config=c.yaml"
  exact ⟨hfirst, (hlayers _ hfirst).2 _ hreordered⟩

end Settings
end ServiceScaffold
