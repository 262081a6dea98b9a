import Mathlib
import ServiceScaffold.Proofs.OptionWords
import ServiceScaffold.Proofs.PluginParameters
import ServiceScaffold.CommandLine.Run

/-!
# Settings for both ways

The settings that a compiler can pass on in a parameter are options of the command line, too. Chosen
values make the same settings, whichever way they are given and in whatever order.
-/

namespace ServiceScaffold
namespace CommandLine

/-- The settings that can be given both ways. -/
inductive SharedSetting
  | config
  | handlerPath
  | module
  | protoImportPath
  deriving DecidableEq, Repr

namespace SharedSetting

def key : SharedSetting → String
  | .config => "config"
  | .handlerPath => "handler_path"
  | .module => "module"
  | .protoImportPath => "proto_import_path"

def shape : SharedSetting → OptionShape
  | .config => ⟨"config", some 'c', .path⟩
  | .handlerPath => ⟨"handler-path", none, .path⟩
  | .module => ⟨"module", none, .text⟩
  | .protoImportPath => ⟨"proto-import-path", none, .text⟩

def option (setting : SharedSetting) : String :=
  setting.shape.name

theorem key_injective : Function.Injective key := by
  intro setting other
  cases setting <;> cases other <;> simp [key]

theorem option_injective : Function.Injective option := by
  intro setting other
  cases setting <;> cases other <;> simp [option, shape]

theorem option_ne_descriptorSet (setting : SharedSetting) : setting.option ≠ "descriptor-set" := by
  cases setting <;> decide

theorem option_ne_file (setting : SharedSetting) : setting.option ≠ "file" := by
  cases setting <;> decide

theorem find?_option (setting : SharedSetting) :
    generateShapes.find? (·.name = setting.option) = some setting.shape := by
  cases setting <;> rfl

end SharedSetting

abbrev Choices := List (SharedSetting × String)

namespace Choices

variable {choices : Choices}

/-- Values that can stand in a parameter and on a command line, each given once. -/
structure Valid (choices : Choices) : Prop where
  once : (choices.map Prod.fst).Nodup
  comma : ∀ choice ∈ choices, ',' ∉ choice.2.toList
  last : ∀ choice ∈ choices, ∀ c ∈ choice.2.toList.getLast?, Text.isBlank c = false
  path : ∀ choice ∈ choices, choice.1.shape.takes = .path → choice.2 ≠ ""

def entries (choices : Choices) : List (String × String) :=
  choices.map fun choice => (choice.1.key, choice.2)

/-- The parameter with an entry for every choice. -/
def parameter (choices : Choices) : String :=
  Text.join "," (choices.entries.map fun entry => entry.1 ++ "=" ++ entry.2)

def options (choices : Choices) : List Given :=
  choices.map fun choice => ⟨choice.1.option, choice.2⟩

theorem mem_entries_iff {setting : SharedSetting} {value : String} :
    (setting.key, value) ∈ choices.entries ↔ (setting, value) ∈ choices := by
  simp only [entries, List.mem_map, Prod.mk.injEq, Prod.exists]
  constructor
  · rintro ⟨other, _, hmem, hkey, rfl⟩
    rwa [← SharedSetting.key_injective hkey]
  · exact fun hmem => ⟨setting, value, hmem, rfl, rfl⟩

theorem mem_options_iff {setting : SharedSetting} {value : String} :
    ⟨setting.option, value⟩ ∈ choices.options ↔ (setting, value) ∈ choices := by
  simp only [options, List.mem_map, Given.mk.injEq, Prod.exists]
  constructor
  · rintro ⟨other, _, hmem, hoption, rfl⟩
    rwa [← SharedSetting.option_injective hoption]
  · exact fun hmem => ⟨setting, value, hmem, rfl, rfl⟩

theorem nodup_entries (h : choices.Valid) : (choices.entries.map Prod.fst).Nodup := by
  have hkeys : choices.entries.map Prod.fst = (choices.map Prod.fst).map SharedSetting.key := by
    simp [entries]
  rw [hkeys]
  exact h.once.map SharedSetting.key_injective

theorem key_mem_parameterKeys {entry : String × String} (h : entry ∈ choices.entries) :
    entry.1 ∈ Settings.parameterKeys := by
  obtain ⟨⟨setting, value⟩, -, rfl⟩ := List.mem_map.mp h
  show setting.key ∈ Settings.parameterKeys
  cases setting <;> decide

def chosen (choices : Choices) (setting : SharedSetting) : Option String :=
  choices.lookup setting

theorem chosen_eq_some_iff (h : choices.Valid) {setting : SharedSetting} {value : String} :
    choices.chosen setting = some value ↔ (setting, value) ∈ choices :=
  Settings.lookup_eq_some_iff_of_nodup h.once

theorem lookup_entries (h : choices.Valid) (setting : SharedSetting) :
    choices.entries.lookup setting.key = choices.chosen setting := by
  ext value
  rw [Settings.lookup_eq_some_iff_of_nodup (nodup_entries h), mem_entries_iff,
    chosen_eq_some_iff h]

theorem lastValue_entries (h : choices.Valid) (setting : SharedSetting) :
    Settings.lastValue choices.entries setting.key = choices.chosen setting := by
  ext value
  rw [Settings.lastValue_eq_some_iff (nodup_entries h), mem_entries_iff, chosen_eq_some_iff h]

/-- The settings with the values that are chosen for them. -/
def overlay (choices : Choices) (base : Settings) : Settings :=
  { base with
    handlerPath := (choices.chosen .handlerPath).getD base.handlerPath
    module := (choices.chosen .module).or base.module
    protoImportPath := (choices.chosen .protoImportPath).or base.protoImportPath }

/-- The settings that the choices make: those of the settings file, if one is chosen, and over them
those that are chosen themselves. -/
def settings (choices : Choices) (tree : FileTree) : Except Fault Settings :=
  (match choices.chosen .config with
    | some path => Settings.load tree path
    | none => .ok {}).map fun base => choices.overlay (forThisRun base tree)

theorem isEntry (h : choices.Valid) {entry : String × String} (hentry : entry ∈ choices.entries) :
    Settings.IsEntry (entry.1 ++ "=" ++ entry.2) := by
  obtain ⟨⟨setting, value⟩, hmem, rfl⟩ := List.mem_map.mp hentry
  have hcomma := h.comma _ hmem
  have hlast := h.last _ hmem
  have hkey : ',' ∉ setting.key.toList := by cases setting <;> decide
  have hfirst : ∀ c ∈ setting.key.toList.head?, Text.isBlank c = false := by
    cases setting <;> simp [SharedSetting.key, Text.isBlank]
  have hnonempty : setting.key.toList ≠ [] := by cases setting <;> decide
  have htext : (setting.key ++ "=" ++ value).toList =
      setting.key.toList ++ '=' :: value.toList := by
    simp
  refine ⟨?_, ?_, ?_, ?_⟩
  all_goals rw [htext]
  · simp [hkey, hcomma]
  · simp
  · rwa [List.head?_append_of_ne_nil _ hnonempty]
  · rw [List.getLast?_append_of_ne_nil _ (List.cons_ne_nil _ _), List.getLast?_cons]
    cases hvalue : value.toList.getLast? with
    | none => simp [Text.isBlank]
    | some c => simpa using hlast c hvalue

theorem after_entries (h : choices.Valid) (base : Settings) :
    base.after choices.entries = choices.overlay base := by
  have hother {key value : String} (hkey : ∀ setting : SharedSetting, setting.key ≠ key) :
      (key, value) ∉ choices.entries := by
    intro hmem
    obtain ⟨⟨setting, _⟩, -, heq⟩ := List.mem_map.mp hmem
    exact hkey setting (congrArg Prod.fst heq)
  have hnone {key : String} (hkey : ∀ setting : SharedSetting, setting.key ≠ key) :
      Settings.lastValue choices.entries key = none := by
    refine Option.eq_none_iff_forall_ne_some.mpr fun value hvalue => ?_
    exact hother hkey ((Settings.lastValue_eq_some_iff (nodup_entries h)).mp hvalue)
  have hpackage : Settings.lastValue choices.entries "package" = none :=
    hnone fun setting => by cases setting <;> decide
  have hframework : Settings.lastValue choices.entries "framework_import" = none :=
    hnone fun setting => by cases setting <;> decide
  have himports : choices.entries.filter (fun entry => entry.1 = "import") = [] := by
    refine List.filter_eq_nil_iff.mpr fun entry hentry heq => ?_
    obtain ⟨key, value⟩ := entry
    obtain rfl := of_decide_eq_true heq
    exact hother (fun setting => by cases setting <;> decide) hentry
  have hhandler := lastValue_entries h .handlerPath
  have hmodule := lastValue_entries h .module
  have hproto := lastValue_entries h .protoImportPath
  simp only [SharedSetting.key] at hhandler hmodule hproto
  simp only [Settings.after, overlay, hpackage, hframework, himports, hhandler, hmodule, hproto,
    Option.getD_none, List.map_nil, List.append_nil]

/-- A parameter with the choices makes their settings. -/
theorem applyParameter_parameter (h : choices.Valid) (tree : FileTree) :
    (forThisRun {} tree).applyParameter tree choices.parameter = choices.settings tree := by
  have hkeys : ∀ entry ∈ choices.entries, '=' ∉ entry.1.toList := by
    intro entry hentry
    obtain ⟨⟨setting, value⟩, -, rfl⟩ := List.mem_map.mp hentry
    show '=' ∉ setting.key.toList
    cases setting <;> decide
  have hentries : (Settings.parameterEntries choices.parameter).mapM Settings.parameterEntry =
      .ok choices.entries :=
    Settings.mapM_parameterEntry_join hkeys fun entry => isEntry h
  have hknown : ∀ entry ∈ choices.entries, entry.1 ∈ Settings.parameterKeys :=
    fun entry => key_mem_parameterKeys
  have happlied (base : Settings) := Settings.foldlM_withParameter base hknown
  have hconfig := lookup_entries h .config
  rw [SharedSetting.key] at hconfig
  rw [Settings.applyParameter, hentries, settings]
  simp only [Settings.parameterBase, hconfig, bind, Except.bind, happlied, after_entries h]
  cases choices.chosen .config with
  | none => rfl
  | some path =>
    simp only
    cases Settings.load tree path <;> rfl

def commandLine (choices : Choices) (set : String) (targets : List String) : List Given :=
  ⟨"descriptor-set", set⟩ :: (choices.options ++ targets.map fun target => ⟨"file", target⟩)

theorem fits_commandLine (h : choices.Valid) {set : String} (hset : set ≠ "")
    {targets : List String} {given : Given} (hgiven : given ∈ choices.commandLine set targets) :
    ∃ shape, given.Fits generateShapes shape := by
  simp only [commandLine, options, List.mem_cons, List.mem_append, List.mem_map] at hgiven
  rcases hgiven with rfl | ⟨⟨setting, value⟩, hmem, rfl⟩ | ⟨target, -, rfl⟩
  · exact ⟨⟨"descriptor-set", some 'd', .path⟩, rfl, by decide, fun _ => hset, by decide, by decide⟩
  · have hpath := h.path _ hmem
    refine ⟨setting.shape, setting.find?_option, ?_, hpath, ?_, ?_⟩
    all_goals cases setting <;> decide
  · exact ⟨⟨"file", some 'f', .texts⟩, rfl, by decide, by simp, by decide, by decide⟩

theorem compatible_commandLine (h : choices.Valid) (set : String) (targets : List String) :
    (choices.commandLine set targets).Pairwise (Compatible generateShapes) := by
  refine List.pairwise_cons.mpr ⟨?_, List.pairwise_append.mpr ⟨?_, ?_, ?_⟩⟩
  · intro other hother heq
    rcases List.mem_append.mp hother with hoption | htarget
    · obtain ⟨choice, -, rfl⟩ := List.mem_map.mp hoption
      exact absurd heq.symm choice.1.option_ne_descriptorSet
    · obtain ⟨target, -, rfl⟩ := List.mem_map.mp htarget
      exact absurd heq (show "descriptor-set" ≠ "file" by decide)
  · have hdistinct := List.pairwise_map.mp h.once
    exact List.pairwise_map.mpr (hdistinct.imp fun hne heq =>
      absurd (SharedSetting.option_injective heq) hne)
  · -- Only here two options can have one name, and it is that of a list.
    refine List.pairwise_map.mpr (List.pairwise_of_forall fun first second _ shape hshape => ?_)
    obtain rfl : ⟨"file", some 'f', .texts⟩ = shape := Option.some.inj hshape
    rfl
  · intro given hgiven other hother heq
    obtain ⟨choice, -, rfl⟩ := List.mem_map.mp hgiven
    obtain ⟨target, -, rfl⟩ := List.mem_map.mp hother
    exact absurd heq choice.1.option_ne_file

theorem compatible_of_perm (h : choices.Valid) {set : String} {targets : List String}
    {given : List Given} (hgiven : given.Perm (choices.commandLine set targets)) :
    given.Pairwise (Compatible generateShapes) :=
  (compatible_commandLine h set targets).perm hgiven.symm Compatible.symm

theorem mem_commandLine_option_iff {set : String} {targets : List String}
    {setting : SharedSetting} {value : String} :
    ⟨setting.option, value⟩ ∈ choices.commandLine set targets ↔ (setting, value) ∈ choices := by
  simp [commandLine, mem_options_iff, setting.option_ne_descriptorSet,
    setting.option_ne_file.symm]

theorem mem_commandLine_file_iff {set : String} {targets : List String} {target : String} :
    ⟨"file", target⟩ ∈ choices.commandLine set targets ↔ target ∈ targets := by
  simp [commandLine, options, SharedSetting.option_ne_file]

/-- What `generate` is told by these options, whatever their order. -/
structure Told (choices : Choices) (set : String) (targets : List String)
    (told : GenerateOptions) : Prop where
  descriptorSet : told.descriptorSet = set
  config : told.config = choices.chosen .config
  handlerPath : told.handlerPath = choices.chosen .handlerPath
  module : told.module = choices.chosen .module
  protoImportPath : told.protoImportPath = choices.chosen .protoImportPath
  files (target : String) : target ∈ told.files ↔ target ∈ targets

theorem generateOptions_of_perm (h : choices.Valid) {set : String} {targets : List String}
    {given : List Given} (hgiven : given.Perm (choices.commandLine set targets)) :
    ∃ told, generateOptions given = .ok told ∧ choices.Told set targets told := by
  have hpairs := compatible_of_perm h hgiven
  have hsetting (setting : SharedSetting) :
      value? given setting.option = choices.chosen setting := by
    have htakes : setting.shape.takes ≠ .texts := by cases setting <;> decide
    ext value
    rw [value?_eq_some_iff (hpairs.imp fun hpair => hpair.once setting.find?_option htakes),
      hgiven.mem_iff, mem_commandLine_option_iff, chosen_eq_some_iff h]
  have hset : value? given "descriptor-set" = some set := by
    have hfound : generateShapes.find? (·.name = "descriptor-set") =
        some ⟨"descriptor-set", some 'd', .path⟩ := rfl
    rw [value?_eq_some_iff (hpairs.imp fun hpair => hpair.once hfound (by decide)), hgiven.mem_iff]
    exact List.mem_cons_self
  refine ⟨⟨set, value? given "config", value? given "handler-path", value? given "module",
    value? given "proto-import-path", values given "file"⟩, ?_, ?_⟩
  · simp only [generateOptions, required, hset]
    rfl
  · exact ⟨rfl, hsetting .config, hsetting .handlerPath, hsetting .module,
      hsetting .protoImportPath, fun target => by
        rw [mem_values_iff, hgiven.mem_iff, mem_commandLine_file_iff]⟩

theorem ofWords_commandLine (h : choices.Valid) {set : String} (hset : set ≠ "")
    {targets : List String} {given : List Given}
    (hgiven : given.Perm (choices.commandLine set targets)) :
    ∃ told verbose, Invocation.ofWords ("generate" :: given.map Given.word) =
        .ok ⟨.generate told, verbose⟩ ∧ choices.Told set targets told := by
  obtain ⟨told, htold, hsame⟩ := generateOptions_of_perm h hgiven
  have hwords : readOptions generateShapes [] (given.map Given.word) = .ok ⟨given, none⟩ :=
    readOptions_words (fun option hoption => fits_commandLine h hset (hgiven.mem_iff.mp hoption))
      (compatible_of_perm h hgiven)
  have hcommand : readOptions outerShapes [] ("generate" :: given.map Given.word) =
      .ok ⟨[], some ("generate", given.map Given.word)⟩ := by
    rw [readOptions, if_neg (by decide), if_neg (by decide)]
  refine ⟨told, isGiven given "verbose", ?_, hsame⟩
  rw [Invocation.ofWords, hcommand]
  simp only [commandOptions, hwords, bind, Except.bind, pure, Except.pure, htold]
  rfl

theorem Told.settings_eq {set : String} {targets : List String} {told : GenerateOptions}
    (h : choices.Told set targets told) (tree : FileTree) :
    (told.settings tree).toOption = (choices.settings tree).toOption := by
  rw [GenerateOptions.settings, settings, h.config, h.handlerPath, h.module, h.protoImportPath]
  cases choices.chosen .config with
  | none => rfl
  | some path =>
    simp only
    cases Settings.load tree path <;> rfl

end Choices

end CommandLine
end ServiceScaffold
