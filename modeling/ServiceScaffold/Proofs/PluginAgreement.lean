import Mathlib
import ServiceScaffold.Proofs.WireRoundTrip
import ServiceScaffold.Proofs.SharedSettings

/-!
# Two ways to the same run

The program can be asked by a compiler, in a request, or by the words of a command line that name a
set of description files. If both say the same, both end in the same way and leave the same tree.
-/

namespace ServiceScaffold
namespace CommandLine

def targetFiles (targets : List String) (payloads : List Bytes) :
    Except Fault (List SourceFile) := do
  let (pool, names) ← Source.readPool payloads
  Source.parse ⟨pool, names, some targets, none⟩

/-- What is parsed depends on the targets and not on the parameter. -/
theorem parse_of_targets {pool : Schema.Pool} {names targets others : List String}
    {parameter : Option String} (h : ∀ target, target ∈ others ↔ target ∈ targets) :
    Source.parse ⟨pool, names, some others, parameter⟩ =
      Source.parse ⟨pool, names, some targets, none⟩ := by
  have htarget (name : String) : others.contains name = targets.contains name := by
    rw [Bool.eq_iff_iff, List.contains_iff_mem, List.contains_iff_mem, h]
  simp only [Source.parse, Source.isTarget, Option.all_some, htarget]

theorem sourceFiles_eq {tree : FileTree} {set : String} {targets others : List String}
    {payloads : List Bytes} (hsizes : ∀ payload ∈ payloads, payload.length < UInt64.size)
    (hset : tree.read set = .ok (Wire.FileSet.encode ⟨payloads⟩)) (htargets : targets ≠ [])
    (h : ∀ target, target ∈ others ↔ target ∈ targets) :
    (sourceFiles tree set others).toOption = (targetFiles targets payloads).toOption := by
  have hothers : others.isEmpty = false := by
    obtain ⟨target, htarget⟩ := List.exists_mem_of_ne_nil _ htargets
    exact List.isEmpty_eq_false_iff.mpr (List.ne_nil_of_mem ((h target).mpr htarget))
  have hdecoded : Wire.FileSet.decode? (Wire.FileSet.encode ⟨payloads⟩) = some ⟨payloads⟩ :=
    Wire.FileSet.decode?_encode hsizes
  simp only [sourceFiles, Source.ofFile, hset, Source.ofSet, hdecoded, targetFiles]
  cases Source.readPool payloads with
  | error fault => rfl
  | ok read =>
    simp only [bind, Except.bind, during, Except.mapError, pure, Except.pure, hothers,
      Bool.false_eq_true, if_false, Source.withTargets, parse_of_targets h]
    cases Source.parse ⟨read.1, read.2, some targets, none⟩ <;> rfl

theorem applyParameter_getD (base : Settings) (tree : FileTree) (parameter : Option String) :
    base.applyParameter tree (parameter.getD "") =
      (parameter.filter (!·.isEmpty)).elim (.ok base) (base.applyParameter tree) := by
  cases parameter with
  | none => rfl
  | some text =>
    by_cases hempty : text = ""
    · subst hempty
      rfl
    · simp [Option.filter, hempty]

/-- What a request asks for is what the choices and the targets make. -/
theorem readRequest_encode {choices : Choices} (h : choices.Valid) {targets : List String}
    {parameter : Option String} {payloads : List Bytes}
    (hfits : Wire.Request.Fits ⟨targets, parameter, payloads⟩)
    (hparameter : parameter.getD "" = choices.parameter) (tree : FileTree) :
    (readRequest (Wire.Request.encode ⟨targets, parameter, payloads⟩) tree).toOption =
      (choices.settings tree).toOption.bind fun settings =>
        (targetFiles targets payloads).toOption.map fun files => (settings, files) := by
  have hdecoded := Wire.Request.decode?_encode hfits
  have hsettings := applyParameter_getD (forThisRun {} tree) tree parameter
  rw [hparameter, Choices.applyParameter_parameter h] at hsettings
  simp only [readRequest, Source.ofRequest, hdecoded, targetFiles]
  cases Source.readPool payloads with
  | error fault => cases choices.settings tree <;> rfl
  | ok read =>
    have hparse (parameter : Option String) := @parse_of_targets read.1 read.2 targets targets
      parameter fun _ => Iff.rfl
    simp only [bind, Except.bind, pure, Except.pure, during, Except.mapError]
    cases hfilter : parameter.filter (!·.isEmpty) with
    | none =>
      rw [hfilter, Option.elim] at hsettings
      simp only [hsettings]
      cases Source.parse ⟨read.1, read.2, some targets, none⟩ <;> rfl
    | some text =>
      rw [hfilter, Option.elim] at hsettings
      simp only [hsettings, hparse]
      cases Settings.applyParameter (forThisRun {} tree) tree text with
      | error fault => rfl
      | ok settings => cases Source.parse ⟨read.1, read.2, some targets, none⟩ <;> rfl

/-- The status and the tree of a run with these settings over these files, if there are any. -/
def effectOf (tree : FileTree) : Option (Settings × List SourceFile) → Nat × FileTree
  | some (settings, files) =>
    let run := Generator.generate { settings } files tree
    (match run.answer with | .ok _ => 0 | .error _ => 1, run.tree)
  | none => (1, tree)

theorem effectOf_fst_le (tree : FileTree) (asked : Option (Settings × List SourceFile)) :
    (effectOf tree asked).1 ≤ 1 := by
  unfold effectOf
  split
  · simp only
    split <;> decide
  · exact le_rfl

theorem effect_plugin (input : Bytes) (tree : FileTree) :
    ((plugin input tree).status, (plugin input tree).tree) =
      effectOf tree (readRequest input tree).toOption := by
  rw [plugin]
  cases readRequest input tree with
  | error problem => rfl
  | ok asked =>
    simp only [effectOf, Except.toOption]
    cases (Generator.generate { settings := asked.1 } asked.2 tree).answer <;> rfl

theorem effect_generate (told : GenerateOptions) (verbose : Bool) (tree : FileTree) :
    ((generate told verbose tree).status, (generate told verbose tree).tree) =
      effectOf tree ((told.settings tree).toOption.bind fun settings =>
        (sourceFiles tree told.descriptorSet told.files).toOption.map fun files =>
          (settings, files)) := by
  rw [generate]
  cases told.settings tree with
  | error problem => rfl
  | ok settings =>
    cases sourceFiles tree told.descriptorSet told.files with
    | error problem => rfl
    | ok files =>
      simp only [effectOf, Except.toOption, Option.bind_some, Option.map_some]
      cases (Generator.generate { settings } files tree).answer <;> rfl

/-- A request and a command line that say the same end with the same status and leave the same tree.
The parameter of the request has an entry for every choice, in any order, and the command line has
the same choices, the targets of the request and a set with its description files. -/
theorem run_request_eq_run_commandLine {choices : Choices} (h : choices.Valid)
    {targets : List String} (htargets : targets ≠ []) {parameter : Option String}
    (hparameter : parameter.getD "" = choices.parameter) {payloads : List Bytes}
    (hfits : Wire.Request.Fits ⟨targets, parameter, payloads⟩) {set : String} {tree : FileTree}
    (hset : tree.read set = .ok (Wire.FileSet.encode ⟨payloads⟩)) {given : List Given}
    (hgiven : given.Perm (choices.commandLine set targets)) (input : Bytes) :
    (run [] (Wire.Request.encode ⟨targets, parameter, payloads⟩) tree).status =
        (run ("generate" :: given.map Given.word) input tree).status ∧
      (run [] (Wire.Request.encode ⟨targets, parameter, payloads⟩) tree).status ≤ 1 ∧
      (run [] (Wire.Request.encode ⟨targets, parameter, payloads⟩) tree).tree =
        (run ("generate" :: given.map Given.word) input tree).tree := by
  have hpath : set ≠ "" := by
    rintro rfl
    cases hset
  obtain ⟨told, verbose, hwords, hsame⟩ := Choices.ofWords_commandLine h hpath hgiven
  have hgenerate := effect_generate told verbose tree
  rw [hsame.settings_eq, hsame.descriptorSet, sourceFiles_eq hfits.files hset htargets hsame.files,
    ← readRequest_encode h hfits hparameter, ← effect_plugin, Prod.mk.injEq] at hgenerate
  have hplugin : run [] (Wire.Request.encode ⟨targets, parameter, payloads⟩) tree =
      plugin (Wire.Request.encode ⟨targets, parameter, payloads⟩) tree := rfl
  have hrun : run ("generate" :: given.map Given.word) input tree =
      generate told verbose tree := by
    rw [run, hwords]
  rw [hplugin, hrun]
  refine ⟨hgenerate.1.symm, ?_, hgenerate.2.symm⟩
  have hle := effectOf_fst_le tree
    (readRequest (Wire.Request.encode ⟨targets, parameter, payloads⟩) tree).toOption
  rwa [← effect_plugin] at hle

def ordersPayload : Bytes :=
  Wire.encode
    [⟨1, .bytes (Utf8.ofString "order.proto")⟩, ⟨2, .bytes (Utf8.ofString "order")⟩,
     ⟨4, .bytes (Wire.encode [⟨1, .bytes (Utf8.ofString "Req")⟩])⟩,
     ⟨6, .bytes (Wire.encode
      [⟨1, .bytes (Utf8.ofString "Order")⟩,
       ⟨2, .bytes (Wire.encode
        [⟨1, .bytes (Utf8.ofString "Get")⟩, ⟨2, .bytes (Utf8.ofString ".order.Req")⟩,
         ⟨3, .bytes (Utf8.ofString ".order.Req")⟩])⟩])⟩]

def setTree : FileTree :=
  ⟨[(["set.pb"], .file (Wire.FileSet.encode ⟨[ordersPayload]⟩))], []⟩

/-- A request for the orders and a command line that says the same. -/
theorem run_request_eq_run_commandLine_orders :
    (run [] (Wire.Request.encode ⟨["order.proto"], some "module=shop,handler_path=handler",
        [ordersPayload]⟩) setTree).status =
      (run ["generate", "--file=order.proto", "--handler-path=handler", "--module=shop",
        "--descriptor-set=set.pb"] [] setTree).status ∧
    (run [] (Wire.Request.encode ⟨["order.proto"], some "module=shop,handler_path=handler",
        [ordersPayload]⟩) setTree).tree =
      (run ["generate", "--file=order.proto", "--handler-path=handler", "--module=shop",
        "--descriptor-set=set.pb"] [] setTree).tree := by
  have hvalid : Choices.Valid [(.module, "shop"), (.handlerPath, "handler")] := by
    constructor
    · decide
    · decide
    · simp [Text.isBlank]
    · decide
  have hfits : Wire.Request.Fits
      ⟨["order.proto"], some "module=shop,handler_path=handler", [ordersPayload]⟩ := by
    constructor
    · decide +kernel
    · simp only [Option.mem_some_iff, forall_eq']
      decide +kernel
    · decide +kernel
  have hset : setTree.read "set.pb" = .ok (Wire.FileSet.encode ⟨[ordersPayload]⟩) := by
    decide +kernel
  obtain ⟨hstatus, -, htree⟩ := run_request_eq_run_commandLine hvalid (by decide) (by decide) hfits
    hset (List.reverse_perm _) []
  exact ⟨hstatus, htree⟩

end CommandLine
end ServiceScaffold
