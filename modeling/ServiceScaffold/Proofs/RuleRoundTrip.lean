import Mathlib
import ServiceScaffold.Proofs.RuleMerging

/-!
# Rules written and read

Requests, sets of files and rules come back from their bytes. What is read from any bytes can be
written, since it takes no more bytes and is nested no deeper, and so it comes back as well.
-/

namespace ServiceScaffold
namespace Wire

theorem length_lt_of_readItems? {bytes : Bytes} {items : List Item}
    (h : readItems? bytes = some items) {item : Item} (hitem : item ∈ items) {value : Bytes}
    (hvalue : item = .plain ⟨item.number, .bytes value⟩) : value.length < UInt64.size := by
  refine (((of_readItems? h).1 item hitem).2 ⟨item.number, .bytes value⟩ ?_).payload
  rw [hvalue]
  exact List.mem_cons_self

theorem Request.fits_of_decode? {bytes : Bytes} {request : Request}
    (h : Request.decode? bytes = some request) : request.Fits := by
  obtain ⟨items, hitems, h⟩ := Option.bind_eq_some_iff.mp h
  refine foldlM_invariant (fun item hitem before after hbefore hmerge => ?_) h
    ⟨by simp, by simp, by simp⟩
  unfold merge at hmerge
  split at hmerge
  · obtain ⟨name, hname, rfl⟩ := Option.map_eq_some_iff.mp hmerge
    obtain ⟨value, hvalue, hlength⟩ := Item.of_text? hname
    refine ⟨?_, hbefore.parameter, hbefore.files⟩
    rw [List.forall_mem_append]
    exact ⟨hbefore.names,
      by simpa using hlength.trans_lt (length_lt_of_readItems? hitems hitem hvalue)⟩
  · obtain ⟨text, htext, rfl⟩ := Option.map_eq_some_iff.mp hmerge
    obtain ⟨value, hvalue, hlength⟩ := Item.of_text? htext
    exact ⟨hbefore.names,
      by simpa using hlength.trans_lt (length_lt_of_readItems? hitems hitem hvalue),
      hbefore.files⟩
  · obtain ⟨value, hvalue, rfl⟩ := Option.map_eq_some_iff.mp hmerge
    refine ⟨hbefore.names, hbefore.parameter, ?_⟩
    rw [List.forall_mem_append]
    exact ⟨hbefore.files,
      by simpa using length_lt_of_readItems? hitems hitem (Item.of_bytes? hvalue)⟩
  · split at hmerge
    · cases hmerge
      exact hbefore
    · cases hmerge

theorem FileSet.fits_of_decode? {bytes : Bytes} {set : FileSet}
    (h : FileSet.decode? bytes = some set) : ∀ file ∈ set.files, file.length < UInt64.size := by
  obtain ⟨items, hitems, h⟩ := Option.bind_eq_some_iff.mp h
  refine foldlM_invariant (P := fun set => ∀ file ∈ set.files, file.length < UInt64.size)
    (fun item hitem before after hbefore hmerge => ?_) h (by simp)
  unfold merge at hmerge
  split at hmerge
  · obtain ⟨value, hvalue, rfl⟩ := Option.map_eq_some_iff.mp hmerge
    rw [List.forall_mem_append]
    exact ⟨hbefore, by simpa using length_lt_of_readItems? hitems hitem (Item.of_bytes? hvalue)⟩
  · split at hmerge
    · cases hmerge
      exact hbefore
    · cases hmerge

namespace HttpRule

theorem exists_of_mem_textRecords {number : Nat} {text : String} {record : Record}
    (h : record ∈ textRecords number text) : record = ⟨number, .bytes (Utf8.ofString text)⟩ := by
  unfold textRecords at h
  split at h
  · cases h
  · exact List.mem_singleton.mp h

theorem exists_of_mem_bindingRecords {bindings : List HttpRule} {record : Record}
    (h : record ∈ bindingRecords bindings) : ∃ value, record = ⟨11, .bytes value⟩ := by
  induction bindings with
  | nil => cases h
  | cons binding rest ih =>
    rw [bindingRecords] at h
    rcases List.mem_cons.mp h with rfl | h
    · exact ⟨_, rfl⟩
    · exact ih h

theorem exists_patternRecord (pattern : Pattern) :
    ∃ number value, patternRecord pattern = ⟨number, .bytes value⟩ ∧ 0 < number ∧ number < 9 := by
  cases pattern <;> exact ⟨_, _, rfl, by decide, by decide⟩

theorem exists_of_mem_records {rule : HttpRule} {record : Record} (h : record ∈ rule.records) :
    ∃ number value, record = ⟨number, .bytes value⟩ ∧ 0 < number ∧ number < 13 := by
  obtain ⟨selector, pattern, body, responseBody, bindings⟩ := rule
  simp only [records, List.mem_append] at h
  rcases h with (((h | h) | h) | h) | h
  · exact ⟨_, _, exists_of_mem_textRecords h, by decide, by decide⟩
  · obtain ⟨pattern, -, rfl⟩ := List.mem_map.mp h
    obtain ⟨number, value, heq, hpositive, hsmall⟩ := exists_patternRecord pattern
    exact ⟨number, value, heq, hpositive, by omega⟩
  · exact ⟨_, _, exists_of_mem_textRecords h, by decide, by decide⟩
  · obtain ⟨value, rfl⟩ := exists_of_mem_bindingRecords h
    exact ⟨_, _, rfl, by decide, by decide⟩
  · exact ⟨_, _, exists_of_mem_textRecords h, by decide, by decide⟩

theorem readItems?_encode_of_length {records : List Record}
    (hbytes : ∀ record ∈ records, ∃ number value, record = ⟨number, .bytes value⟩ ∧
      0 < number ∧ number < 13)
    (hlength : (Wire.encode records).length < UInt64.size) :
    readItems? (Wire.encode records) = some (records.map .plain) := by
  refine readItems?_encode (fun record hrecord => ?_) fun record hrecord => ?_
  · obtain ⟨number, value, rfl, hpositive, hsmall⟩ := hbytes record hrecord
    exact ⟨hpositive, hsmall.trans (by decide), (length_value_le hrecord).trans_lt hlength⟩
  · obtain ⟨number, value, rfl, -, -⟩ := hbytes record hrecord
    exact ⟨value, rfl⟩

/-- A text that is not yet set is read from its records. -/
theorem foldlM_textRecords (field : TextField) (limit : Nat) {rule : HttpRule}
    (hunset : field.get rule = "") (text : String) :
    ((textRecords field.number text).map Item.plain).foldlM (merge limit) rule =
      some (field.set rule text) := by
  unfold textRecords
  split
  · rename_i hempty
    rw [String.isEmpty_iff.mp hempty, ← hunset, field.set_get]
    rfl
  · rw [List.map_singleton, List.foldlM_cons,
      merge_of_merged (.text field rfl (Item.text?_ofString field.number text))]
    rfl

theorem foldlM_mergeCustom (limit : Nat) (kind path : String) :
    ((textRecords 1 kind ++ textRecords 2 path).map Item.plain).foldlM (mergeCustom limit)
      ("", "") = some (kind, path) := by
  unfold textRecords
  split <;> split <;>
    simp_all [mergeCustom, Item.number, Item.text?, Item.bytes?, Utf8.toString?_ofString,
      String.isEmpty_iff]

theorem exists_of_mem_customRecords {kind path : String} {record : Record}
    (h : record ∈ textRecords 1 kind ++ textRecords 2 path) :
    ∃ number value, record = ⟨number, .bytes value⟩ ∧ 0 < number ∧ number < 13 := by
  rcases List.mem_append.mp h with h | h
  · exact ⟨_, _, exists_of_mem_textRecords h, by decide, by decide⟩
  · exact ⟨_, _, exists_of_mem_textRecords h, by decide, by decide⟩

theorem merge_patternRecord {limit : Nat} {pattern : Pattern} (hdepth : pattern.depth ≤ limit)
    (hlength : (patternRecord pattern).encode.length < UInt64.size) (selector : String) :
    merge limit (.mk selector none "" "" []) (.plain (patternRecord pattern)) =
      some (.mk selector (some pattern) "" "" []) := by
  cases pattern with
  | custom kind path =>
    obtain ⟨limit, rfl⟩ : ∃ n, limit = n + 1 :=
      ⟨limit - 1, by simp [Pattern.depth] at hdepth; omega⟩
    rw [length_patternRecord_custom] at hlength
    have hsize : customSize (kind, path) < UInt64.size := by omega
    have hread : (Item.plain (patternRecord (.custom kind path))).inner? =
        some ((textRecords 1 kind ++ textRecords 2 path).map .plain) :=
      readItems?_encode_of_length (fun _ => exists_of_mem_customRecords) hsize
    exact merge_of_merged (.custom rfl hread (foldlM_mergeCustom limit kind path))
  | get path => exact merge_of_merged (.path rfl (Item.text?_ofString 2 path))
  | put path => exact merge_of_merged (.path rfl (Item.text?_ofString 3 path))
  | post path => exact merge_of_merged (.path rfl (Item.text?_ofString 4 path))
  | delete path => exact merge_of_merged (.path rfl (Item.text?_ofString 5 path))
  | patch path => exact merge_of_merged (.path rfl (Item.text?_ofString 6 path))

mutual

theorem foldlM_records : (rule : HttpRule) → (limit : Nat) → rule.depth ≤ limit →
    rule.encode.length < UInt64.size →
    (rule.records.map Item.plain).foldlM (merge limit) empty = some rule
  | .mk selector pattern body responseBody bindings, limit, hdepth, hlength => by
    rw [depth, max_le_iff] at hdepth
    rw [length_encode_mk] at hlength
    have hpattern : ((pattern.toList.map patternRecord).map Item.plain).foldlM (merge limit)
        (.mk selector none "" "" []) = some (.mk selector pattern "" "" []) := by
      cases pattern with
      | none => rfl
      | some pattern =>
        rw [Option.toList_some, List.map_singleton, encode_singleton] at hlength
        simp [merge_patternRecord hdepth.1 (show _ < UInt64.size by omega)]
    have hbindings := foldlM_bindingRecords bindings limit hdepth.2 (by omega)
      (.mk selector pattern body "" [])
    have hselector : ((textRecords 1 selector).map Item.plain).foldlM (merge limit) empty =
        some (.mk selector none "" "" []) := foldlM_textRecords .selector limit rfl selector
    have hbody : ((textRecords 7 body).map Item.plain).foldlM (merge limit)
        (.mk selector pattern "" "" []) = some (.mk selector pattern body "" []) :=
      foldlM_textRecords .body limit rfl body
    have hresponse : ((textRecords 12 responseBody).map Item.plain).foldlM (merge limit)
        (.mk selector pattern body "" bindings) =
          some (.mk selector pattern body responseBody bindings) :=
      foldlM_textRecords .responseBody limit rfl responseBody
    simp only [records, List.map_append, List.foldlM_append, hselector, hpattern, hbody, hbindings,
      Option.bind_eq_bind, Option.bind_some]
    exact hresponse

theorem foldlM_bindingRecords : (bindings : List HttpRule) → (limit : Nat) →
    bindingsDepth bindings ≤ limit → (Wire.encode (bindingRecords bindings)).length < UInt64.size →
    ∀ rule : HttpRule, ((bindingRecords bindings).map Item.plain).foldlM (merge limit) rule =
      some (.mk rule.selector rule.pattern rule.body rule.responseBody
        (rule.additionalBindings ++ bindings))
  | [], limit, _, _, rule => by
    cases rule
    simp [bindingRecords, selector, pattern, body, responseBody, additionalBindings]
  | binding :: rest, limit, hdepth, hlength, rule => by
    rw [bindingsDepth, max_le_iff] at hdepth
    obtain ⟨below, rfl⟩ : ∃ n, limit = n + 1 := ⟨limit - 1, by omega⟩
    have hparts : (Wire.encode (bindingRecords (binding :: rest))).length =
        (Record.encode ⟨11, .bytes binding.encode⟩).length +
          (Wire.encode (bindingRecords rest)).length := by
      rw [bindingRecords, Wire.encode, List.flatMap_cons, List.length_append]
      rfl
    rw [hparts, length_encode_bytes] at hlength
    have hencode : binding.encode.length < UInt64.size := by omega
    have hread : (Item.plain ⟨11, .bytes binding.encode⟩).inner? =
        some (binding.records.map .plain) :=
      readItems?_encode_of_length (fun _ => exists_of_mem_records) hencode
    have hfirst : merge (below + 1) rule (.plain ⟨11, .bytes binding.encode⟩) =
        some (rule.withBinding binding) :=
      merge_of_merged (.binding rfl hread (foldlM_records binding below (by omega) hencode))
    have hrest := foldlM_bindingRecords rest (below + 1) hdepth.2 (by omega)
      (rule.withBinding binding)
    rw [bindingRecords, List.map_cons, List.foldlM_cons, ← encode, hfirst, Option.bind_eq_bind,
      Option.bind_some, hrest]
    simp [withBinding, selector, pattern, body, responseBody, additionalBindings]

end

/-- A rule comes back from its bytes, if it is nested no deeper than can be read. -/
theorem decode?_encode {rule : HttpRule} (hdepth : rule.depth ≤ nestingLimit)
    (hlength : rule.encode.length < UInt64.size) : decode? rule.encode = some rule := by
  have hread : readItems? rule.encode = some (rule.records.map .plain) :=
    readItems?_encode_of_length (fun _ => exists_of_mem_records) hlength
  rw [decode?, hread]
  exact foldlM_records rule nestingLimit hdepth hlength

end HttpRule

/-- Requests, sets of files and rules come back from their bytes, as long as numbers on the wire can
count those. So does what is read from any bytes: reading it from what is written of it gives the
same again. -/
theorem round_trips :
    (∀ request : Request, request.Fits → Request.decode? request.encode = some request) ∧
    (∀ set : FileSet, (∀ file ∈ set.files, file.length < UInt64.size) →
      FileSet.decode? set.encode = some set) ∧
    (∀ rule : HttpRule, rule.depth ≤ nestingLimit → rule.encode.length < UInt64.size →
      HttpRule.decode? rule.encode = some rule) ∧
    (∀ bytes request, Request.decode? bytes = some request →
      Request.decode? request.encode = some request) ∧
    (∀ bytes set, FileSet.decode? bytes = some set → FileSet.decode? set.encode = some set) ∧
    ∀ bytes rule, bytes.length < UInt64.size → HttpRule.decode? bytes = some rule →
      HttpRule.decode? rule.encode = some rule := by
  refine ⟨fun _ => Request.decode?_encode, fun _ => FileSet.decode?_encode,
    fun _ => HttpRule.decode?_encode, fun bytes request h => ?_, fun bytes set h => ?_,
    fun bytes rule hlength h => ?_⟩
  · exact Request.decode?_encode (Request.fits_of_decode? h)
  · exact FileSet.decode?_encode (FileSet.fits_of_decode? h)
  · obtain ⟨hdepth, hsize⟩ := HttpRule.of_decode? h
    exact HttpRule.decode?_encode hdepth (hsize.trans_lt hlength)

def emptyPathsRule : HttpRule :=
  .mk "" (some (.custom "" "")) "" "*" [.mk "a" (some (.get "")) "" "" []]

def mergedRule : Bytes :=
  encode [⟨8, .bytes (encode [⟨1, .bytes (Utf8.ofString "HEAD")⟩])⟩, ⟨20, .varint 1⟩,
    ⟨8, .bytes (encode [⟨2, .bytes (Utf8.ofString "/a")⟩])⟩]

theorem round_trips_emptyPaths :
    Request.decode? (Request.encode ⟨["a.proto"], some "", [[], [10]]⟩) =
      some ⟨["a.proto"], some "", [[], [10]]⟩ ∧
    FileSet.decode? (FileSet.encode ⟨[[], [10]]⟩) = some ⟨[[], [10]]⟩ ∧
    HttpRule.decode? emptyPathsRule.encode = some emptyPathsRule ∧
    ∃ rule, HttpRule.decode? mergedRule = some rule ∧
      HttpRule.decode? rule.encode = some rule := by
  obtain ⟨hrequest, hset, hrule, -, -, hread⟩ := round_trips
  have hdecoded : (HttpRule.decode? mergedRule).isSome = true := by decide +kernel
  obtain ⟨rule, hdecoded⟩ := Option.isSome_iff_exists.mp hdecoded
  refine ⟨hrequest _ ⟨by decide +kernel, by decide +kernel, by decide +kernel⟩,
    hset _ (by decide +kernel), hrule _ (by decide +kernel) (by decide +kernel),
    rule, hdecoded, hread _ _ (by decide +kernel) hdecoded⟩

end Wire
end ServiceScaffold
