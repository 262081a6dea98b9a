import Mathlib
import ServiceScaffold.Wire.Request

/-!
# Messages written and read

What is written as records is read back as the same records, as long as the numbers in them have
room on the wire. So requests and sets of files come back from their bytes.
-/

namespace ServiceScaffold
namespace Wire

/-- What a payload can hold: numbers below 2^64, and as many bytes as such a number counts. -/
def Payload.Fits : Payload → Prop
  | .varint n => n < UInt64.size
  | .fixed64 value => value.length = 8
  | .bytes value => value.length < UInt64.size
  | .groupStart => True
  | .groupEnd => True
  | .fixed32 value => value.length = 4

/-- A key has room for numbers below 2^29. -/
structure Record.Fits (record : Record) : Prop where
  positive : 0 < record.number
  bounded : record.number < 2 ^ 29
  payload : record.payload.Fits

theorem Payload.form_lt (payload : Payload) : payload.form < 8 := by
  cases payload <;> simp [Payload.form]

theorem take?_append {n : Nat} {value : Bytes} (h : value.length = n) (rest : Bytes) :
    take? n (value ++ rest) = some (value, rest) := by
  subst h
  simp [take?]

theorem readPayload?_encode {payload : Payload} (h : payload.Fits) (rest : Bytes) :
    readPayload? payload.form (payload.encode ++ rest) = some (payload, rest) := by
  cases payload with
  | varint n => simp [Payload.form, Payload.encode, readPayload?, readVarint?_varint h]
  | fixed64 value => simp [Payload.form, Payload.encode, readPayload?, take?_append h]
  | bytes value =>
    simp [Payload.form, Payload.encode, readPayload?, readVarint?_varint h, take?_append rfl]
  | groupStart => rfl
  | groupEnd => rfl
  | fixed32 value => simp [Payload.form, Payload.encode, readPayload?, take?_append h]

theorem readRecord?_encode {record : Record} (h : record.Fits) (rest : Bytes) :
    readRecord? (record.encode ++ rest) = some (record, rest) := by
  have hform := record.payload.form_lt
  have hpositive := h.positive
  have hbounded := h.bounded
  have hkey : record.number * 8 + record.payload.form < UInt32.size := by
    rw [show UInt32.size = 2 ^ 29 * 8 from rfl]
    omega
  have hsize : UInt32.size < UInt64.size := by decide
  have hfree : ¬(UInt32.size ≤ record.number * 8 + record.payload.form ∨
      record.number * 8 + record.payload.form < 8) := by omega
  rw [Record.encode, List.append_assoc, readRecord?, readVarint?_varint (hkey.trans hsize)]
  simp only [Option.bind_eq_bind, Option.bind_some, if_neg hfree,
    show (record.number * 8 + record.payload.form) % 8 = record.payload.form by omega,
    show (record.number * 8 + record.payload.form) / 8 = record.number by omega,
    readPayload?_encode h.payload]
  rfl

theorem Record.encode_ne_nil (record : Record) : record.encode ≠ [] := by
  have hvarint (n : Nat) : varint n ≠ [] := by
    rw [varint, varintFrom]
    split <;> exact List.cons_ne_nil _ _
  simp [Record.encode, hvarint]

/-- Reading takes every record's room from at least one byte. -/
theorem readRecordsFrom_encode {records : List Record} (h : ∀ record ∈ records, record.Fits)
    {room : Nat} (hroom : records.length ≤ room) :
    readRecordsFrom room (encode records) = some records := by
  induction records generalizing room with
  | nil => cases room <;> rfl
  | cons record rest ih =>
    rw [List.forall_mem_cons] at h
    obtain ⟨room, rfl⟩ : ∃ n, room = n + 1 := ⟨room - 1, by simp at hroom; omega⟩
    have hread : readRecord? (encode (record :: rest)) = some (record, encode rest) := by
      rw [encode, List.flatMap_cons]
      exact readRecord?_encode h.1 _
    obtain ⟨b, bytes, hbytes⟩ : ∃ b bytes, encode (record :: rest) = b :: bytes := by
      refine List.exists_cons_of_ne_nil ?_
      rw [encode, List.flatMap_cons]
      exact List.append_ne_nil_of_left_ne_nil record.encode_ne_nil _
    rw [hbytes] at hread ⊢
    simp only [readRecordsFrom, hread, Option.bind_eq_bind, Option.bind_some,
      ih h.2 (Nat.le_of_succ_le_succ hroom)]
    rfl

theorem length_le_length_encode (records : List Record) :
    records.length ≤ (encode records).length := by
  induction records with
  | nil => exact Nat.le_refl 0
  | cons record rest ih =>
    have hpos := List.length_pos_of_ne_nil record.encode_ne_nil
    rw [encode, List.flatMap_cons, List.length_append, ← encode, List.length_cons]
    omega

theorem readRecords?_encode {records : List Record} (h : ∀ record ∈ records, record.Fits) :
    readRecords? (encode records) = some records :=
  readRecordsFrom_encode h (length_le_length_encode records)

theorem items?_of_bytes {records : List Record}
    (h : ∀ record ∈ records, ∃ value, record.payload = .bytes value) :
    items? records = some (records.map .plain) := by
  induction records with
  | nil => rfl
  | cons record rest ih =>
    rw [List.forall_mem_cons] at h
    obtain ⟨⟨value, hvalue⟩, hrest⟩ := h
    have hitems := ih hrest
    rw [items?] at hitems
    simp only [items?, itemsFrom, hvalue, hitems]
    rfl

theorem readItems?_encode {records : List Record} (hfits : ∀ record ∈ records, record.Fits)
    (hbytes : ∀ record ∈ records, ∃ value, record.payload = .bytes value) :
    readItems? (encode records) = some (records.map .plain) := by
  rw [readItems?, readRecords?_encode hfits, Option.bind_some, items?_of_bytes hbytes]

namespace Request

structure Fits (request : Request) : Prop where
  names : ∀ name ∈ request.filesToGenerate, (Utf8.ofString name).length < UInt64.size
  parameter : ∀ text ∈ request.parameter, (Utf8.ofString text).length < UInt64.size
  files : ∀ file ∈ request.files, file.length < UInt64.size

/-- Every record of a request is one of its texts or files. -/
theorem eq_of_mem_records {request : Request} (h : request.Fits) {record : Record}
    (hrecord : record ∈ request.records) :
    ∃ number value, record = ⟨number, .bytes value⟩ ∧ 0 < number ∧ number < 2 ^ 29 ∧
      value.length < UInt64.size := by
  simp only [records, List.mem_append, List.mem_map, Option.mem_toList] at hrecord
  rcases hrecord with (⟨name, hname, rfl⟩ | ⟨text, htext, rfl⟩) | ⟨file, hfile, rfl⟩
  · exact ⟨1, _, rfl, by decide, by decide, h.names name hname⟩
  · exact ⟨2, _, rfl, by decide, by decide, h.parameter text htext⟩
  · exact ⟨15, _, rfl, by decide, by decide, h.files file hfile⟩

theorem foldlM_merge_names (names : List String) (request : Request) :
    (names.map fun name => Item.plain ⟨1, .bytes (Utf8.ofString name)⟩).foldlM merge request =
      some { request with filesToGenerate := request.filesToGenerate ++ names } := by
  induction names generalizing request with
  | nil => simp
  | cons name rest ih =>
    simp [merge, Item.number, Item.text?, Item.bytes?, Utf8.toString?_ofString, ih]

theorem foldlM_merge_files (files : List Bytes) (request : Request) :
    (files.map fun file => Item.plain ⟨15, .bytes file⟩).foldlM merge request =
      some { request with files := request.files ++ files } := by
  induction files generalizing request with
  | nil => simp
  | cons file rest ih => simp [merge, Item.number, Item.bytes?, ih]

theorem decode?_encode {request : Request} (h : request.Fits) :
    decode? (encode request) = some request := by
  have hitems : readItems? (Wire.encode request.records) = some (request.records.map .plain) := by
    refine readItems?_encode (fun record hrecord => ?_) fun record hrecord => ?_
    · obtain ⟨number, value, rfl, hpositive, hbounded, hlength⟩ := eq_of_mem_records h hrecord
      exact ⟨hpositive, hbounded, hlength⟩
    · obtain ⟨number, value, rfl, -⟩ := eq_of_mem_records h hrecord
      exact ⟨value, rfl⟩
  obtain ⟨names, parameter, files⟩ := request
  rw [decode?, encode, hitems]
  simp only [Option.bind_eq_bind, Option.bind_some, records, List.map_append, List.map_map,
    Function.comp_def, List.foldlM_append, foldlM_merge_names, List.nil_append]
  cases parameter with
  | none => simp [foldlM_merge_files]
  | some text =>
    simp [merge, Item.number, Item.text?, Item.bytes?, Utf8.toString?_ofString, foldlM_merge_files]

end Request

namespace FileSet

theorem foldlM_merge (files : List Bytes) (set : FileSet) :
    (files.map fun file => Item.plain ⟨1, .bytes file⟩).foldlM merge set =
      some { set with files := set.files ++ files } := by
  induction files generalizing set with
  | nil => simp
  | cons file rest ih => simp [merge, Item.number, Item.bytes?, ih]

theorem decode?_encode {set : FileSet} (h : ∀ file ∈ set.files, file.length < UInt64.size) :
    decode? (encode set) = some set := by
  have hitems : readItems? (Wire.encode set.records) = some (set.records.map .plain) := by
    refine readItems?_encode (fun record hrecord => ?_) fun record hrecord => ?_
    · obtain ⟨file, hfile, rfl⟩ := List.mem_map.mp hrecord
      exact ⟨Nat.one_pos, show 1 < 2 ^ 29 by decide, h file hfile⟩
    · obtain ⟨file, hfile, rfl⟩ := List.mem_map.mp hrecord
      exact ⟨file, rfl⟩
  rw [decode?, encode, hitems]
  simp only [Option.bind_eq_bind, Option.bind_some, records, List.map_map, Function.comp_def,
    foldlM_merge, List.nil_append]

end FileSet

end Wire
end ServiceScaffold
