import Mathlib
import ServiceScaffold.Proofs.TableOnDisk

/-!
# Reading routing tables

A reader of the source of a routing table. It goes by the lines of the two functions alone, so that
neither the settings nor other rows can be taken for a service or a row, and the source of a table
without line feeds and quotes is read as that table.
-/

namespace ServiceScaffold

namespace Text

/-- What stands between a fixed start and a fixed ending. -/
def between? (start ending s : List Char) : Option (List Char) :=
  (dropStart? start s).bind (dropEnding? ending)

theorem dropEnding?_append (s ending : List Char) : dropEnding? ending (s ++ ending) = some s := by
  rw [dropEnding?, Option.map_eq_some_iff]
  exact ⟨s.reverse, dropStart?_eq_some_iff.mpr List.reverse_append, List.reverse_reverse s⟩

theorem between?_append (start s ending : List Char) :
    between? start ending (start ++ (s ++ ending)) = some s := by
  rw [between?, dropStart?_eq_some_iff.mpr rfl, Option.bind_some, dropEnding?_append]

/-- The lines after the first that starts a stretch, up to the next that ends it. -/
def stretch (starts ends : List Char → Bool) (lines : List (List Char)) : List (List Char) :=
  (lines.dropWhile (!starts ·)).tail.takeWhile (!ends ·)

theorem stretch_append {starts ends : List Char → Bool} {before rows : List (List Char)}
    {first last : List Char} (hbefore : ∀ line ∈ before, starts line = false)
    (hfirst : starts first = true) (hrows : ∀ line ∈ rows, ends line = false)
    (hlast : ends last = true) (after : List (List Char)) :
    stretch starts ends (before ++ first :: (rows ++ last :: after)) = rows := by
  have hstart : (before ++ first :: (rows ++ last :: after)).dropWhile (!starts ·) =
      first :: (rows ++ last :: after) := by
    rw [List.dropWhile_append_of_pos (by simpa using hbefore), List.dropWhile_cons_of_neg]
    simp [hfirst]
  have hend : (last :: after).takeWhile (!ends ·) = [] := by
    rw [List.takeWhile_cons_of_neg]
    simp [hlast]
  rw [stretch, hstart, List.tail_cons, List.takeWhile_append_of_pos (by simpa using hrows), hend,
    List.append_nil]

theorem mem_of_mem_pieces {α : Type} [DecidableEq α] {separator c : α} {s piece : List α}
    (hpiece : piece ∈ pieces separator s) (hc : c ∈ piece) : c ∈ s := by
  induction s using line_induction separator with
  | last line hline =>
    rw [pieces_of_not_mem hline, List.mem_singleton] at hpiece
    exact hpiece ▸ hc
  | more line rest hline ih =>
    rw [pieces_append_cons hline, List.mem_cons] at hpiece
    rcases hpiece with rfl | hpiece
    · exact List.mem_append_left _ hc
    · exact List.mem_append_right _ (List.mem_cons_of_mem _ (ih hpiece))

theorem mem_of_mem_lastPiece {α : Type} [DecidableEq α] {separator c : α} {s : List α}
    (h : c ∈ lastPiece separator s) : c ∈ s := by
  rw [lastPiece, List.getLastD_eq_getLast?,
    List.getLast?_eq_getLast_of_ne_nil (pieces_ne_nil separator s)] at h
  exact mem_of_mem_pieces (List.getLast_mem _) h

theorem mem_of_mem_dropEndWhile {α : Type} {p : α → Bool} {c : α} {s : List α}
    (h : c ∈ dropEndWhile p s) : c ∈ s := by
  rw [dropEndWhile, List.mem_reverse] at h
  exact List.mem_reverse.mp ((List.dropWhile_sublist p).subset h)

/-- What is written item by item is read item by item. -/
theorem mapM_map_of_read {α β : Type} {write : α → β} {read : β → Option α} {items : List α}
    (h : ∀ item ∈ items, read (write item) = some item) :
    (items.map write).mapM read = some items := by
  induction items with
  | nil => rfl
  | cons item rest ih =>
    rw [List.forall_mem_cons] at h
    rw [List.map_cons, List.mapM_cons, h.1, ih h.2]
    rfl

end Text

namespace Routing

theorem block_nil : block [] = "" := rfl

theorem block_cons (line : String) (lines : List String) :
    block (line :: lines) = line ++ block lines := rfl

theorem block_append (first last : List String) :
    block (first ++ last) = block first ++ block last := by
  induction first with
  | nil => exact String.empty_append.symm
  | cons line rest ih => rw [List.cons_append, block_cons, block_cons, ih, String.append_assoc]

theorem join_feed_cons (line : String) (lines : List String) :
    Text.join "\n" (line :: lines) = line ++ block (lines.map ("\n" ++ ·)) := by
  induction lines generalizing line with
  | nil => exact String.append_empty.symm
  | cons second rest ih =>
    rw [Text.join, ih, List.map_cons, block_cons, String.append_assoc, String.append_assoc]
    exact List.cons_ne_nil second rest

theorem join_feed_append {first last : List String} (hfirst : first ≠ []) (hlast : last ≠ []) :
    Text.join "\n" (first ++ last) = Text.join "\n" first ++ ("\n" ++ Text.join "\n" last) := by
  obtain ⟨line, lines, rfl⟩ := List.exists_cons_of_ne_nil hfirst
  obtain ⟨other, others, rfl⟩ := List.exists_cons_of_ne_nil hlast
  simp only [List.cons_append, join_feed_cons, List.map_append, List.map_cons, block_append,
    block_cons, String.append_assoc]

def importText (importPath : String) : String :=
  "\t\"" ++ (importPath ++ "\"")

def serviceText (receiver : String) : String :=
  "\tlist = append(list, &" ++ (receiver ++ "\x7b\x7d)")

def flagsText (clientStream serverStream : Bool) : String :=
  ", ClientStream:" ++ flag clientStream ++ ", ServerStream:" ++ flag serverStream ++ "\x7d,"

def endpointText (endpoint : Endpoint) : String :=
  "\t\t\x7bMethod:\"" ++ (endpoint.methodKey ++ ("\"" ++ (", Url:\"" ++ (endpoint.url ++ ("\"" ++
    flagsText endpoint.clientStream endpoint.serverStream)))))

theorem append_of_eq {text first second : String} (h : text = first ++ second) (rest : String) :
    text ++ rest = first ++ (second ++ rest) := by
  rw [h, String.append_assoc]

theorem importLine_eq (importPath : String) :
    importLine importPath = "\n" ++ importText importPath := by
  unfold importLine importText
  rw [String.append_assoc]
  exact append_of_eq (by simp) _

theorem serviceLine_eq (receiver : String) :
    serviceLine receiver = "\n" ++ serviceText receiver := by
  unfold serviceLine serviceText
  rw [String.append_assoc]
  exact append_of_eq (by simp) _

theorem endpointLine_eq (endpoint : Endpoint) :
    endpointLine endpoint = "\n" ++ endpointText endpoint := by
  have hstart : "\n\t\t\x7bMethod:\"" = "\n" ++ "\t\t\x7bMethod:\"" := by simp
  have hurl : "\", Url:\"" = "\"" ++ ", Url:\"" := by simp
  have hflags : "\", ClientStream:" = "\"" ++ ", ClientStream:" := by simp
  unfold endpointLine endpointText flagsText
  rw [hstart, hurl, hflags]
  simp only [String.append_assoc, -String.reduceAppend]

theorem block_map_of_feed {α : Type} {line text : α → String}
    (h : ∀ item, line item = "\n" ++ text item) (items : List α) :
    block (items.map line) = block ((items.map text).map ("\n" ++ ·)) := by
  rw [List.map_map]
  exact congrArg block (List.map_congr_left fun item _ => h item)

def headLines (settings : Settings) : List String :=
  ["// Code generated by protoc-gen-vkit. DO NOT EDIT.", "// versions:",
    "// - protoc-gen-vkit " ++ settings.version, "", "package " ++ settings.packageName, "",
    "import ("]
  ++ (settings.frameworkImport :: settings.extraImports).map importText ++ [")", ""]

theorem sourceHead_eq_join (settings : Settings) :
    sourceHead settings = Text.join "\n" (headLines settings) ++ "\n" := by
  have hhead :
      "// Code generated by protoc-gen-vkit. DO NOT EDIT.\n// versions:\n// - protoc-gen-vkit " =
        "// Code generated by protoc-gen-vkit. DO NOT EDIT." ++ ("\n" ++ ("// versions:" ++ ("\n" ++
          "// - protoc-gen-vkit "))) := by simp
  have hpackage : "\n\npackage " = "\n" ++ ("\n" ++ "package ") := by simp
  have himport : "\n\nimport (" = "\n" ++ ("\n" ++ "import (") := by simp
  have hend : "\n)\n\n" = "\n" ++ (")" ++ ("\n" ++ "\n")) := by simp
  unfold sourceHead headLines
  rw [hhead, hpackage, himport, hend, importLine_eq, block_map_of_feed importLine_eq]
  simp only [List.cons_append, List.nil_append, List.map_cons, List.map_append, List.map_nil,
    join_feed_cons, block_cons, block_nil, block_append, String.append_assoc, String.append_empty,
    -String.reduceAppend]

def servicesStart : String :=
  "\tlist := make([]interface\x7b\x7d, 0)"

def servicesEnd : String :=
  "\treturn list"

def listLines (receivers : List String) : List String :=
  "func GetList() []interface\x7b\x7d \x7b" :: servicesStart ::
    (receivers.map serviceText ++ servicesEnd :: ["\x7d", ""])

theorem listFunction_eq_join (receivers : List String) :
    listFunction receivers = Text.join "\n" (listLines receivers) := by
  have hopening :
      listOpening = "func GetList() []interface\x7b\x7d \x7b" ++ ("\n" ++ servicesStart) := by
    simp [listOpening, servicesStart]
  have hclosing : listClosing = "\n" ++ (servicesEnd ++ ("\n" ++ ("\x7d" ++ "\n"))) := by
    simp [listClosing, servicesEnd]
  unfold listFunction listLines
  rw [hopening, hclosing, block_map_of_feed serviceLine_eq]
  simp only [List.map_cons, List.map_append, List.map_nil, join_feed_cons, block_cons, block_nil,
    block_append, String.append_assoc, String.append_empty, -String.reduceAppend]

def endpointsStart (framework : String) : String :=
  "\treturn []*" ++ (framework ++ ".ApiEndpoint\x7b")

def endpointsEnd : String :=
  "\t\x7d"

def endpointsLines (framework : String) (endpoints : List Endpoint) : List String :=
  ("func GetApiEndpoint() []*" ++ (framework ++ ".ApiEndpoint \x7b")) :: endpointsStart framework ::
    (endpoints.map endpointText ++ endpointsEnd :: ["\x7d", ""])

theorem endpointsFunction_eq_join (framework : String) (endpoints : List Endpoint) :
    endpointsFunction framework endpoints =
      Text.join "\n" (endpointsLines framework endpoints) := by
  have hopening : "\n\treturn []*" = "\n" ++ "\treturn []*" := by simp
  have hclosing : endpointsClosing = "\n" ++ (endpointsEnd ++ ("\n" ++ ("\x7d" ++ "\n"))) := by
    simp [endpointsClosing, endpointsEnd]
  unfold endpointsFunction endpointsLines endpointsOpening endpointsStart
  rw [hopening, hclosing, block_map_of_feed endpointLine_eq]
  simp only [List.map_cons, List.map_append, List.map_nil, join_feed_cons, block_cons, block_nil,
    block_append, String.append_assoc, String.append_empty, -String.reduceAppend]

def Table.sourceLines (table : Table) (settings : Settings) : List String :=
  headLines settings ++ (listLines table.services ++
    endpointsLines (importAlias settings.frameworkImport) table.endpoints)

theorem render_eq_join (table : Table) (settings : Settings) :
    table.render settings = Text.join "\n" (table.sourceLines settings) := by
  have hhead : headLines settings ≠ [] := by simp [headLines]
  have hlist : listLines table.services ≠ [] := List.cons_ne_nil _ _
  have hrows (framework : String) : endpointsLines framework table.endpoints ≠ [] :=
    List.cons_ne_nil _ _
  rw [render_eq, Table.sourceLines, join_feed_append hhead (by simp [hlist]),
    join_feed_append hlist (hrows _), sourceHead_eq_join, listFunction_eq_join,
    endpointsFunction_eq_join]
  simp only [String.append_assoc]

def readService? (line : List Char) : Option String :=
  (Text.between? "\tlist = append(list, &".toList "\x7b\x7d)".toList line).map String.ofList

theorem readService?_serviceText (receiver : String) :
    readService? (serviceText receiver).toList = some receiver := by
  have htext : (serviceText receiver).toList =
      "\tlist = append(list, &".toList ++ (receiver.toList ++ "\x7b\x7d)".toList) := by
    unfold serviceText
    rw [String.toList_append, String.toList_append]
  rw [readService?, htext, Text.between?_append, Option.map_some, String.ofList_toList]

def readFlags? (text : List Char) : Option (Bool × Bool) :=
  [(false, false), (false, true), (true, false), (true, true)].find? fun flags =>
    (flagsText flags.1 flags.2).toList = text

theorem readFlags?_flagsText (clientStream serverStream : Bool) :
    readFlags? (flagsText clientStream serverStream).toList =
      some (clientStream, serverStream) := by
  cases clientStream <;> cases serverStream <;> decide +kernel

/-- A row: its method and its address stand between quotes. -/
def readEndpoint? (line : List Char) : Option Endpoint := do
  let key ← (Text.dropStart? "\t\t\x7bMethod:\"".toList line).bind (Text.cut? '"')
  let url ← (Text.dropStart? ", Url:\"".toList key.2).bind (Text.cut? '"')
  let flags ← readFlags? url.2
  pure ⟨String.ofList key.1, String.ofList url.1, flags.1, flags.2⟩

/-- A text between quotes is read up to the quote behind it. -/
theorem bind_dropStart?_cut? {start text : List Char} (h : '"' ∉ text) (rest : List Char) :
    (Text.dropStart? start (start ++ (text ++ '"' :: rest))).bind (Text.cut? '"') =
      some (text, rest) := by
  rw [Text.dropStart?_eq_some_iff.mpr rfl, Option.bind_some, Text.cut?_append_cons h]

theorem readEndpoint?_endpointText {endpoint : Endpoint} (hkey : '"' ∉ endpoint.methodKey.toList)
    (hurl : '"' ∉ endpoint.url.toList) :
    readEndpoint? (endpointText endpoint).toList = some endpoint := by
  have htext : (endpointText endpoint).toList = "\t\t\x7bMethod:\"".toList ++
      (endpoint.methodKey.toList ++ '"' :: (", Url:\"".toList ++ (endpoint.url.toList ++ '"' ::
        (flagsText endpoint.clientStream endpoint.serverStream).toList))) := by
    have hquote : "\"".toList = ['"'] := by decide
    unfold endpointText
    simp only [String.toList_append, hquote, List.cons_append, List.nil_append]
  rw [readEndpoint?, htext, bind_dropStart?_cut? hkey]
  simp only [Option.bind_eq_bind, Option.bind_some, bind_dropStart?_cut? hurl,
    readFlags?_flagsText, String.ofList_toList, Option.pure_def]

def isServicesStart (line : List Char) : Bool :=
  line = servicesStart.toList

def isServicesEnd (line : List Char) : Bool :=
  line = servicesEnd.toList

def isEndpointsStart (line : List Char) : Bool :=
  (Text.dropStart? "\treturn []*".toList line).isSome

def isEndpointsEnd (line : List Char) : Bool :=
  line = endpointsEnd.toList

def Table.ofSource? (source : String) : Option Table := do
  let lines := Text.pieces '\n' source.toList
  let services ← (Text.stretch isServicesStart isServicesEnd lines).mapM readService?
  let endpoints ← (Text.stretch isEndpointsStart isEndpointsEnd lines).mapM readEndpoint?
  pure ⟨services, endpoints⟩

/-- The first two characters of a line, by which the lines that start and end rows are told apart
from others. -/
def mark (line : String) : List Char :=
  line.toList.take 2

theorem mark_append {start : String} (hstart : 2 ≤ start.toList.length) (rest : String) :
    mark (start ++ rest) = mark start := by
  rw [mark, String.toList_append, List.take_append_of_le_length hstart, mark]

theorem mark_importText (importPath : String) : mark (importText importPath) = ['\t', '"'] := by
  unfold importText
  rw [mark_append (by decide)]
  decide

theorem mark_serviceText (receiver : String) : mark (serviceText receiver) = ['\t', 'l'] := by
  unfold serviceText
  rw [mark_append (by decide)]
  decide

theorem mark_endpointText (endpoint : Endpoint) : mark (endpointText endpoint) = ['\t', '\t'] := by
  unfold endpointText
  rw [mark_append (by decide)]
  decide

theorem isServicesStart_of_mark {line : String} (h : mark line ≠ ['\t', 'l']) :
    isServicesStart line.toList = false := by
  refine decide_eq_false fun heq => h ?_
  rw [mark, heq]
  decide

theorem isServicesEnd_of_mark {line : String} (h : mark line ≠ ['\t', 'r']) :
    isServicesEnd line.toList = false := by
  refine decide_eq_false fun heq => h ?_
  rw [mark, heq]
  decide

theorem isEndpointsStart_of_mark {line : String} (h : mark line ≠ ['\t', 'r']) :
    isEndpointsStart line.toList = false := by
  rw [isEndpointsStart, Option.isSome_eq_false_iff, Option.isNone_iff_eq_none,
    Option.eq_none_iff_forall_ne_some]
  intro rest hrest
  apply h
  rw [mark, Text.dropStart?_eq_some_iff.mp hrest]
  rfl

theorem isEndpointsEnd_of_mark {line : String} (h : mark line ≠ ['\t', '\x7d']) :
    isEndpointsEnd line.toList = false := by
  refine decide_eq_false fun heq => h ?_
  rw [mark, heq]
  decide

/-- A line that starts and ends no rows. -/
def IsAside (line : String) : Prop :=
  mark line ≠ ['\t', 'l'] ∧ mark line ≠ ['\t', 'r']

instance (line : String) : Decidable (IsAside line) :=
  inferInstanceAs (Decidable (_ ∧ _))

theorem isAside_append {start : String} (hstart : 2 ≤ start.toList.length) (h : IsAside start)
    (rest : String) : IsAside (start ++ rest) := by
  rwa [IsAside, mark_append hstart]

theorem isAside_importText (importPath : String) : IsAside (importText importPath) := by
  rw [IsAside, mark_importText]
  decide

theorem isAside_headLines (settings : Settings) : ∀ line ∈ headLines settings, IsAside line := by
  have hversion : IsAside ("// - protoc-gen-vkit " ++ settings.version) :=
    isAside_append (by decide) (by decide) _
  have hpackage : IsAside ("package " ++ settings.packageName) :=
    isAside_append (by decide) (by decide) _
  unfold headLines
  simp only [List.forall_mem_append, List.forall_mem_cons, List.forall_mem_map]
  refine ⟨⟨⟨by decide, by decide, hversion, by decide, hpackage, by decide, by decide, ?_⟩, ?_, ?_⟩,
    by decide, by decide, ?_⟩
  · exact List.forall_mem_nil _
  · exact isAside_importText settings.frameworkImport
  · exact fun path _ => isAside_importText path
  · exact List.forall_mem_nil _

theorem stretch_services (table : Table) (settings : Settings) :
    Text.stretch isServicesStart isServicesEnd ((table.sourceLines settings).map String.toList) =
      (table.services.map serviceText).map String.toList := by
  have hlines : (table.sourceLines settings).map String.toList =
      (headLines settings ++ ["func GetList() []interface\x7b\x7d \x7b"]).map String.toList ++
        servicesStart.toList :: ((table.services.map serviceText).map String.toList ++
          servicesEnd.toList :: (["\x7d", ""] ++ endpointsLines
            (importAlias settings.frameworkImport) table.endpoints).map String.toList) := by
    simp only [Table.sourceLines, listLines, List.map_append, List.map_cons, List.map_nil,
      List.append_assoc, List.cons_append, List.nil_append]
  rw [hlines]
  refine Text.stretch_append ?_ (by decide) ?_ (by decide) _
  · refine List.forall_mem_map.mpr (List.forall_mem_append.mpr ⟨fun line hline => ?_, ?_⟩)
    · exact isServicesStart_of_mark (isAside_headLines settings line hline).1
    · exact List.forall_mem_singleton.mpr (isServicesStart_of_mark (by decide))
  · refine List.forall_mem_map.mpr (List.forall_mem_map.mpr fun receiver _ => ?_)
    exact isServicesEnd_of_mark (by simp [mark_serviceText])

theorem stretch_endpoints (table : Table) (settings : Settings) :
    Text.stretch isEndpointsStart isEndpointsEnd ((table.sourceLines settings).map String.toList) =
      (table.endpoints.map endpointText).map String.toList := by
  have hlines : (table.sourceLines settings).map String.toList =
      (headLines settings ++ (listLines table.services ++ ["func GetApiEndpoint() []*" ++
        (importAlias settings.frameworkImport ++ ".ApiEndpoint \x7b")])).map String.toList ++
        (endpointsStart (importAlias settings.frameworkImport)).toList ::
          ((table.endpoints.map endpointText).map String.toList ++
            endpointsEnd.toList :: ["\x7d", ""].map String.toList) := by
    simp only [Table.sourceLines, endpointsLines, List.map_append, List.map_cons, List.map_nil,
      List.append_assoc, List.cons_append, List.nil_append]
  have hstart (framework : String) : isEndpointsStart (endpointsStart framework).toList = true := by
    rw [isEndpointsStart, Option.isSome_iff_exists]
    refine ⟨(framework ++ ".ApiEndpoint\x7b").toList, Text.dropStart?_eq_some_iff.mpr ?_⟩
    unfold endpointsStart
    exact String.toList_append
  rw [hlines]
  refine Text.stretch_append ?_ (hstart _) ?_ (by decide) _
  · refine List.forall_mem_map.mpr (List.forall_mem_append.mpr ⟨fun line hline => ?_, ?_⟩)
    · exact isEndpointsStart_of_mark (isAside_headLines settings line hline).2
    · have hfunction (framework : String) :
          IsAside ("func GetApiEndpoint() []*" ++ (framework ++ ".ApiEndpoint \x7b")) :=
        isAside_append (by decide) (by decide) _
      simp only [listLines, List.forall_mem_append, List.forall_mem_cons, List.forall_mem_map]
      refine ⟨⟨?_, ?_, fun receiver _ => ?_, by decide, ?_, ?_, List.forall_mem_nil _⟩, ?_,
        List.forall_mem_nil _⟩
      · exact isEndpointsStart_of_mark (by decide)
      · exact isEndpointsStart_of_mark (by decide)
      · exact isEndpointsStart_of_mark (by simp [mark_serviceText])
      · exact isEndpointsStart_of_mark (by decide)
      · exact isEndpointsStart_of_mark (by decide)
      · exact isEndpointsStart_of_mark (hfunction _).2
  · refine List.forall_mem_map.mpr (List.forall_mem_map.mpr fun endpoint _ => ?_)
    exact isEndpointsEnd_of_mark (by simp [mark_endpointText])

/-- Settings of which no text that the source holds breaks its line. -/
structure Lined (settings : Settings) : Prop where
  version : '\n' ∉ settings.version.toList
  packageName : '\n' ∉ settings.packageName.toList
  frameworkImport : '\n' ∉ settings.frameworkImport.toList
  extraImports : ∀ path ∈ settings.extraImports, '\n' ∉ path.toList

/-- A table without line feeds and quotes. -/
structure Table.Quotable (table : Table) : Prop where
  services : ∀ receiver ∈ table.services, '\n' ∉ receiver.toList ∧ '"' ∉ receiver.toList
  methodKeys : ∀ endpoint ∈ table.endpoints,
    '\n' ∉ endpoint.methodKey.toList ∧ '"' ∉ endpoint.methodKey.toList
  urls : ∀ endpoint ∈ table.endpoints, '\n' ∉ endpoint.url.toList ∧ '"' ∉ endpoint.url.toList

theorem feed_not_mem_importAlias {importPath : String} (h : '\n' ∉ importPath.toList) :
    '\n' ∉ (importAlias importPath).toList := by
  rw [importAlias, String.toList_ofList]
  exact fun hmem => h (Text.mem_of_mem_dropEndWhile (Text.mem_of_mem_lastPiece hmem))

theorem feed_not_mem_append {first last : String} (hfirst : '\n' ∉ first.toList)
    (hlast : '\n' ∉ last.toList) : '\n' ∉ (first ++ last).toList := by
  rw [String.toList_append, List.mem_append]
  exact not_or.mpr ⟨hfirst, hlast⟩

theorem feed_not_mem_headLines {settings : Settings} (h : Lined settings) :
    ∀ line ∈ headLines settings, '\n' ∉ line.toList := by
  have himport {path : String} (hpath : '\n' ∉ path.toList) : '\n' ∉ (importText path).toList :=
    feed_not_mem_append (by decide) (feed_not_mem_append hpath (by decide))
  unfold headLines
  simp only [List.forall_mem_append, List.forall_mem_cons, List.forall_mem_map]
  refine ⟨⟨⟨by decide, by decide, ?_, by decide, ?_, by decide, by decide, ?_⟩, ?_, ?_⟩,
    by decide, by decide, ?_⟩
  · exact feed_not_mem_append (by decide) h.version
  · exact feed_not_mem_append (by decide) h.packageName
  · exact List.forall_mem_nil _
  · exact himport h.frameworkImport
  · exact fun path hpath => himport (h.extraImports path hpath)
  · exact List.forall_mem_nil _

theorem feed_not_mem_listLines {receivers : List String}
    (h : ∀ receiver ∈ receivers, '\n' ∉ receiver.toList) :
    ∀ line ∈ listLines receivers, '\n' ∉ line.toList := by
  simp only [listLines, List.forall_mem_append, List.forall_mem_cons, List.forall_mem_map]
  refine ⟨by decide, by decide, fun receiver hreceiver => ?_, by decide, by decide, by decide,
    List.forall_mem_nil _⟩
  exact feed_not_mem_append (by decide) (feed_not_mem_append (h receiver hreceiver) (by decide))

theorem feed_not_mem_endpointsLines {framework : String} {endpoints : List Endpoint}
    (hframework : '\n' ∉ framework.toList)
    (hkeys : ∀ endpoint ∈ endpoints, '\n' ∉ endpoint.methodKey.toList)
    (hurls : ∀ endpoint ∈ endpoints, '\n' ∉ endpoint.url.toList) :
    ∀ line ∈ endpointsLines framework endpoints, '\n' ∉ line.toList := by
  have hflag (b : Bool) : '\n' ∉ (flag b).toList := by
    cases b <;> decide
  have hflags (clientStream serverStream : Bool) :
      '\n' ∉ (flagsText clientStream serverStream).toList := by
    have hclient : '\n' ∉ (", ClientStream:" ++ flag clientStream).toList :=
      feed_not_mem_append (by decide) (hflag clientStream)
    have hserver : '\n' ∉ (", ClientStream:" ++ flag clientStream ++ ", ServerStream:" ++
        flag serverStream).toList :=
      feed_not_mem_append (feed_not_mem_append hclient (by decide)) (hflag serverStream)
    exact feed_not_mem_append hserver (by decide)
  simp only [endpointsLines, List.forall_mem_append, List.forall_mem_cons, List.forall_mem_map]
  refine ⟨?_, ?_, fun endpoint hendpoint => ?_, by decide, by decide, by decide,
    List.forall_mem_nil _⟩
  · exact feed_not_mem_append (by decide) (feed_not_mem_append hframework (by decide))
  · exact feed_not_mem_append (by decide) (feed_not_mem_append hframework (by decide))
  · unfold endpointText
    refine feed_not_mem_append (by decide) (feed_not_mem_append (hkeys endpoint hendpoint) ?_)
    refine feed_not_mem_append (by decide) (feed_not_mem_append (by decide) ?_)
    refine feed_not_mem_append (hurls endpoint hendpoint) (feed_not_mem_append (by decide) ?_)
    exact hflags endpoint.clientStream endpoint.serverStream

theorem feed_not_mem_sourceLines {table : Table} {settings : Settings} (hsettings : Lined settings)
    (htable : table.Quotable) : ∀ line ∈ table.sourceLines settings, '\n' ∉ line.toList := by
  rw [Table.sourceLines]
  refine List.forall_mem_append.mpr ⟨feed_not_mem_headLines hsettings,
    List.forall_mem_append.mpr ⟨?_, ?_⟩⟩
  · exact feed_not_mem_listLines fun receiver hreceiver => (htable.services receiver hreceiver).1
  · exact feed_not_mem_endpointsLines (feed_not_mem_importAlias hsettings.frameworkImport)
      (fun endpoint hendpoint => (htable.methodKeys endpoint hendpoint).1)
      fun endpoint hendpoint => (htable.urls endpoint hendpoint).1

/-- The source of a table is read as the table. -/
theorem ofSource?_render {table : Table} {settings : Settings} (hsettings : Lined settings)
    (htable : table.Quotable) : Table.ofSource? (table.render settings) = some table := by
  have hlines : Text.pieces '\n' (table.render settings).toList =
      (table.sourceLines settings).map String.toList := by
    rw [render_eq_join]
    exact Text.pieces_join (by decide) _ _ (feed_not_mem_sourceLines hsettings htable)
  have hservices : ((table.services.map serviceText).map String.toList).mapM readService? =
      some table.services := by
    rw [List.map_map]
    exact Text.mapM_map_of_read fun receiver _ => readService?_serviceText receiver
  have hendpoints : ((table.endpoints.map endpointText).map String.toList).mapM readEndpoint? =
      some table.endpoints := by
    rw [List.map_map]
    exact Text.mapM_map_of_read fun endpoint hendpoint => readEndpoint?_endpointText
      (htable.methodKeys endpoint hendpoint).2 (htable.urls endpoint hendpoint).2
  rw [Table.ofSource?, hlines, stretch_services, stretch_endpoints, hservices, hendpoints]
  rfl

/-- A table is read back from its source, so that tables with the same source are equal, even if the
settings differ. -/
theorem table_of_render {table : Table} {settings : Settings} (hsettings : Lined settings)
    (htable : table.Quotable) :
    Table.ofSource? (table.render settings) = some table ∧
      ∀ (other : Table) (otherSettings : Settings), Lined otherSettings → other.Quotable →
        other.render otherSettings = table.render settings → other = table := by
  refine ⟨ofSource?_render hsettings htable, ?_⟩
  intro other otherSettings hotherSettings hother hsame
  have hread := ofSource?_render hotherSettings hother
  rw [hsame, ofSource?_render hsettings htable] at hread
  exact (Option.some.inj hread).symm

def listingSettings : Settings :=
  { packageName := "list = append(list, &Fake\x7b\x7d)"
    extraImports := ["fmt", "\tlist = append(list, &Fake\x7b\x7d)"] }

def streamTable : Table :=
  ⟨["Order", "return list"], [⟨"Order.Watch", "/order.Order/Watch", false, true⟩]⟩

/-- The table of a service with a stream is read back from the source that it has with such
settings, and with others that only differ in the directory. -/
theorem table_of_render_orders :
    Lined listingSettings ∧ streamTable.Quotable ∧
      Table.ofSource? (streamTable.render listingSettings) = some streamTable ∧
      ∀ other : Table, other.Quotable →
        other.render { listingSettings with workDir := "/srv" } =
          streamTable.render listingSettings → other = streamTable := by
  have hsettings : Lined listingSettings := ⟨by decide, by decide, by decide, by decide⟩
  have hdirectory : Lined { listingSettings with workDir := "/srv" } :=
    ⟨hsettings.version, hsettings.packageName, hsettings.frameworkImport, hsettings.extraImports⟩
  have htable : streamTable.Quotable := ⟨by decide, by decide, by decide⟩
  obtain ⟨hread, hsame⟩ := table_of_render hsettings htable
  exact ⟨hsettings, htable, hread, fun other hother => hsame other _ hdirectory hother⟩

end Routing
end ServiceScaffold
