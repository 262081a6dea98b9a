import Mathlib
import ServiceScaffold.Handler.Merge
import ServiceScaffold.Proofs.Replacement
import ServiceScaffold.Proofs.TextLines

/-!
# Declarations that are recognized again

What the generator writes for a service with plain names is found again by the scan of the file,
whatever the file holds besides, and it is still found when the file is continued on a new line.
-/

namespace ServiceScaffold
namespace Handler

open Text

def IsPlain (name : String) : Prop :=
  ∀ c ∈ name.toList, c.isAlphanum = true ∨ c = '_'

instance (name : String) : Decidable (IsPlain name) :=
  decidable_of_iff (name.toList.all fun c => c.isAlphanum || c == '_') (by simp [IsPlain])

theorem IsPlain.not_mem {name : String} (h : IsPlain name) {c : Char}
    (hc : ¬(c.isAlphanum = true ∨ c = '_')) : c ∉ name.toList :=
  fun hmem => hc (h c hmem)

/-- The names of a service are such that its declarations can be told from the beginnings of
their lines. -/
structure Recognizable (service : ServicePlan) : Prop where
  receiver : IsPlain service.receiver
  methods : ∀ method ∈ service.methods, IsPlain method.name
  noType : ¬"type".toList <:+: service.receiver.toList

theorem filter_space_of_not_mem {s : List Char} (h : ' ' ∉ s) : s.filter (· ≠ ' ') = s := by
  rw [List.filter_eq_self]
  intro c hc
  simpa using fun e : c = ' ' => h (e ▸ hc)

def methodHead (receiver method : String) : String :=
  "func (s *" ++ receiver ++ ") " ++ method ++ "("

theorem methodHead_toList (receiver method : String) :
    (methodHead receiver method).toList =
      "func (s *".toList ++ (receiver.toList ++ (") ".toList ++ (method.toList ++ ['(']))) := by
  simp [methodHead]

theorem newline_not_mem_methodHead {receiver method : String} (hr : IsPlain receiver)
    (hm : IsPlain method) : '\n' ∉ (methodHead receiver method).toList := by
  simp only [methodHead_toList, List.mem_append, not_or]
  exact ⟨by decide, hr.not_mem (by decide), by decide, hm.not_mem (by decide), by decide⟩

theorem getLast?_methodHead (receiver method : String) :
    (methodHead receiver method).toList.getLast? = some '(' := by
  simp only [methodHead_toList, ← List.append_assoc, List.getLast?_concat]

theorem lineKey?_methodHead {receiver method : String} (hr : IsPlain receiver)
    (hm : IsPlain method) (tail : List Char) :
    lineKey? ((methodHead receiver method).toList ++ tail) =
      some (methodKey receiver method).toList := by
  have hshape : (methodHead receiver method).toList ++ tail = "func (s *".toList ++
      (receiver.toList ++ (") ".toList ++ (method.toList ++ ('(' :: tail)))) := by
    simp only [methodHead_toList, List.append_assoc, List.cons_append, List.nil_append]
  have hfunc : dropStart? "func ".toList ("func (s *".toList ++ (receiver.toList ++ (") ".toList ++
      (method.toList ++ ('(' :: tail))))) = some ("(s *".toList ++ (receiver.toList ++
      (") ".toList ++ (method.toList ++ ('(' :: tail))))) :=
    dropStart?_eq_some_iff.mpr (by rw [← List.append_assoc]; rfl)
  have hstar : cut? '*' ("func (s *".toList ++ (receiver.toList ++ (") ".toList ++
      (method.toList ++ ('(' :: tail))))) = some ("func (s ".toList, receiver.toList ++
      (") ".toList ++ (method.toList ++ ('(' :: tail)))) :=
    cut?_append_cons (show '*' ∉ "func (s ".toList by decide) _
  have hparen : cut? '(' (receiver.toList ++ (") ".toList ++ (method.toList ++ ('(' :: tail)))) =
      some (receiver.toList ++ (") ".toList ++ method.toList), tail) := by
    have hbefore : '(' ∉ receiver.toList ++ (") ".toList ++ method.toList) := by
      simp [hr.not_mem (c := '(') (by decide), hm.not_mem (c := '(') (by decide)]
    simpa using cut?_append_cons hbefore tail
  rw [hshape]
  simp only [lineKey?, hfunc, Option.isSome_some, if_true, functionKey?, hstar, hparen,
    Option.map_some, List.filter_append,
    filter_space_of_not_mem (hr.not_mem (c := ' ') (by decide)),
    filter_space_of_not_mem (hm.not_mem (c := ' ') (by decide))]
  simp [methodKey]

/-- No occurrence begins in a name without spaces, so only the one at the end is found. -/
theorem replaceAll_struct {name : List Char} (h : ' ' ∉ name) :
    replaceAll "struct \x7b".toList [] ("type ".toList ++ (name ++ " struct \x7b".toList)) =
      "type ".toList ++ (name ++ [' ']) := by
  have hunmatched : ∀ stretch, stretch ≠ [] → stretch <:+ name →
      ¬"struct \x7b".toList <+: stretch ++ " struct \x7b".toList := by
    rintro stretch - hsuffix ⟨rest, hrest⟩
    have hclear : ' ' ∉ stretch := fun hmem => h (hsuffix.subset hmem)
    have hleft : cut? ' ' ("struct \x7b".toList ++ rest) = some ("struct".toList, '{' :: rest) :=
      cut?_append_cons (show ' ' ∉ "struct".toList by decide) ('{' :: rest)
    have hright : cut? ' ' (stretch ++ " struct \x7b".toList) =
        some (stretch, "struct \x7b".toList) := cut?_append_cons hclear "struct \x7b".toList
    rw [hrest, hright, Option.some.injEq, Prod.mk.injEq] at hleft
    exact absurd hleft.2 (by simp)
  have hspace : replaceAll "struct \x7b".toList [] " struct \x7b".toList = [' '] := by decide
  have hword : replaceAll "struct \x7b".toList []
      ("type ".toList ++ (name ++ " struct \x7b".toList)) =
      "type ".toList ++ replaceAll "struct \x7b".toList [] (name ++ " struct \x7b".toList) :=
    replaceAll_append_of_not_mem (show 's' ∉ "type ".toList by decide) [] _
  rw [hword, replaceAll_append_of_unmatched hunmatched, hspace]

/-- A line that declares a struct type has the type's name for its key, without the word `type`. -/
theorem lineKey?_typeLine {name : List Char} (h : ' ' ∉ name) :
    lineKey? ("type ".toList ++ (name ++ " struct \x7b".toList)) =
      some (replaceAll "type".toList [] name) := by
  have hspace : ' ' ∉ "type".toList := by decide
  have htype : replaceAll "type".toList [] ("type ".toList ++ (name ++ [' '])) =
      ' ' :: (replaceAll "type".toList [] name ++ [' ']) := by
    rw [show "type ".toList ++ (name ++ [' ']) = "type".toList ++ ([] ++ ' ' :: (name ++ ' ' :: []))
        from rfl,
      replaceAll_pattern_append (by decide), replaceAll_append_cons hspace (by decide),
      replaceAll_append_cons hspace (by decide)]
    rfl
  have hname : ' ' ∉ replaceAll "type".toList [] name :=
    fun hmem => (mem_replaceAll hmem).elim (by simp) h
  have hfunc : dropStart? "func ".toList
      ("type ".toList ++ (name ++ " struct \x7b".toList)) = none := rfl
  have hstart : dropStart? "type ".toList ("type ".toList ++ (name ++ " struct \x7b".toList)) =
      some (name ++ " struct \x7b".toList) := dropStart?_eq_some_iff.mpr rfl
  simp only [lineKey?, hfunc, hstart, Option.isSome_none, Option.isSome_some, if_true,
    Bool.false_eq_true, if_false, typeKey, replaceAll_struct h, htype, Option.some.injEq]
  rw [List.filter_cons_of_neg (by simp), List.filter_append, filter_space_of_not_mem hname]
  simp

theorem lineKey?_type {receiver : String} (hr : IsPlain receiver)
    (ht : ¬"type".toList <:+: receiver.toList) :
    lineKey? ("type ".toList ++ (receiver.toList ++ " struct \x7b".toList)) =
      some receiver.toList := by
  rw [lineKey?_typeLine (hr.not_mem (by decide)), replaceAll_of_not_infix ht]

theorem typeStub_toList (receiver : String) :
    (typeStub receiver).toList = '\n' :: ("type ".toList ++ (receiver.toList ++
      " struct \x7b".toList) ++ '\n' :: "\x7d\n".toList) := by
  simp [typeStub]

theorem Template.exists_of_eq_opening_append (mode : StreamMode) :
    ∃ rest, Template.of mode = Template.opening ++ rest := by
  cases mode <;> simp [Template.of, Template.unary, Template.clientStreaming,
    Template.serverStreaming, Template.bidirectional]

theorem Template.source_append (first rest : Template) :
    Template.source (first ++ rest) = first.source ++ Template.source rest := by
  simp [Template.source]

def methodComment (method : MethodPlan) : String :=
  "// " ++ method.name ++ " " ++ method.path

theorem methodStub_toList {receiver : String} {method : MethodPlan} (hr : IsPlain receiver)
    (hm : IsPlain method.name) :
    ∃ rest, Template.of method.mode = Template.opening ++ rest ∧
      (methodStub receiver method).toList = '\n' :: ((methodComment method).toList ++ '\n' ::
        ((methodHead receiver method.name).toList ++
          replaceInTurn (Hole.value receiver method) Hole.all rest.source)) := by
  obtain ⟨rest, hrest⟩ := Template.exists_of_eq_opening_append method.mode
  have hopening := replaceInTurn_source_append Template.opening (Hole.value receiver method)
    (by simp [Template.opening]) (by
      intro h hpath hmem
      have hdollar : ¬(('$' : Char).isAlphanum = true ∨ '$' = '_') := by decide
      cases h with
      | serviceName => exact hr.not_mem hdollar
      | methodName => exact hm.not_mem hdollar
      | methodPath => exact absurd rfl hpath
      | requestType => simp [Template.opening] at hmem
      | replyType => simp [Template.opening] at hmem) rest.source
  refine ⟨rest, hrest, ?_⟩
  rw [methodStub, String.toList_ofList, hrest, Template.source_append, hopening]
  simp [Template.fill, Template.opening, Hole.value, methodComment, methodHead]

theorem methodStub_newline (receiver : String) (method : MethodPlan) :
    ∃ rest, (methodStub receiver method).toList = '\n' :: rest := by
  obtain ⟨rest, hrest⟩ := Template.exists_of_eq_opening_append method.mode
  have hfirst := replaceInTurn_source_append [.text "\n// "] (Hole.value receiver method)
    (by simp) (by simp) (Template.source (Template.opening.tail ++ rest))
  have hsource : (Template.opening ++ rest).source = Template.source [.text "\n// "] ++
      Template.source (Template.opening.tail ++ rest) := rfl
  refine ⟨"// ".toList ++ replaceInTurn (Hole.value receiver method) Hole.all
    (Template.source (Template.opening.tail ++ rest)), ?_⟩
  rw [methodStub, String.toList_ofList, hrest, hsource, hfirst]
  rfl

theorem missingText_toList (symbols : SymbolSet) (service : ServicePlan) :
    (missingText symbols service).toList =
      (if symbols.contains service.receiver then [] else (typeStub service.receiver).toList) ++
        (service.methods.filter (lacksMethod symbols service.receiver)).flatMap
          fun method => (methodStub service.receiver method).toList := by
  have hstubs (methods : List MethodPlan) :
      ((methods.map (methodStub service.receiver)).foldr (· ++ ·) "").toList =
        methods.flatMap fun method => (methodStub service.receiver method).toList := by
    induction methods with
    | nil => rfl
    | cons method rest ih => simp [ih]
  rw [missingText, String.toList_append, hstubs]
  split <;> rfl

/-- The new contents are the old ones, and after them nothing or text that begins a new line. -/
def Continues (old new : Bytes) : Prop :=
  ∃ text : List Char, new = old ++ Utf8.encode text ∧ (text = [] ∨ ∃ rest, text = '\n' :: rest)

theorem Continues.refl (content : Bytes) : Continues content content :=
  ⟨[], by simp [Utf8.encode], Or.inl rfl⟩

theorem Continues.trans {first second third : Bytes} (h : Continues first second)
    (h' : Continues second third) : Continues first third := by
  obtain ⟨text, rfl, htext⟩ := h
  obtain ⟨more, rfl, hmore⟩ := h'
  refine ⟨text ++ more, by rw [Utf8.encode_append, List.append_assoc], ?_⟩
  rcases htext with rfl | ⟨rest, rfl⟩
  · simpa using hmore
  · exact Or.inr ⟨rest ++ more, rfl⟩

theorem Continues.isPrefix {old new : Bytes} (h : Continues old new) : old <+: new := by
  obtain ⟨text, rfl, -⟩ := h
  exact List.prefix_append _ _

theorem Continues.isText {old new : Bytes} (h : Continues old new) (ht : Utf8.IsText old) :
    Utf8.IsText new := by
  obtain ⟨text, rfl, -⟩ := h
  obtain ⟨before, rfl⟩ := ht
  exact ⟨before ++ text, (Utf8.encode_append before text).symm⟩

theorem continues_missingText (content : Bytes) (symbols : SymbolSet) (service : ServicePlan) :
    Continues content (content ++ Utf8.ofString (missingText symbols service)) := by
  refine ⟨(missingText symbols service).toList, rfl, ?_⟩
  rw [missingText_toList]
  split
  · cases hmissing : service.methods.filter (lacksMethod symbols service.receiver) with
    | nil => exact Or.inl rfl
    | cons method rest =>
      obtain ⟨stub, hstub⟩ := methodStub_newline service.receiver method
      right
      simp [hstub]
  · right
    simp [typeStub_toList]

theorem isSome_dropStart?_concat {start : List Char} {c : Char} (h : c ∉ start)
    (line : List Char) :
    (dropStart? start (line ++ [c])).isSome = (dropStart? start line).isSome := by
  rw [Bool.eq_iff_iff, ← not_iff_not]
  simp only [Bool.not_eq_true, Option.isSome_eq_false_iff, Option.isNone_iff_eq_none,
    dropStart?_eq_none_iff, not_iff_not]
  exact ⟨prefix_of_prefix_append_cons h, fun hp => hp.trans (List.prefix_append _ _)⟩

theorem cut?_concat {separator c : Char} (h : separator ≠ c) (s : List Char) :
    cut? separator (s ++ [c]) =
      (cut? separator s).map fun (before, after) => (before, after ++ [c]) := by
  by_cases hmem : separator ∈ s
  · obtain ⟨before, after, rfl, hbefore⟩ := List.eq_append_cons_of_mem hmem
    rw [List.append_assoc, List.cons_append, cut?_append_cons hbefore, cut?_append_cons hbefore]
    rfl
  · rw [cut?_eq_none_iff.mpr hmem, cut?_eq_none_iff.mpr (by simp [hmem, h])]
    rfl

theorem functionKey?_concat {c : Char} (hstar : '*' ≠ c) (hparen : '(' ≠ c) (line : List Char) :
    functionKey? (line ++ [c]) = functionKey? line := by
  unfold functionKey?
  rw [cut?_concat hstar]
  cases cut? '*' line <;> simp [cut?_concat hparen, Function.comp_def]

theorem mem_typeKey_concat {c : Char} (hstruct : c ∉ "struct \x7b".toList)
    (htype : c ∉ "type".toList) (hspace : c ≠ ' ') (line : List Char) :
    c ∈ typeKey (line ++ [c]) := by
  unfold typeKey
  rw [replaceAll_append_cons hstruct (by decide), replaceAll_append_cons htype (by decide)]
  simp [hspace]

/-- A carriage return at the end of a line is no part of a key that has none. -/
theorem lineKey?_of_carriage {line key : List Char} (h : lineKey? (line ++ ['\r']) = some key)
    (hkey : '\r' ∉ key) : lineKey? line = some key := by
  unfold lineKey? at h ⊢
  rw [isSome_dropStart?_concat (by decide), isSome_dropStart?_concat (by decide)] at h
  split at h
  · rename_i hfunc
    rw [if_pos hfunc, ← h]
    exact (functionKey?_concat (by decide) (by decide) line).symm
  split at h
  · rw [Option.some.injEq] at h
    subst h
    exact absurd (mem_typeKey_concat (by decide) (by decide) (by decide) line) hkey
  · cases h

theorem Continues.mem_scanLines {old new : Bytes} (h : Continues old new) (ht : Utf8.IsText old)
    {key : String} (hkey : '\r' ∉ key.toList) (hmem : key ∈ scanLines old) :
    key ∈ scanLines new := by
  obtain ⟨text, rfl, htext⟩ := h
  obtain ⟨before, rfl⟩ := ht
  rcases htext with rfl | ⟨rest, rfl⟩
  · simpa [Utf8.encode] using hmem
  rw [← Utf8.encode_append, mem_scanLines_encode]
  obtain ⟨line, hline, hfound⟩ := mem_scanLines_encode.mp hmem
  rcases mem_lines_append hline rest with hsame | ⟨shorter, rfl, hshorter⟩
  · exact ⟨line, hsame, hfound⟩
  · exact ⟨shorter, hshorter, lineKey?_of_carriage hfound hkey⟩

/-- The scan of the file finds the service's type and every one of its methods. -/
structure Declares (content : Bytes) (service : ServicePlan) : Prop where
  receiver : service.receiver ∈ scanLines content
  methods : ∀ method ∈ service.methods,
    methodKey service.receiver method.name ∈ scanLines content

theorem Recognizable.carriage_not_mem {service : ServicePlan} (h : Recognizable service) :
    '\r' ∉ service.receiver.toList ∧ ∀ method ∈ service.methods,
      '\r' ∉ (methodKey service.receiver method.name).toList := by
  have hcr : ¬(('\r' : Char).isAlphanum = true ∨ '\r' = '_') := by decide
  refine ⟨h.receiver.not_mem hcr, fun method hmethod => ?_⟩
  simp [methodKey, h.receiver.not_mem hcr, (h.methods method hmethod).not_mem hcr]

theorem Declares.continues {old new : Bytes} {service : ServicePlan} (h : Declares old service)
    (hs : Recognizable service) (ht : Utf8.IsText old) (hc : Continues old new) :
    Declares new service where
  receiver := hc.mem_scanLines ht hs.carriage_not_mem.1 h.receiver
  methods method hmethod :=
    hc.mem_scanLines ht (hs.carriage_not_mem.2 method hmethod) (h.methods method hmethod)

theorem mem_scanLines_typeStub {receiver : String} (hr : IsPlain receiver)
    (ht : ¬"type".toList <:+: receiver.toList) (before after : List Char) :
    receiver ∈ scanLines (Utf8.encode (before ++ ((typeStub receiver).toList ++ after))) := by
  have hline : '\n' ∉ "type ".toList ++ (receiver.toList ++ " struct \x7b".toList) := by
    rw [List.mem_append, List.mem_append, not_or, not_or]
    exact ⟨by decide, hr.not_mem (by decide), by decide⟩
  have hcr : dropCarriage '\r' ("type ".toList ++ (receiver.toList ++ " struct \x7b".toList)) =
      "type ".toList ++ (receiver.toList ++ " struct \x7b".toList) := by
    have h := dropCarriage_concat (show '{' ≠ '\r' by decide)
      ("type ".toList ++ (receiver.toList ++ " struct ".toList))
    rwa [List.append_assoc, List.append_assoc] at h
  refine mem_scanLines_encode.mpr ⟨_, ?_, lineKey?_type hr ht⟩
  rw [typeStub_toList, List.cons_append, lines_append, List.append_assoc, List.cons_append,
    lines_append_feed hline, hcr]
  exact List.mem_append_right _ List.mem_cons_self

theorem mem_scanLines_methodStub {receiver : String} {method : MethodPlan} (hr : IsPlain receiver)
    (hm : IsPlain method.name) (before after : List Char) :
    methodKey receiver method.name ∈
      scanLines (Utf8.encode (before ++ ((methodStub receiver method).toList ++ after))) := by
  obtain ⟨later, -, hstub⟩ := methodStub_toList hr hm
  have hend : (methodHead receiver method.name).toList.getLast? ≠ some '\r' := by
    rw [getLast?_methodHead]
    decide
  obtain ⟨rest, hrest⟩ := exists_mem_lines (newline_not_mem_methodHead hr hm) hend
    (List.ne_nil_of_mem (List.mem_of_getLast? (getLast?_methodHead _ _)))
    (before ++ '\n' :: (methodComment method).toList)
    (replaceInTurn (Hole.value receiver method) Hole.all later.source ++ after)
  refine mem_scanLines_encode.mpr ⟨_, ?_, lineKey?_methodHead hr hm rest⟩
  rw [hstub]
  simpa only [List.append_assoc, List.cons_append] using hrest

end Handler
end ServiceScaffold
