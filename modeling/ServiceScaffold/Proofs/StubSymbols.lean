import Mathlib
import ServiceScaffold.Proofs.ScannedText

/-!
# Symbols of generated stubs

What the scan finds in the text that is generated for a type and for a method. A type is found
under its name, but without the word `type` wherever that occurs in it, so just the names without
that word are recognized. A method is found under its key, in every mode and whatever its paths and
messages are called, and nothing else is found in a stub that takes no more lines than its template.
-/

namespace ServiceScaffold
namespace Text

variable {α : Type} [DecidableEq α] {pattern : List α}

/-- What is left of a text when a pattern is taken out of it from the left: an occurrence goes
wherever the search meets one, and the search goes on behind it. -/
inductive Without (pattern : List α) : List α → List α → Prop
  | nil : Without pattern [] []
  | occurrence {rest kept : List α} (later : Without pattern rest kept) :
      Without pattern (pattern ++ rest) kept
  | other {c : α} {rest kept : List α} (unmatched : ¬pattern <+: c :: rest)
      (later : Without pattern rest kept) : Without pattern (c :: rest) (c :: kept)

theorem Without.eq_replaceAll (hne : pattern ≠ []) {s kept : List α} (h : Without pattern s kept) :
    kept = replaceAll pattern [] s := by
  induction h with
  | nil => simp [replaceAll, replaceFrom]
  | occurrence later ih => rw [replaceAll_pattern_append hne, ← ih, List.nil_append]
  | other unmatched later ih => rw [replaceAll_cons_of_unmatched unmatched, ← ih]

theorem without_replaceAll (hne : pattern ≠ []) (s : List α) :
    Without pattern s (replaceAll pattern [] s) := by
  -- The search goes on behind an occurrence, so the induction is on the length of what is left.
  induction hlength : s.length using Nat.strong_induction_on generalizing s with
  | _ n ih =>
    cases s with
    | nil => simpa [replaceAll, replaceFrom] using Without.nil
    | cons c cs =>
      by_cases hstart : pattern <+: c :: cs
      · obtain ⟨rest, hrest⟩ := hstart
        have hshorter : rest.length < n := by
          have hpositive := List.length_pos_iff.mpr hne
          rw [← hlength, ← hrest, List.length_append]
          omega
        rw [← hrest, replaceAll_pattern_append hne, List.nil_append]
        exact .occurrence (ih _ hshorter rest rfl)
      · rw [replaceAll_cons_of_unmatched hstart]
        exact .other hstart (ih _ (by simp [← hlength]) cs rfl)

omit [DecidableEq α] in
theorem Without.length (hne : pattern ≠ []) {s kept : List α} (h : Without pattern s kept) :
    kept.length ≤ s.length ∧ (pattern <:+: s → kept.length < s.length) := by
  induction h with
  | nil => exact ⟨le_refl 0, fun hinfix => absurd (List.infix_nil.mp hinfix) hne⟩
  | occurrence later ih =>
    have hpositive := List.length_pos_iff.mpr hne
    rw [List.length_append]
    exact ⟨by omega, fun _ => by omega⟩
  | other unmatched later ih =>
    refine ⟨Nat.succ_le_succ ih.1, fun hinfix => Nat.succ_lt_succ (ih.2 ?_)⟩
    exact (List.infix_cons_iff.mp hinfix).resolve_left unmatched

theorem replaceAll_eq_self_iff (hne : pattern ≠ []) {s : List α} :
    replaceAll pattern [] s = s ↔ ¬pattern <:+: s := by
  constructor
  · intro h hinfix
    have hshorter := ((without_replaceAll hne s).length hne).2 hinfix
    rw [h] at hshorter
    exact lt_irrefl _ hshorter
  · exact fun h => replaceAll_of_not_infix h []

/-- A replacement that has nothing to do with separators takes place in each piece alone. -/
theorem pieces_replaceAll {separator : α} (hp : separator ∉ pattern) (hne : pattern ≠ [])
    {value : List α} (hv : separator ∉ value) (s : List α) :
    pieces separator (replaceAll pattern value s) =
      (pieces separator s).map (replaceAll pattern value) := by
  induction s using line_induction separator with
  | last line hline =>
    have hclear : separator ∉ replaceAll pattern value line :=
      fun hmem => (mem_replaceAll hmem).elim hv hline
    rw [pieces_of_not_mem hclear, pieces_of_not_mem hline]
    rfl
  | more line rest hline ih =>
    have hclear : separator ∉ replaceAll pattern value line :=
      fun hmem => (mem_replaceAll hmem).elim hv hline
    rw [replaceAll_append_cons hp hne, pieces_append_cons hclear, ih, pieces_append_cons hline]
    rfl

end Text

namespace Handler

open Text

theorem Hole.newline_not_mem_placeholder (h : Hole) : '\n' ∉ h.placeholder := by
  cases h <;> decide

variable {value : Hole → List Char}

theorem replaceInTurn_char_cons {c : Char} (hc : c ≠ '$') (holes : List Hole) (s : List Char) :
    replaceInTurn value holes (c :: s) = c :: replaceInTurn value holes s := by
  induction holes generalizing s with
  | nil => rfl
  | cons hole holes ih =>
    have hstart : ¬hole.placeholder <+: c :: s :=
      fun hp => hc (List.cons_prefix_cons.mp hp).1.symm
    rw [replaceInTurn_cons, replaceAll_cons_of_unmatched hstart, ih, replaceInTurn_cons]

/-- No placeholder reaches over the end of a line. -/
theorem replaceInTurn_append_newline (holes : List Hole) (a b : List Char) :
    replaceInTurn value holes (a ++ '\n' :: b) =
      replaceInTurn value holes a ++ '\n' :: replaceInTurn value holes b := by
  induction holes generalizing a b with
  | nil => rfl
  | cons hole holes ih =>
    rw [replaceInTurn_cons,
      replaceAll_append_cons hole.newline_not_mem_placeholder hole.placeholder_ne_nil, ih]
    rfl

theorem newline_not_mem_replaceInTurn (hv : ∀ h, '\n' ∉ value h) (holes : List Hole)
    {s : List Char} (hs : '\n' ∉ s) : '\n' ∉ replaceInTurn value holes s := by
  induction holes generalizing s with
  | nil => exact hs
  | cons hole holes ih => exact ih fun hmem => (mem_replaceAll hmem).elim (hv hole) hs

theorem pieces_replaceInTurn (hv : ∀ h, '\n' ∉ value h) (holes : List Hole) (s : List Char) :
    pieces '\n' (replaceInTurn value holes s) =
      (pieces '\n' s).map (replaceInTurn value holes) := by
  induction holes generalizing s with
  | nil => exact (List.map_id _).symm
  | cons hole holes ih =>
    rw [replaceInTurn_cons, ih,
      pieces_replaceAll hole.newline_not_mem_placeholder hole.placeholder_ne_nil (hv hole),
      List.map_map]
    rfl

/-- The line of a template begins with a letter of its own, which is not that of a declaration. -/
def IsBodyLine (line : List Char) : Prop :=
  line.head? ≠ some '$' ∧ line.head? ≠ some 'f' ∧ line.head? ≠ some 't'

instance (line : List Char) : Decidable (IsBodyLine line) :=
  inferInstanceAs (Decidable (_ ∧ _))

theorem IsBodyLine.not_isDeclaration {line : List Char} (h : IsBodyLine line)
    (holes : List Hole) : ¬IsDeclaration (replaceInTurn value holes line) := by
  cases line with
  | nil => exact not_isDeclaration_of_head (by simp) (by simp)
  | cons c cs =>
    have hc : c ≠ '$' := fun hdollar => h.1 (congrArg some hdollar)
    rw [replaceInTurn_char_cons hc]
    exact not_isDeclaration_of_head h.2.1 h.2.2

/-- What follows the beginning of the declaration in a template: the rest of that line, and lines
of the body. -/
theorem Template.exists_body {mode : StreamMode} {rest : Template}
    (h : Template.of mode = Template.opening ++ rest) :
    ∃ signature body, rest.source = signature ++ '\n' :: body ∧ '\n' ∉ signature ∧
      ∀ line ∈ pieces '\n' body, IsBodyLine line := by
  have hrest : rest = (Template.of mode).drop Template.opening.length := by
    rw [h, List.drop_left]
  have hcheck : (cut? '\n' rest.source).any fun cut =>
      (pieces '\n' cut.2).all fun line => decide (IsBodyLine line) := by
    rw [hrest]
    cases mode <;> decide +kernel
  cases hcut : cut? '\n' rest.source with
  | none => simp [hcut] at hcheck
  | some cut =>
    obtain ⟨signature, body⟩ := cut
    rw [hcut, Option.any_some, List.all_eq_true] at hcheck
    obtain ⟨hsource, hsignature⟩ := eq_append_of_cut? hcut
    exact ⟨signature, body, hsource, hsignature,
      fun line hline => of_decide_eq_true (hcheck line hline)⟩

theorem getLast?_methodStub (receiver : String) (method : MethodPlan) :
    (methodStub receiver method).toList.getLast? = some '\n' := by
  -- The last segment alone is evaluated, since the template as a whole is long.
  obtain ⟨last, hlast, hfeed⟩ : ∃ last, (Template.of method.mode).getLast? = some (.text last) ∧
      last.toList.getLast? = some '\n' := by
    cases method.mode <;> exact ⟨_, rfl, by decide⟩
  obtain ⟨first, hfirst⟩ := List.getLast?_eq_some_iff.mp hlast
  obtain ⟨start, hstart⟩ := List.getLast?_eq_some_iff.mp hfeed
  have hbefore : (Template.of method.mode).source =
      Template.source first ++ start ++ ['\n'] := by
    rw [hfirst, Template.source_append, List.append_assoc, ← hstart]
    simp [Template.source]
  rw [methodStub, String.toList_ofList, hbefore, replaceInTurn_append_newline, replaceInTurn_nil,
    List.getLast?_concat]

/-- The types and the path of a method have no line feed, so its stub has the lines of its
template. -/
structure OneLine (method : MethodPlan) : Prop where
  requestType : '\n' ∉ method.requestType.toList
  replyType : '\n' ∉ method.replyType.toList
  path : '\n' ∉ method.path.toList

theorem OneLine.newline_not_mem_value {receiver : String} {method : MethodPlan} (h : OneLine method)
    (hr : IsPlain receiver) (hm : IsPlain method.name) (hole : Hole) :
    '\n' ∉ Hole.value receiver method hole := by
  cases hole with
  | serviceName => exact hr.not_mem (by decide)
  | methodName => exact hm.not_mem (by decide)
  | requestType => exact h.requestType
  | replyType => exact h.replyType
  | methodPath => exact h.path

theorem scanLines_typeStub {receiver : String} (hspace : ' ' ∉ receiver.toList)
    (hfeed : '\n' ∉ receiver.toList) :
    scanLines (Utf8.ofString (typeStub receiver)) =
      [String.ofList (replaceAll "type".toList [] receiver.toList)] := by
  have hline : '\n' ∉ "type ".toList ++ (receiver.toList ++ " struct \x7b".toList) := by
    rw [List.mem_append, List.mem_append, not_or, not_or]
    exact ⟨by decide, hfeed, by decide⟩
  have hcr : dropCarriage '\r' ("type ".toList ++ (receiver.toList ++ " struct \x7b".toList)) =
      "type ".toList ++ (receiver.toList ++ " struct \x7b".toList) := by
    have h := dropCarriage_concat (show '{' ≠ '\r' by decide)
      ("type ".toList ++ (receiver.toList ++ " struct ".toList))
    rwa [List.append_assoc, List.append_assoc] at h
  have hclose : scanLines (Utf8.encode "\x7d\n".toList) = [] := by decide +kernel
  rw [Utf8.ofString, typeStub_toList, scanLines_feed_cons, scanLines_append_feed,
    scanLines_line hline, hcr, lineKey?_typeLine hspace, hclose]
  rfl

theorem scanLines_methodComment_append {method : MethodPlan} (hm : IsPlain method.name)
    (hpath : '\n' ∉ method.path.toList) (rest : List Char) :
    scanLines (Utf8.encode ((methodComment method).toList ++ '\n' :: rest)) =
      scanLines (Utf8.encode rest) := by
  have hcomment : (methodComment method).toList =
      '/' :: '/' :: ' ' :: (method.name.toList ++ (' ' :: method.path.toList)) := by
    simp [methodComment]
  have hfeed : '\n' ∉ (methodComment method).toList := by
    simp only [hcomment, List.mem_append, List.mem_cons, not_or]
    exact ⟨by decide, by decide, by decide, hm.not_mem (by decide), by decide, hpath⟩
  exact scanLines_line_append hfeed
    (not_isDeclaration_of_head (by simp [hcomment]) (by simp [hcomment])) rest

theorem scanLines_methodHead {receiver method : String} (hr : IsPlain receiver)
    (hm : IsPlain method) {tail : List Char} (htail : '\n' ∉ tail) :
    scanLines (Utf8.encode ((methodHead receiver method).toList ++ tail ++ ['\n'])) =
      [methodKey receiver method] := by
  have hclear : '\n' ∉ (methodHead receiver method).toList ++ tail := by
    rw [List.mem_append, not_or]
    exact ⟨newline_not_mem_methodHead hr hm, htail⟩
  have hend : (methodHead receiver method).toList.getLast? ≠ some '\r' := by
    rw [getLast?_methodHead]
    decide
  obtain ⟨shorter, hshorter⟩ := exists_dropCarriage_append hend tail
  rw [scanLines_line hclear, hshorter, lineKey?_methodHead hr hm, Option.map_some,
    String.ofList_toList]
  rfl

theorem scanLines_body {body : List Char} (hv : ∀ h, '\n' ∉ value h) (holes : List Hole)
    (hbody : ∀ line ∈ pieces '\n' body, IsBodyLine line) :
    scanLines (Utf8.encode (replaceInTurn value holes body)) = [] := by
  refine DeclaresNothing.scanLines_eq_nil fun piece hpiece => ?_
  rw [pieces_replaceInTurn hv] at hpiece
  obtain ⟨line, hline, rfl⟩ := List.mem_map.mp hpiece
  exact (hbody line hline).not_isDeclaration holes

/-- A method stub declares the method, and nothing else if it has no more lines than its
template. -/
theorem scanLines_methodStub {receiver : String} {method : MethodPlan} (hr : IsPlain receiver)
    (hm : IsPlain method.name) (h : OneLine method) :
    scanLines (Utf8.ofString (methodStub receiver method)) =
      [methodKey receiver method.name] := by
  have hvalue := h.newline_not_mem_value hr hm
  obtain ⟨rest, hrest, hstub⟩ := methodStub_toList hr hm
  obtain ⟨signature, body, hsource, hsignature, hbody⟩ := Template.exists_body hrest
  rw [Utf8.ofString, hstub, hsource, replaceInTurn_append_newline, ← List.append_assoc,
    scanLines_feed_cons, scanLines_methodComment_append hm h.path, scanLines_append_feed,
    scanLines_methodHead hr hm (newline_not_mem_replaceInTurn hvalue _ hsignature),
    scanLines_body hvalue _ hbody, List.append_nil]

/-- What the scan finds in generated text. A type stub gives the type's name without the word
`type`, so it is recognized just if the name does not contain that word. A method stub gives the
method's key, whatever the stub is made of, and no other if it has the lines of its template. -/
theorem scanLines_stubs :
    (∀ receiver : String, ' ' ∉ receiver.toList → '\n' ∉ receiver.toList →
      (∃ kept, Without "type".toList receiver.toList kept ∧
        scanLines (Utf8.ofString (typeStub receiver)) = [String.ofList kept]) ∧
      (receiver ∈ scanLines (Utf8.ofString (typeStub receiver)) ↔
        ¬"type".toList <:+: receiver.toList)) ∧
    ∀ (receiver : String) (method : MethodPlan), IsPlain receiver → IsPlain method.name →
      methodKey receiver method.name ∈ scanLines (Utf8.ofString (methodStub receiver method)) ∧
      (OneLine method → scanLines (Utf8.ofString (methodStub receiver method)) =
        [methodKey receiver method.name]) := by
  refine ⟨fun receiver hspace hfeed => ?_, fun receiver method hr hm => ⟨?_, ?_⟩⟩
  · have hstub := scanLines_typeStub hspace hfeed
    refine ⟨⟨_, without_replaceAll (by decide) receiver.toList, hstub⟩, ?_⟩
    rw [hstub, List.mem_singleton, ← replaceAll_eq_self_iff (by decide), ← String.toList_inj,
      String.toList_ofList]
    exact eq_comm
  · have hmem := mem_scanLines_methodStub hr hm [] []
    rwa [List.nil_append, List.append_nil] at hmem
  · exact scanLines_methodStub hr hm

def chatPlan : MethodPlan :=
  ⟨"Chat", .post, "/$\x7breq\x7d", "Req", "Resp", true, true, none⟩

/-- The search does not go back: what is left of the name holds the word again, but for a
capital. -/
theorem scanLines_stubs_ttypeype :
    ' ' ∉ "Ttypeype".toList ∧ '\n' ∉ "Ttypeype".toList ∧
    scanLines (Utf8.ofString (typeStub "Ttypeype")) = ["Type"] ∧
    "Ttypeype" ∉ scanLines (Utf8.ofString (typeStub "Ttypeype")) ∧
    IsPlain "Ttypeype" ∧ IsPlain chatPlan.name ∧ OneLine chatPlan ∧
    scanLines (Utf8.ofString (methodStub "Ttypeype" chatPlan)) = ["Ttypeype)Chat"] := by
  have hspace : ' ' ∉ "Ttypeype".toList := by decide
  have hfeed : '\n' ∉ "Ttypeype".toList := by decide
  have hplain : IsPlain "Ttypeype" := by decide
  have hline : OneLine chatPlan := ⟨by decide, by decide, by decide⟩
  obtain ⟨⟨kept, hkept, hscan⟩, hrecognized⟩ := scanLines_stubs.1 "Ttypeype" hspace hfeed
  have hleft : kept = "Type".toList := (hkept.eq_replaceAll (by decide)).trans (by decide)
  rw [hleft, String.ofList_toList] at hscan
  refine ⟨hspace, hfeed, hscan, fun hmem => hrecognized.mp hmem (by decide), hplain, by decide,
    hline, ?_⟩
  exact (scanLines_stubs.2 "Ttypeype" chatPlan hplain (by decide)).2 hline

end Handler
end ServiceScaffold
