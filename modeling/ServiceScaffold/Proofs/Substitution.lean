import Mathlib
import ServiceScaffold.Proofs.Declarations

/-!
# Substitution at once

Placeholders that are all replaced at once: the text is read from the left, each placeholder gives
its value, and a value is not read again. For a stub the replacements one after another come to the
same, whatever the path of the method is: no turn finds a placeholder but those of the template.
-/

namespace ServiceScaffold
namespace Handler

open Text

/-- The text with the values of `holes` for their placeholders, all at once. -/
inductive Substitutes (holes : List Hole) (value : Hole → List Char) :
    List Char → List Char → Prop
  | done : Substitutes holes value [] []
  | placeholder {h : Hole} {rest result : List Char} (chosen : h ∈ holes)
      (later : Substitutes holes value rest result) :
      Substitutes holes value (h.placeholder ++ rest) (value h ++ result)
  | other {c : Char} {rest result : List Char}
      (unmatched : ∀ h ∈ holes, ¬h.placeholder <+: c :: rest)
      (later : Substitutes holes value rest result) :
      Substitutes holes value (c :: rest) (c :: result)

theorem Hole.eq_of_placeholder_append {h k : Hole} {rest rest' : List Char}
    (heq : h.placeholder ++ rest = k.placeholder ++ rest') : h = k ∧ rest = rest' := by
  obtain rfl : h = k := by
    by_contra hne
    exact Hole.not_placeholder_prefix hne rest' ⟨rest, heq⟩
  exact ⟨rfl, List.append_cancel_left heq⟩

namespace Substitutes

variable {holes : List Hole} {value : Hole → List Char}

/-- What the values for placeholders make of a text is determined. -/
theorem unique {text result result' : List Char} (hs : Substitutes holes value text result)
    (hs' : Substitutes holes value text result') : result = result' := by
  suffices hall : ∀ text', text = text' → Substitutes holes value text' result' →
      result = result' from hall text rfl hs'
  clear hs'
  induction hs generalizing result' with
  | done =>
    intro text' htext hs'
    cases hs' with
    | done => rfl
    | @placeholder h rest' =>
      exact absurd htext.symm (List.append_ne_nil_of_left_ne_nil h.placeholder_ne_nil rest')
    | other => cases htext
  | @placeholder h rest result chosen later ih =>
    intro text' htext hs'
    cases hs' with
    | done => exact absurd htext (List.append_ne_nil_of_left_ne_nil h.placeholder_ne_nil rest)
    | placeholder chosen' later' =>
      obtain ⟨rfl, hrest⟩ := Hole.eq_of_placeholder_append htext
      rw [ih _ hrest later']
    | other unmatched => exact absurd ⟨rest, htext⟩ (unmatched h chosen)
  | @other c rest result unmatched later ih =>
    intro text' htext hs'
    cases hs' with
    | done => cases htext
    | @placeholder h rest' _ chosen' => exact absurd ⟨rest', htext.symm⟩ (unmatched h chosen')
    | other unmatched' later' =>
      obtain ⟨rfl, hrest⟩ := List.cons.inj htext
      rw [ih _ hrest later']

theorem append_clean {before rest result : List Char} (hbefore : '$' ∉ before)
    (later : Substitutes holes value rest result) :
    Substitutes holes value (before ++ rest) (before ++ result) := by
  induction before with
  | nil => exact later
  | cons c cs ih =>
    obtain ⟨hc, hcs⟩ := List.ne_and_not_mem_of_not_mem_cons hbefore
    refine .other (fun h _ hstart => ?_) (ih hcs)
    obtain ⟨name, hname, -⟩ := h.placeholder_eq_cons
    rw [hname] at hstart
    exact hc (List.cons_prefix_cons.mp hstart).1

/-- A placeholder that is not among those replaced stays as it is. -/
theorem append_placeholder {k : Hole} {rest result : List Char} (hk : k ∉ holes)
    (later : Substitutes holes value rest result) :
    Substitutes holes value (k.placeholder ++ rest) (k.placeholder ++ result) := by
  have hunmatched : ∀ h ∈ holes, ¬h.placeholder <+: k.placeholder ++ rest :=
    fun h hh => Hole.not_placeholder_prefix (ne_of_mem_of_not_mem hh hk) rest
  obtain ⟨name, hname, hclear⟩ := k.placeholder_eq_cons
  rw [hname, List.cons_append] at hunmatched ⊢
  exact .other hunmatched (later.append_clean hclear)

end Substitutes

/-- Substituting in the text of a template fills its holes. -/
theorem substitutes_source (holes : List Hole) (value : Hole → List Char) (template : Template)
    (htext : ∀ s, .text s ∈ template → '$' ∉ s.toList) :
    Substitutes holes value template.source
      (template.partlyFilled fun h => if h ∈ holes then some (value h) else none) := by
  induction template with
  | nil => exact .done
  | cons segment template ih =>
    have hsegments := ih fun s hs => htext s (List.mem_cons_of_mem _ hs)
    rw [Template.source_eq_partlyFilled] at hsegments ⊢
    cases segment with
    | text s => exact hsegments.append_clean (htext s List.mem_cons_self)
    | hole h =>
      simp only [Template.partlyFilled_hole_cons, Option.getD_none]
      by_cases hh : h ∈ holes
      · rw [if_pos hh]
        exact .placeholder hh hsegments
      · rw [if_neg hh]
        exact hsegments.append_placeholder hh

theorem Template.dollar_not_mem_text {mode : StreamMode} {s : String}
    (hs : .text s ∈ Template.of mode) : '$' ∉ s.toList := by
  have hempty : '$' ∉ (Template.of mode).fill fun _ => [] := by
    cases mode <;> decide +kernel
  exact fun hmem => hempty (List.mem_flatMap.mpr ⟨.text s, hs, hmem⟩)

theorem Template.toList_text (mode : StreamMode) :
    (Template.text mode).toList = (Template.of mode).source :=
  String.toList_ofList

/-- The values are free of dollar signs, but for the path, which comes last. -/
def PlainValues (value : Hole → List Char) : Prop :=
  ∀ h, h ≠ .methodPath → '$' ∉ value h

theorem replaceInTurn_source {value : Hole → List Char} (hvalue : PlainValues value)
    {turns : List Hole} (hturns : turns <+: Hole.all) (mode : StreamMode) :
    replaceInTurn value turns (Template.of mode).source =
      (Template.of mode).partlyFilled fun h => if h ∈ turns then some (value h) else none := by
  have hnodup : turns.Nodup := (show Hole.all.Nodup by decide).sublist hturns.sublist
  have hclean : (Template.of mode).Clean fun _ => none := by
    intro segment hsegment
    cases segment with
    | text s => exact Template.dollar_not_mem_text hsegment
    | hole h => simp
  have hlast : .methodPath ∉ turns.dropLast :=
    (show ∀ turns ∈ Hole.all.inits, .methodPath ∉ turns.dropLast by decide) turns
      ((List.mem_inits turns Hole.all).mpr hturns)
  have hfilled := replaceInTurn_partlyFilled (Template.of mode) value hnodup hclean
    (fun _ _ => rfl) (fun h hh _ => hvalue h (ne_of_mem_of_not_mem hh hlast)) []
  rwa [replaceInTurn_nil, List.append_nil, List.append_nil,
    ← Template.source_eq_partlyFilled] at hfilled

theorem Template.fill_append (first rest : Template) (value : Hole → List Char) :
    Template.fill (first ++ rest) value = first.fill value ++ Template.fill rest value := by
  simp [Template.fill]

theorem plainValues {receiver : String} {method : MethodPlan}
    (hreceiver : '$' ∉ receiver.toList) (hname : '$' ∉ method.name.toList)
    (hrequest : '$' ∉ method.requestType.toList) (hreply : '$' ∉ method.replyType.toList) :
    PlainValues (Hole.value receiver method) := by
  intro h hpath
  cases h with
  | serviceName => exact hreceiver
  | methodName => exact hname
  | requestType => exact hrequest
  | replyType => exact hreply
  | methodPath => exact absurd rfl hpath

theorem toList_methodStub (receiver : String) (method : MethodPlan) :
    (methodStub receiver method).toList = replaceInTurn (Hole.value receiver method) Hole.all
      (Template.text method.mode).toList := by
  rw [methodStub, String.toList_ofList, Template.toList_text]

namespace PlainValues

theorem substitutes {value : Hole → List Char} (hvalue : PlainValues value) {turns : List Hole}
    (hturns : turns <+: Hole.all) (mode : StreamMode) :
    Substitutes turns value (Template.text mode).toList
      (replaceInTurn value turns (Template.text mode).toList) := by
  rw [Template.toList_text, replaceInTurn_source hvalue hturns]
  exact substitutes_source turns value _ fun _ => Template.dollar_not_mem_text

variable {receiver : String} {method : MethodPlan}
  (hvalue : PlainValues (Hole.value receiver method))
include hvalue

theorem methodStub_eq_fill : methodStub receiver method =
    String.ofList ((Template.of method.mode).fill (Hole.value receiver method)) := by
  rw [methodStub, replaceInTurn_source hvalue (List.prefix_refl _), Template.fill_eq_partlyFilled]
  simp only [Hole.mem_all, if_true]

theorem substitutes_iff (stub : String) :
    Substitutes Hole.all (Hole.value receiver method) (Template.text method.mode).toList
      stub.toList ↔ stub = methodStub receiver method := by
  have hall := hvalue.substitutes (List.prefix_refl _) method.mode
  rw [← toList_methodStub] at hall
  constructor
  · intro hs
    exact String.toList_inj.mp (hs.unique hall)
  · rintro rfl
    exact hall

theorem exists_methodStub_eq : ∃ rest, methodStub receiver method =
    "\n// " ++ method.name ++ " " ++ method.path ++ "\n" ++ methodHead receiver method.name ++
      rest := by
  obtain ⟨rest, hrest⟩ := Template.exists_of_eq_opening_append method.mode
  refine ⟨String.ofList (Template.fill rest (Hole.value receiver method)), ?_⟩
  rw [hvalue.methodStub_eq_fill, hrest, Template.fill_append, ← String.toList_inj]
  simp [Template.fill, Template.opening, Hole.value, methodHead]

end PlainValues

/-- A stub is the text of its template with all placeholders substituted at once, and there is just
one such text. No turn touches what the turns before it have put in: after any number of them, the
placeholders of these turns have been substituted in the template, and no others. So every hole
has its value, and the path stands in the comment as it is. -/
theorem methodStub_substitutes {receiver : String} {method : MethodPlan}
    (hreceiver : '$' ∉ receiver.toList) (hname : '$' ∉ method.name.toList)
    (hrequest : '$' ∉ method.requestType.toList) (hreply : '$' ∉ method.replyType.toList) :
    (∀ stub : String, Substitutes Hole.all (Hole.value receiver method)
      (Template.text method.mode).toList stub.toList ↔ stub = methodStub receiver method) ∧
    (∀ turns, turns <+: Hole.all → Substitutes turns (Hole.value receiver method)
      (Template.text method.mode).toList
      (replaceInTurn (Hole.value receiver method) turns (Template.text method.mode).toList)) ∧
    methodStub receiver method =
      String.ofList ((Template.of method.mode).fill (Hole.value receiver method)) ∧
    ∃ rest, methodStub receiver method =
      "\n// " ++ method.name ++ " " ++ method.path ++ "\n" ++ methodHead receiver method.name ++
        rest := by
  have hvalue := plainValues hreceiver hname hrequest hreply
  exact ⟨hvalue.substitutes_iff, fun turns hturns => hvalue.substitutes hturns method.mode,
    hvalue.methodStub_eq_fill, hvalue.exists_methodStub_eq⟩

def watchMethod : MethodPlan :=
  ⟨"Watch", .post, "/$\x7breq\x7d/$\x7bmethodPath\x7d", "Req", "Resp", false, true, none⟩

theorem methodStub_substitutes_watch :
    '$' ∉ "Order".toList ∧ '$' ∉ watchMethod.name.toList ∧
    '$' ∉ watchMethod.requestType.toList ∧ '$' ∉ watchMethod.replyType.toList ∧
    ∀ stub : String, Substitutes Hole.all (Hole.value "Order" watchMethod)
      (Template.text .serverStreaming).toList stub.toList ↔
      stub = "\n// Watch /$\x7breq\x7d/$\x7bmethodPath\x7d\n" ++
        "func (s *Order) Watch(req *pb.Req, stream pb.Order_WatchServer) error \x7b\n" ++
        "\treturn stream.Send(&pb.Resp\x7b\x7d)\n\x7d\n" := by
  have hreceiver : '$' ∉ "Order".toList := by decide
  have hname : '$' ∉ watchMethod.name.toList := by decide
  have hrequest : '$' ∉ watchMethod.requestType.toList := by decide
  have hreply : '$' ∉ watchMethod.replyType.toList := by decide
  have htext : methodStub "Order" watchMethod =
      "\n// Watch /$\x7breq\x7d/$\x7bmethodPath\x7d\n" ++
        "func (s *Order) Watch(req *pb.Req, stream pb.Order_WatchServer) error \x7b\n" ++
        "\treturn stream.Send(&pb.Resp\x7b\x7d)\n\x7d\n" := by
    decide +kernel
  refine ⟨hreceiver, hname, hrequest, hreply, fun stub => ?_⟩
  rw [← htext]
  exact (methodStub_substitutes hreceiver hname hrequest hreply).1 stub

end Handler
end ServiceScaffold
