import Mathlib
import ServiceScaffold.Proofs.AppendOnly

/-!
# The directory of the handler files

Handler files and the routing table are entries of one directory, and their paths lead to
different places if their names differ. Once the directory is there, whether an entry can be
opened depends on what stands in it and on nothing else that a run changes.
-/

namespace ServiceScaffold

open FileTree

namespace Path

structure IsEntry (name : String) : Prop where
  noSlash : '/' ∉ name.toList
  nonempty : name ≠ ""
  proper : name ≠ "." ∧ name ≠ ".."

theorem pieces_append_separator {α : Type} [DecidableEq α] (separator : α) (first last : List α) :
    Text.pieces separator (first ++ separator :: last) =
      Text.pieces separator first ++ Text.pieces separator last := by
  induction first with
  | nil => simp [Text.pieces]
  | cons c cs ih =>
    by_cases hc : c = separator
    · simp [Text.pieces, hc, ih]
    · rw [List.cons_append, Text.pieces, if_neg hc, ih, Text.pieces, if_neg hc]
      cases hpieces : Text.pieces separator cs with
      | nil => exact absurd hpieces (Text.pieces_ne_nil separator cs)
      | cons piece rest => rfl

theorem not_isAbsolute_of_not_mem {name : String} (h : '/' ∉ name.toList) :
    isAbsolute name = false := by
  rw [isAbsolute, decide_eq_false_iff_not]
  exact fun hhead => h (List.mem_of_mem_head? hhead)

theorem endsInSlash_iff {path : String} :
    endsInSlash path = true ↔ ∃ before, path.toList = before ++ ['/'] := by
  rw [endsInSlash, decide_eq_true_iff, List.getLast?_eq_some_iff]

theorem steps_of_toList_eq {path name : String} (before : List Char) (hn : IsEntry name)
    (h : path.toList = before ++ '/' :: name.toList) :
    steps path = steps (String.ofList before) ++ [name] := by
  have hname : name.toList ≠ [] := by simpa using hn.nonempty
  rw [steps, h, pieces_append_separator, Text.pieces_of_not_mem hn.noSlash, steps]
  simp [hname]

theorem steps_join (dir : String) {name : String} (hn : IsEntry name) :
    steps (join dir name) = steps dir ++ [name] := by
  unfold join
  rw [not_isAbsolute_of_not_mem hn.noSlash, Bool.false_or]
  split
  · rename_i hempty
    obtain rfl : dir = "" := by simpa using hempty
    have hname : name.toList ≠ [] := by simpa using hn.nonempty
    simp [steps, Text.pieces_of_not_mem hn.noSlash, Text.pieces, hname]
  split
  · rename_i hslash
    obtain ⟨before, hbefore⟩ := endsInSlash_iff.mp hslash
    rw [steps_of_toList_eq before hn (by simp [hbefore])]
    have hdir : steps dir = steps (String.ofList before) := by
      rw [steps, hbefore, pieces_append_separator, steps]
      simp [Text.pieces]
    rw [hdir]
  · rw [steps_of_toList_eq dir.toList hn (by simp), String.ofList_toList]

theorem isAbsolute_join (dir : String) {name : String} (hn : IsEntry name) :
    isAbsolute (join dir name) = isAbsolute dir := by
  have hname := not_isAbsolute_of_not_mem hn.noSlash
  unfold join
  rw [hname, Bool.false_or]
  split
  · rename_i hempty
    obtain rfl : dir = "" := by simpa using hempty
    exact hname
  · rename_i hne
    have hdir : dir.toList ≠ [] := by simpa using hne
    obtain ⟨c, cs, hcs⟩ := List.exists_cons_of_ne_nil hdir
    split <;> simp [isAbsolute, hcs]

theorem endsInSlash_join (dir : String) {name : String} (hn : IsEntry name) :
    endsInSlash (join dir name) = false := by
  have hname : name.toList ≠ [] := by simpa using hn.nonempty
  have hlast : ∀ before, (before ++ name.toList).getLast? ≠ some '/' := by
    intro before h
    rw [List.getLast?_append_of_ne_nil _ hname] at h
    exact hn.noSlash (List.mem_of_mem_getLast? h)
  rw [endsInSlash, decide_eq_false_iff_not]
  unfold join
  rw [not_isAbsolute_of_not_mem hn.noSlash, Bool.false_or]
  split
  · exact hlast []
  split
  · rw [String.toList_append]
    exact hlast _
  · rw [String.toList_append, String.toList_append]
    exact hlast _

theorem size_append (first last : String) : size (first ++ last) = size first + size last := by
  simp [size, Utf8.ofString, Utf8.encode_append]

end Path

namespace FileTree

open ServiceScaffold.Path

variable {tree before after : FileTree} {dir name : String} {place reached : Location}

theorem checkPath_eq_ok_iff {path : String} {u : Unit} :
    checkPath path = .ok u ↔
      '\x00' ∉ path.toList ∧ path ≠ "" ∧ Path.size path ≤ Path.maxSize := by
  unfold checkPath
  split
  · simp_all
  split
  · simp_all
  split
  · simp_all
  · simp_all

theorem checkPath_of_join (hn : IsEntry name) (hdir : dir ≠ "")
    (h : checkPath (join dir name) = .ok ()) : checkPath dir = .ok () := by
  obtain ⟨hnul, -, hsize⟩ := checkPath_eq_ok_iff.mp h
  have hjoin : ∃ rest, join dir name = dir ++ rest := by
    unfold join
    rw [not_isAbsolute_of_not_mem hn.noSlash, Bool.false_or, if_neg (by simpa using hdir)]
    split
    · exact ⟨name, rfl⟩
    · exact ⟨"/" ++ name, String.append_assoc⟩
  obtain ⟨rest, hrest⟩ := hjoin
  rw [hrest, String.toList_append, List.mem_append, not_or] at hnul
  rw [hrest, size_append] at hsize
  exact checkPath_eq_ok_iff.mpr ⟨hnul.1, hdir, by omega⟩

/-- Followed name by name, the path ends in a directory. -/
structure LeadsInto (tree : FileTree) (path : String) (place : Location) : Prop where
  walked : tree.walk (tree.origin path) (steps path) = .ok place
  directory : tree.node? place = some .directory

theorem Keeps.leadsInto (h : Keeps before after) (hl : LeadsInto before dir place) :
    LeadsInto after dir place where
  walked := by
    rw [h.origin]
    exact h.walk hl.walked
  directory := h.directory hl.directory

theorem LeadsInto.of_put_file {content : Bytes} (hfree : tree.node? reached ≠ some .directory)
    (h : LeadsInto (tree.put reached (.file content)) dir place) : LeadsInto tree dir place := by
  have hdirectory := (node?_put_eq_directory_iff hfree).mp h.directory
  refine ⟨(walk_put_file hfree h.walked).resolve_left ?_, hdirectory⟩
  rintro rfl
  exact hfree hdirectory

theorem origin_join (tree : FileTree) (dir : String) (hn : IsEntry name) :
    tree.origin (join dir name) = tree.origin dir := by
  rw [origin, isAbsolute_join dir hn, origin]

/-- A path to an entry leads to the entry's place in the directory. -/
theorem leadsInto_of_leads (hn : IsEntry name) (h : tree.Leads (join dir name) reached) :
    ∃ place, LeadsInto tree dir place ∧ reached = place ++ [name] ∧ size name ≤ maxNameSize := by
  obtain ⟨node, hfind⟩ := h
  obtain ⟨-, hwalk, -, -⟩ := find_eq_ok_iff.mp hfind
  rw [steps_join dir hn, origin_join tree dir hn] at hwalk
  obtain ⟨place, hdir, hlast⟩ := walk_append_eq_ok_iff.mp hwalk
  obtain ⟨next, hstep, hnext⟩ := walk_cons_eq_ok_iff.mp hlast
  cases hnext
  obtain ⟨hchild, -⟩ := step_eq_ok_iff.mp hstep
  have hdirectory := directory_of_child hchild
  rw [child_of_directory hdirectory, if_neg hn.proper.1, if_neg hn.proper.2] at hchild
  split at hchild
  · cases hchild
  · rename_i hfits
    cases hchild
    exact ⟨place, ⟨hdir, hdirectory⟩, rfl, Nat.not_lt.mp hfits⟩

theorem last_eq_of_append_eq {first second : Location} {name name' : String}
    (h : first ++ [name] = second ++ [name']) : name = name' :=
  List.singleton_inj.mp (List.append_inj_right' h rfl)

theorem ne_of_leads {name' : String} (hn : IsEntry name) (hn' : IsEntry name') (hne : name ≠ name')
    (h : tree.Leads (join dir name) place) (h' : tree.Leads (join dir name') reached) :
    place ≠ reached := by
  obtain ⟨first, -, rfl, -⟩ := leadsInto_of_leads hn h
  obtain ⟨second, -, rfl, -⟩ := leadsInto_of_leads hn' h'
  intro heq
  exact hne (last_eq_of_append_eq heq)

/-- Once the directory is there, opening an entry fails for its path, its name, or a directory
that stands in its place. -/
theorem openFresh_join (h : LeadsInto tree dir place) (hn : IsEntry name) :
    tree.openFresh (join dir name) = checkPath (join dir name) >>= fun _ =>
      if maxNameSize < size name then .error .nameTooLong
      else if tree.node? (place ++ [name]) = some .directory then .error .isDirectory
      else .ok (place ++ [name]) := by
  have hrequire : tree.requireDirectory place = .ok () := requireDirectory_eq_ok_iff.mpr h.directory
  have hslash : endsInSlash (join dir name) = false := endsInSlash_join dir hn
  cases hcheck : checkPath (join dir name) with
  | error refusal => simp [openFresh, holder, hcheck, bind, Except.bind]
  | ok u =>
    simp only [openFresh, holder, hcheck, steps_join dir hn, List.reverse_append,
      List.reverse_cons, List.reverse_nil, List.nil_append, List.singleton_append,
      List.reverse_reverse, origin_join tree dir hn, h.walked, hrequire, bind, Except.bind, pure,
      Except.pure, child_of_directory h.directory, if_neg hn.proper.1, if_neg hn.proper.2]
    by_cases hlong : maxNameSize < size name
    · simp [hlong]
    · simp [hlong, hn.proper.1, hn.proper.2, hslash]

theorem leadsInto_of_openFresh (hn : IsEntry name)
    (h : tree.openFresh (join dir name) = .ok reached) :
    ∃ place, LeadsInto tree dir place ∧ reached = place ++ [name] := by
  obtain ⟨place, last, hslot, rfl, -, -⟩ := openFresh_eq_ok_iff.mp h
  obtain ⟨steps', hsteps, hwalk⟩ := hslot.walked
  rw [steps_join dir hn] at hsteps
  obtain ⟨rfl, hlast⟩ := List.append_inj' hsteps rfl
  rw [origin_join tree dir hn] at hwalk
  cases hlast
  exact ⟨place, ⟨hwalk, hslot.directory⟩, rfl⟩

/-- The path of an entry is refused, whatever stands in the directory. -/
inductive Unfit (path name : String) : Refusal → Prop
  | path {refusal : Refusal} (checked : checkPath path = .error refusal) : Unfit path name refusal
  | name (checked : checkPath path = .ok ()) (long : maxNameSize < size name) :
      Unfit path name .nameTooLong

theorem unfit_of_openFresh {refusal : Refusal} (h : LeadsInto tree dir place) (hn : IsEntry name)
    (habsent : tree.exists? (join dir name) = false)
    (hopen : tree.openFresh (join dir name) = .error refusal) :
    Unfit (join dir name) name refusal := by
  rw [openFresh_join h hn] at hopen
  cases hcheck : checkPath (join dir name) with
  | error reason =>
    rw [hcheck] at hopen
    cases hopen
    exact .path hcheck
  | ok u =>
    rw [hcheck] at hopen
    simp only [bind, Except.bind] at hopen
    split at hopen
    · cases hopen
      exact .name hcheck ‹_›
    split at hopen
    · -- A directory in the entry's place would have been found there.
      rename_i hlong hdirectory
      have hslot : tree.Slot (join dir name) place name :=
        ⟨hcheck, ⟨steps dir, steps_join dir hn, by rw [origin_join tree dir hn]; exact h.walked⟩,
          h.directory, hn.proper, Nat.not_lt.mp hlong⟩
      have hexists := exists?_eq_true_iff.mpr ⟨_, _, hslot.find hdirectory fun _ => rfl⟩
      rw [habsent] at hexists
      cases hexists
    · cases hopen

theorem Unfit.exists?_eq_false {refusal : Refusal} (h : Unfit (join dir name) name refusal)
    (hn : IsEntry name) (tree : FileTree) : tree.exists? (join dir name) = false := by
  rw [Bool.eq_false_iff]
  intro hexists
  obtain ⟨reached, hleads⟩ := exists?_eq_true_iff.mp hexists
  obtain ⟨-, -, -, hfits⟩ := leadsInto_of_leads hn hleads
  obtain ⟨node, hfind⟩ := hleads
  obtain ⟨hcheck, -, -, -⟩ := find_eq_ok_iff.mp hfind
  cases h with
  | path checked =>
    rw [hcheck] at checked
    cases checked
  | name checked long => omega

theorem Unfit.openFresh_eq {refusal : Refusal} (h : Unfit (join dir name) name refusal)
    (hl : LeadsInto tree dir place) (hn : IsEntry name) :
    tree.openFresh (join dir name) = .error refusal := by
  rw [openFresh_join hl hn]
  cases h with
  | path checked =>
    rw [checked]
    rfl
  | name checked long =>
    rw [checked]
    exact if_pos long

theorem LeadsInto.find (h : LeadsInto tree dir place) (hcheck : checkPath dir = .ok ()) :
    tree.find dir = .ok (place, .directory) :=
  find_eq_ok_iff.mpr ⟨hcheck, h.walked, fun _ => rfl, h.directory⟩

theorem LeadsInto.makeDirectory_eq (h : LeadsInto tree dir place)
    (hcheck : checkPath dir = .ok ()) :
    tree.makeDirectory dir = .error .alreadyExists := by
  have hwalked := h.walked
  rcases List.eq_nil_or_concat (steps dir) with hnil | ⟨first, last, hsteps⟩
  · simp [makeDirectory, holder, hcheck, hnil, bind, Except.bind]
  · rw [hsteps, List.concat_eq_append] at hwalked
    obtain ⟨above, habove, hlast⟩ := walk_append_eq_ok_iff.mp hwalked
    obtain ⟨next, hstep, hnext⟩ := walk_cons_eq_ok_iff.mp hlast
    cases hnext
    obtain ⟨hchild, hsome⟩ := step_eq_ok_iff.mp hstep
    have hrequire : tree.requireDirectory above = .ok () :=
      requireDirectory_eq_ok_iff.mpr (directory_of_child hchild)
    simp [makeDirectory, holder, hcheck, hsteps, habove, hrequire, hchild, hsome, bind,
      Except.bind, pure, Except.pure]

theorem LeadsInto.makeDirectories_eq (h : LeadsInto tree dir place)
    (hcheck : dir ≠ "" → checkPath dir = .ok ()) : tree.makeDirectories dir = ⟨tree, none⟩ := by
  unfold makeDirectories
  split
  · rfl
  · rename_i hempty
    have hchecked := hcheck (by simpa using hempty)
    have hdirectory : tree.isDirectory dir = true := by
      rw [isDirectory, h.find hchecked]
    have hunder (above : Attempt) : tree.makeUnder dir above = ⟨tree, none⟩ := by
      rw [makeUnder, h.makeDirectory_eq hchecked]
      exact if_pos hdirectory
    cases (movingSteps dir).dropLast.reverse with
    | nil => exact hunder _
    | cons name rest => exact hunder _

end FileTree

namespace Handler

open ServiceScaffold.Path

theorem slash_not_mem_lowercase {c : Char} (hc : c ≠ '/') : '/' ∉ Text.lowercase c := by
  have hruns : ∀ run ∈ Text.lowercaseRuns, 47 < (run.1 : Int) + run.2.2.2 := by decide +kernel
  unfold Text.lowercase
  split
  · decide
  split
  · rename_i first last stride distance hfind
    have hrun : 47 < (first : Int) + distance := hruns _ (List.mem_of_find?_eq_some hfind)
    have hon := List.find?_some hfind
    simp only [Text.onRun, Bool.and_eq_true, decide_eq_true_eq] at hon
    rw [List.mem_singleton]
    intro heq
    have hcode : 47 = (Char.ofNat ((c.toNat : Int) + distance).toNat).toNat :=
      congrArg Char.toNat heq
    rw [Char.toNat_ofNat] at hcode
    split at hcode
    · omega
    · cases hcode
  · simpa using hc.symm

theorem slash_not_mem_snakeChar {c : Char} (hc : c ≠ '/') (first : Bool) :
    '/' ∉ snakeChar first c := by
  have hlower := slash_not_mem_lowercase hc
  unfold snakeChar
  split
  · split
    · exact hlower
    · rw [List.mem_cons, not_or]
      exact ⟨by decide, hlower⟩
  · simpa using hc.symm

theorem mem_of_mem_shortName {receiver : List Char} {c : Char} (h : c ∈ shortName receiver) :
    c ∈ receiver := by
  unfold shortName at h
  split at h
  · rename_i d cs hdrop
    rw [Text.dropEnding?, Option.map_eq_some_iff] at hdrop
    obtain ⟨rest, hrest, hreverse⟩ := hdrop
    rw [← hreverse, List.mem_reverse] at h
    rw [← List.mem_reverse, Text.dropStart?_eq_some_iff.mp hrest]
    exact List.mem_append_right _ h
  · exact h

theorem isEntry_fileName {receiver : String} (h : '/' ∉ receiver.toList) :
    IsEntry (fileName receiver) := by
  have hlength : 3 ≤ (fileName receiver).toList.length := by
    simp [fileName]
  refine ⟨?_, ?_, ?_, ?_⟩
  · have hshorter : ∀ c ∈ shortName receiver.toList, c ≠ '/' :=
      fun c hc heq => h (mem_of_mem_shortName (heq ▸ hc))
    rw [fileName, String.toList_ofList, List.mem_append, not_or]
    refine ⟨?_, by decide⟩
    cases hshort : shortName receiver.toList with
    | nil => simp [snakeCase]
    | cons c cs =>
      rw [hshort] at hshorter
      rw [snakeCase, List.mem_append, List.mem_flatMap, not_or]
      refine ⟨slash_not_mem_snakeChar (hshorter c List.mem_cons_self) true, ?_⟩
      rintro ⟨d, hd, hslash⟩
      exact slash_not_mem_snakeChar (hshorter d (List.mem_cons_of_mem c hd)) false hslash
  all_goals
    intro heq
    rw [heq] at hlength
    exact absurd hlength (by decide)

end Handler

theorem isEntry_routingFileName : Path.IsEntry routingFileName :=
  ⟨by decide, by decide, by decide⟩

end ServiceScaffold
