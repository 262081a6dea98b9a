import Mathlib
import ServiceScaffold.Schema.Source
import ServiceScaffold.Proofs.SuccessfulRuns

/-!
# Names of parsed services

What is parsed keeps the order of the description files. A pool has no name twice, so no two parsed
services have the same full name. Their Go names are camel case, which has no dots, and in camel
case names that differ can become equal.
-/

namespace ServiceScaffold

open Schema

theorem forall₂_of_mapM {ε α β : Type} {f : α → Except ε β} {as : List α} {bs : List β}
    (h : as.mapM f = .ok bs) : List.Forall₂ (fun a b => f a = .ok b) as bs := by
  induction as generalizing bs with
  | nil =>
    rw [List.mapM_nil] at h
    cases h
    exact .nil
  | cons a as ih =>
    rw [List.mapM_cons] at h
    obtain ⟨b, hb, h⟩ := bind_eq_ok_iff.mp h
    obtain ⟨rest, hrest, h⟩ := bind_eq_ok_iff.mp h
    cases h
    exact .cons hb (ih hrest)

theorem map_eq_of_forall₂ {α β γ : Type} {R : α → β → Prop} {f : α → γ} {g : β → γ}
    {as : List α} {bs : List β} (h : List.Forall₂ R as bs) (hR : ∀ a b, R a b → g b = f a) :
    bs.map g = as.map f := by
  induction h with
  | nil => rfl
  | cons hhead _ ih => rw [List.map_cons, List.map_cons, hR _ _ hhead, ih]

theorem forall_of_forall₂ {α β : Type} {R : α → β → Prop} {P : β → Prop} {as : List α}
    {bs : List β} (h : List.Forall₂ R as bs) (hR : ∀ a b, R a b → P b) : ∀ b ∈ bs, P b := by
  induction h with
  | nil => exact fun _ hb => absurd hb List.not_mem_nil
  | cons hhead _ ih => exact List.forall_mem_cons.mpr ⟨hR _ _ hhead, ih⟩

theorem of_forM {ε α : Type} {f : α → Except ε Unit} {as : List α} (h : as.forM f = .ok ()) :
    ∀ a ∈ as, f a = .ok () := by
  rw [List.forM_eq_forM] at h
  induction as with
  | nil => exact fun _ ha => absurd ha List.not_mem_nil
  | cons a as ih =>
    rw [List.forM_cons] at h
    obtain ⟨⟨⟩, ha, hrest⟩ := bind_eq_ok_iff.mp h
    exact List.forall_mem_cons.mpr ⟨ha, ih hrest⟩

namespace Schema

theorem require_eq_ok_iff {condition : Bool} {fault : PoolFault} :
    require condition fault = .ok () ↔ condition = true := by
  unfold require
  split <;> simp_all

theorem Definitions.find_eq_none_iff {known : Definitions} {name : String} :
    known.find name = none ↔ ∀ definition ∈ known, definition.name ≠ name := by
  simp [Definitions.find, List.find?_eq_none]

theorem define_eq_ok {known later : Definitions} {definition : Definition}
    (h : define known definition = .ok later) :
    (definition.kind ≠ .package → known.find definition.name = none) ∧
      ∀ name, later.find name = none ↔ known.find name = none ∧ definition.name ≠ name := by
  unfold define at h
  split at h
  · rename_i hnone
    cases h
    refine ⟨fun _ => hnone, fun name => ?_⟩
    simp only [Definitions.find_eq_none_iff, List.mem_append, List.mem_singleton]
    constructor
    · exact fun hall => ⟨fun d hd => hall d (Or.inl hd), hall definition (Or.inr rfl)⟩
    · rintro ⟨hknown, hnew⟩ d (hd | rfl)
      · exact hknown d hd
      · exact hnew
  · rename_i earlier hearlier
    split at h
    · rename_i hpackages
      cases h
      refine ⟨fun hkind => absurd hpackages.2 hkind, fun name => ⟨fun hnone => ?_, And.left⟩⟩
      refine ⟨hnone, ?_⟩
      rintro rfl
      rw [hearlier] at hnone
      cases hnone
    · cases h

theorem nodup_of_foldlM_define {definitions : List Definition} {known last : Definitions}
    (h : definitions.foldlM define known = .ok last) :
    (∀ definition ∈ definitions, definition.kind ≠ .package →
        known.find definition.name = none) ∧
      ((definitions.filter fun definition => definition.kind ≠ .package).map
        Definition.name).Nodup := by
  induction definitions generalizing known with
  | nil => simp
  | cons first rest ih =>
    rw [List.foldlM_cons] at h
    obtain ⟨later, hfirst, hrest⟩ := bind_eq_ok_iff.mp h
    obtain ⟨hnew, hfind⟩ := define_eq_ok hfirst
    obtain ⟨hfresh, hnodup⟩ := ih hrest
    have hlater := fun definition hd hkind => (hfind _).mp (hfresh definition hd hkind)
    refine ⟨List.forall_mem_cons.mpr ⟨hnew, fun d hd hkind => (hlater d hd hkind).1⟩, ?_⟩
    by_cases hkind : first.kind = .package
    · simpa [hkind] using hnodup
    · rw [List.filter_cons_of_pos (by simpa using hkind), List.map_cons, List.nodup_cons]
      refine ⟨fun hmem => ?_, hnodup⟩
      obtain ⟨d, hd, hname⟩ := List.mem_map.mp hmem
      obtain ⟨hd, hpackage⟩ := List.mem_filter.mp hd
      exact (hlater d hd (by simpa using hpackage)).2 hname.symm

theorem sublist_serviceDefinitions (position : Nat) (services : List ServiceDeclaration) :
    (services.map ServiceDeclaration.fullName).Sublist
      (((services.flatMap (File.serviceDefinitions position)).filter fun definition =>
        definition.kind ≠ .package).map Definition.name) := by
  induction services with
  | nil => simp
  | cons service rest ih =>
    rw [List.flatMap_cons, List.filter_append, List.map_append, File.serviceDefinitions,
      List.filter_cons_of_pos (by simp), List.map_cons, List.map_cons, List.cons_append]
    exact (ih.trans (List.sublist_append_right _ _)).cons_cons _

def File.ownNames (file : File) (position : Nat) : List String :=
  ((file.definitions position).filter fun definition => definition.kind ≠ .package).map
    Definition.name

theorem sublist_ownNames (file : File) (position : Nat) :
    (file.services.map ServiceDeclaration.fullName).Sublist (file.ownNames position) := by
  refine (sublist_serviceDefinitions position file.services).trans ?_
  refine (List.Sublist.filter _ ?_).map _
  rw [File.definitions]
  exact (List.sublist_append_right _ _).trans (List.sublist_append_left _ _)

theorem nodup_flatMap_of_collectNames {files : List File} {definitions : Definitions}
    (h : collectNames files = .ok definitions) {names : File → List String}
    (hnames : ∀ file position, (names file).Sublist (file.ownNames position)) :
    (files.flatMap names).Nodup := by
  obtain ⟨⟨⟩, -, hdefine⟩ := bind_eq_ok_iff.mp h
  refine (nodup_of_foldlM_define hdefine).2.sublist ?_
  have hoffset (position : Nat) : (files.flatMap names).Sublist
      ((((files.zipIdx position).flatMap fun entry =>
        entry.1.definitions entry.2).filter fun definition => definition.kind ≠ .package).map
          Definition.name) := by
    clear hdefine h
    induction files generalizing position with
    | nil => simp
    | cons file rest ih =>
      rw [List.flatMap_cons, List.zipIdx_cons, List.flatMap_cons, List.filter_append,
        List.map_append]
      exact (hnames file position).append (ih (position + 1))
  exact hoffset 0

/-- In a pool no two services have the same full name, and no two files the same name. -/
theorem nodup_of_collectNames {files : List File} {definitions : Definitions}
    (h : collectNames files = .ok definitions) :
    (files.map File.name).Nodup ∧
      (files.flatMap fun file => file.services.map ServiceDeclaration.fullName).Nodup := by
  refine ⟨?_, nodup_flatMap_of_collectNames h sublist_ownNames⟩
  obtain ⟨⟨⟩, hfiles, -⟩ := bind_eq_ok_iff.mp h
  rw [List.nodup_iff_count_le_one]
  intro name
  by_cases hname : name ∈ files.map File.name
  · obtain ⟨file, hfile, rfl⟩ := List.mem_map.mp hname
    obtain ⟨⟨⟩, hcount, -⟩ := bind_eq_ok_iff.mp (of_forM hfiles file hfile)
    have hone := require_eq_ok_iff.mp hcount
    rw [decide_eq_true_iff] at hone
    rw [List.count, List.countP_map, List.countP_eq_length_filter]
    exact hone.le
  · simp [List.count_eq_zero_of_not_mem hname]

theorem files_of_ofFiles {files : List File} {pool : Pool} (h : Pool.ofFiles files = .ok pool) :
    (∃ definitions, collectNames files = .ok definitions) ∧
      pool.files.map ResolvedFile.file = files ∧
      ∀ resolved ∈ pool.files,
        resolved.services.map ResolvedService.service = resolved.file.services := by
  simp only [Pool.ofFiles, bind_eq_ok_iff] at h
  obtain ⟨definitions, hnames, contexts, hcontexts, _, -, _, -, _, -, resolved, hresolved, _, -, h⟩
    := h
  cases h
  have hservices (context : Context) (file : ResolvedFile)
      (hfile : (do pure (⟨context.file, ← context.file.services.mapM context.service⟩ :
        ResolvedFile)) = Except.ok file) :
      file.file = context.file ∧
        file.services.map ResolvedService.service = file.file.services := by
    obtain ⟨services, hservices, hfile⟩ := bind_eq_ok_iff.mp hfile
    cases hfile
    refine ⟨rfl, (map_eq_of_forall₂ (f := id) (forall₂_of_mapM hservices) ?_).trans
      (List.map_id _)⟩
    intro service resolved hresolved
    obtain ⟨methods, -, hresolved⟩ := bind_eq_ok_iff.mp hresolved
    cases hresolved
    rfl
  have hfiles : contexts.map Context.file = files := by
    have hnumbered := map_eq_of_forall₂ (f := Prod.fst) (g := Context.file)
      (forall₂_of_mapM hcontexts) fun entry context hcontext => by
        obtain ⟨visible, -, hcontext⟩ := bind_eq_ok_iff.mp hcontext
        cases hcontext
        rfl
    rw [hnumbered, numbered, List.zipIdx_map_fst]
  refine ⟨⟨definitions, hnames⟩, ?_, ?_⟩
  · rw [← hfiles]
    exact map_eq_of_forall₂ (forall₂_of_mapM hresolved) fun _ _ h => (hservices _ _ h).1
  · exact forall_of_forall₂ (forall₂_of_mapM hresolved) fun _ _ h => (hservices _ _ h).2

theorem find?_of_unique {α : Type} {p : α → Bool} {as : List α} {a : α} (h : a ∈ as)
    (ha : p a = true) (hunique : ∀ other ∈ as, p other = true → other = a) :
    as.find? p = some a := by
  cases hfound : as.find? p with
  | none => exact absurd ha (List.find?_eq_none.mp hfound a h)
  | some other =>
    rw [hunique other (List.mem_of_find?_eq_some hfound) (List.find?_some hfound)]

theorem find?_of_nodup {α β : Type} [DecidableEq β] {key : α → β} {as : List α}
    (hnodup : (as.map key).Nodup) {a : α} (h : a ∈ as) :
    as.find? (fun other => key other = key a) = some a :=
  find?_of_unique h (by simp) fun _ hother hkey =>
    List.inj_on_of_nodup_map hnodup hother h (by simpa using hkey)

theorem file?_of_mem {pool : Pool} (hnodup : (pool.files.map fun file => file.file.name).Nodup)
    {resolved : ResolvedFile} (h : resolved ∈ pool.files) :
    pool.file? resolved.file.name = some resolved :=
  find?_of_nodup hnodup h

end Schema

namespace Source

/-- The source holds the pool of declared files, and their names in order. -/
def Pooled (source : Source) : Prop :=
  ∃ declared, Pool.ofFiles declared = .ok source.pool ∧ source.files = declared.map File.name

variable {source : Source} {files : List SourceFile}

theorem serviceOf_eq_ok {pool : Pool} {resolved : ResolvedService} {service : Service}
    (h : serviceOf pool resolved = .ok service) :
    service.fullName = resolved.service.fullName ∧
      service.goName = Go.camelCase resolved.service.name ∧
      ∀ rpc ∈ service.methods, rpc.goName = Go.camelCase rpc.name := by
  obtain ⟨methods, hmethods, h⟩ := bind_eq_ok_iff.mp h
  cases h
  refine ⟨rfl, rfl, forall_of_forall₂ (forall₂_of_mapM hmethods) fun method rpc hrpc => ?_⟩
  obtain ⟨binding, -, hrpc⟩ := bind_eq_ok_iff.mp hrpc
  cases hrpc
  rfl

theorem sourceFileOf_eq_ok {pool : Pool} {generate : Bool} {resolved : ResolvedFile}
    {file : SourceFile} (h : sourceFileOf pool generate resolved = .ok file) :
    List.Forall₂ (fun service parsed => serviceOf pool service = .ok parsed) resolved.services
      file.services := by
  obtain ⟨services, hservices, h⟩ := bind_eq_ok_iff.mp h
  cases h
  exact forall₂_of_mapM hservices

theorem goName_of_parse (h : source.parse = .ok files) :
    ∀ file ∈ files, ∀ service ∈ file.services,
      (∃ name, service.goName = Go.camelCase name) ∧
        ∀ rpc ∈ service.methods, rpc.goName = Go.camelCase rpc.name := by
  refine forall_of_forall₂ (forall₂_of_mapM h) fun name file hfile => ?_
  split at hfile
  · cases hfile
  · refine forall_of_forall₂ (sourceFileOf_eq_ok hfile) fun resolved service hservice => ?_
    obtain ⟨-, hname, hmethods⟩ := serviceOf_eq_ok hservice
    exact ⟨⟨_, hname⟩, hmethods⟩

/-- The files of a pool are parsed one after another. -/
theorem forall₂_of_parse (hpooled : source.Pooled) (h : source.parse = .ok files) :
    List.Forall₂ (fun resolved file =>
      sourceFileOf source.pool (source.isTarget resolved.file.name) resolved = .ok file)
      source.pool.files files := by
  obtain ⟨declared, hpool, hnames⟩ := hpooled
  obtain ⟨⟨definitions, hdefinitions⟩, hfiles, -⟩ := files_of_ofFiles hpool
  have hnodup := (nodup_of_collectNames hdefinitions).1
  have hparsed := forall₂_of_mapM h
  rw [hnames, ← hfiles, List.map_map, List.forall₂_map_left_iff] at hparsed
  rw [← hfiles, List.map_map] at hnodup
  have hmem := (List.forall₂_and_left (p := (· ∈ source.pool.files)) _ _).mpr
    ⟨fun _ => id, hparsed⟩
  refine hmem.imp fun resolved file ⟨hresolved, hfile⟩ => ?_
  rwa [Function.comp_apply, file?_of_mem hnodup hresolved] at hfile

theorem nodup_fullName_of_parse (hpooled : source.Pooled) (h : source.parse = .ok files) :
    (files.flatMap fun file => file.services.map Service.fullName).Nodup := by
  have hforall := forall₂_of_parse hpooled h
  obtain ⟨declared, hpool, -⟩ := hpooled
  obtain ⟨⟨definitions, hdefinitions⟩, hfiles, hservices⟩ := files_of_ofFiles hpool
  have hnames : files.map (fun file => file.services.map Service.fullName) =
      source.pool.files.map fun resolved =>
        resolved.services.map fun service => service.service.fullName :=
    map_eq_of_forall₂ hforall fun resolved file hfile =>
      map_eq_of_forall₂ (sourceFileOf_eq_ok hfile) fun _ _ hservice => (serviceOf_eq_ok hservice).1
  have hresolved : source.pool.files.map (fun resolved =>
        resolved.services.map fun service => service.service.fullName) =
      declared.map fun file => file.services.map ServiceDeclaration.fullName := by
    rw [← hfiles, List.map_map]
    refine List.map_congr_left fun resolved hmem => ?_
    rw [Function.comp_apply, ← hservices resolved hmem, List.map_map]
    rfl
  have hnodup := (nodup_of_collectNames hdefinitions).2
  rw [List.flatMap_def] at hnodup ⊢
  rwa [hnames, hresolved]

end Source

def Schema.ServiceDeclaration.named (scope message name : String) (methods : List String) :
    ServiceDeclaration where
  name := name
  fullName := qualify scope name
  methods := methods.map fun method =>
    ⟨method, qualify (qualify scope name) method, message, message, false, false, none⟩
  options := none

def Schema.File.named (package : String) (services : List (String × List String)) : File where
  name := package ++ ".proto"
  package := package
  language := none
  goPackage := none
  dependencies := []
  publicDependencies := []
  messages := [⟨qualify package "Req", [], [], [], [], none⟩]
  enumerations := []
  extensions := []
  services := services.map fun entry =>
    ServiceDeclaration.named package "Req" entry.1 entry.2
  options := none

def Source.parseDeclared (declared : List File) : Except Fault (List SourceFile) :=
  match Pool.ofFiles declared with
  | .ok pool => parse ⟨pool, declared.map File.name, none, none⟩
  | .error fault => .error (noPool fault)

theorem Source.exists_pooled_of_parseDeclared {declared : List File} {files : List SourceFile}
    (h : parseDeclared declared = .ok files) :
    ∃ source : Source, source.Pooled ∧ source.parse = .ok files := by
  unfold parseDeclared at h
  split at h
  · rename_i pool hpool
    exact ⟨_, ⟨declared, hpool, rfl⟩, h⟩
  · cases h

namespace Go

theorem toUpper_ne_dot {c : Char} (h : c ≠ '.') : c.toUpper ≠ '.' := by
  unfold Char.toUpper
  split
  · rename_i hlower
    intro heq
    have hbounds : 97 ≤ c.toNat ∧ c.toNat ≤ 122 := hlower
    have hcode : (c.toNat + 4294967264) % 4294967296 = 46 := by
      simpa using congrArg Char.toNat heq
    omega
  · exact h

theorem dot_not_mem_camelFrom (atStart inWord : Bool) (cs : List Char) :
    '.' ∉ camelFrom atStart inWord cs := by
  induction cs generalizing atStart inWord with
  | nil => simp [camelFrom]
  | cons c cs ih =>
    have hcons {d : Char} (hd : d ≠ '.') (first word : Bool) :
        '.' ∉ d :: camelFrom first word cs :=
      List.not_mem_cons_of_ne_of_not_mem (Ne.symm hd) (ih first word)
    rw [camelFrom]
    by_cases hdot : c = '.'
    · subst hdot
      have hlower : ('.' : Char).isLower = false := by decide
      simp only [hlower, Bool.and_false, Bool.false_eq_true, if_false, if_true]
      split
      · exact ih true false
      · exact hcons (by decide) true false
    · simp only [if_neg hdot]
      split
      · exact hcons hdot false true
      split
      · split
        · exact hcons (by decide) false false
        split
        · exact ih false false
        · exact hcons (by decide) false false
      split
      · exact hcons hdot false false
      · exact hcons (toUpper_ne_dot hdot) false true

theorem dot_not_mem_camelCase (name : String) : '.' ∉ (camelCase name).toList := by
  rw [camelCase, String.toList_ofList]
  exact dot_not_mem_camelFrom true false name.toList

end Go
end ServiceScaffold
