import Mathlib
import ResourceLookup.Access
import ResourceLookup.Proofs.Chain.Consultation
import ResourceLookup.Proofs.Files.Absent
import ResourceLookup.Proofs.Modules.Missing
import ResourceLookup.Proofs.Streams.Opening

/-!
# Absence along a chain

A resolver that holds nothing under a name answers that it has nothing. When each resolver of a
chain does, so does the chain, and only who wants the resource or the class itself is told by a
fault that it is not there. For that a resolver must be able to look: the file system takes the
paths that it looks at, an archive is one, a package can be imported or is missing, and a module has
a name that the import system takes.
-/

namespace ResourceLookup

open Import

variable {around : Surroundings} {name : Text}

/-! ## Packages -/

namespace PackageFiles

variable {package : Text} {s : ModuleSpace}

/-- The files of the package can be looked at for the name, or there is no need to. -/
inductive Reachable (around : Surroundings) (package name : Text) (s : ModuleSpace) : Prop
  | unparted (parts : ResourceName.parts? name = none)
  | missing (nonempty : package ≠ []) (takes : Importable around package)
    (unlocated : Unlocated around s package around.searchPath)
  | relative (head : package.head? = some 0x2E)
  /-- The package is missing where its parent is there, or its parent is no package. -/
  | unimportable {f : Fault} {s' : ModuleSpace}
    (fails : importNamed around package s = .error f s') (missing : f.isModuleMissing = true)
  | plain {id : ModuleId} {s' : ModuleSpace} (imports : importNamed around package s = .ok id s')
    (plain : ∀ m, s'.module? id = some m → m.beganAsPackage = false ∨ m.home = .builtin)
  | found {parts : List Text} {files : PackageFiles} {s' : ModuleSpace}
    (named : ResourceName.parts? name = some parts)
    (kept : ofPackage around package s = .ok (some files) s')
    (legible : files.Legible around parts)

def Lacks (around : Surroundings) (package name : Text) (s : ModuleSpace) : Prop :=
  ∀ parts files s', ResourceName.parts? name = some parts →
    ofPackage around package s = .ok (some files) s' → files.LacksFile around parts

theorem lookup_of_none {α : Type} {s' : ModuleSpace}
    {ask : List Text → PackageFiles → Except Fault (Option α)}
    (h : ofPackage around package s = .ok none s') :
    ∃ s', lookup around package name ask s = .ok none s' := by
  rw [lookup]
  cases ResourceName.parts? name with
  | none => exact ⟨s, rfl⟩
  | some parts => exact ⟨s', by simp only [h]⟩

theorem lookup_of_lacks {α : Type} {ask : List Text → PackageFiles → Except Fault (Option α)}
    (reachable : Reachable around package name s) (lacks : Lacks around package name s)
    (hask : ∀ parts (files : PackageFiles), files.Legible around parts →
      files.LacksFile around parts → ask parts files = .ok none) :
    ∃ s', lookup around package name ask s = .ok none s' := by
  cases reachable with
  | unparted parts => exact ⟨s, by rw [lookup, parts]⟩
  | missing nonempty takes unlocated =>
    obtain ⟨s', herror, -⟩ := importNamed_of_unlocated unlocated nonempty takes
    have hnone : ofPackage around package s = .ok none s' := by
      rw [ofPackage, herror]
      rfl
    exact lookup_of_none hnone
  | relative head =>
    have hnone : ofPackage around package s = .ok none s := by
      rw [ofPackage, importNamed, if_pos head]
      rfl
    exact lookup_of_none hnone
  | @unimportable f s' fails missing =>
    have hnone : ofPackage around package s = .ok none s' := by
      rw [ofPackage, fails]
      simp only [missing, Bool.true_or, if_true]
    exact lookup_of_none hnone
  | @plain id s' imports plain =>
    have hnone : ofPackage around package s = .ok none s' := by
      rw [ofPackage, imports]
      cases hm : s'.module? id with
      | none => simp only [hm]
      | some m =>
        rcases plain m hm with hp | hb
        · simp [hm, hp]
        · simp [hm, hb]
    exact lookup_of_none hnone
  | @found parts files s' hparts hfiles legible =>
    refine ⟨s', ?_⟩
    rw [lookup, hparts]
    simp only [hfiles, hask parts files legible (lacks parts files s' hparts hfiles)]

end PackageFiles

/-! ## Resolvers -/

def World.Alike (w v : World) : Prop :=
  ∃ m, v = { w with modules := m } ∧ Import.Alike w.around w.modules.registry w.modules m

theorem World.Alike.refl (w : World) : w.Alike w := ⟨w.modules, rfl, Import.Alike.own w.modules⟩

namespace Resolver

variable {r : Resolver} {w v : World}

def AsksSystem (name : Text) : Resolver → Prop
  | searchPath => True
  | package p => (p ++ [0x2E]).isPrefixOf name = true
  | _ => False

theorem AsksSystem.loadClass (h : r.AsksSystem name) :
    r.loadClass name = Lookup.importing fun around => importClass around name := by
  cases r with
  | searchPath => rfl
  | package p => exact if_pos h
  | mapping _ | place _ | entries _ | scripted _ => exact h.elim

def Legible (w : World) (name : Text) : Resolver → Prop
  | mapping _ => True
  | place p => p.Legible w.around name
  | package p => PackageFiles.Reachable w.around p name w.modules
  | entries list => Place.LegibleAlong w.around name list
  | searchPath => Place.LegibleAlong w.around name w.around.searchPath
  | scripted _ => False

def LacksResource (w : World) (name : Text) (lacks : Place → Prop) : Resolver → Prop
  | mapping key => ((w.mappings.get? key).getD []).get? name = none
  | place p => lacks p
  | package p => PackageFiles.Lacks w.around p name w.modules
  | entries list => Place.LacksAlong w.around lacks list
  | searchPath => Place.LacksAlong w.around lacks w.around.searchPath
  | scripted _ => False

def LacksBelow (w : World) (name : Text) (path : List Text) : Prop :=
  NamesClass name → w.modules.registered? (topName (splitClassName name).1) = none ∧
    NowhereOn w.around w.modules (topName (splitClassName name).1) path

def LacksClass (w : World) (name : Text) : Resolver → Prop
  | mapping _ => True
  | place p => LacksBelow w name [p.path.toText]
  | entries list => LacksBelow w name list
  | package p => (package p).AsksSystem name → NamesClass name →
    Unlocated w.around w.modules (splitClassName name).1 w.around.searchPath
  | searchPath => NamesClass name →
    Unlocated w.around w.modules (splitClassName name).1 w.around.searchPath
  | scripted _ => False

/-- The resolver holds nothing under the name, and nothing is in its way when it looks. -/
def Absent : Request → Resolver → Text → World → Prop
  | .openStream, r, name, w =>
    r.LacksResource w name (·.LacksFile w.around name) ∧ r.Legible w name
  | .findUrl, r, name, w =>
    r.LacksResource w name (·.LacksEntry w.around name) ∧ r.Legible w name
  | .loadClass, r, name, w =>
    r.LacksClass w name ∧
      (r.AsksSystem name → NamesClass name → Importable w.around (splitClassName name).1)

theorem LacksBelow.of_alike {path : List Text} (h : LacksBelow w name path) (alike : w.Alike v) :
    LacksBelow v name path := by
  obtain ⟨m, rfl, hm⟩ := alike
  intro names
  obtain ⟨hnew, hnowhere⟩ := h names
  rw [ModuleSpace.registered?, ← hm.registry]
  exact ⟨hnew, hnowhere.of_alike hm⟩

def AsksInPlace (request : Request) (r : Resolver) : Prop :=
  request = .loadClass ∨ ∀ p, r ≠ package p

theorem resource_of_alike {lacks : Place → Prop} (plain : ∀ p, r ≠ package p) (alike : w.Alike v)
    (h : r.LacksResource w name lacks ∧ r.Legible w name) :
    r.LacksResource v name lacks ∧ r.Legible v name := by
  obtain ⟨m, rfl, -⟩ := alike
  cases r with
  | package p => exact absurd rfl (plain p)
  | mapping _ | place _ | entries _ | searchPath | scripted _ => exact h

theorem LacksClass.of_alike (h : r.LacksClass w name) (alike : w.Alike v) :
    r.LacksClass v name := by
  cases r with
  | mapping key => trivial
  | place p => exact LacksBelow.of_alike h alike
  | entries list => exact LacksBelow.of_alike h alike
  | package p =>
    obtain ⟨m, rfl, hm⟩ := alike
    exact fun asks names => (h asks names).of_alike hm
  | searchPath =>
    obtain ⟨m, rfl, hm⟩ := alike
    exact fun names => (h names).of_alike hm
  | scripted key => exact h.elim

theorem Absent.of_alike {request : Request} (h : r.Absent request name w)
    (inPlace : r.AsksInPlace request) (alike : w.Alike v) : r.Absent request name v := by
  have haround : v.around = w.around := by
    obtain ⟨m, rfl, -⟩ := alike
    rfl
  cases request with
  | openStream =>
    rw [Absent, haround]
    exact resource_of_alike (inPlace.resolve_left nofun) alike h
  | findUrl =>
    rw [Absent, haround]
    exact resource_of_alike (inPlace.resolve_left nofun) alike h
  | loadClass => exact ⟨h.1.of_alike alike, haround ▸ h.2⟩

/-! ### What they answer -/

theorem answer_contentOf {resources : OrderedMap Text Content} (h : resources.get? name = none) :
    Lookup.answer (contentOf resources name) w = .ok none w := by
  rw [contentOf, h]
  rfl

theorem openStream_of_absent (h : r.Absent .openStream name w) :
    ∃ v, r.openStream name w = .ok none v ∧ ((∀ p, r ≠ package p) → w.Alike v) := by
  obtain ⟨lacks, legible⟩ := h
  cases r with
  | mapping key =>
    have hcontent : Lookup.answer (contentOf ((w.mappings.get? key).getD []) name) w =
        .ok none w := answer_contentOf lacks
    exact ⟨w, bind_ok hcontent, fun _ => .refl w⟩
  | place p =>
    have hread : Lookup.reading (fun around => p.read around name) w = .ok none w :=
      Lookup.reading_ok (Place.read_of_lacks legible lacks)
    exact ⟨w, bind_ok hread, fun _ => .refl w⟩
  | package p =>
    obtain ⟨m, hm⟩ := PackageFiles.lookup_of_lacks legible lacks
      fun _ _ => PackageFiles.readParts_of_lacks
    have hlookup : Lookup.importing (fun around => PackageFiles.lookup around p name
        fun parts files => files.readParts around parts) w = .ok none { w with modules := m } :=
      Lookup.importing_ok hm
    exact ⟨_, bind_ok hlookup, fun plain => absurd rfl (plain p)⟩
  | entries list =>
    have hread : Lookup.reading (fun around =>
        Place.search around (fun p => p.read around name) list) w = .ok none w :=
      Lookup.reading_ok (Place.search_of_lacks legible lacks fun _ => Place.read_of_lacks)
    exact ⟨w, bind_ok hread, fun _ => .refl w⟩
  | searchPath =>
    have hread : Lookup.reading (fun around =>
        Place.search around (fun p => p.read around name) around.searchPath) w = .ok none w :=
      Lookup.reading_ok (Place.search_of_lacks legible lacks fun _ => Place.read_of_lacks)
    exact ⟨w, bind_ok hread, fun _ => .refl w⟩
  | scripted key => exact lacks.elim

theorem findUrl_of_absent (h : r.Absent .findUrl name w) :
    ∃ v, r.findUrl name w = .ok none v ∧ ((∀ p, r ≠ package p) → w.Alike v) := by
  obtain ⟨lacks, legible⟩ := h
  cases r with
  | mapping key =>
    have hcontent : Lookup.answer (contentOf ((w.mappings.get? key).getD []) name) w =
        .ok none w := answer_contentOf lacks
    exact ⟨w, bind_ok hcontent, fun _ => .refl w⟩
  | place p =>
    have hurl := Place.url_of_lacks legible lacks
    rw [findUrl]
    exact ⟨w, Lookup.reading_ok hurl, fun _ => .refl w⟩
  | package p =>
    obtain ⟨m, hm⟩ := PackageFiles.lookup_of_lacks legible lacks
      fun _ _ => PackageFiles.urlOfParts_of_lacks
    rw [findUrl]
    exact ⟨_, Lookup.importing_ok hm, fun plain => absurd rfl (plain p)⟩
  | entries list =>
    have hurl := Place.search_of_lacks legible lacks fun _ => Place.url_of_lacks
    rw [findUrl]
    exact ⟨w, Lookup.reading_ok hurl, fun _ => .refl w⟩
  | searchPath =>
    have hurl := Place.search_of_lacks legible lacks fun _ => Place.url_of_lacks
    rw [findUrl]
    exact ⟨w, Lookup.reading_ok hurl, fun _ => .refl w⟩
  | scripted key => exact lacks.elim

theorem loadBelow_of_absent {path : List Text} (lacks : LacksBelow w name path) :
    ∃ v, Lookup.importing (fun around => loadUnder around name path) w = .ok none v ∧
      w.Alike v := by
  obtain ⟨m, hload, halike⟩ :=
    loadUnder_of_nowhere (fun names => (lacks names).1) fun names => (lacks names).2
  exact ⟨_, Lookup.importing_ok hload, m, rfl, halike⟩

theorem importing_of_absent
    (unlocated : NamesClass name →
      Unlocated w.around w.modules (splitClassName name).1 w.around.searchPath)
    (takes : NamesClass name → Importable w.around (splitClassName name).1) :
    ∃ v, Lookup.importing (fun around => importClass around name) w = .ok none v ∧
      w.Alike v := by
  obtain ⟨m, himport, halike⟩ := importClass_of_unlocated unlocated takes
  exact ⟨_, Lookup.importing_ok himport, m, rfl, halike⟩

theorem loadClass_of_absent (h : r.Absent .loadClass name w) :
    ∃ v, r.loadClass name w = .ok none v ∧ w.Alike v := by
  obtain ⟨lacks, takes⟩ := h
  cases r with
  | mapping key => exact ⟨w, rfl, .refl w⟩
  | place p => exact loadBelow_of_absent lacks
  | entries list => exact loadBelow_of_absent lacks
  | package p =>
    by_cases asks : (package p).AsksSystem name
    · rw [asks.loadClass]
      exact importing_of_absent (lacks asks) (takes asks)
    · have hskip : (package p).loadClass name = pure none := if_neg asks
      exact ⟨w, by rw [hskip]; rfl, .refl w⟩
  | searchPath => exact importing_of_absent lacks (takes trivial)
  | scripted key => exact lacks.elim

/-- A resolver that holds nothing under a name answers so, and the worlds before and after are alike
unless it had to import a package. -/
theorem ask_of_absent {request : Request} (h : r.Absent request name w) :
    ∃ v, family.ask request r name w = .ok none v ∧ (r.AsksInPlace request → w.Alike v) := by
  cases request with
  | openStream =>
    obtain ⟨v, hopen, alike⟩ := openStream_of_absent h
    exact ⟨v, hopen, fun inPlace => alike (inPlace.resolve_left nofun)⟩
  | findUrl =>
    obtain ⟨v, hfind, alike⟩ := findUrl_of_absent h
    exact ⟨v, hfind, fun inPlace => alike (inPlace.resolve_left nofun)⟩
  | loadClass =>
    obtain ⟨v, hload, alike⟩ := loadClass_of_absent h
    exact ⟨v, hload, fun _ => alike⟩

end Resolver

/-! ## Chains -/

namespace Family

variable {ρ σ ε : Type} {α : Request → Type} {F : Family ρ σ ε α} {request : Request}
variable {P : ρ → Text → σ → Prop} {calls : List (ρ × Text)} {s : σ}

inductive Throughout (F : Family ρ σ ε α) (request : Request) (P : ρ → Text → σ → Prop) :
    List (ρ × Text) → σ → Prop
  | nil (s : σ) : F.Throughout request P [] s
  | cons {r : ρ} {n : Text} {calls : List (ρ × Text)} {s : σ} (head : P r n s)
    (tail : ∀ s', F.ask request r n s = .ok none s' → F.Throughout request P calls s') :
    F.Throughout request P ((r, n) :: calls) s

theorem Throughout.silent (h : F.Throughout request P calls s)
    (answers : ∀ r n s, P r n s → ∃ s', F.ask request r n s = .ok none s') :
    ∃ s', F.Silent request calls s s' := by
  induction h with
  | nil s => exact ⟨s, .nil s⟩
  | @cons r n calls s head _ ih =>
    obtain ⟨s', hask⟩ := answers r n s head
    obtain ⟨s'', hsilent⟩ := ih s' hask
    exact ⟨s'', .cons hask hsilent⟩

theorem Throughout.mono {Q : ρ → Text → σ → Prop} (h : F.Throughout request P calls s)
    (hPQ : ∀ r n s, P r n s → Q r n s) : F.Throughout request Q calls s := by
  induction h with
  | nil s => exact .nil s
  | cons head _ ih => exact .cons (hPQ _ _ _ head) ih

/-- What no call changes need only hold at first. -/
theorem Throughout.of_kept (h : ∀ p ∈ calls, P p.1 p.2 s)
    (kept : ∀ {r n s s'}, P r n s → F.ask request r n s = .ok none s' →
      ∀ {r' n'}, P r' n' s → P r' n' s') :
    F.Throughout request P calls s := by
  induction calls generalizing s with
  | nil => exact .nil s
  | cons p calls ih =>
    have hp := h p List.mem_cons_self
    exact .cons hp fun s' hask => ih fun q hq => kept hp hask (h q (List.mem_cons_of_mem _ hq))

end Family

namespace Resolver

def AbsentAlong (request : Request) (c : Along Resolver) (name : Text) (w : World) : Prop :=
  family.Throughout request (fun r n u => r.Absent request n u)
    (Chain.attempts (c.resolvers w.settings) (request.forms name)) w

theorem absentAlong_of_inPlace {request : Request} {c : Along Resolver} {w : World}
    (h : ∀ r ∈ c.resolvers w.settings, r.AsksInPlace request ∧
      ∀ n ∈ request.forms name, r.Absent request n w) :
    AbsentAlong request c name w := by
  -- A resolver asked in vain leaves a world that is alike, where the others hold nothing either.
  have kept : ∀ {r : Resolver} {n : Text} {s s' : World},
      r.AsksInPlace request ∧ r.Absent request n s → family.ask request r n s = .ok none s' →
      ∀ {r' : Resolver} {n' : Text}, r'.AsksInPlace request ∧ r'.Absent request n' s →
        r'.AsksInPlace request ∧ r'.Absent request n' s' := by
    intro r n s s' ⟨inPlace, absent⟩ hask r' n' ⟨inPlace', absent'⟩
    obtain ⟨v, hv, alike⟩ := ask_of_absent absent
    rw [hv] at hask
    cases hask
    exact ⟨inPlace', absent'.of_alike inPlace' (alike inPlace)⟩
  refine (Family.Throughout.of_kept ?_ kept).mono fun _ _ _ h => h.2
  intro p hp
  simp only [Chain.attempts, List.mem_flatMap, List.mem_map] at hp
  obtain ⟨r, hr, n, hn, rfl⟩ := hp
  exact ⟨(h r hr).1, (h r hr).2 n hn⟩

end Resolver

namespace Along

open Access

variable {c : Along Resolver} {w : World}

def TellsAbsence (c : Along Resolver) (name : Text) (w v : World) : Request → Prop
  | .openStream =>
    getStream c name w = .error (.resourceNotFound name) v ∧
      getBytes c name w = .error (.resourceNotFound name) v ∧
      getText c name w = .error (.resourceNotFound name) v ∧
      getReader c name w = .error (.resourceNotFound name) v ∧
      getProperties c name w = .error (.resourceNotFound name) v
  | .findUrl =>
    getUrl c name w = .error (.resourceNotFound name) v ∧
      getFile c name w = .error (.resourceNotFound name) v
  | .loadClass => Access.loadClass c name w = .error (.classNotFound name) v

theorem tellsAbsence_of_resolve {request : Request} {v : World}
    (h : Resolver.family.resolve request c name w = .ok none v) :
    c.TellsAbsence name w v request := by
  cases request with
  | openStream =>
    have hstream : getStream c name w = .error (.resourceNotFound name) v := bind_ok h
    have hreader : getReader c name w = .error (.resourceNotFound name) v :=
      bind_error hstream
    exact ⟨hstream, bind_error hstream, bind_error hreader, hreader,
      bind_error hstream⟩
  | findUrl =>
    have hurl : getUrl c name w = .error (.resourceNotFound name) v := bind_ok h
    exact ⟨hurl, bind_error hurl⟩
  | loadClass => exact bind_ok h

/-- A chain whose resolvers hold nothing under a name answers that there is nothing, each of them
having answered so, and only the access to the resource or the class ends in a fault, which says
that it was not found. -/
theorem tellsAbsence_of_absent {request : Request}
    (absent : Resolver.AbsentAlong request c name w) :
    (∃ v, Resolver.family.Silent request
        (Chain.attempts (c.resolvers w.settings) (request.forms name)) w v) ∧
      ∃ v, Resolver.family.resolve request c name w = .ok none v ∧
        c.TellsAbsence name w v request := by
  have answers : ∀ r n u, Resolver.Absent request r n u →
      ∃ v, Resolver.family.ask request r n u = .ok none v := by
    intro r n u h
    obtain ⟨v, hask, -⟩ := Resolver.ask_of_absent h
    exact ⟨v, hask⟩
  obtain ⟨v, hsilent⟩ := absent.silent answers
  have hfirst := hsilent.firstHit []
  rw [List.append_nil] at hfirst
  have hresolve := Family.resolve_of_miss hfirst
  exact ⟨⟨v, hsilent⟩, _, hresolve, tellsAbsence_of_resolve hresolve⟩

end Along

/-! ## A chain over an empty directory -/

def emptyDirectory : Surroundings where
  tree := [([text "a"], .directory)]
  cwd := []
  searchPath := [text "/a"]

def threeResolvers : Along Resolver :=
  ⟨⟨some (.place (.directory (Path.ofText (text "/a")))), some .searchPath⟩,
    some (.mapping (text "k"))⟩

namespace Resolver

theorem emptyDirectory_shortLinks : emptyDirectory.tree.ShortLinks := by
  intro l target h
  simp only [emptyDirectory, FileTree.find?, OrderedMap.get?] at h
  split at h <;> simp_all

theorem emptyDirectory_lacks {n : Text} (h : n ∈ Request.openStream.forms (text "x.C")) :
    (Place.directory (Path.ofText (text "/a"))).Legible emptyDirectory n ∧
      (Place.directory (Path.ofText (text "/a"))).LacksFile emptyDirectory n := by
  have hparts : ∀ parts, ResourceName.parts? n = some parts →
      ((Path.ofText (text "/a")).below parts).toText = text "/a/x.C" := by
    have hforms : Request.openStream.forms (text "x.C") = [text "x.C", text "/x.C"] := by decide
    have hn : n = text "x.C" ∨ n = text "/x.C" := by simpa [hforms] using h
    rcases hn with rfl | rfl <;> intro parts hp <;> cases hp
    decide
  constructor
  · intro parts hp
    rw [hparts parts hp]
    exact FileTree.accepts_of_short emptyDirectory_shortLinks (by decide) (by decide)
  · intro parts hp _ l e hl
    have hnothing : emptyDirectory.tree.locate emptyDirectory.cwd (text "/a/x.C") =
        .error .noEntry := by cbv
    rw [hparts parts hp, hnothing] at hl
    cases hl

theorem emptyDirectory_nowhere : NowhereOn emptyDirectory .start (text "x") [text "/a"] := by
  intro entry he
  obtain rfl := List.mem_singleton.1 he
  have hfinder : (ModuleSpace.start.recognize emptyDirectory (text "/a")).1 =
      .ok (some (.directory (text "/a"))) := by cbv
  refine ⟨_, hfinder, fun finder hf => ?_⟩
  cases hf
  cbv

theorem mem_threeResolvers {r : Resolver}
    (h : r ∈ threeResolvers.resolvers (World.startIn emptyDirectory).settings) :
    r = mapping (text "k") ∨ r = place (.directory (Path.ofText (text "/a"))) ∨ r = searchPath := by
  have hresolvers : threeResolvers.resolvers (World.startIn emptyDirectory).settings =
      [mapping (text "k"), place (.directory (Path.ofText (text "/a"))), searchPath] := rfl
  simpa [hresolvers] using h

theorem absentAlong_openStream :
    AbsentAlong .openStream threeResolvers (text "x.C") (World.startIn emptyDirectory) := by
  refine absentAlong_of_inPlace fun r hr => ⟨.inr ?_, fun n hn => ?_⟩
  · rcases mem_threeResolvers hr with rfl | rfl | rfl <;> nofun
  · obtain ⟨legible, lacks⟩ := emptyDirectory_lacks hn
    have hentry : Place.ofEntry emptyDirectory (text "/a") =
        .ok (some (.directory (Path.ofText (text "/a")))) := by cbv
    rcases mem_threeResolvers hr with rfl | rfl | rfl
    · exact ⟨rfl, trivial⟩
    · exact ⟨lacks, legible⟩
    · constructor
      · intro entry he p hp
        obtain rfl := List.mem_singleton.1 he
        cases hentry.symm.trans hp
        exact lacks
      · intro entry he
        obtain rfl := List.mem_singleton.1 he
        refine ⟨FileTree.accepts_of_short emptyDirectory_shortLinks (by decide) (by decide), ?_⟩
        intro p hp
        cases hentry.symm.trans hp
        exact legible

theorem absentAlong_loadClass :
    AbsentAlong .loadClass threeResolvers (text "x.C") (World.startIn emptyDirectory) := by
  refine absentAlong_of_inPlace fun r hr => ⟨.inl rfl, fun n hn => ?_⟩
  obtain rfl := List.mem_singleton.1 hn
  have htop : topName (splitClassName (text "x.C")).1 = text "x" := by decide
  have takes : Importable emptyDirectory (splitClassName (text "x.C")).1 := ⟨by decide, by decide⟩
  rcases mem_threeResolvers hr with rfl | rfl | rfl
  · exact ⟨trivial, nofun⟩
  · refine ⟨fun _ => ⟨by decide, ?_⟩, nofun⟩
    rw [htop]
    exact emptyDirectory_nowhere
  · refine ⟨fun _ => ⟨?_, ?_⟩, fun _ _ => takes⟩
    · intro p hp
      rcases hp with rfl | hp
      · decide
      · exact absurd hp (not_prefix_of_undotted (by decide))
    · rw [htop]
      exact emptyDirectory_nowhere

end Resolver

theorem Along.tellsAbsence_of_absent_everywhere :
    (∃ v, Access.getText threeResolvers (text "x.C") (World.startIn emptyDirectory) =
      .error (.resourceNotFound (text "x.C")) v) ∧
    ∃ v, Access.loadClass threeResolvers (text "x.C") (World.startIn emptyDirectory) =
      .error (.classNotFound (text "x.C")) v := by
  constructor
  · obtain ⟨-, v, -, -, -, htext, -⟩ := tellsAbsence_of_absent Resolver.absentAlong_openStream
    exact ⟨v, htext⟩
  · obtain ⟨-, v, -, hclass⟩ := tellsAbsence_of_absent Resolver.absentAlong_loadClass
    exact ⟨v, hclass⟩

/-- The import system does not take every name. -/
theorem Resolver.loadClass_refuses_relative :
    ¬ ∀ (r : Resolver) (name : Text) (w : World), r.LacksClass w name →
      ∃ v, r.loadClass name w = .ok none v := by
  intro h
  have lacks : searchPath.LacksClass (World.startIn { tree := [], cwd := [] }) (text ".x.C") := by
    refine fun _ => ⟨?_, nofun⟩
    intro p hp
    rcases hp with rfl | hp
    · decide
    · cases p with
      | nil => decide
      | cons c r =>
        obtain ⟨-, hr⟩ := List.cons_prefix_cons.1 hp
        exact absurd hr (not_prefix_of_undotted (by decide))
  obtain ⟨v, hv⟩ := h _ _ _ lacks
  obtain ⟨v', hv'⟩ : ∃ v,
      searchPath.loadClass (text ".x.C") (World.startIn { tree := [], cwd := [] }) =
        .error (.classLink (text ".x.C") (.relativeName (text ".x"))) v := ⟨_, rfl⟩
  rw [hv] at hv'
  cases hv'

end ResourceLookup
