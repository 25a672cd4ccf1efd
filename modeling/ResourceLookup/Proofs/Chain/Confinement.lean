import ResourceLookup.Proofs.Chain.Absence
import ResourceLookup.Proofs.Files.Names

/-!
# Where names lead

A resolver that reads names in parts looks for them below its roots: a directory, the directories
among its entries, or what a package keeps its files in. Whatever the name and in whichever of its
forms, what it looks at is a root with components after it, so that nothing but a link leads out
of the root. What lies elsewhere has no say in the answer, and names with the same parts are the same
to it.
-/

namespace ResourceLookup

open Text ResourceLookup.Path

/-- What is looked at: a path of the file system, or a member of an archive. The name of a member
that others are below ends in a slash. -/
inductive Spot
  | path (p : Path)
  | member (file name : Text)
  deriving DecidableEq, Repr

namespace Spot

def below (root : Spot) (parts : List Text) : Spot :=
  match root with
  | path p => path (p.below parts)
  | member file inside => member file (PackageFiles.memberName inside parts)

def IsBelow (root spot : Spot) : Prop :=
  ∃ parts, parts ≠ [] ∧ (∀ n ∈ parts, IsComponent n) ∧ spot = root.below parts

def Same (a b : Surroundings) : Spot → Prop
  | path p => a.tree.lookup a.cwd p.toText = b.tree.lookup b.cwd p.toText ∧
    a.tree.urlOf a.cwd p = b.tree.urlOf b.cwd p
  | member file name =>
    (PackageFiles.membersOf a file).map (·.file? name) =
        (PackageFiles.membersOf b file).map (·.file? name) ∧
      a.tree.urlOf a.cwd (ofText file) = b.tree.urlOf b.cwd (ofText file)

end Spot

/-! ## Places -/

namespace Place

variable {a b : Surroundings} {p : Place} {name : Text} {parts : List Text}

def root? : Place → Option Spot
  | directory root => some (.path root)
  | archive _ => none

def listed (around : Surroundings) (list : List Text) : List Place :=
  list.filterMap fun entry =>
    match ofEntry around entry with
    | .ok p? => p?
    | .error _ => none

def SameArchive (a b : Surroundings) : Place → Prop
  | directory _ => True
  | archive file => membersAt a file = membersAt b file ∧
    a.tree.urlOf a.cwd file = b.tree.urlOf b.cwd file

theorem readFile_of_same {path : Path} (h : (Spot.path path).Same a b) :
    readFile a path = readFile b path := by
  rw [readFile, readFile, FileTree.lookupFile, FileTree.lookupFile, h.1]

theorem read_of_same (archive : p.SameArchive a b)
    (spots : ∀ parts, ResourceName.parts? name = some parts → ∀ root ∈ p.root?,
      (root.below parts).Same a b) : p.read a name = p.read b name := by
  cases p with
  | directory root =>
    rw [read, read]
    cases hparts : ResourceName.parts? name with
    | none => rfl
    | some parts => exact readFile_of_same (spots parts hparts _ rfl)
  | archive file => rw [read, read, archive.1]

theorem url_of_same (archive : p.SameArchive a b)
    (spots : ∀ parts, ResourceName.parts? name = some parts → ∀ root ∈ p.root?,
      (root.below parts).Same a b) : p.url a name = p.url b name := by
  cases p with
  | directory root =>
    rw [url, url]
    cases hparts : ResourceName.parts? name with
    | none => rfl
    | some parts =>
      obtain ⟨hlookup, hurl⟩ := spots parts hparts _ rfl
      simp only [FileTree.exists?, hlookup, hurl]
  | archive file => rw [url, url, archive.1, Url.ofMember, Url.ofMember, archive.2]

theorem search_of_same {α : Type} {ask ask' : Place → Except Fault (Option α)} {list : List Text}
    (entries : ∀ entry ∈ list, ofEntry a entry = ofEntry b entry)
    (places : ∀ p ∈ listed a list, ask p = ask' p) : search a ask list = search b ask' list := by
  induction list with
  | nil => rfl
  | cons entry rest ih =>
    have hentry := entries entry List.mem_cons_self
    have hrest : search a ask rest = search b ask' rest := by
      refine ih (fun e he => entries e (List.mem_cons_of_mem _ he)) fun p hp => places p ?_
      rw [listed, List.filterMap_cons]
      split
      · exact hp
      · exact List.mem_cons_of_mem _ hp
    rw [search, search, ← hentry]
    cases hplace : ofEntry a entry with
    | error f => rfl
    | ok p? =>
      cases p? with
      | none => exact hrest
      | some p =>
        have hp : ask p = ask' p := by
          refine places p ?_
          rw [listed, List.filterMap_cons, hplace]
          exact List.mem_cons_self
        simp only [hp, hrest]

end Place

/-! ## Files of packages -/

namespace PackageFiles

variable {a b : Surroundings} {files : PackageFiles} {parts : List Text}

def roots : PackageFiles → List Spot
  | directory path => [.path path]
  | archive file inside => [.member file inside]
  | portions paths => paths.map .path

def spot? (around : Surroundings) (parts : List Text) : PackageFiles → Option Spot
  | directory path => some ((Spot.path path).below parts)
  | archive file inside => some ((Spot.member file inside).below parts)
  | portions paths => (pathIn around paths parts).map .path

def SamePortion (a b : Surroundings) (parts : List Text) : PackageFiles → Prop
  | portions paths => pathIn a paths parts = pathIn b paths parts
  | _ => True

theorem mem_of_portionWith {around : Surroundings} {name : Text} {paths : List Path} {p : Path}
    (h : portionWith around name paths = some p) : p ∈ paths := by
  induction paths with
  | nil => cases h
  | cons q rest ih =>
    obtain ⟨has, hq⟩ : ∃ has : Bool, portionWith around name (q :: rest) =
        if has then some q else portionWith around name rest := ⟨_, rfl⟩
    rw [hq] at h
    cases has with
    | true =>
      cases h
      exact List.mem_cons_self
    | false => exact List.mem_cons_of_mem _ (ih h)

theorem pathIn_below {around : Surroundings} {paths : List Path} {path : Path}
    (h : pathIn around paths parts = some path) : ∃ p ∈ paths, path = p.below parts := by
  cases parts with
  | nil => cases h
  | cons first rest =>
    rw [pathIn] at h
    obtain ⟨p, hp, rfl⟩ := Option.map_eq_some_iff.1 h
    refine ⟨p, ?_, rfl⟩
    cases hwith : portionWith around first paths with
    | some q =>
      rw [hwith] at hp
      cases hp
      exact mem_of_portionWith hwith
    | none =>
      rw [hwith] at hp
      exact List.mem_of_mem_head? hp

theorem root_of_spot? {around : Surroundings} {spot : Spot}
    (h : files.spot? around parts = some spot) :
    ∃ root ∈ files.roots, spot = root.below parts := by
  cases files with
  | directory path =>
    cases h
    exact ⟨_, List.mem_singleton_self _, rfl⟩
  | archive file inside =>
    cases h
    exact ⟨_, List.mem_singleton_self _, rfl⟩
  | portions paths =>
    obtain ⟨path, hpath, rfl⟩ := Option.map_eq_some_iff.1 h
    obtain ⟨p, hp, rfl⟩ := pathIn_below hpath
    exact ⟨_, List.mem_map_of_mem hp, rfl⟩

theorem readParts_of_same (portion : files.SamePortion a b parts)
    (spot : ∀ s ∈ files.spot? a parts, s.Same a b) :
    files.readParts a parts = files.readParts b parts := by
  cases files with
  | directory path => exact Place.readFile_of_same (spot _ rfl)
  | archive file inside =>
    have hmember := (spot _ rfl).1
    have hfile : ∀ x : Except Fault Members,
        (x.map fun m => (m.file? (memberName inside parts)).map fun b => (Medium.member, b.toOctets)) =
          (x.map (·.file? (memberName inside parts))).map
            (Option.map fun b => (Medium.member, b.toOctets)) := by
      intro x
      cases x <;> rfl
    rw [readParts, readParts, hfile, hfile, hmember]
  | portions paths =>
    rw [readParts, readParts, ← portion]
    cases hpath : pathIn a paths parts with
    | none => rfl
    | some path => exact Place.readFile_of_same (spot _ (congrArg (Option.map Spot.path) hpath))

theorem urlOfParts_of_same (portion : files.SamePortion a b parts)
    (spot : ∀ s ∈ files.spot? a parts, s.Same a b) :
    files.urlOfParts a parts = files.urlOfParts b parts := by
  unfold urlOfParts
  rw [← readParts_of_same portion spot]
  cases files with
  | directory path => simp only [(spot _ rfl).2]
  | archive file inside => simp only [Url.ofMember, (spot _ rfl).2]
  | portions paths =>
    have hportion : pathIn a paths parts = pathIn b paths parts := portion
    simp only [← hportion]
    cases hpath : pathIn a paths parts with
    | none => rfl
    | some path =>
      have hspot := spot _ (congrArg (Option.map Spot.path) hpath)
      simp only [hspot.2]

theorem lookup_of_same {α : Type} {package name : Text} {s : ModuleSpace}
    {ask ask' : List Text → PackageFiles → Except Fault (Option α)}
    (kept : ofPackage a package s = ofPackage b package s)
    (answers : ∀ parts files s', ResourceName.parts? name = some parts →
      ofPackage a package s = .ok (some files) s' → ask parts files = ask' parts files) :
    lookup a package name ask s = lookup b package name ask' s := by
  rw [lookup, lookup, ← kept]
  cases hparts : ResourceName.parts? name with
  | none => rfl
  | some parts =>
    cases hfiles : ofPackage a package s with
    | error f s' => rfl
    | ok files? s' =>
      cases files? with
      | none => rfl
      | some files => simp only [answers parts files s' hparts hfiles]

end PackageFiles

/-! ## Another file system -/

namespace World

def amid (b : Surroundings) (w : World) : World := { w with around := b }

end World

namespace Lookup

variable {α β : Type} {b : Surroundings} {w : World}

def amid (b : Surroundings) : EStateM.Result Fault World α → EStateM.Result Fault World α
  | .ok a v => .ok a (v.amid b)
  | .error f v => .error f (v.amid b)

def SameAmid (b : Surroundings) (f : Lookup α) (w : World) : Prop := f (w.amid b) = amid b (f w)

theorem SameAmid.bind {f : Lookup α} {k : α → Lookup β} (hf : SameAmid b f w)
    (hk : ∀ a v, f w = .ok a v → SameAmid b (k a) v) : SameAmid b (f >>= k) w := by
  rw [SameAmid] at hf
  rw [SameAmid]
  cases h : f w with
  | ok a v =>
    rw [h] at hf
    rw [bind_ok h, bind_ok hf]
    exact hk a v h
  | error e v =>
    rw [h] at hf
    rw [bind_error h, bind_error hf]
    rfl

theorem SameAmid.answer (x : Except Fault α) (w : World) : SameAmid b (answer x) w := by
  cases x <;> rfl

theorem SameAmid.reading {f : Surroundings → Except Fault α} (h : f w.around = f b) :
    SameAmid b (reading f) w := by
  rw [SameAmid, Lookup.reading, Lookup.reading, h]
  exact SameAmid.answer (f b) w

theorem SameAmid.importing {f : Surroundings → Import α}
    (h : f w.around w.modules = f b w.modules) : SameAmid b (importing f) w := by
  rw [SameAmid]
  cases hb : f b w.modules with
  | ok a m =>
    rw [importing_ok (h.trans hb)]
    exact importing_ok hb
  | error e m =>
    rw [importing_error (h.trans hb)]
    exact importing_error hb

end Lookup

/-! ## Resolvers -/

namespace Resolver

open Lookup

variable {r : Resolver} {w : World} {b : Surroundings} {name name' : Text}

theorem openFound_sameAmid (found : Option Holding) (w : World) :
    SameAmid b (openFound found) w := by
  cases found <;> rfl

def places (w : World) : Resolver → List Place
  | place p => [p]
  | entries list => Place.listed w.around list
  | searchPath => Place.listed w.around w.around.searchPath
  | _ => []

def files? (w : World) : Resolver → Option PackageFiles
  | package p =>
    match PackageFiles.ofPackage w.around p w.modules with
    | .ok files? _ => files?
    | .error _ _ => none
  | _ => none

def roots (r : Resolver) (w : World) : List Spot :=
  (r.places w).filterMap Place.root? ++ (r.files? w).toList.flatMap PackageFiles.roots

def spots (r : Resolver) (w : World) (name : Text) : List Spot :=
  match ResourceName.parts? name with
  | none => []
  | some parts =>
    ((r.places w).filterMap Place.root?).map (·.below parts) ++
      (r.files? w).toList.filterMap (PackageFiles.spot? w.around parts)

def SameBase (w : World) (b : Surroundings) (r : Resolver) : Prop :=
  (∀ p ∈ r.places w, p.SameArchive w.around b) ∧
    match r with
    | mapping _ | place _ => True
    | entries list => ∀ entry ∈ list, Place.ofEntry w.around entry = Place.ofEntry b entry
    | searchPath => w.around.searchPath = b.searchPath ∧
      ∀ entry ∈ w.around.searchPath, Place.ofEntry w.around entry = Place.ofEntry b entry
    | package p =>
      PackageFiles.ofPackage w.around p w.modules = PackageFiles.ofPackage b p w.modules ∧
        ∀ files ∈ r.files? w, ∀ parts, files.SamePortion w.around b parts
    | scripted _ => False

/-- What the resolver looks at for a name lies below its roots, and what lies elsewhere does not
change the answer. -/
structure Confined (r : Resolver) (w : World) (name : Text) : Prop where
  below : ∀ spot ∈ r.spots w name, ∃ root ∈ r.roots w, root.IsBelow spot
  only : ∀ b, r.SameBase w b → (∀ spot ∈ r.spots w name, spot.Same w.around b) →
    SameAmid b (r.openStream name) w ∧ SameAmid b (r.findUrl name) w

def ReadsParts : Resolver → Prop
  | place (.directory _) | package _ => True
  | _ => False

theorem below_of_mem_spots {spot : Spot} (h : spot ∈ r.spots w name) :
    ∃ root ∈ r.roots w, root.IsBelow spot := by
  rw [spots] at h
  cases hparts : ResourceName.parts? name with
  | none =>
    rw [hparts] at h
    cases h
  | some parts =>
    obtain ⟨nonempty, components⟩ := ResourceName.components_of_parts? hparts
    rw [hparts] at h
    rcases List.mem_append.1 h with hplace | hfiles
    · obtain ⟨root, hroot, rfl⟩ := List.mem_map.1 hplace
      exact ⟨root, List.mem_append_left _ hroot, parts, nonempty, components, rfl⟩
    · obtain ⟨files, hmem, hspot⟩ := List.mem_filterMap.1 hfiles
      obtain ⟨root, hroot, rfl⟩ := PackageFiles.root_of_spot? hspot
      refine ⟨root, List.mem_append_right _ ?_, parts, nonempty, components, rfl⟩
      exact List.mem_flatMap.2 ⟨files, hmem, hroot⟩

theorem mem_spots_of_place {p : Place} {parts : List Text} {root : Spot} (hp : p ∈ r.places w)
    (hparts : ResourceName.parts? name = some parts) (hroot : root ∈ p.root?) :
    root.below parts ∈ r.spots w name := by
  rw [spots, hparts]
  refine List.mem_append_left _ (List.mem_map_of_mem ?_)
  exact List.mem_filterMap.2 ⟨p, hp, hroot⟩

theorem mem_spots_of_files {files : PackageFiles} {parts : List Text} {spot : Spot}
    (hfiles : files ∈ r.files? w) (hparts : ResourceName.parts? name = some parts)
    (hspot : spot ∈ files.spot? w.around parts) : spot ∈ r.spots w name := by
  rw [spots, hparts]
  refine List.mem_append_right _ (List.mem_filterMap.2 ⟨files, ?_, hspot⟩)
  exact Option.mem_toList.2 hfiles

theorem sameAmid_of_spots (base : r.SameBase w b)
    (spots : ∀ spot ∈ r.spots w name, spot.Same w.around b) :
    SameAmid b (r.openStream name) w ∧ SameAmid b (r.findUrl name) w := by
  obtain ⟨archives, base⟩ := base
  have hread : ∀ p ∈ r.places w, p.read w.around name = p.read b name := fun p hp =>
    Place.read_of_same (archives p hp) fun parts hparts root hroot =>
      spots _ (mem_spots_of_place hp hparts hroot)
  have hurl : ∀ p ∈ r.places w, p.url w.around name = p.url b name := fun p hp =>
    Place.url_of_same (archives p hp) fun parts hparts root hroot =>
      spots _ (mem_spots_of_place hp hparts hroot)
  cases r with
  | mapping key =>
    exact ⟨SameAmid.bind rfl fun resources v _ =>
        (SameAmid.answer _ v).bind fun _ v _ => openFound_sameAmid _ v,
      SameAmid.bind rfl fun resources v _ => (SameAmid.answer _ v).bind fun _ v _ => rfl⟩
  | place p =>
    rw [openStream, findUrl]
    exact ⟨(SameAmid.reading (hread p (List.mem_singleton_self p))).bind fun _ v _ =>
      openFound_sameAmid _ v, SameAmid.reading (hurl p (List.mem_singleton_self p))⟩
  | entries list =>
    rw [openStream, findUrl]
    exact ⟨(SameAmid.reading (Place.search_of_same base hread)).bind fun _ v _ =>
      openFound_sameAmid _ v, SameAmid.reading (Place.search_of_same base hurl)⟩
  | searchPath =>
    obtain ⟨hsearch, hentries⟩ := base
    rw [openStream, findUrl]
    refine ⟨SameAmid.bind (SameAmid.reading ?_) fun _ v _ => openFound_sameAmid _ v,
      SameAmid.reading ?_⟩
    · rw [← hsearch]
      exact Place.search_of_same hentries hread
    · rw [← hsearch]
      exact Place.search_of_same hentries hurl
  | package p =>
    obtain ⟨hkept, hportion⟩ := base
    have hfiles : ∀ {files s'}, PackageFiles.ofPackage w.around p w.modules = .ok (some files) s' →
        files ∈ (package p).files? w := by
      intro files s' h
      rw [files?, h]
      rfl
    rw [openStream, findUrl]
    refine ⟨SameAmid.bind (SameAmid.importing ?_) fun _ v _ => openFound_sameAmid _ v,
      SameAmid.importing ?_⟩
    · exact PackageFiles.lookup_of_same hkept fun parts files s' hparts h =>
        PackageFiles.readParts_of_same (hportion files (hfiles h) parts) fun spot hspot =>
          spots spot (mem_spots_of_files (hfiles h) hparts hspot)
    · exact PackageFiles.lookup_of_same hkept fun parts files s' hparts h =>
        PackageFiles.urlOfParts_of_same (hportion files (hfiles h) parts) fun spot hspot =>
          spots spot (mem_spots_of_files (hfiles h) hparts hspot)
  | scripted key => exact base.elim

theorem answers_of_parts (hr : r.ReadsParts)
    (parts : ResourceName.parts? name = ResourceName.parts? name') :
    r.openStream name = r.openStream name' ∧ r.findUrl name = r.findUrl name' := by
  cases r with
  | place p =>
    cases p with
    | directory root =>
      have hread : ∀ around, (Place.directory root).read around name =
          (Place.directory root).read around name' := fun around => by
        rw [Place.read, Place.read, parts]
      have hurl : ∀ around, (Place.directory root).url around name =
          (Place.directory root).url around name' := fun around => by
        rw [Place.url, Place.url, parts]
      simp only [openStream, findUrl, hread, hurl, and_self]
    | archive file => exact hr.elim
  | package p =>
    have hlookup : ∀ {α : Type} around (ask : List Text → PackageFiles → Except Fault (Option α)),
        PackageFiles.lookup around p name ask = PackageFiles.lookup around p name' ask := by
      intro α around ask
      funext s
      rw [PackageFiles.lookup, PackageFiles.lookup, parts]
    simp only [openStream, findUrl, hlookup, and_self]
  | mapping _ => exact hr.elim
  | entries _ => exact hr.elim
  | searchPath => exact hr.elim
  | scripted _ => exact hr.elim

/-- Under every name and in each of its forms a resolver is confined to what lies below its roots.
A name has no parts just where it is empty or absolute, climbs, or leads nowhere; otherwise its parts
with slashes between them are read as the same parts. To who reads names in parts, names with the
same parts are the same. -/
theorem confined_to_roots (r : Resolver) (w : World) (name name' : Text) :
    (∀ request : Request, ∀ form ∈ request.forms name, r.Confined w form) ∧
    (ResourceName.parts? name = none ↔ name = [] ∨ name.head? = some slash ∨
      dotDot ∈ splitOn slash name ∨ ∀ n ∈ splitOn slash name, n = [] ∨ n = dot) ∧
    (∀ parts, ResourceName.parts? name = some parts →
      ResourceName.parts? (joinWith [slash] parts) = some parts) ∧
    (r.ReadsParts → ResourceName.parts? name = ResourceName.parts? name' →
      r.openStream name = r.openStream name' ∧ r.findUrl name = r.findUrl name') := by
  refine ⟨fun request form _ => ⟨fun spot => below_of_mem_spots, fun b => sameAmid_of_spots⟩,
    ResourceName.parts?_eq_none_iff, fun parts hparts => ?_, answers_of_parts⟩
  obtain ⟨nonempty, components⟩ := ResourceName.components_of_parts? hparts
  exact ResourceName.parts?_joinWith nonempty components

def besideFile (octets : Octets) : Surroundings where
  tree := [([text "r"], .directory), ([text "r", text "x"], .file (.octets [0x61])),
    ([text "s"], .file (.octets octets))]
  cwd := []
  searchPath := []

theorem confined_to_roots_besideFile :
    ResourceName.parts? (text "r/../../s") = none ∧
      SameAmid (besideFile [0x63])
        ((place (.directory (ofText (text "/r")))).openStream (text "x"))
        (World.startIn (besideFile [0x62])) ∧
      (place (.directory (ofText (text "/r")))).openStream (text "x") =
        (place (.directory (ofText (text "/r")))).openStream (text ".//x") := by
  obtain ⟨-, climbing, -, -⟩ := confined_to_roots (place (.directory (ofText (text "/r"))))
    (World.startIn (besideFile [0x62])) (text "r/../../s") []
  obtain ⟨confined, -, -, alike⟩ := confined_to_roots (place (.directory (ofText (text "/r"))))
    (World.startIn (besideFile [0x62])) (text "x") (text ".//x")
  refine ⟨climbing.2 (.inr (.inr (.inl (by decide)))), ?_, (alike trivial (by decide)).1⟩
  refine ((confined .openStream (text "x") (by decide)).only _ ⟨?_, trivial⟩ ?_).1
  · intro p hp
    obtain rfl := List.mem_singleton.1 hp
    trivial
  · intro spot hspot
    obtain rfl := List.mem_singleton.1 (show spot ∈ [Spot.path (ofText (text "/r/x"))] from hspot)
    constructor <;> cbv

end Resolver
end ResourceLookup
