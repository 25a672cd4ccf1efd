import Mathlib
import ResourceLookup.Proofs.Chain.Address
import ResourceLookup.Proofs.Files.Rewritten

/-!
# Packages and places

A regular package keeps its resources in a directory or below its name in an archive. Who asks the
package is answered as by the directory itself, or as by the archive under the full name of the
member. Only a path that is too long for the file system keeps a directory from an answer, and then
the package is refused for the same reason.
-/

namespace ResourceLookup

open Lookup

theorem FileTree.lookup_error {t : FileTree} {cwd : Location} {path : Text} {f : Fault}
    (h : t.lookup cwd path = .error f) :
    t.locate cwd path = .error .nameTooLong ∧ f = .refused .nameTooLong (some path) := by
  rw [lookup] at h
  split at h
  · cases h
  · cases hlocate : t.locate cwd path with
    | ok r =>
      rw [hlocate] at h
      cases h
    | error why =>
      rw [hlocate] at h
      cases why with
      | nameTooLong =>
        cases h
        exact ⟨rfl, rfl⟩
      | noEntry | notDirectory | isDirectory | tooManyLinks | connectionRefused => cases h

/-! ## What a resolver comes to -/

def World.sound (w : World) : World := { w with flaws := fun _ => none }

namespace Resolver

variable {r : Resolver} {name : Text} {w u : World}

def contents (r : Resolver) (name : Text) (w : World) : Except Fault (Option Octets) :=
  match r.openStream name w.sound with
  | .error f _ => .error f
  | .ok none _ => .ok none
  | .ok (some id) v =>
    match readStream id none v with
    | .error f _ => .error f
    | .ok bs _ => .ok (some bs)

def address (r : Resolver) (name : Text) (w : World) : Except Fault (Option Text) :=
  match r.findUrl name w with
  | .error f _ => .error f
  | .ok url? _ => .ok url?

theorem contents_eq {x : Except Fault (Option Holding)} (sound : u.flaws = w.sound.flaws)
    (h : r.openStream name w.sound = (answer x >>= openFound) u) :
    r.contents name w = x.map (Option.map (·.2)) := by
  rw [contents, h]
  cases x with
  | error f => rfl
  | ok found? =>
    cases found? with
    | none => rfl
    | some holding =>
      obtain ⟨id, v, hopen, v', hread⟩ := openFound_reads u holding
        (.inr (congrFun sound _))
      have hanswer : (answer (.ok (some holding)) >>= openFound) u = .ok (some id) v := hopen
      simp only [hanswer, hread]
      rfl

theorem address_eq {y : Except Fault (Option Text)} (h : r.findUrl name w = answer y u) :
    r.address name w = y := by
  rw [address, h]
  cases y <;> rfl

theorem contents_place (p : Place) (name : Text) (w : World) :
    (place p).contents name w = (p.read w.around name).map (Option.map (·.2)) :=
  contents_eq (u := w.sound) rfl rfl

theorem address_place (p : Place) (name : Text) (w : World) :
    (place p).address name w = p.url w.around name :=
  address_eq (u := w) rfl

variable {p : Text} {parts : List Text} {files : PackageFiles} {s : ModuleSpace}

theorem contents_package (hparts : ResourceName.parts? name = some parts)
    (hfiles : PackageFiles.ofPackage w.around p w.modules = .ok (some files) s) :
    (package p).contents name w = (files.readParts w.around parts).map (Option.map (·.2)) :=
  contents_eq (u := { w.sound with modules := s }) rfl
    (bind_of_answer (importing_lookup_of_files (w := w.sound) hparts hfiles _))

theorem address_package (hparts : ResourceName.parts? name = some parts)
    (hfiles : PackageFiles.ofPackage w.around p w.modules = .ok (some files) s) :
    (package p).address name w = files.urlOfParts w.around parts :=
  address_eq (importing_lookup_of_files hparts hfiles _)

end Resolver

/-! ## Where a package is kept -/

structure Imports (around : Surroundings) (package : Text) (s : ModuleSpace) (m : Module) :
    Prop where
  module : ∃ id s', Import.importNamed around package s = .ok id s' ∧ s'.module? id = some m
  beganAsPackage : m.beganAsPackage = true

namespace PackageFiles

variable {around : Surroundings} {package file inside : Text} {s : ModuleSpace} {m : Module}

def insidePackage (inside : Text) (m : Module) : Text :=
  inside ++ Finder.lastPart m.name ++ [Path.slash]

theorem ofPackage_directory {d : Text} (h : Imports around package s m)
    (home : m.home = .directory d) :
    ∃ s', ofPackage around package s = .ok (some (directory (Path.ofText d))) s' := by
  obtain ⟨id, s', himport, hmodule⟩ := h.module
  refine ⟨s', ?_⟩
  rw [ofPackage]
  simp only [himport, hmodule, h.beganAsPackage, home, Bool.not_true, Bool.false_eq_true, ↓reduceIte]

theorem ofPackage_archive (h : Imports around package s m) (home : m.home = .archive file inside) :
    ∃ s', ofPackage around package s = .ok (some (archive file (insidePackage inside m))) s' := by
  obtain ⟨id, s', himport, hmodule⟩ := h.module
  refine ⟨s', ?_⟩
  rw [ofPackage]
  simp only [himport, hmodule, h.beganAsPackage, home, Bool.not_true, Bool.false_eq_true, ↓reduceIte]
  rfl

end PackageFiles

namespace Resolver

open PackageFiles

variable {p name : Text} {w : World} {m : Module}

/-! ## In a directory -/

section

variable {d : Text}

def Overlong (w : World) (root : Path) (name path : Text) : Prop :=
  ∃ parts, ResourceName.parts? name = some parts ∧ path = (root.below parts).toText ∧
    w.around.tree.locate w.around.cwd path = .error .nameTooLong

inductive Decided (root : Path) (name : Text) (w : World) : Prop
  | overlong (path : Text) (long : Overlong w root name path)
    (refused : (place (.directory root)).contents name w =
      .error (.refused .nameTooLong (some path)))
  | nothing (contents : (place (.directory root)).contents name w = .ok none)
  | file (bs : Octets) (contents : (place (.directory root)).contents name w = .ok (some bs))

theorem contents_unparted (hparts : ResourceName.parts? name = none) (p : Text) (w : World) :
    (package p).contents name w = .ok none := by
  have hopen : (package p).openStream name w.sound = (answer (.ok none) >>= openFound) w.sound := by
    refine bind_of_answer (importing_ok (m := w.sound.modules) ?_)
    rw [PackageFiles.lookup, hparts]
  exact contents_eq (u := w.sound) rfl hopen

theorem contents_of_directory (h : Imports w.around p w.modules m) (home : m.home = .directory d)
    (name : Text) :
    (package p).contents name w = (place (.directory (Path.ofText d))).contents name w := by
  rw [contents_place, Place.read]
  cases hparts : ResourceName.parts? name with
  | none => exact contents_unparted hparts p w
  | some parts =>
    obtain ⟨s, hfiles⟩ := ofPackage_directory h home
    exact contents_package hparts hfiles

theorem lookup_of_readFile_error {around : Surroundings} {path : Path} {f : Fault}
    (h : Place.readFile around path = .error f) :
    around.tree.lookup around.cwd path.toText = .error f := by
  rw [Place.readFile, FileTree.lookupFile] at h
  cases hl : around.tree.lookup around.cwd path.toText with
  | error f' =>
    rw [hl] at h
    cases h
    rfl
  | ok found? =>
    rw [hl] at h
    cases found? with
    | none => cases h
    | some r => cases hfile : r.2.isFile <;> simp [hfile] at h

theorem decided (root : Path) (name : Text) (w : World) : Decided root name w := by
  have hcontents := contents_place (.directory root) name w
  cases hread : (Place.directory root).read w.around name with
  | ok found? =>
    rw [hread] at hcontents
    cases found? with
    | none => exact .nothing hcontents
    | some holding => exact .file holding.2 hcontents
  | error f =>
    rw [hread] at hcontents
    rw [Place.read] at hread
    cases hparts : ResourceName.parts? name with
    | none =>
      rw [hparts] at hread
      cases hread
    | some parts =>
      rw [hparts] at hread
      obtain ⟨hlocate, rfl⟩ := FileTree.lookup_error (lookup_of_readFile_error hread)
      exact .overlong _ ⟨parts, hparts, rfl, hlocate⟩ hcontents

theorem read_of_contents {kept : Place} {bs : Octets}
    (h : (place kept).contents name w = .ok (some bs)) :
    ∃ holding, kept.read w.around name = .ok (some holding) := by
  rw [contents_place] at h
  cases hread : kept.read w.around name with
  | error f =>
    rw [hread] at h
    cases h
  | ok found? =>
    cases found? with
    | none =>
      rw [hread] at h
      cases h
    | some holding => exact ⟨holding, rfl⟩

theorem address_of_directory (h : Imports w.around p w.modules m) (home : m.home = .directory d)
    {bs : Octets} (hbs : (place (.directory (Path.ofText d))).contents name w = .ok (some bs)) :
    (package p).address name w = (place (.directory (Path.ofText d))).address name w := by
  obtain ⟨holding, hread⟩ := read_of_contents hbs
  cases hparts : ResourceName.parts? name with
  | none =>
    rw [Place.read, hparts] at hread
    cases hread
  | some parts =>
    obtain ⟨s, hfiles⟩ := ofPackage_directory h home
    obtain ⟨q, e, hlookup, -, -⟩ := Place.lookup_of_read hparts hread
    have hreadParts : readParts w.around parts (.directory (Path.ofText d)) =
        .ok (some holding) := by
      rw [Place.read, hparts] at hread
      exact hread
    rw [address_package hparts hfiles, address_place, Place.url_of_lookup hparts hlookup,
      urlOfParts, hreadParts]

end

/-! ## In an archive -/

section

variable {file inside : Text} {q : Location} {members : Members} {parts : List Text}

theorem membersOf_of_lookup
    (found : w.around.tree.lookup w.around.cwd file = .ok (some (q, .archive members))) :
    membersOf w.around file = .ok members := by
  rw [membersOf, FileTree.locate_of_lookup found]

theorem membersAt_of_lookup
    (found : w.around.tree.lookup w.around.cwd file = .ok (some (q, .archive members))) :
    Place.membersAt w.around (Path.ofText file) = .ok (some members) := by
  simp only [Place.membersAt, FileTree.lookupFile, FileTree.lookup_toText_ofText found,
    Entry.isFile, ↓reduceIte]

theorem has_of_file? {n : Text} {b : Body} (h : members.file? n = some b) :
    members.has n = true := by
  rw [Members.file?] at h
  split at h
  · cases h
  · rw [Members.has, h]
    rfl

theorem contents_of_archive (h : Imports w.around p w.modules m)
    (home : m.home = .archive file inside)
    (found : w.around.tree.lookup w.around.cwd file = .ok (some (q, .archive members)))
    (hparts : ResourceName.parts? name = some parts) :
    (package p).contents name w =
      .ok ((members.file? (memberName (insidePackage inside m) parts)).map Body.toOctets) := by
  obtain ⟨s, hfiles⟩ := ofPackage_archive h home
  rw [contents_package hparts hfiles, readParts, membersOf_of_lookup found]
  simp only [Except.map, Option.map_map]
  rfl

theorem address_of_archive (h : Imports w.around p w.modules m)
    (home : m.home = .archive file inside)
    (found : w.around.tree.lookup w.around.cwd file = .ok (some (q, .archive members)))
    (hparts : ResourceName.parts? name = some parts) :
    (package p).address name w =
      match members.file? (memberName (insidePackage inside m) parts) with
      | none => .ok none
      | some _ => (Url.ofMember w.around.tree w.around.cwd (Path.ofText file)
          (memberName (insidePackage inside m) parts)).map some := by
  obtain ⟨s, hfiles⟩ := ofPackage_archive h home
  rw [address_package hparts hfiles, urlOfParts, readParts, membersOf_of_lookup found]
  simp only [Except.map]
  cases members.file? (memberName (insidePackage inside m) parts) <;> rfl

theorem contents_archive (member : Text)
    (found : w.around.tree.lookup w.around.cwd file = .ok (some (q, .archive members))) :
    (place (.archive (Path.ofText file))).contents member w =
      .ok ((members.file? member).map Body.toOctets) := by
  rw [contents_place, Place.read, membersAt_of_lookup found]
  simp only [Except.map, Option.map_map]
  rfl

theorem address_archive {member : Text} {b : Body}
    (found : w.around.tree.lookup w.around.cwd file = .ok (some (q, .archive members)))
    (stored : members.file? member = some b) :
    (place (.archive (Path.ofText file))).address member w =
      (Url.ofMember w.around.tree w.around.cwd (Path.ofText file) member).map some := by
  rw [address_place, Place.url, membersAt_of_lookup found]
  simp only [has_of_file? stored, ↓reduceIte]

end

/-! ## Together -/

structure AsDirectory (p : Text) (root : Path) (name : Text) (w : World) : Prop where
  contents : (package p).contents name w = (place (.directory root)).contents name w
  decided : Decided root name w
  address : ∀ bs, (place (.directory root)).contents name w = .ok (some bs) →
    (package p).address name w = (place (.directory root)).address name w

structure AsMember (p : Text) (file : Path) (name member : Text) (held : Option Body)
    (w : World) : Prop where
  contents : (package p).contents name w = .ok (held.map Body.toOctets)
  stored : ∀ b, held = some b →
    (package p).contents name w = (place (.archive file)).contents member w ∧
      (package p).address name w = (place (.archive file)).address member w
  absent : held = none → (package p).address name w = .ok none

/-- A package has the resources of its directory, or those that its archive has below its name. -/
theorem package_has_resources_of_place (h : Imports w.around p w.modules m) (name : Text) :
    (∀ d, m.home = .directory d → AsDirectory p (Path.ofText d) name w) ∧
    ∀ file inside q members parts, m.home = .archive file inside →
      w.around.tree.lookup w.around.cwd file = .ok (some (q, .archive members)) →
      ResourceName.parts? name = some parts →
      AsMember p (Path.ofText file) name (memberName (insidePackage inside m) parts)
        (members.file? (memberName (insidePackage inside m) parts)) w := by
  refine ⟨fun d home => ?_, fun file inside q members parts home found hparts => ?_⟩
  · exact
      { contents := contents_of_directory h home name
        decided := decided (Path.ofText d) name w
        address := fun _ hbs => address_of_directory h home hbs }
  · have hcontents := contents_of_archive h home found hparts
    have haddress := address_of_archive h home found hparts
    refine { contents := hcontents, stored := fun b hb => ?_, absent := fun hnone => ?_ }
    · rw [hb] at haddress
      exact ⟨hcontents.trans (contents_archive _ found).symm,
        haddress.trans (address_archive found hb).symm⟩
    · rw [hnone] at haddress
      exact haddress

def packageMembers : Members := [(text "q/__init__.py", .program []), (text "q/r", .octets [0x32])]

def twoPackages : World := .startIn
  { tree :=
      [([text "a"], .directory), ([text "a", text "p"], .directory),
        ([text "a", text "p", text "__init__.py"], .file (.program [])),
        ([text "a", text "p", text "r"], .file (.octets [0x31])),
        ([text "z"], .archive packageMembers)]
    cwd := []
    searchPath := [text "/a", text "/z"] }

theorem imports_of_run {around : Surroundings} {package n : Text} {s : ModuleSpace} {home : Home}
    (h : EStateM.run' (do
      let id ← Import.importNamed around package
      pure (((← get).module? id).map fun m => (m.home, m.beganAsPackage, m.name))) s =
        some (some (home, true, n))) :
    ∃ m, Imports around package s m ∧ m.home = home ∧ m.name = n := by
  obtain ⟨s', hrun⟩ := exists_of_run h
  obtain ⟨id, s'', himport, hmodule⟩ := ok_of_bind hrun
  have hshown : ((s''.module? id).map fun m => (m.home, m.beganAsPackage, m.name)) =
      some (home, true, n) := (EStateM.Result.ok.inj hmodule).1
  obtain ⟨m, hm, heq⟩ := Option.map_eq_some_iff.1 hshown
  simp only [Prod.mk.injEq] at heq
  exact ⟨m, ⟨⟨id, s'', himport, hm⟩, heq.2.1⟩, heq.1, heq.2.2⟩

theorem imports_p : ∃ m, Imports twoPackages.around (text "p") twoPackages.modules m ∧
    m.home = .directory (text "/a/p") ∧ m.name = text "p" := imports_of_run (by cbv)

theorem imports_q : ∃ m, Imports twoPackages.around (text "q") twoPackages.modules m ∧
    m.home = .archive (text "/z") [] ∧ m.name = text "q" := imports_of_run (by cbv)

theorem package_has_resources_of_place_two :
    (package (text "p")).contents (text "r") twoPackages = .ok (some [0x31]) ∧
    (package (text "q")).contents (text "r") twoPackages = .ok (some [0x32]) ∧
    (package (text "q")).address (text "r") twoPackages =
      (place (.archive (Path.ofText (text "/z")))).address (text "q/r") twoPackages := by
  obtain ⟨m, himports, home, -⟩ := imports_p
  obtain ⟨m', himports', home', hname⟩ := imports_q
  have hp := (package_has_resources_of_place himports (text "r")).1 _ home
  have hdirectory : (place (.directory (Path.ofText (text "/a/p")))).contents (text "r")
      twoPackages = .ok (some [0x31]) := by cbv
  have hmember : memberName (insidePackage [] m') [text "r"] = text "q/r" := by
    rw [insidePackage, hname]
    cbv
  have hq := (package_has_resources_of_place himports' (text "r")).2 _ _ [text "z"] packageMembers
    [text "r"] home' (by cbv) (by cbv)
  have hstored : packageMembers.file? (memberName (insidePackage [] m') [text "r"]) =
      some (.octets [0x32]) := by
    rw [hmember]
    cbv
  obtain ⟨-, haddress⟩ := hq.stored _ hstored
  rw [hmember] at haddress
  exact ⟨hp.contents.trans hdirectory, hq.contents.trans (by rw [hstored]; rfl), haddress⟩

def longName : Text := List.replicate 256 0x6E

theorem locate_longName :
    twoPackages.around.tree.locate twoPackages.around.cwd
      ((Path.ofText (text "/a/p")).below [longName]).toText = .error .nameTooLong := by
  have hroot : (Path.ofText (text "/a/p")).below [longName] =
    ⟨.root, [text "a", text "p", longName]⟩ := rfl
  have hnormal : Path.IsNormal ⟨.root, [text "a", text "p", longName]⟩ := by
    have hcomponents : ∀ n ∈ [text "a", text "p", longName], Path.IsComponent n := by
      decide +kernel
    exact fun n hn => (hcomponents n hn).toIsStep
  have hwalk : twoPackages.around.tree.walk FileTree.linkLimit [] .directory
      [text "a", text "p", longName] = .error .nameTooLong := by
    rw [FileTree.walk_enter (by decide) (by decide) (e := .directory) rfl nofun,
      FileTree.walk_enter (by decide) (by decide) (e := .directory) rfl nofun,
      FileTree.walk_tooLong (by decide +kernel) (by decide +kernel)]
  rw [hroot, FileTree.locate_toText hnormal]
  split
  · rfl
  · exact hwalk

theorem contents_longName :
    (place (.directory (Path.ofText (text "/a/p")))).contents longName twoPackages =
      .error (.refused .nameTooLong
        (some ((Path.ofText (text "/a/p")).below [longName]).toText)) := by
  have hparts : ResourceName.parts? longName = some [longName] := by decide +kernel
  have hname :
      FileTree.isNameable ((Path.ofText (text "/a/p")).below [longName]).toText = true := by
    decide +kernel
  have hlookup : twoPackages.around.tree.lookup twoPackages.around.cwd
      ((Path.ofText (text "/a/p")).below [longName]).toText = .error (.refused .nameTooLong
        (some ((Path.ofText (text "/a/p")).below [longName]).toText)) := by
    rw [FileTree.lookup, hname, locate_longName]
    rfl
  rw [contents_place, Place.read, hparts]
  simp only [Place.readFile, FileTree.lookupFile, hlookup]
  rfl

/-- Where a name is too long neither the package nor the directory tells that nothing is there. -/
theorem package_refused_like_directory :
    ¬∀ (p d name : Text) (m : Module) (w : World), Imports w.around p w.modules m →
      m.home = .directory d →
      ((package p).contents name w = .ok none ∧
          (place (.directory (Path.ofText d))).contents name w = .ok none) ∨
        ∃ bs, (package p).contents name w = .ok (some bs) ∧
          (place (.directory (Path.ofText d))).contents name w = .ok (some bs) := by
  intro h
  obtain ⟨m, himports, home, -⟩ := imports_p
  rcases h _ _ longName m twoPackages himports home with ⟨-, hnone⟩ | ⟨bs, -, hbs⟩
  · rw [contents_longName] at hnone
    cases hnone
  · rw [contents_longName] at hbs
    cases hbs

end Resolver
end ResourceLookup
