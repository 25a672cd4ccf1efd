import ResourceLookup.Proofs.Chain.Confinement
import ResourceLookup.Proofs.Chain.FirstHolder
import ResourceLookup.Proofs.Files.Settling
import ResourceLookup.Proofs.Streams.Reading

/-!
# What can be read has an address

Reading looks for a file and an address for anything at all, so that a resolver that reads something
under a name also has an address for it, and one that has no address has nothing to read. Along a
chain an address is come to no later than a stream. All this holds as long as the links on the way
to what is found are seen where they stand.
-/

namespace ResourceLookup

open ResourceLookup.Path

/-! ## Reading beside addressing -/

/-- How reading and addressing the same thing end. Where no address is found, nothing is read; and
where the search for one fails, so does reading, unless something on the way to it is not `seen`. -/
inductive Accords {α β : Type} (seen : Prop) :
    Except Fault (Option α) → Except Fault (Option β) → Prop
  | absent : Accords seen (.ok none) (.ok none)
  | found (x : Except Fault (Option α)) (b : β) : Accords seen x (.ok (some b))
  | failed (f : Fault) : Accords seen (.error f) (.error f)
  | unaddressed (x : Except Fault (Option α)) {f : Fault} (unseen : ¬seen)
    (other : ∀ name, f ≠ .resourceNotFound name) : Accords seen x (.error f)

namespace Accords

variable {α β : Type} {seen seen' : Prop} {x : Except Fault (Option α)} {y : Except Fault (Option β)}

theorem mono (h : Accords seen x y) (himp : seen' → seen) : Accords seen' x y := by
  cases h with
  | absent => exact .absent
  | found x b => exact .found x b
  | failed f => exact .failed f
  | unaddressed x unseen other => exact .unaddressed x (fun h => unseen (himp h)) other

theorem of_url (x : Except Fault (Option α)) {y : Except Fault β} (url : seen → ∃ b, y = .ok b)
    (other : ∀ name, y ≠ .error (.resourceNotFound name)) : Accords seen x (y.map some) := by
  cases y with
  | ok b => exact .found x b
  | error f =>
    refine .unaddressed x (fun h => ?_) fun name hf => other name (congrArg Except.error hf)
    obtain ⟨b, hb⟩ := url h
    cases hb

end Accords

theorem Url.ofMember_ne_missing (t : FileTree) (cwd : Location) (file : Path) (member name : Text) :
    Url.ofMember t cwd file member ≠ .error (.resourceNotFound name) := by
  intro h
  rw [Url.ofMember] at h
  have hurl := t.urlOf_ne_missing cwd file name
  cases hy : t.urlOf cwd file with
  | ok u =>
    rw [hy] at h
    cases h
  | error f =>
    rw [hy] at h hurl
    cases h
    exact hurl rfl

variable {around : Surroundings} {name : Text}

theorem Surroundings.Regular.ofMember_of_locate (regular : around.Regular) {path : Text} {q : Location}
    {e : Entry} (sees : around.tree.SeesLinks around.cwd (ofText path))
    (found : around.tree.locate around.cwd path = .ok (q, e)) (member : Text) :
    ∃ url, Url.ofMember around.tree around.cwd (ofText path) member = .ok url := by
  obtain ⟨u, hu⟩ := regular.urlOf_of_locate sees found
  exact ⟨_, by rw [Url.ofMember, hu]; rfl⟩

/-! ## Places -/

namespace Place

variable {p : Place}

def SeesLinks (around : Surroundings) (name : Text) : Place → Prop
  | directory root => ∀ parts, ResourceName.parts? name = some parts →
    around.tree.SeesLinks around.cwd (root.below parts)
  | archive file => around.tree.SeesLinks around.cwd file

theorem ofEntry_normal {entry : Text} (h : ofEntry around entry = .ok (some p)) :
    p.path.IsNormal := by
  rw [ofEntry] at h
  split at h
  · cases h
  · cases h
    exact ofText_normal _
  · cases h
    exact ofText_normal _
  · cases h

theorem locate_of_membersAt {file : Path} {m : Members} (h : membersAt around file = .ok (some m)) :
    ∃ q e, around.tree.locate around.cwd file.toText = .ok (q, e) := by
  rw [membersAt] at h
  split at h
  · cases h
  · cases h
  · next hfile =>
    obtain ⟨q, hlocate⟩ := FileTree.locate_of_lookupFile hfile
    exact ⟨q, _, hlocate⟩
  · cases h

theorem locate_of_readFile {path : Path} {found : Holding}
    (h : readFile around path = .ok (some found)) :
    ∃ q e, around.tree.locate around.cwd path.toText = .ok (q, e) := by
  rw [readFile] at h
  split at h
  · cases h
  · cases h
  · next hfile =>
    obtain ⟨q, hlocate⟩ := FileTree.locate_of_lookupFile hfile
    exact ⟨q, _, hlocate⟩

theorem file?_of_has {m : Members} (h : m.has name = false) : m.file? name = none := by
  rw [Members.has, Option.isSome_eq_false_iff, Option.isNone_iff_eq_none] at h
  rw [Members.file?, h, ite_self]

theorem read_of_lookup {root : Path} {parts : List Text} {q : Location} {e : Entry}
    (hparts : ResourceName.parts? name = some parts)
    (found : around.tree.lookup around.cwd (root.below parts).toText = .ok (some (q, e)))
    (file : e.isFile = true) :
    (directory root).read around name = .ok (some (.file, e.toOctets)) := by
  rw [read]
  simp only [hparts, readFile, FileTree.lookupFile, found, file, ↓reduceIte]

theorem lookup_of_read {root : Path} {parts : List Text} {holding : Holding}
    (hparts : ResourceName.parts? name = some parts)
    (h : (directory root).read around name = .ok (some holding)) :
    ∃ q e, around.tree.lookup around.cwd (root.below parts).toText = .ok (some (q, e)) ∧
      e.isFile = true ∧ holding = (.file, e.toOctets) := by
  rw [read] at h
  simp only [hparts, readFile, FileTree.lookupFile] at h
  cases hl : around.tree.lookup around.cwd (root.below parts).toText with
  | error f =>
    rw [hl] at h
    cases h
  | ok found? =>
    rw [hl] at h
    cases found? with
    | none => cases h
    | some r =>
      cases hfile : r.2.isFile with
      | false =>
        simp only [hfile, Bool.false_eq_true, ↓reduceIte] at h
        cases h
      | true =>
        simp only [hfile, ↓reduceIte] at h
        cases h
        exact ⟨r.1, r.2, rfl, hfile, rfl⟩

theorem url_of_lookup {root : Path} {parts : List Text} {r : Location × Entry}
    (hparts : ResourceName.parts? name = some parts)
    (found : around.tree.lookup around.cwd (root.below parts).toText = .ok (some r)) :
    (directory root).url around name =
      (around.tree.urlOf around.cwd (root.below parts)).map some := by
  rw [url]
  simp only [hparts, FileTree.exists?, found]
  rfl

theorem lookup_of_url {root : Path} {parts : List Text} {u : Text}
    (hparts : ResourceName.parts? name = some parts)
    (h : (directory root).url around name = .ok (some u)) :
    ∃ r, around.tree.lookup around.cwd (root.below parts).toText = .ok (some r) ∧
      around.tree.urlOf around.cwd (root.below parts) = .ok u := by
  rw [url] at h
  simp only [hparts, FileTree.exists?] at h
  cases hl : around.tree.lookup around.cwd (root.below parts).toText with
  | error f =>
    rw [hl] at h
    cases h
  | ok found? =>
    rw [hl] at h
    cases found? with
    | none => cases h
    | some r =>
      refine ⟨r, rfl, ?_⟩
      cases hurl : around.tree.urlOf around.cwd (root.below parts) with
      | ok u' =>
        simp only [hurl] at h
        cases h
        rfl
      | error f =>
        simp only [hurl] at h
        cases h

theorem directory_accords {root : Path} (regular : around.Regular) (hp : root.IsNormal) :
    Accords (SeesLinks around name (.directory root)) ((directory root).read around name)
      ((directory root).url around name) := by
  cases hparts : ResourceName.parts? name with
  | none =>
    rw [read, url, hparts]
    exact .absent
  | some parts =>
    have hsteps := ResourceName.steps_of_parts? hparts
    cases hl : around.tree.lookup around.cwd (root.below parts).toText with
    | error f =>
      rw [read, url]
      simp only [hparts, readFile, FileTree.lookupFile, FileTree.exists?, hl]
      exact .failed f
    | ok found? =>
      cases found? with
      | none =>
        rw [read, url]
        simp only [hparts, readFile, FileTree.lookupFile, FileTree.exists?, hl]
        exact .absent
      | some r =>
        -- Only the way to what is there can keep it from having an address.
        have hurl : SeesLinks around name (.directory root) →
            ∃ u, around.tree.urlOf around.cwd (root.below parts) = .ok u := fun sees =>
          regular.urlOf_of_normal (hp.below hsteps) (sees parts hparts) (FileTree.locate_of_lookup hl)
        rw [url_of_lookup hparts hl]
        exact .of_url _ hurl (around.tree.urlOf_ne_missing around.cwd (root.below parts))

theorem archive_accords {file : Path} (regular : around.Regular) (hp : file.IsNormal) :
    Accords (SeesLinks around name (.archive file)) ((archive file).read around name)
      ((archive file).url around name) := by
  rw [read, url]
  cases hm : membersAt around file with
  | error f => exact .failed f
  | ok m? =>
    cases m? with
    | none => exact .absent
    | some m =>
      cases hhas : m.has name with
      | false =>
        simp only [file?_of_has hhas, hhas]
        exact .absent
      | true =>
        have hurl : SeesLinks around name (.archive file) →
            ∃ u, Url.ofMember around.tree around.cwd file name = .ok u := by
          intro sees
          obtain ⟨q, e, hlocate⟩ := locate_of_membersAt hm
          have hfile : ofText file.toText = file := ofText_toText hp
          rw [← hfile]
          exact regular.ofMember_of_locate (hfile.symm ▸ sees) hlocate name
        simp only [hhas, ↓reduceIte]
        exact .of_url _ hurl (Url.ofMember_ne_missing _ _ file name)

theorem accords (regular : around.Regular) (hp : p.path.IsNormal) :
    Accords (p.SeesLinks around name) (p.read around name) (p.url around name) := by
  cases p with
  | directory root => exact directory_accords regular hp
  | archive file => exact archive_accords regular hp

def SeesLinksAlong (around : Surroundings) (name : Text) : List Text → Prop
  | [] => True
  | entry :: rest => ∀ p?, ofEntry around entry = .ok p? → (∀ p ∈ p?, p.SeesLinks around name) ∧
    ((∀ p ∈ p?, p.url around name = .ok none) → SeesLinksAlong around name rest)

theorem search_accords (regular : around.Regular) (list : List Text) :
    Accords (SeesLinksAlong around name list) (search around (fun p => p.read around name) list)
      (search around (fun p => p.url around name) list) := by
  induction list with
  | nil => exact .absent
  | cons entry rest ih =>
    rw [search, search]
    cases hentry : ofEntry around entry with
    | error f => exact .failed f
    | ok p? =>
      cases p? with
      | none => exact ih.mono fun sees => (sees none hentry).2 fun p hp => by cases hp
      | some p =>
        have hp : Accords (SeesLinksAlong around name (entry :: rest)) (p.read around name)
            (p.url around name) :=
          (accords regular (ofEntry_normal hentry)).mono fun sees => (sees _ hentry).1 p rfl
        have hrest : p.url around name = .ok none →
            Accords (SeesLinksAlong around name (entry :: rest))
            (search around (fun p => p.read around name) rest)
            (search around (fun p => p.url around name) rest) := fun hurl =>
          ih.mono fun sees => (sees _ hentry).2 fun _ hp => Option.some.inj hp ▸ hurl
        simp only
        generalize p.read around name = x at hp ⊢
        generalize p.url around name = y at hp hrest ⊢
        cases hp with
        | absent => exact hrest rfl
        | found x b => exact .found _ b
        | failed f => exact .failed f
        | unaddressed x unseen other => exact .unaddressed _ unseen other

end Place

/-! ## Files of packages -/

namespace PackageFiles

def SeesLinks (around : Surroundings) (parts : List Text) : PackageFiles → Prop
  | directory path => around.tree.SeesLinks around.cwd (path.below parts)
  | archive file _ => around.tree.SeesLinks around.cwd (ofText file)
  | portions paths => ∀ path, pathIn around paths parts = some path →
    around.tree.SeesLinks around.cwd path

def IsNormal : PackageFiles → Prop
  | directory path => path.IsNormal
  | archive _ _ => True
  | portions paths => ∀ path ∈ paths, path.IsNormal

variable {files : PackageFiles} {parts : List Text}

theorem pathIn_normal {paths : List Path} {path : Path} (normal : ∀ p ∈ paths, p.IsNormal)
    (hparts : ∀ n ∈ parts, IsStep n) (h : pathIn around paths parts = some path) : path.IsNormal := by
  obtain ⟨p, hp, rfl⟩ := pathIn_below h
  exact (normal p hp).below hparts

theorem locate_of_membersOf {file : Text} {m : Members} (h : membersOf around file = .ok m) :
    ∃ q e, around.tree.locate around.cwd file = .ok (q, e) := by
  rw [membersOf] at h
  cases hl : around.tree.locate around.cwd file with
  | ok r => exact ⟨r.1, r.2, rfl⟩
  | error why =>
    rw [hl] at h
    cases h

theorem accords_readFile (regular : around.Regular) {path : Path} (hp : path.IsNormal)
    {found : Holding} (h : Place.readFile around path = .ok (some found)) :
    Accords (around.tree.SeesLinks around.cwd path) (Except.ok (some found))
      ((around.tree.urlOf around.cwd path).map some) := by
  obtain ⟨q, e, hlocate⟩ := Place.locate_of_readFile h
  exact .of_url _ (fun sees => regular.urlOf_of_normal hp sees hlocate)
    (around.tree.urlOf_ne_missing around.cwd path)

theorem accords (regular : around.Regular) (normal : files.IsNormal)
    (hparts : ∀ n ∈ parts, IsStep n) :
    Accords (files.SeesLinks around parts) (files.readParts around parts)
      (files.urlOfParts around parts) := by
  unfold urlOfParts
  cases hread : files.readParts around parts with
  | error f => exact .failed f
  | ok h? =>
    cases h? with
    | none => exact .absent
    | some h =>
      cases files with
      | directory path => exact accords_readFile regular (normal.below hparts) hread
      | archive file inside =>
        have hurl : SeesLinks around parts (.archive file inside) →
            ∃ u, Url.ofMember around.tree around.cwd (ofText file) (memberName inside parts) =
              .ok u := by
          intro sees
          rw [readParts] at hread
          cases hm : membersOf around file with
          | error f =>
            rw [hm] at hread
            cases hread
          | ok m =>
            obtain ⟨q, e, hlocate⟩ := locate_of_membersOf hm
            exact regular.ofMember_of_locate sees hlocate _
        exact .of_url _ hurl (Url.ofMember_ne_missing _ _ _ _)
      | portions paths =>
        simp only
        cases hpath : pathIn around paths parts with
        | none =>
          rw [readParts, hpath] at hread
          cases hread
        | some path =>
          rw [readParts, hpath] at hread
          exact (accords_readFile regular (pathIn_normal normal hparts hpath) hread).mono
            fun sees => sees path hpath

theorem ofPortions_normal {paths : List Text} (h : ofPortions around paths = .ok files) :
    files.IsNormal := by
  rw [ofPortions] at h
  cases hcheck : checkDirectories around ((paths.foldl
      (fun seen p => if seen.contains p then seen else seen ++ [p]) []).map ofText) with
  | error f =>
    rw [hcheck] at h
    cases h
  | ok _ =>
    rw [hcheck] at h
    cases h
    intro p hp
    obtain ⟨t, -, rfl⟩ := List.mem_map.1 hp
    exact ofText_normal t

theorem ofPackage_normal {package : Text} {s s' : ModuleSpace}
    (h : ofPackage around package s = .ok (some files) s') : files.IsNormal := by
  rw [ofPackage] at h
  split at h
  · split at h <;> cases h
  split at h
  · cases h
  split at h
  · cases h
  split at h
  · cases h
    exact ofText_normal _
  · cases h
    trivial
  · cases h
  · split at h
    · cases h
    · cases h
    · split at h
      · cases h
      · next hportions =>
        cases h
        exact ofPortions_normal hportions

end PackageFiles

/-! ## Resolvers -/

namespace Resolver

open Lookup

variable {r : Resolver} {w : World}

def IsNormal (r : Resolver) : Prop := ∀ p, r = place p → p.path.IsNormal

def SeesLinks (r : Resolver) (name : Text) (w : World) : Prop :=
  match r with
  | place p => p.SeesLinks w.around name
  | entries list => Place.SeesLinksAlong w.around name list
  | searchPath => Place.SeesLinksAlong w.around name w.around.searchPath
  | package p => ∀ parts files s, ResourceName.parts? name = some parts →
    PackageFiles.ofPackage w.around p w.modules = .ok (some files) s →
    files.SeesLinks w.around parts
  | mapping _ | scripted _ => True

theorem seesLinks_of_parts {root : Path} {name : Text} {parts : List Text}
    (hparts : ResourceName.parts? name = some parts)
    (h : w.around.tree.SeesLinks w.around.cwd (root.below parts)) :
    (place (.directory root)).SeesLinks name w := by
  intro parts' hparts'
  cases hparts.symm.trans hparts'
  exact h

/-- Opening a stream and finding an address begin with the same work. What they then do in the same
world accords. -/
def Concerted (r : Resolver) (name : Text) (w : World) : Prop :=
  ∃ (u : World) (x : Except Fault (Option Holding)) (y : Except Fault (Option Text)),
    r.openStream name w = (answer x >>= openFound) u ∧ r.findUrl name w = answer y u ∧
      Accords (r.SeesLinks name w) x y ∧ u.around = w.around

theorem bind_of_answer {α β : Type} {f : Lookup α} {k : α → Lookup β} {x : Except Fault α}
    {u : World} (h : f w = answer x u) : (f >>= k) w = (answer x >>= k) u := by
  simp only [Bind.bind, EStateM.bind, h]

theorem mapping_concerted (key name : Text) (w : World) : (mapping key).Concerted name w := by
  refine ⟨w, (contentOf ((w.mappings.get? key).getD []) name).map (Option.map (Medium.memory, ·)),
    (contentOf ((w.mappings.get? key).getD []) name).map dataUrl, ?_, ?_, ?_, rfl⟩
  · have hmapping : mappingOf key w = .ok ((w.mappings.get? key).getD []) w := rfl
    rw [openStream, bind_ok hmapping]
    cases contentOf ((w.mappings.get? key).getD []) name <;> rfl
  · have hmapping : mappingOf key w = .ok ((w.mappings.get? key).getD []) w := rfl
    rw [findUrl, bind_ok hmapping]
    cases contentOf ((w.mappings.get? key).getD []) name <;> rfl
  · cases contentOf ((w.mappings.get? key).getD []) name with
    | error f => exact .failed f
    | ok found? =>
      cases found? with
      | none => exact .absent
      | some bs => exact .found _ _

theorem importing_lookup_of_files {α : Type} {package name : Text} {parts : List Text}
    {files : PackageFiles} {s : ModuleSpace} (hparts : ResourceName.parts? name = some parts)
    (hfiles : PackageFiles.ofPackage w.around package w.modules = .ok (some files) s)
    (ask : List Text → PackageFiles → Except Fault (Option α)) :
    Lookup.importing (fun around => PackageFiles.lookup around package name ask) w =
      answer (ask parts files) { w with modules := s } := by
  cases hx : ask parts files with
  | ok a =>
    refine importing_ok ?_
    rw [PackageFiles.lookup, hparts]
    simp only [hfiles, hx]
  | error f =>
    refine importing_error ?_
    rw [PackageFiles.lookup, hparts]
    simp only [hfiles, hx]

/-- Looking among the files of a package is work that does not depend on what is asked for, and then
the asking, if there is anything to ask. -/
theorem importing_lookup (package name : Text) (w : World) :
    (∃ (s : ModuleSpace) (x : Fault), ∀ {α : Type} ask, @Lookup.importing (Option α)
      (fun around => PackageFiles.lookup around package name ask) w =
        answer (.error x) { w with modules := s }) ∨
    (∃ s : ModuleSpace, ∀ {α : Type} ask, @Lookup.importing (Option α)
      (fun around => PackageFiles.lookup around package name ask) w =
        answer (.ok none) { w with modules := s }) ∨
    ∃ parts files s, ResourceName.parts? name = some parts ∧
      PackageFiles.ofPackage w.around package w.modules = .ok (some files) s ∧
      ∀ {α : Type} ask, @Lookup.importing (Option α)
        (fun around => PackageFiles.lookup around package name ask) w =
          answer (ask parts files) { w with modules := s } := by
  cases hparts : ResourceName.parts? name with
  | none =>
    refine .inr (.inl ⟨w.modules, fun ask => importing_ok ?_⟩)
    rw [PackageFiles.lookup, hparts]
  | some parts =>
    cases hfiles : PackageFiles.ofPackage w.around package w.modules with
    | error f s =>
      refine .inl ⟨s, f, fun ask => importing_error ?_⟩
      rw [PackageFiles.lookup, hparts]
      simp only [hfiles]
    | ok files? s =>
      cases files? with
      | none =>
        refine .inr (.inl ⟨s, fun ask => importing_ok ?_⟩)
        rw [PackageFiles.lookup, hparts]
        simp only [hfiles]
      | some files =>
        exact .inr (.inr ⟨parts, files, s, rfl, rfl, importing_lookup_of_files hparts hfiles⟩)

theorem package_concerted (regular : w.around.Regular) (p name : Text) :
    (package p).Concerted name w := by
  rcases importing_lookup p name w with ⟨s, f, h⟩ | ⟨s, h⟩ | ⟨parts, files, s, hparts, hfiles, h⟩
  · exact ⟨_, .error f, .error f, bind_of_answer (h _), h _, .failed f, rfl⟩
  · exact ⟨_, .ok none, .ok none, bind_of_answer (h _), h _, .absent, rfl⟩
  · have hsteps := ResourceName.steps_of_parts? hparts
    have normal := PackageFiles.ofPackage_normal hfiles
    have haccords := (PackageFiles.accords regular normal hsteps).mono
      fun sees : (package p).SeesLinks name w => sees parts files s hparts hfiles
    exact ⟨_, _, _, bind_of_answer (h _), h _, haccords, rfl⟩

theorem concerted (hr : r.BuiltIn) (normal : r.IsNormal) (regular : w.around.Regular) (name : Text) :
    r.Concerted name w := by
  cases r with
  | mapping key => exact mapping_concerted key name w
  | place p => exact ⟨w, _, _, rfl, rfl, Place.accords regular (normal p rfl), rfl⟩
  | package p => exact package_concerted regular p name
  | entries list => exact ⟨w, _, _, rfl, rfl, Place.search_accords regular list, rfl⟩
  | searchPath => exact ⟨w, _, _, rfl, rfl, Place.search_accords regular w.around.searchPath, rfl⟩
  | scripted key => exact absurd rfl (hr key)

/-! ### What follows -/

theorem openStream_of_absent_url {v : World} (h : r.Concerted name w)
    (hurl : r.findUrl name w = .ok none v) : r.openStream name w = .ok none v := by
  obtain ⟨u, x, y, hopen, hfind, accords, -⟩ := h
  rw [hfind] at hurl
  cases accords with
  | absent =>
    cases hurl
    exact hopen
  | found x b => cases hurl
  | failed f => cases hurl
  | unaddressed x unseen other => cases hurl

theorem openStream_of_missing {v : World} {missing : Text} (h : r.Concerted name w)
    (hurl : r.findUrl name w = .error (.resourceNotFound missing) v) :
    r.openStream name w = .error (.resourceNotFound missing) v := by
  obtain ⟨u, x, y, hopen, hfind, accords, -⟩ := h
  rw [hfind] at hurl
  cases accords with
  | absent => cases hurl
  | found x b => cases hurl
  | failed f =>
    cases hurl
    exact hopen
  | unaddressed x unseen other =>
    cases hurl
    exact absurd rfl (other missing)

/-- If all links are seen, a resolver that does not fail to look for a stream does not fail to look
for an address, and leaves the same state when it has neither. -/
theorem findUrl_of_openStream {id? : Option StreamId} {v : World} (h : r.Concerted name w)
    (sees : r.SeesLinks name w) (hopen : r.openStream name w = .ok id? v) :
    (∃ url u, r.findUrl name w = .ok (some url) u) ∨
      id? = none ∧ r.findUrl name w = .ok none v := by
  obtain ⟨u, x, y, hx, hfind, accords, -⟩ := h
  rw [hx] at hopen
  cases accords with
  | absent =>
    cases hopen
    exact .inr ⟨rfl, hfind⟩
  | found x b => exact .inl ⟨b, u, hfind⟩
  | failed f => cases hopen
  | unaddressed x unseen other => exact absurd sees unseen

theorem around_of_findUrl {v : World} (h : r.Concerted name w)
    (hurl : r.findUrl name w = .ok none v) : v.around = w.around := by
  obtain ⟨u, x, y, -, hfind, -, hu⟩ := h
  rw [hfind] at hurl
  exact answer_ok hurl ▸ hu

end Resolver

/-! ## Chains -/

namespace Family

variable {ρ σ ε : Type} {α : Request → Type} {F : Family ρ σ ε α} {request : Request}
variable {calls : List (ρ × Text)} {s : σ} {k : Nat}

inductive AnswersAt (F : Family ρ σ ε α) (request : Request) : List (ρ × Text) → σ → Nat → Prop
  | here {r : ρ} {n : Text} {calls : List (ρ × Text)} {s s' : σ} {a : α request}
    (answers : F.ask request r n s = .ok (some a) s') : F.AnswersAt request ((r, n) :: calls) s 0
  | later {r : ρ} {n : Text} {calls : List (ρ × Text)} {s s' : σ} {k : Nat}
    (silent : F.ask request r n s = .ok none s') (rest : F.AnswersAt request calls s' k) :
    F.AnswersAt request ((r, n) :: calls) s (k + 1)

theorem AnswersAt.firstHit (h : F.AnswersAt request calls s k) :
    ∃ hit s', Chain.firstHit (F.ask request) calls s = .ok (some hit) s' := by
  induction h with
  | here answers => exact ⟨_, _, Chain.firstHit_cons_some answers⟩
  | later silent _ ih =>
    obtain ⟨hit, s', hhit⟩ := ih
    exact ⟨hit, s', (Chain.firstHit_cons_none silent).trans hhit⟩

theorem answersAt_of_firstHit {hit : Chain.Hit ρ (α request)} {s' : σ}
    (h : Chain.firstHit (F.ask request) calls s = .ok (some hit) s') :
    ∃ k, F.AnswersAt request calls s k := by
  induction calls generalizing s with
  | nil => cases h
  | cons call calls ih =>
    obtain ⟨r, n⟩ := call
    cases hask : F.ask request r n s with
    | error e v =>
      rw [Chain.firstHit_cons_error hask] at h
      cases h
    | ok a? v =>
      cases a? with
      | some a => exact ⟨0, .here hask⟩
      | none =>
        rw [Chain.firstHit_cons_none hask] at h
        obtain ⟨k, hk⟩ := ih h
        exact ⟨k + 1, .later hask hk⟩

theorem AnswersAt.resolve {c : Along ρ} {name : Text}
    (h : F.AnswersAt request (Chain.attempts (c.resolvers (F.settings s)) (request.forms name)) s k) :
    ∃ a s', F.resolve request c name s = .ok (some a) s' := by
  obtain ⟨hit, s', hhit⟩ := h.firstHit
  exact ⟨_, _, resolve_of_hit hhit⟩

theorem answersAt_of_resolve {c : Along ρ} {name : Text} {a : α request} {s' : σ}
    (h : F.resolve request c name s = .ok (some a) s') :
    ∃ k, F.AnswersAt request
      (Chain.attempts (c.resolvers (F.settings s)) (request.forms name)) s k := by
  cases hfirst : Chain.firstHit (F.ask request)
      (Chain.attempts (c.resolvers (F.settings s)) (request.forms name)) s with
  | error e u =>
    rw [resolve_of_error hfirst] at h
    cases h
  | ok hit? u =>
    cases hit? with
    | none =>
      rw [resolve_of_miss hfirst] at h
      cases h
    | some hit => exact answersAt_of_firstHit hfirst

/-- If at each call the second request is answered where the first is, and otherwise ends as that
does, it is answered no later. -/
theorem AnswersAt.no_later {second : Request} {P : ρ → Text → σ → Prop}
    (h : F.AnswersAt request calls s k) (throughout : F.Throughout second P calls s)
    (step : ∀ {r n s a? s'}, P r n s → F.ask request r n s = .ok a? s' →
      (∃ b u, F.ask second r n s = .ok (some b) u) ∨ a? = none ∧ F.ask second r n s = .ok none s') :
    ∃ j ≤ k, F.AnswersAt second calls s j := by
  induction h with
  | here answers =>
    cases throughout with
    | cons head _ =>
      rcases step head answers with ⟨b, u, hb⟩ | ⟨hnone, -⟩
      · exact ⟨0, Nat.le_refl 0, .here hb⟩
      · cases hnone
  | later silent _ ih =>
    cases throughout with
    | cons head tail =>
      rcases step head silent with ⟨b, u, hb⟩ | ⟨-, hnone⟩
      · exact ⟨0, Nat.zero_le _, .here hb⟩
      · obtain ⟨j, hj, hanswers⟩ := ih (tail _ hnone)
        exact ⟨j + 1, Nat.succ_le_succ hj, .later hnone hanswers⟩

end Family

namespace Resolver

variable {w : World}

def IsProper (r : Resolver) : Prop := r.BuiltIn ∧ r.IsNormal

theorem isProper_place {p : Place} (h : p.path.IsNormal) : (place p).IsProper := by
  refine ⟨nofun, fun q hq => ?_⟩
  cases hq
  exact h

theorem firstHit_of_missing {plan : List (Resolver × Text)} {v : World}
    (proper : ∀ call ∈ plan, call.1.IsProper) (regular : w.around.Regular) :
    (Chain.firstHit findUrl plan w = .ok none v → Chain.firstHit openStream plan w = .ok none v) ∧
      ∀ missing, Chain.firstHit findUrl plan w = .error (.resourceNotFound missing) v →
        Chain.firstHit openStream plan w = .error (.resourceNotFound missing) v := by
  induction plan generalizing w with
  | nil =>
    refine ⟨fun h => ?_, fun missing h => ?_⟩
    · cases h
      rfl
    · cases h
  | cons call plan ih =>
    obtain ⟨r, n⟩ := call
    obtain ⟨builtIn, normal⟩ := proper (r, n) List.mem_cons_self
    have concerted := concerted builtIn normal regular n
    cases hfind : r.findUrl n w with
    | error f u =>
      rw [Chain.firstHit_cons_error hfind]
      refine ⟨nofun, fun missing h => ?_⟩
      cases h
      exact Chain.firstHit_cons_error (openStream_of_missing concerted hfind)
    | ok url? u =>
      cases url? with
      | some url =>
        rw [Chain.firstHit_cons_some hfind]
        exact ⟨nofun, nofun⟩
      | none =>
        have hu := around_of_findUrl concerted hfind
        rw [Chain.firstHit_cons_none hfind,
          Chain.firstHit_cons_none (openStream_of_absent_url concerted hfind)]
        exact ih (fun call hcall => proper call (List.mem_cons_of_mem _ hcall)) (hu ▸ regular)

def SeesLinksAlong (c : Along Resolver) (name : Text) (w : World) : Prop :=
  family.Throughout .findUrl (fun r n u => r.SeesLinks n u)
    (Chain.attempts (c.resolvers w.settings) (Request.findUrl.forms name)) w

theorem throughout_concerted {plan : List (Resolver × Text)}
    (proper : ∀ call ∈ plan, call.1.IsProper) (regular : w.around.Regular)
    (sees : family.Throughout .findUrl (fun r n u => r.SeesLinks n u) plan w) :
    family.Throughout .findUrl (fun r n u => r.SeesLinks n u ∧ r.Concerted n u) plan w := by
  induction sees with
  | nil w => exact .nil w
  | @cons r n calls w head _ ih =>
    obtain ⟨builtIn, normal⟩ := proper (r, n) List.mem_cons_self
    have concerted := concerted builtIn normal regular n
    refine .cons ⟨head, concerted⟩ fun v hfind => ?_
    have hv := around_of_findUrl concerted hfind
    exact ih v hfind (fun call hcall => proper call (List.mem_cons_of_mem _ hcall)) (hv ▸ regular)

end Resolver

namespace Url

theorem bracketFlaw?_valueError {host : Text} {f : Fault} (h : bracketFlaw? host = some f) :
    ∃ message, f = .valueError message := by
  rw [bracketFlaw?] at h
  split at h
  · split at h <;> cases h
    exact ⟨_, rfl⟩
  split at h
  · cases h
    exact ⟨_, rfl⟩
  · split at h <;> cases h
    exact ⟨_, rfl⟩

theorem authorityFlaw?_valueError {a : Text} {f : Fault} (h : authorityFlaw? a = some f) :
    ∃ message, f = .valueError message := by
  rw [authorityFlaw?] at h
  split at h
  · cases h
    exact ⟨_, rfl⟩
  · have hdisguise : ∀ {message : Text} {b : Prop} [Decidable b],
        (if b then some (Fault.valueError message) else none) = some f → ∃ m, f = .valueError m := by
      intro message b _ h
      exact ⟨message, Option.some.inj (Option.ite_none_right_eq_some.1 h).2.symm⟩
    split at h
    · cases hflaw : bracketFlaw? _ with
      | none =>
        rw [hflaw] at h
        exact hdisguise h
      | some g =>
        rw [hflaw] at h
        cases h
        exact bracketFlaw?_valueError hflaw
    · exact hdisguise h

theorem toPath_ne_missing (url name : Text) : toPath url ≠ .error (.resourceNotFound name) := by
  intro h
  rw [toPath] at h
  cases hs : split url with
  | ok s =>
    rw [hs] at h
    cases h
  | error f =>
    rw [hs] at h
    cases h
    rw [split] at hs
    split at hs
    · next hflaw =>
      obtain ⟨message, hmessage⟩ := authorityFlaw?_valueError hflaw
      rw [hmessage] at hs
      cases hs
    · cases hs

end Url

namespace Along

open Access Resolver

variable {c : Along Resolver} {name : Text} {w : World}

def calls (c : Along Resolver) (name : Text) (w : World) : List (Resolver × Text) :=
  Chain.attempts (c.resolvers w.settings) [name, ResourceName.alternate name]

theorem mem_calls {call : Resolver × Text} (h : call ∈ c.calls name w) :
    call.1 ∈ c.resolvers w.settings := by
  obtain ⟨r, hr, hcall⟩ := List.mem_flatMap.1 h
  obtain ⟨n, -, rfl⟩ := List.mem_map.1 hcall
  exact hr

theorem getUrl_of_hit {hit : Chain.Hit Resolver Text} {u : World}
    (h : Chain.firstHit findUrl (c.calls name w) w = .ok (some hit) u) :
    ∃ v, getUrl c name w = .ok hit.answer v := by
  have hresolve : c.resolveUrl name w = .ok (some hit.answer) _ := Family.resolve_of_hit h
  exact ⟨_, bind_ok hresolve⟩

theorem getUrl_missing {missing : Text} {v : World}
    (h : getUrl c name w = .error (.resourceNotFound missing) v) :
    (missing = name ∧ ∃ u, Chain.firstHit findUrl (c.calls name w) w = .ok none u) ∨
      ∃ u, Chain.firstHit findUrl (c.calls name w) w = .error (.resourceNotFound missing) u := by
  cases hfirst : Chain.firstHit findUrl (c.calls name w) w with
  | error f u =>
    have hurl : getUrl c name w = .error f u := bind_error (Family.resolve_of_error hfirst)
    rw [hurl] at h
    cases h
    exact .inr ⟨v, rfl⟩
  | ok hit? u =>
    cases hit? with
    | none =>
      have hresolve : c.resolveUrl name w = .ok none _ := Family.resolve_of_miss hfirst
      have hurl : getUrl c name w = .error (.resourceNotFound name) _ := bind_ok hresolve
      rw [hurl] at h
      cases h
      exact .inl ⟨rfl, u, rfl⟩
    | some hit =>
      obtain ⟨v, hurl⟩ := getUrl_of_hit hfirst
      rw [hurl] at h
      cases h

theorem getUrl_of_getFile_missing {missing : Text} {v : World}
    (h : getFile c name w = .error (.resourceNotFound missing) v) :
    getUrl c name w = .error (.resourceNotFound missing) v := by
  cases hurl : getUrl c name w with
  | error f u =>
    rw [getFile, bind_error hurl] at h
    cases h
    rfl
  | ok url u =>
    rw [getFile, bind_ok hurl] at h
    cases hpath : Url.toPath url with
    | ok p =>
      rw [hpath] at h
      cases h
    | error f =>
      rw [hpath] at h
      cases h
      exact absurd hpath (Url.toPath_ne_missing url missing)

def MissesStream (c : Along Resolver) (name missing : Text) (w v : World) : Prop :=
  getStream c name w = .error (.resourceNotFound missing) v ∧
    getBytes c name w = .error (.resourceNotFound missing) v ∧
    getProperties c name w = .error (.resourceNotFound missing) v

theorem missesStream_of_missing (proper : ∀ r ∈ c.resolvers w.settings, r.IsProper)
    (regular : w.around.Regular) {missing : Text} {v : World}
    (h : getUrl c name w = .error (.resourceNotFound missing) v) :
    ∃ v, c.MissesStream name missing w v := by
  have hproper : ∀ call ∈ c.calls name w, call.1.IsProper := fun call hcall =>
    proper call.1 (mem_calls hcall)
  obtain ⟨u, hstream⟩ : ∃ u, getStream c name w = .error (.resourceNotFound missing) u := by
    rcases getUrl_missing h with ⟨rfl, u, hfirst⟩ | ⟨u, hfirst⟩
    · have hopen := (firstHit_of_missing hproper regular).1 hfirst
      have hresolve : c.resolveStream missing w = .ok none _ := Family.resolve_of_miss hopen
      exact ⟨_, bind_ok hresolve⟩
    · have hopen := (firstHit_of_missing hproper regular).2 missing hfirst
      exact ⟨u, bind_error (Family.resolve_of_error hopen)⟩
  exact ⟨u, hstream, bind_error hstream, bind_error hstream⟩

/-- Where a resolver opens a stream it does not miss an address, and finds one if the links on the way
are seen. Along a chain an address is then found no later than a stream. And who misses the address or
the file misses the stream, whether links are seen or not. -/
theorem address_of_stream (c : Along Resolver) (name : Text)
    (proper : ∀ r ∈ c.resolvers w.settings, r.IsProper) (regular : w.around.Regular) :
    (∀ (r : Resolver) (form : Text), r.IsProper →
      (∃ id v, r.openStream form w = .ok (some id) v) →
        (∀ v, r.findUrl form w ≠ .ok none v) ∧
        (r.SeesLinks form w → ∃ url v, r.findUrl form w = .ok (some url) v)) ∧
    (SeesLinksAlong c name w →
      (∀ k, family.AnswersAt .openStream (c.calls name w) w k →
        ∃ j ≤ k, family.AnswersAt .findUrl (c.calls name w) w j) ∧
      ((∃ id v, c.resolveStream name w = .ok (some id) v) →
        ∃ url v, c.resolveUrl name w = .ok (some url) v)) ∧
    ∀ missing v, getUrl c name w = .error (.resourceNotFound missing) v ∨
        getFile c name w = .error (.resourceNotFound missing) v →
      ∃ v, c.MissesStream name missing w v := by
  refine ⟨fun r form hr hopen => ?_, fun sees => ?_, fun missing v h => ?_⟩
  · obtain ⟨id, v, hopen⟩ := hopen
    have hconcerted := concerted hr.1 hr.2 regular form
    refine ⟨fun u hurl => ?_, fun sees => ?_⟩
    · cases hopen.symm.trans (openStream_of_absent_url hconcerted hurl)
    · rcases findUrl_of_openStream hconcerted sees hopen with h | ⟨hnone, -⟩
      · exact h
      · cases hnone
  · have hproper : ∀ call ∈ c.calls name w, call.1.IsProper := fun call hcall =>
      proper call.1 (mem_calls hcall)
    have hearlier : ∀ k, family.AnswersAt .openStream (c.calls name w) w k →
        ∃ j ≤ k, family.AnswersAt .findUrl (c.calls name w) w j := fun k h =>
      h.no_later (throughout_concerted hproper regular sees)
        fun hseen hopen => findUrl_of_openStream hseen.2 hseen.1 hopen
    refine ⟨hearlier, fun ⟨id, v, hstream⟩ => ?_⟩
    obtain ⟨k, hk⟩ := Family.answersAt_of_resolve hstream
    obtain ⟨j, -, hj⟩ := hearlier k hk
    exact hj.resolve
  · exact missesStream_of_missing proper regular (h.elim id getUrl_of_getFile_missing)

def besideLink : World := .startIn
  { tree := [([text "d"], .directory), ([text "d", text "x"], .file (.octets [0x61])),
      ([text "k"], .link (text "d"))]
    cwd := []
    searchPath := [] }

def behindLink : Resolver := place (.directory (ofText (text "k")))

theorem behindLink_seesLinks : behindLink.SeesLinks (text "x") besideLink := by
  have hparts : ResourceName.parts? (text "x") = some [text "x"] := by decide
  have hpath : (ofText (text "k")).below [text "x"] = ⟨.none, [text "k", text "x"]⟩ := by decide
  have component : ∀ n ∈ [text "k", text "d", text "x"],
      IsComponent n ∧ FileTree.isTooLong n = false := by decide
  simp only [List.forall_mem_cons] at component
  obtain ⟨⟨hk, hk'⟩, ⟨hd, hd'⟩, ⟨hx, hx'⟩, -⟩ := component
  have link : besideLink.around.tree.find? [text "k"] = some (.link (text "d")) := rfl
  have directory : besideLink.around.tree.find? [text "d"] = some .directory := rfl
  have file : besideLink.around.tree.find? [text "d", text "x"] = some (.file (.octets [0x61])) := rfl
  have inner : besideLink.around.tree.Leads [] [] ((FileTree.Trail.start .none).origin (text "d"))
      .directory [text "d"] ((FileTree.Trail.start .none).child (text "d")) .directory :=
    .enter hd hd' directory (by simp) (.done _ _)
  have outer : besideLink.around.tree.Leads [] [] ((FileTree.Trail.start .none).child (text "d"))
      .directory [text "x"] (((FileTree.Trail.start .none).child (text "d")).child (text "x"))
      (.file (.octets [0x61])) :=
    .enter hx hx' file (by simp) (.done _ _)
  have leads := FileTree.Leads.follow hk hk' link inner outer
  refine seesLinks_of_parts hparts ?_
  rw [hpath]
  exact .of_leads leads (by decide)

theorem address_of_stream_behindLink :
    (∃ url v, behindLink.findUrl (text "x") besideLink = .ok (some url) v) ∧
    ∃ j ≤ 0, family.AnswersAt .findUrl (calls ⟨⟨none, none⟩, some behindLink⟩ (text "x") besideLink)
      besideLink j := by
  have proper : behindLink.IsProper := isProper_place (ofText_normal _)
  have regular : besideLink.around.Regular := .of_keys .root (by decide)
  have read : (Place.directory (ofText (text "k"))).read besideLink.around (text "x") =
      .ok (some (.file, [0x61])) := by cbv
  obtain ⟨id, v, opens, -⟩ := place_offers read
  have sees : SeesLinksAlong ⟨⟨none, none⟩, some behindLink⟩ (text "x") besideLink := by
    refine .cons behindLink_seesLinks fun v _ => .cons (fun parts hparts => ?_) fun v _ => .nil v
    cases hparts
  obtain ⟨alone, along, -⟩ := address_of_stream (w := besideLink)
    ⟨⟨none, none⟩, some behindLink⟩ (text "x") (fun r hr => List.mem_singleton.1 hr ▸ proper) regular
  exact ⟨(alone behindLink (text "x") proper ⟨id, v, opens⟩).2 behindLink_seesLinks,
    (along sees).1 0 (.here opens)⟩

end Along

/-! ### Behind a link that is overlooked -/

namespace Place

def behindOverlooked : Place := .directory (ofText (text "u/k/.."))

theorem parts_x : ResourceName.parts? (text "x") = some [text "x"] := by decide

theorem lookup_behindOverlooked (count : Nat) (more : FileTree) :
    (FileTree.overlooked count more).lookup [] (text "u/k/../x") =
      .ok (some ([text "d", text "x"], .file (.octets [0x61]))) :=
  FileTree.lookup_of_locate (by decide) (FileTree.locate_overlooked count more)

theorem read_behindOverlooked (count : Nat) (more : FileTree) :
    behindOverlooked.read { tree := FileTree.overlooked count more, cwd := [] } (text "x") =
      .ok (some (.file, [0x61])) := by
  rw [behindOverlooked, read_of_lookup parts_x (lookup_behindOverlooked count more) rfl]
  rfl

theorem url_behindOverlooked (count : Nat) (more : FileTree) :
    behindOverlooked.url { tree := FileTree.overlooked count more, cwd := [] } (text "x") =
      ((FileTree.overlooked count more).urlOf [] (ofText (text "u/k/../x"))).map some :=
  url_of_lookup parts_x (lookup_behindOverlooked count more)

end Place

def besideCircle : Surroundings where
  tree := FileTree.overlooked 1364 [([text "x"], .link (text "x"))]
  cwd := []
  searchPath := []

theorem url_besideCircle : Place.behindOverlooked.url besideCircle (text "x") =
    .error (FileTree.symlinkLoop [text "x"]) := by
  have circle : besideCircle.tree.locate [] (Location.toText [text "x"]) = .error .tooManyLinks := by
    rw [FileTree.locate_location (by decide), if_neg (by decide)]
    exact FileTree.walk_circle (by decide) (by decide) rfl _
  have hresolve : besideCircle.tree.resolve [] (ofText (text "u/k/../x")) =
      .error (FileTree.symlinkLoop [text "x"]) :=
    FileTree.resolve_of_circle (by decide) (FileTree.settled_overlooked (by decide) _) circle
  rw [besideCircle] at hresolve ⊢
  rw [Place.url_behindOverlooked, FileTree.urlOf, hresolve]
  rfl

/-- Links that are overlooked make a difference: behind one a stream is opened where no address is
found. -/
theorem Along.stream_without_address :
    ¬ ∀ (r : Resolver) (name : Text) (w : World), r.IsProper → w.around.Regular →
      (∃ id v, r.openStream name w = .ok (some id) v) →
        ∃ url v, r.findUrl name w = .ok (some url) v := by
  intro h
  have proper : (Resolver.place Place.behindOverlooked).IsProper :=
    Resolver.isProper_place (ofText_normal _)
  have regular : besideCircle.Regular := FileTree.regular_overlooked 1364 (by decide)
  have read : Place.behindOverlooked.read besideCircle (text "x") = .ok (some (.file, [0x61])) :=
    Place.read_behindOverlooked 1364 _
  obtain ⟨id, v, opens, -⟩ := Resolver.place_offers (w := .startIn besideCircle) read
  obtain ⟨url, v', finds⟩ := h _ _ _ proper regular ⟨id, v, opens⟩
  have fails := congrArg (fun x => Lookup.answer x (.startIn besideCircle)) url_besideCircle
  cases finds.symm.trans fails

end ResourceLookup
