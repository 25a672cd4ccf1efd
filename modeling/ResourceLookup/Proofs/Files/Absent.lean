import ResourceLookup.Modules.PackageFiles

/-!
# Files that are not there

A path under which there is no file is looked up without a fault, whether nothing is there or
something else is, unless a name that the walk comes to or the path itself is too long for the file
system. The same holds of places and of the files of a package, as far as an archive is one.
-/

namespace ResourceLookup

namespace FileTree

variable {t : FileTree} {cwd : Location} {path : Text}

def Accepts (t : FileTree) (cwd : Location) (path : Text) : Prop :=
  isNameable path = true → t.locate cwd path ≠ .error .nameTooLong

def LacksFile (t : FileTree) (cwd : Location) (path : Text) : Prop :=
  isNameable path = true → ∀ l e, t.locate cwd path = .ok (l, e) → e.isFile = false

def LacksEntry (t : FileTree) (cwd : Location) (path : Text) : Prop :=
  isNameable path = true → ∀ r, t.locate cwd path ≠ .ok r

theorem lookup_of_accepts (h : t.Accepts cwd path) :
    t.lookup cwd path = .ok none ∨
      ∃ l e, isNameable path = true ∧ t.locate cwd path = .ok (l, e) ∧
        t.lookup cwd path = .ok (some (l, e)) := by
  rw [lookup]
  cases hn : isNameable path with
  | false => exact .inl rfl
  | true =>
    have haccepts := h hn
    cases hl : t.locate cwd path with
    | ok r => exact .inr ⟨r.1, r.2, rfl, rfl, rfl⟩
    | error why =>
      rw [hl] at haccepts
      cases why with
      | nameTooLong => exact absurd rfl haccepts
      | _ => exact .inl rfl

theorem lookupFile_of_lacks (h : t.Accepts cwd path) (lacks : t.LacksFile cwd path) :
    t.lookupFile cwd path = .ok none := by
  rcases lookup_of_accepts h with hnone | ⟨l, e, hn, hl, hsome⟩
  · rw [lookupFile, hnone]
  · rw [lookupFile, hsome]
    simp only [lacks hn l e hl]
    rfl

theorem exists_of_lacks (h : t.Accepts cwd path) (lacks : t.LacksEntry cwd path) :
    t.exists? cwd path = .ok false := by
  rcases lookup_of_accepts h with hnone | ⟨l, e, hn, hl, -⟩
  · rw [exists?, hnone]
    rfl
  · exact absurd hl (lacks hn _)

/-! ## Paths of short names -/

def ShortLinks (t : FileTree) : Prop :=
  ∀ l target, t.find? l = some (.link target) →
    ∀ n ∈ target.splitOn Path.slash, isTooLong n = false

theorem walk_of_short (short : t.ShortLinks) (links : Nat) (place : Location) (entry : Entry)
    (names : List Text) (h : ∀ n ∈ names, isTooLong n = false) :
    t.walk links place entry names ≠ .error .nameTooLong := by
  have onward : ∀ {n rest}, (∀ m ∈ n :: rest, isTooLong m = false) →
      ∀ m ∈ rest, isTooLong m = false := fun h m hm => h m (List.mem_cons_of_mem _ hm)
  fun_induction walk t links place entry names with
  | case1 | case2 | case6 | case7 => simp
  | case3 links place entry n rest _ _ ih => exact ih (onward h)
  | case4 links place entry rest _ _ ih => exact ih (onward h)
  | case5 links place entry n rest _ _ _ long => simp [h n List.mem_cons_self] at long
  | case8 place entry n rest _ _ _ _ target k found ih =>
    -- The names of the target come before the rest.
    refine ih fun m hm => ?_
    rcases List.mem_append.1 hm with htarget | hrest
    · exact short _ target found m htarget
    · exact onward h m hrest
  | case9 place entry n rest _ _ _ _ e links _ _ _ ih => exact ih (onward h)

theorem accepts_of_short (short : t.ShortLinks) (hpath : isTooLongPath path = false)
    (h : ∀ n ∈ path.splitOn Path.slash, isTooLong n = false) : t.Accepts cwd path := by
  intro _
  rw [locate]
  split
  · simp
  · rw [hpath]
    exact walk_of_short short _ _ _ _ h

end FileTree

variable {around : Surroundings} {name : Text}

/-! ## Places -/

namespace Place

def WellFormed (around : Surroundings) (file : Path) : Prop :=
  ∀ l b, around.tree.locate around.cwd file.toText ≠ .ok (l, .file b)

def Legible (around : Surroundings) (name : Text) : Place → Prop
  | directory root => ∀ parts, ResourceName.parts? name = some parts →
    around.tree.Accepts around.cwd (root.below parts).toText
  | archive file => around.tree.Accepts around.cwd file.toText ∧ WellFormed around file

def LacksFile (around : Surroundings) (name : Text) : Place → Prop
  | directory root => ∀ parts, ResourceName.parts? name = some parts →
    around.tree.LacksFile around.cwd (root.below parts).toText
  | archive file => ∀ l m, around.tree.locate around.cwd file.toText = .ok (l, .archive m) →
    m.file? name = none

def LacksEntry (around : Surroundings) (name : Text) : Place → Prop
  | directory root => ∀ parts, ResourceName.parts? name = some parts →
    around.tree.LacksEntry around.cwd (root.below parts).toText
  | archive file => ∀ l m, around.tree.locate around.cwd file.toText = .ok (l, .archive m) →
    m.has name = false

theorem readFile_of_lacks {path : Path} (h : around.tree.Accepts around.cwd path.toText)
    (lacks : around.tree.LacksFile around.cwd path.toText) : readFile around path = .ok none := by
  rw [readFile, FileTree.lookupFile_of_lacks h lacks]

theorem membersAt_of_wellFormed {file : Path} (h : around.tree.Accepts around.cwd file.toText)
    (wellFormed : WellFormed around file) :
    membersAt around file = .ok none ∨
      ∃ l m, around.tree.locate around.cwd file.toText = .ok (l, .archive m) ∧
        membersAt around file = .ok (some m) := by
  rcases FileTree.lookup_of_accepts h with hnone | ⟨l, e, -, hl, hsome⟩
  · exact .inl (by rw [membersAt, FileTree.lookupFile, hnone])
  · cases e with
    | archive m =>
      refine .inr ⟨l, m, hl, ?_⟩
      rw [membersAt, FileTree.lookupFile, hsome]
      rfl
    | file b => exact absurd hl (wellFormed l b)
    | directory =>
      left
      rw [membersAt, FileTree.lookupFile, hsome]
      rfl
    | link target =>
      left
      rw [membersAt, FileTree.lookupFile, hsome]
      rfl

theorem read_of_lacks {p : Place} (h : p.Legible around name) (lacks : p.LacksFile around name) :
    p.read around name = .ok none := by
  cases p with
  | directory root =>
    rw [read]
    cases hparts : ResourceName.parts? name with
    | none => rfl
    | some parts => exact readFile_of_lacks (h parts hparts) (lacks parts hparts)
  | archive file =>
    rw [read]
    rcases membersAt_of_wellFormed h.1 h.2 with hnone | ⟨l, m, hl, hsome⟩
    · rw [hnone]
    · rw [hsome]
      simp only [lacks l m hl]
      rfl

theorem url_of_lacks {p : Place} (h : p.Legible around name) (lacks : p.LacksEntry around name) :
    p.url around name = .ok none := by
  cases p with
  | directory root =>
    rw [url]
    cases hparts : ResourceName.parts? name with
    | none => rfl
    | some parts =>
      simp only [FileTree.exists_of_lacks (h parts hparts) (lacks parts hparts)]
  | archive file =>
    rw [url]
    rcases membersAt_of_wellFormed h.1 h.2 with hnone | ⟨l, m, hl, hsome⟩
    · rw [hnone]
    · rw [hsome]
      simp only [lacks l m hl]
      rfl

def entryPath (around : Surroundings) (entry : Text) : Path :=
  Path.ofText (if entry = [] then Location.toText around.cwd else entry)

def LegibleAlong (around : Surroundings) (name : Text) (list : List Text) : Prop :=
  ∀ entry ∈ list, around.tree.Accepts around.cwd (entryPath around entry).toText ∧
    ∀ p, ofEntry around entry = .ok (some p) → p.Legible around name

theorem ofEntry_of_accepts {entry : Text}
    (h : around.tree.Accepts around.cwd (entryPath around entry).toText) :
    ∃ p?, ofEntry around entry = .ok p? := by
  rw [entryPath] at h
  rw [ofEntry]
  rcases FileTree.lookup_of_accepts h with hnone | ⟨l, e, -, -, hsome⟩
  · exact ⟨none, by simp only [hnone]⟩
  · simp only [hsome]
    cases e with
    | directory => exact ⟨_, rfl⟩
    | archive m => exact ⟨_, rfl⟩
    | file b => exact ⟨_, rfl⟩
    | link target => exact ⟨_, rfl⟩

def LacksAlong (around : Surroundings) (lacks : Place → Prop) (list : List Text) : Prop :=
  ∀ entry ∈ list, ∀ p, ofEntry around entry = .ok (some p) → lacks p

theorem search_of_lacks {α : Type} {ask : Place → Except Fault (Option α)} {lacks : Place → Prop}
    {list : List Text} (legible : LegibleAlong around name list)
    (hlist : LacksAlong around lacks list)
    (hask : ∀ p : Place, p.Legible around name → lacks p → ask p = .ok none) :
    search around ask list = .ok none := by
  induction list with
  | nil => rfl
  | cons entry rest ih =>
    obtain ⟨haccepts, hlegible⟩ := legible entry List.mem_cons_self
    have hrest : search around ask rest = .ok none :=
      ih (fun e he => legible e (List.mem_cons_of_mem _ he))
        fun e he => hlist e (List.mem_cons_of_mem _ he)
    obtain ⟨p?, hp⟩ := ofEntry_of_accepts haccepts
    rw [search, hp]
    cases p? with
    | none => exact hrest
    | some p =>
      simp only [hask p (hlegible p hp) (hlist entry List.mem_cons_self p hp)]
      exact hrest

end Place

/-! ## Files of packages -/

namespace PackageFiles

def Legible (around : Surroundings) (parts : List Text) : PackageFiles → Prop
  | directory path => around.tree.Accepts around.cwd (path.below parts).toText
  | archive file _ => ∃ l m, around.tree.locate around.cwd file = .ok (l, .archive m)
  | portions paths => ∀ path, pathIn around paths parts = some path →
    around.tree.Accepts around.cwd path.toText

def LacksFile (around : Surroundings) (parts : List Text) : PackageFiles → Prop
  | directory path => around.tree.LacksFile around.cwd (path.below parts).toText
  | archive file inside => ∀ l m, around.tree.locate around.cwd file = .ok (l, .archive m) →
    m.file? (memberName inside parts) = none
  | portions paths => ∀ path, pathIn around paths parts = some path →
    around.tree.LacksFile around.cwd path.toText

theorem readParts_of_lacks {files : PackageFiles} {parts : List Text}
    (h : files.Legible around parts) (lacks : files.LacksFile around parts) :
    files.readParts around parts = .ok none := by
  cases files with
  | directory path => exact Place.readFile_of_lacks h lacks
  | archive file inside =>
    obtain ⟨l, m, hl⟩ := h
    have hmembers : membersOf around file = .ok m := by rw [membersOf, hl]
    rw [readParts, hmembers, Except.map, lacks l m hl]
    rfl
  | portions paths =>
    rw [readParts]
    cases hpath : pathIn around paths parts with
    | none => rfl
    | some path => exact Place.readFile_of_lacks (h path hpath) (lacks path hpath)

theorem urlOfParts_of_lacks {files : PackageFiles} {parts : List Text}
    (h : files.Legible around parts) (lacks : files.LacksFile around parts) :
    files.urlOfParts around parts = .ok none := by
  unfold urlOfParts
  rw [readParts_of_lacks h lacks]

end PackageFiles
end ResourceLookup
