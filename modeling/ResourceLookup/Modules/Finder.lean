import ResourceLookup.Modules.Space
import ResourceLookup.Surroundings

/-!
# Finding modules on a path

The entries of a path are searched in order. In a directory a module is a directory with
an initial file, or a file; a directory without one is a portion, which is remembered while
the search goes on, so that a regular module in a later entry wins. In an archive the same
holds of member names, and a portion has a member of its own. A source that does not parse is
a fault of an archive when it is found, and of a directory only when it is run.
-/

namespace ResourceLookup

structure FoundModule where
  file : Text
  home : Home
  /-- The code, unless the module cannot be made. -/
  made : Except Fault Code
  /-- The directory of a package. -/
  path : Option Text

inductive Found
  | regular (m : FoundModule)
  | portions (entries : List Text)

inductive FoundIn
  | regular (m : FoundModule)
  | portion (entry : Text)

namespace Finder

inductive FileKind
  | native
  | source
  | compiled
  deriving DecidableEq, Repr

/-- What the name of a module's file ends in, in the order in which files are looked for. -/
def fileKinds : List (Text × FileKind) :=
  [(text ".cpython-311-x86_64-linux-gnu.so", .native), (text ".abi3.so", .native),
   (text ".so", .native), (text ".py", .source), (text ".pyc", .compiled)]

def initialFile : Text := text "__init__"

def make (loaders : Loaders) (name file : Text) (b : Body) : FileKind → Except Fault Code
  | .native => loaders.native name file b.toOctets
  | .source => .ok (b.code loaders file)
  | .compiled => .ok (loaders.compiled name file b.toOctets)

def joinPath (parts : List Text) : Text :=
  Text.joinWith [Path.slash]
    ((parts.filter fun p => !p.isEmpty).map (Text.dropLastWhile (· = Path.slash)))

/-- The archive that a path leads into, and the names that lead on inside it. -/
def archiveIn (around : Surroundings) (inside : List Text) (path : Text) : Option Finder :=
  match if FileTree.isNameable path then (around.tree.locate around.cwd path).toOption else none with
  | some (_, .archive members) =>
    let p := joinPath inside
    some (.archive path (if p.isEmpty then [] else p ++ [Path.slash]) members)
  | some _ => none
  | none =>
    match h : path.cutLast Path.slash with
    | some (up, last) =>
      have : up.length < path.length := by
        rw [Text.eq_of_cutLast h]
        simp
      archiveIn around (last :: inside) up
    | none => none
  termination_by path.length

def directoryAt (around : Surroundings) (entry : Text) : Option Finder :=
  match around.tree.locate around.cwd entry with
  | .ok (_, .directory) =>
    if entry == Path.dot then some (.directory (Location.toText around.cwd))
    else if Path.anchorOf entry = .none then
      some (.directory (joinPath [Location.toText around.cwd, entry]))
    else some (.directory entry)
  | _ => none

def ofEntry (around : Surroundings) (entry : Text) : Except Fault (Option Finder) :=
  match archiveIn around [] entry with
  | some f => .ok (some f)
  | none =>
    match FileTree.nameFault? entry with
    | some f => .error f
    | none => .ok (directoryAt around entry)

def lastPart (name : Text) : Text :=
  match name.cutLast 0x2E with
  | some p => p.2
  | none => name

def body? (around : Surroundings) (path : Text) : Option Body :=
  match around.tree.locate around.cwd path with
  | .ok (_, .file b) => some b
  | .ok (_, .archive members) => some (.octets members.toOctets)
  | _ => none

def moduleFile? (around : Surroundings) (listed : Text → Bool) (name dir stem : Text) :
    Option (Text × Except Fault Code) :=
  fileKinds.findSome? fun k =>
    let file := joinPath [dir, stem ++ k.1]
    if listed (stem ++ k.1) then
      (body? around file).map fun b => (file, make around.loaders name file b k.2)
    else none

def inDirectory (around : Surroundings) (dir name : Text) : Option FoundIn :=
  match around.tree.locate around.cwd dir with
  | .ok (place, .directory) =>
    let part := lastPart name
    let has := fun n => (around.tree.find? (place ++ [n])).isSome
    let base := joinPath [dir, part]
    let package : Option FoundIn :=
      (moduleFile? around (fun _ => has part) name base initialFile).map fun p =>
        .regular ⟨p.1, .directory base, p.2, some base⟩
    let plain : Option FoundIn :=
      (moduleFile? around has name dir part).map fun p =>
        .regular ⟨p.1, .directory dir, p.2, none⟩
    let portion : Option FoundIn :=
      if has part then
        match around.tree.locate around.cwd base with
        | .ok (_, .directory) => some (.portion base)
        | _ => none
      else none
    package <|> (plain <|> portion)
  | _ => none

structure MemberKind where
  suffix : Text
  compiled : Bool
  package : Bool

def memberKinds : List MemberKind :=
  [⟨text "/__init__.pyc", true, true⟩, ⟨text "/__init__.py", false, true⟩,
   ⟨text ".pyc", true, false⟩, ⟨text ".py", false, false⟩]

/-- No member could be read; the last fault is that of a compiled one. -/
def unreadable (name : Text) (f : Fault) : Fault :=
  .raised ⟨"ZipImportError", "ImportError", []⟩ (some (text "module load failed: " ++ f.message))
    (.named name)

def unknownFile : Text := text "<unknown>"

/-- The first member that can be read. A compiled one is passed over where it does not fit. -/
def firstCode (loaders : Loaders) (name : Text) :
    (passed : Code) → List (MemberKind × Text × Body) → Except Fault (Text × Code)
  | passed, [] => .ok (unknownFile, passed)
  | _, (kind, file, b) :: rest =>
    match if kind.compiled then loaders.compiled name file b.toOctets else b.code loaders file with
    | .ok ss => .ok (file, .ok ss)
    | .error f =>
      if kind.compiled && f.isA "ImportError" then
        firstCode loaders name (.error (unreadable name f)) rest
      else .error f

def directoryName (path : Text) : Text :=
  match path.cutLast Path.slash with
  | some p => p.1
  | none => []

/-- The members of an archive, whose file must still be there. A source must parse. -/
def inArchive (around : Surroundings) (file inside : Text) (members : Members) (name : Text) :
    Except Fault (Option FoundIn) :=
  let key := inside ++ lastPart name
  let full := fun n : Text => file ++ Path.slash :: n
  let held := memberKinds.filterMap fun k =>
    (members.get? (key ++ k.suffix)).map fun b => (k, full (key ++ k.suffix), b)
  match held with
  | [] => .ok (if members.has (key ++ [Path.slash]) then some (.portion (full key)) else none)
  | first :: _ =>
    match around.tree.locate around.cwd file with
    | .error why => .error (.refused why (some file))
    | .ok _ =>
      (firstCode around.loaders name (.ok []) held).map fun p =>
        some (.regular ⟨p.1, .archive file inside, .ok p.2,
          if first.1.package then some (directoryName p.1) else none⟩)

def find (around : Surroundings) (name : Text) : Finder → Except Fault (Option FoundIn)
  | .directory dir => .ok (inDirectory around dir name)
  | .archive file inside members => inArchive around file inside members name

end Finder

namespace ModuleSpace

/-- What an entry stands for, and the modules with that kept in mind for a relative one. -/
def recognize (around : Surroundings) (s : ModuleSpace) (entry : Text) :
    Except Fault (Option Finder) × ModuleSpace :=
  if entry = [] then (Finder.ofEntry around (Location.toText around.cwd), s)
  else if Path.anchorOf entry = .none then
    match s.recognized.get? entry with
    | some f => (.ok f, s)
    | none =>
      match Finder.ofEntry around entry with
      | .ok f => (.ok f, { s with recognized := s.recognized.put entry f })
      | .error f => (.error f, s)
  else (Finder.ofEntry around entry, s)

end ModuleSpace

namespace Import

def search (around : Surroundings) (name : Text) (portions : List Text) :
    List Text → Import (Option Found)
  | [] => pure (if portions.isEmpty then none else some (.portions portions))
  | entry :: rest => do
    let (finder?, s) := (← get).recognize around entry
    set s
    match finder? with
    | .error f => throw f
    | .ok none => search around name portions rest
    | .ok (some finder) =>
      match finder.find around name with
      | .error f => throw f
      | .ok none => search around name portions rest
      | .ok (some (.regular m)) => pure (some (.regular m))
      | .ok (some (.portion p)) => search around name (portions ++ [p]) rest

def find (around : Surroundings) (name : Text) (path : List Text) : Import (Option Found) :=
  search around name [] path

end Import
end ResourceLookup
