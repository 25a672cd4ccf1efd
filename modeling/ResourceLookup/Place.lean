import ResourceLookup.Modules.Finder
import ResourceLookup.ResourceName
import ResourceLookup.Stream
import ResourceLookup.Url.Member

/-!
# Places that hold resources

A place is a directory or an archive. In a directory a name leads through its parts to a
file; in an archive it is matched as it stands. A list of entries stands for the places
among them, searched in order, and an empty entry for the working directory.
-/

namespace ResourceLookup

inductive Place
  | directory (root : Path)
  | archive (file : Path)
  deriving DecidableEq, Repr

/-- The octets of a resource and what they are read from. -/
abbrev Holding := Medium × Octets

namespace Place

def path : Place → Path
  | directory p => p
  | archive p => p

def readFile (around : Surroundings) (path : Path) : Except Fault (Option Holding) :=
  match around.tree.lookupFile around.cwd path.toText with
  | .error f => .error f
  | .ok none => .ok none
  | .ok (some e) => .ok (some (.file, e.toOctets))

def membersAt (around : Surroundings) (path : Path) : Except Fault (Option Members) :=
  match around.tree.lookupFile around.cwd path.toText with
  | .error f => .error f
  | .ok none => .ok none
  | .ok (some (.archive m)) => .ok (some m)
  | .ok (some _) => .error .badArchive

def read (around : Surroundings) (p : Place) (name : Text) : Except Fault (Option Holding) :=
  match p with
  | directory root =>
    match ResourceName.parts? name with
    | none => .ok none
    | some parts => readFile around (root.below parts)
  | archive file =>
    match membersAt around file with
    | .error f => .error f
    | .ok none => .ok none
    | .ok (some m) => .ok ((m.file? name).map fun b => (.member, b.toOctets))

def url (around : Surroundings) (p : Place) (name : Text) : Except Fault (Option Text) :=
  match p with
  | directory root =>
    match ResourceName.parts? name with
    | none => .ok none
    | some parts =>
      match around.tree.exists? around.cwd (root.below parts).toText with
      | .error f => .error f
      | .ok false => .ok none
      | .ok true => (around.tree.urlOf around.cwd (root.below parts)).map some
  | archive file =>
    match membersAt around file with
    | .error f => .error f
    | .ok none => .ok none
    | .ok (some m) =>
      if m.has name then (Url.ofMember around.tree around.cwd file name).map some else .ok none

def ofEntry (around : Surroundings) (entry : Text) : Except Fault (Option Place) :=
  let path := Path.ofText (if entry = [] then Location.toText around.cwd else entry)
  match around.tree.lookup around.cwd path.toText with
  | .error f => .error f
  | .ok (some (_, .directory)) => .ok (some (directory path))
  | .ok (some (_, .archive _)) => .ok (some (archive path))
  | .ok _ => .ok none

def ofPath (around : Surroundings) (path : Text) : Except Fault Place :=
  match ofEntry around path with
  | .error f => .error f
  | .ok (some p) => .ok p
  | .ok none =>
    .error (.valueError ([Text.singleQuote] ++ path ++
      text "' is neither a directory nor a zip archive"))

def search {α : Type} (around : Surroundings) (ask : Place → Except Fault (Option α)) :
    List Text → Except Fault (Option α)
  | [] => .ok none
  | entry :: rest =>
    match ofEntry around entry with
    | .error f => .error f
    | .ok none => search around ask rest
    | .ok (some p) =>
      match ask p with
      | .error f => .error f
      | .ok (some a) => .ok (some a)
      | .ok none => search around ask rest

end Place
end ResourceLookup
