import ResourceLookup.Archive
import ResourceLookup.Fault
import ResourceLookup.OrderedMap
import ResourceLookup.Path

/-!
# The file system

Directories, files, archives and symbolic links, each at its location. A walk reads a path
name by name from a starting directory; a link is replaced by its target, and after forty
links the walk gives up. To settle a path is to walk as far as entries exist and to take
the remaining names as they are.
-/

namespace ResourceLookup

inductive Entry
  | directory
  | link (target : Text)
  | file (body : Body)
  | archive (members : Members)

namespace Entry

def isFile : Entry → Bool
  | file _ | archive _ => true
  | _ => false

def isDirectory : Entry → Bool
  | directory => true
  | _ => false

def toOctets : Entry → Octets
  | file b => b.toOctets
  | archive m => m.toOctets
  | _ => []

end Entry

abbrev FileTree := OrderedMap Location Entry

namespace FileTree

def find? (t : FileTree) (l : Location) : Option Entry :=
  if l = [] then some .directory else t.get? l

def linkLimit : Nat := 40

def isTooLong (name : Text) : Bool :=
  match Utf8.encodeName? name with
  | .ok bs => 255 < bs.length
  | .error _ => false

def isTooLongPath (path : Text) : Bool :=
  match Utf8.encodeName? path with
  | .ok bs => 4096 ≤ bs.length
  | .error _ => false

def isNameable (path : Text) : Bool :=
  !path.contains 0 && match Utf8.encodeName? path with | .ok _ => true | .error _ => false

/-- Why the file system does not take a path. -/
def nameFault? (path : Text) : Option Fault :=
  match Utf8.encodeName? path with
  | .error u => some (.ofUnencodable u)
  | .ok _ => if path.contains 0 then some .embeddedNull else none

def walk (t : FileTree) (links : Nat) (place : Location) (entry : Entry) :
    List Text → Except Refusal (Location × Entry)
  | [] => .ok (place, entry)
  | n :: rest =>
    if entry.isDirectory = false then .error .notDirectory
    else if n = [] ∨ n = Path.dot then walk t links place entry rest
    else if n = Path.dotDot then walk t links place.dropLast .directory rest
    else if isTooLong n then .error .nameTooLong
    else
      match t.find? (place ++ [n]), links with
      | none, _ => .error .noEntry
      | some (.link _), 0 => .error .tooManyLinks
      | some (.link target), k + 1 =>
        walk t k (if Path.anchorOf target = .none then place else []) .directory
          (target.splitOn Path.slash ++ rest)
      | some e, l => walk t l (place ++ [n]) e rest
  termination_by names => (links, names.length)

def locate (t : FileTree) (cwd : Location) (path : Text) : Except Refusal (Location × Entry) :=
  if path = [] then .error .noEntry
  else if isTooLongPath path then .error .nameTooLong
  else
    t.walk linkLimit (if Path.anchorOf path = .none then cwd else []) .directory
      (path.splitOn Path.slash)

def lookup (t : FileTree) (cwd : Location) (path : Text) :
    Except Fault (Option (Location × Entry)) :=
  if isNameable path = false then .ok none
  else
    match t.locate cwd path with
    | .ok r => .ok (some r)
    | .error .nameTooLong => .error (.refused .nameTooLong (some path))
    | .error _ => .ok none

def lookupFile (t : FileTree) (cwd : Location) (path : Text) : Except Fault (Option Entry) :=
  match t.lookup cwd path with
  | .ok (some (_, e)) => .ok (if e.isFile then some e else none)
  | .ok none => .ok none
  | .error f => .error f

def isFile (t : FileTree) (cwd : Location) (path : Text) : Except Fault Bool :=
  (t.lookupFile cwd path).map Option.isSome

def isDirectory (t : FileTree) (cwd : Location) (path : Text) : Except Fault Bool :=
  match t.lookup cwd path with
  | .ok (some (_, e)) => .ok e.isDirectory
  | .ok none => .ok false
  | .error f => .error f

def exists? (t : FileTree) (cwd : Location) (path : Text) : Except Fault Bool :=
  (t.lookup cwd path).map Option.isSome

def climb (anchored : Bool) (names : List Text) : List Text :=
  match names.getLast? with
  | none => if anchored then [] else [Path.dotDot]
  | some n => if n = Path.dotDot then names ++ [Path.dotDot] else names.dropLast

def collapse (names : List Text) : List Text :=
  names.foldl
    (fun before n =>
      if n = [] ∨ n = Path.dot then before
      else if n = Path.dotDot then climb true before
      else before ++ [n]) []

/-- A place as a walk names it: from the root, or from the working directory, above which
double dots lead. -/
structure Trail where
  isAnchored : Bool
  names : List Text
  deriving DecidableEq, Repr

namespace Trail

def toText (r : Trail) : Text :=
  (if r.isAnchored then [Path.slash] else []) ++ Text.joinWith [Path.slash] r.names

def location (cwd : Location) (r : Trail) : Location :=
  collapse (if r.isAnchored then r.names else cwd ++ r.names)

def child (r : Trail) (name : Text) : Trail := { r with names := r.names ++ [name] }

def parent (r : Trail) : Trail := { r with names := climb r.isAnchored r.names }

def append (r : Trail) : List Text → Trail
  | [] :: n :: rest => ⟨true, n :: rest⟩
  | rest => { r with names := r.names ++ rest }

end Trail

/-- Where settling a path comes to. A path that leads in a circle is given up at a link
met again, and what remains of it is kept as it stands. -/
structure Settled where
  trail : Trail
  isComplete : Bool
  deriving DecidableEq, Repr

def linkAt? (t : FileTree) (cwd : Location) (place : Trail) : Option Text :=
  match t.find? (place.location cwd) with
  | some (.link target) => if isTooLongPath place.toText then none else some target
  | _ => none

/-- The place that names lead to with their links followed; names beyond what exists are
kept. `links` are those that are being followed, each as the walk named it, of which there
are never more than `depth`. -/
def settle (t : FileTree) (cwd : Location) (depth : Nat) (links : List Trail) (place : Trail) :
    List Text → Settled
  | [] => ⟨place, true⟩
  | n :: rest =>
    if n = [] ∨ n = Path.dot then settle t cwd depth links place rest
    else if n = Path.dotDot then settle t cwd depth links place.parent rest
    else
      match t.linkAt? cwd (place.child n), depth with
      | some target, d + 1 =>
        if place.child n ∈ links then ⟨(place.child n).append rest, false⟩
        else
          let s := settle t cwd d (place.child n :: links)
            (if Path.anchorOf target = .none then place else ⟨true, []⟩)
            (target.splitOn Path.slash)
          if s.isComplete then settle t cwd (d + 1) links s.trail rest
          else ⟨s.trail.append rest, false⟩
      | some _, 0 => ⟨(place.child n).append rest, false⟩
      | none, d => settle t cwd d links (place.child n) rest
  termination_by names => (depth, names.length)

def settleLimit : Nat := 1000

def settled (t : FileTree) (cwd : Location) (anchor : Anchor) (names : List Text) :
    Location :=
  (t.settle cwd settleLimit [] ⟨anchor != .none, []⟩ names).trail.location cwd

/-- Why a path is taken by no file system: the first part with a surrogate that stands for
no octet, or with a null, says. `before` are the parts passed. -/
def unnameable? (anchor : Text) (before : List Text) : List Text → Option Fault
  | [] => none
  | n :: rest =>
    if n = Path.dotDot then unnameable? anchor (climb (anchor != []) before) rest
    else
      match Utf8.encodeName? (anchor ++ Text.joinWith [Path.slash] (before ++ [n])) with
      | .error u => some (.ofUnencodable u)
      | .ok _ => if n.contains 0 then some .embeddedNull else unnameable? anchor (before ++ [n]) rest

def symlinkLoop (l : Location) : Fault :=
  .raised "RuntimeError" (some (text "Symlink loop from " ++ (Location.toText l).quoted)) .none

def resolve (t : FileTree) (cwd : Location) (p : Path) : Except Fault Location :=
  match unnameable? p.anchor.toText [] p.parts with
  | some f => .error f
  | none =>
    let l := t.settled cwd p.anchor p.parts
    match t.locate [] (Location.toText l) with
    | .error .tooManyLinks => .error (symlinkLoop l)
    | _ => .ok l

def urlOf (t : FileTree) (cwd : Location) (p : Path) : Except Fault Text :=
  match t.resolve cwd p with
  | .error f => .error f
  | .ok l => (Location.toUrl l).mapError Fault.ofUnencodable

def makeDirectories (t : FileTree) (l : Location) : FileTree :=
  (List.range (l.length + 1)).foldl
    (fun t n => if (t.find? (l.take n)).isSome then t else t.put (l.take n) .directory) t

/-- An entry at a path, its parent directories made; a link stands at its own name, any
other entry where links lead. -/
def write (t : FileTree) (cwd : Location) (path : Text) (e : Entry) : FileTree :=
  let p := Path.ofText path
  let l :=
    match e with
    | .link _ => t.settled cwd p.anchor p.parts.dropLast ++ p.parts.getLast?.toList
    | _ => t.settled cwd p.anchor p.parts
  let t := t.makeDirectories l.dropLast
  match e, t.find? l with
  | .directory, some .directory => t
  | e, _ => t.put l e

def remove (t : FileTree) (cwd : Location) (path : Text) : FileTree :=
  let p := Path.ofText path
  let l := t.settled cwd p.anchor p.parts.dropLast ++ p.parts.getLast?.toList
  t.filter fun q => !l.isPrefixOf q.1

end FileTree
end ResourceLookup
