import ResourceLookup.Modules.Import
import ResourceLookup.Place

/-!
# Files of packages

An importable package keeps its resources beside its modules: in its directory, in an
archive below the name of the package, or in several directories that make up one package,
of which the first that has the first part of a name counts.
-/

namespace ResourceLookup

inductive PackageFiles
  | directory (path : Path)
  /-- `inside` ends in a slash. -/
  | archive (file inside : Text)
  | portions (paths : List Path)
  deriving DecidableEq, Repr

namespace PackageFiles

/-- Portions that are not all directories hold no files. -/
def notDirectories : Fault :=
  .raised "NotADirectoryError" (some (text "MultiplexedPath only supports directories")) .none

def checkDirectories (around : Surroundings) : List Path → Except Fault Unit
  | [] => .ok ()
  | p :: ps =>
    match around.tree.isDirectory around.cwd p.toText with
    | .error f => .error f
    | .ok false => .error notDirectories
    | .ok true => checkDirectories around ps

def ofPortions (around : Surroundings) (paths : List Text) : Except Fault PackageFiles :=
  let distinct := (paths.foldl (fun seen p => if seen.contains p then seen else seen ++ [p]) []).map
    Path.ofText
  (checkDirectories around distinct).map fun _ => portions distinct

def ofPackage (around : Surroundings) (name : Text) : Import (Option PackageFiles) := fun s =>
  match Import.importNamed around name s with
  | .error f s' => if f.isModuleMissing || f.isA "TypeError" then .ok none s' else .error f s'
  | .ok id s' =>
    match s'.module? id with
    | none => .ok none s'
    | some m =>
      if !m.beganAsPackage then .ok none s'
      else
        match m.home with
        | .directory path => .ok (some (directory (Path.ofText path))) s'
        | .archive file inside =>
          .ok (some (archive file (inside ++ Finder.lastPart m.name ++ [Path.slash]))) s'
        | .builtin => .ok none s'
        | .portions =>
          match Import.packagePath around around.nestingLimit id s' with
          | .error f s'' => .error f s''
          | .ok none s'' => .ok none s''
          | .ok (some entries) s'' =>
            match ofPortions around entries with
            | .error f => .error f s''
            | .ok p => .ok (some p) s''

def portionWith (around : Surroundings) (name : Text) : List Path → Option Path
  | [] => none
  | p :: ps =>
    let has :=
      match around.tree.locate around.cwd p.toText with
      | .ok (place, .directory) => (around.tree.find? (place ++ [name])).isSome
      | _ => false
    if has then some p else portionWith around name ps

def pathIn (around : Surroundings) (paths : List Path) (parts : List Text) : Option Path :=
  match parts with
  | [] => none
  | first :: _ =>
    (portionWith around first paths <|> paths.head?).map fun p => p.below parts

def memberName (inside : Text) (parts : List Text) : Text :=
  inside ++ Text.joinWith [Path.slash] parts

def membersOf (around : Surroundings) (file : Text) : Except Fault Members :=
  match around.tree.locate around.cwd file with
  | .ok (_, .archive m) => .ok m
  | .ok (_, .directory) => .error (.refused .isDirectory (some file))
  | .ok _ => .error .badArchive
  | .error why => .error (.refused why (some file))

def readParts (around : Surroundings) (parts : List Text) :
    PackageFiles → Except Fault (Option Holding)
  | directory path => Place.readFile around (path.below parts)
  | archive file inside =>
    (membersOf around file).map fun m =>
      (m.file? (memberName inside parts)).map fun b => (.member, b.toOctets)
  | portions paths =>
    match pathIn around paths parts with
    | none => .ok none
    | some path => Place.readFile around path

def urlOfParts (around : Surroundings) (parts : List Text) (files : PackageFiles) :
    Except Fault (Option Text) :=
  match readParts around parts files with
  | .error f => .error f
  | .ok none => .ok none
  | .ok (some _) =>
    match files with
    | directory path => (around.tree.urlOf around.cwd (path.below parts)).map some
    | archive file inside =>
      (Url.ofMember around.tree around.cwd (Path.ofText file) (memberName inside parts)).map some
    | portions paths =>
      match pathIn around paths parts with
      | none => .ok none
      | some path => (around.tree.urlOf around.cwd path).map some

def lookup {α : Type} (around : Surroundings) (package name : Text)
    (ask : List Text → PackageFiles → Except Fault (Option α)) : Import (Option α) := fun s =>
  match ResourceName.parts? name with
  | none => .ok none s
  | some parts =>
    match ofPackage around package s with
    | .error f s' => .error f s'
    | .ok none s' => .ok none s'
    | .ok (some files) s' =>
      match ask parts files with
      | .error f => .error f s'
      | .ok a => .ok a s'

end PackageFiles
end ResourceLookup
