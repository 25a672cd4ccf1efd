import ResourceLookup.Modules.Finder

/-!
# The import system

A module is imported after its parents, once: its name is looked up in the registry, then
on the path of its parent or on the search path. It is registered before its body runs and
taken out again when the body ends in a fault; what the body imported meanwhile stays. A
module in a package becomes a member of the package.
-/

namespace ResourceLookup

namespace Fault

def tooDeep : Fault :=
  .raised "RecursionError" (some (text "maximum recursion depth exceeded")) .none

def nameMissing (name : Text) : Fault :=
  .raised "NameError" (some (text "name " ++ name.quoted ++ text " is not defined")) .none

def noParentPackage : Fault :=
  .raised "ImportError" (some (text "attempted relative import with no known parent package")) .none

def beyondTopLevel : Fault :=
  .raised "ImportError" (some (text "attempted relative import beyond top-level package")) .none

def emptyModuleName : Fault := valueError (text "Empty module name")

def relativeName (name : Text) : Fault :=
  typeError (text "the 'package' argument is required to perform a relative import for " ++
    name.quoted)

end Fault

def parentName (name : Text) : Text :=
  match name.cutLast 0x2E with
  | some p => p.1
  | none => []

def topName (name : Text) : Text := name.takeWhile (· ≠ 0x2E)

namespace Import

def registeredAs (name : Text) : Import ModuleId := do
  match (← get).registered? name with
  | some id => pure id
  | none => throw (.keyError name)

/-- The path of the package of this name, none for a plain module; portions are looked for
again where they may have changed. `depth` bounds the parents. -/
def packagePath (around : Surroundings) : (depth : Nat) → ModuleId → Import (Option (List Text))
  | 0, _ => throw .tooDeep
  | depth + 1, id => do
    match (← get).module? id with
    | none => pure none
    | some m =>
      match m.path with
      | none => pure none
      | some (.fixed entries) => pure (some entries)
      | some (.given v _) =>
        match (← get).objects.entriesOf v with
        | .ok entries => pure (some entries)
        | .error f => throw f
      | some (.portions entries seen epoch) =>
        let parentPath ←
          if parentName m.name = [] then pure around.searchPath
          else do
            let p ← registeredAs (parentName m.name)
            pure ((← packagePath around depth p).getD [])
        if parentPath = seen ∧ epoch = (← get).epoch then pure (some entries)
        else
          let entries :=
            match ← find around m.name parentPath with
            | some (.portions ps) => ps
            | _ => entries
          modify fun s =>
            s.modifyModule id fun m => { m with path := some (.portions entries parentPath s.epoch) }
          pure (some entries)

def pathOr (around : Surroundings)
    (instead : Objects → Value → Except Fault (Option (List Text))) (id : ModuleId) :
    Import (Option (List Text)) := do
  let s ← get
  match (s.given? id).map (instead s.objects) with
  | some (.ok (some entries)) => pure (some entries)
  | some (.error f) => throw f
  | _ => packagePath around around.nestingLimit id

def importPath (around : Surroundings) : ModuleId → Import (Option (List Text)) :=
  pathOr around fun _ v => .ok (if v = .nothing then some around.searchPath else none)

def moduleOf (around : Surroundings) (regular : Bool) (name : Text) (found : Found) :
    Import (Module × Code) := do
  match found with
  | .regular f =>
    match f.made with
    | .error e => throw e
    | .ok code =>
      pure (⟨name, some f.file, f.home, f.path.map fun p => .fixed [p], [], .running regular⟩,
        code)
  | .portions entries =>
    let seen ←
      if parentName name = [] then pure around.searchPath
      else do
        let p ← registeredAs (parentName name)
        pure ((← packagePath around around.nestingLimit p).getD [])
    let epoch := (← get).epoch
    pure (⟨name, none, .portions, some (.portions entries seen epoch), [], .running regular⟩, .ok [])

def member? (id : ModuleId) (name : Text) : Import (Option Value) := do
  pure ((← get).member? (.ofModule id) name)

def setMember (id : ModuleId) (name : Text) (v : Value) : Import Unit :=
  modify fun s => s.setMember id name v

def nameOf (id : ModuleId) : Import Text := do
  match (← get).module? id with
  | some m => pure m.name
  | none => pure []

def isPackage (id : ModuleId) : Import Bool := do
  match (← get).module? id with
  | some m => pure m.isPackage
  | none => pure false

def beganAsPackage (id : ModuleId) : Import Bool := do
  match (← get).module? id with
  | some m => pure m.beganAsPackage
  | none => pure false

def climb : (level : Nat) → Text → Option Text
  | 0, package | 1, package => some package
  | level + 2, package =>
    match package.cutLast 0x2E with
    | some p => climb (level + 1) p.1
    | none => none

def absoluteName (id : ModuleId) (level : Nat) (name : Text) : Import Text := do
  if level = 0 then pure name
  else
    let own ← nameOf id
    let package := if ← beganAsPackage id then own else parentName own
    if package = [] then throw .noParentPackage
    else
      match climb level package with
      | none => throw .beyondTopLevel
      | some base => pure (if name = [] then base else base ++ 0x2E :: name)

def importWithTop (imp : Text → Import ModuleId) (name : Text) : Import ModuleId := do
  let id ← imp name
  if name.contains 0x2E then imp (topName name) else pure id

/-- The subject of an import fault is this name. -/
def isNamed (o : Objects) (name : Text) : Subject → Except Fault Bool
  | .none => .ok false
  | .named n => .ok (n == name)
  | .object k _ => o.isText k name

/-- Imports a module of a package that has no member of its name. That there is no such
module is no fault yet. -/
def importSubmodule (imp : Text → Import ModuleId) (full : Text) : Import Unit := fun s =>
  match importWithTop imp full s with
  | .ok _ s' => .ok () s'
  | .error f s' =>
    if f.isModuleMissing then
      match isNamed s.objects full f.subject with
      | .ok named => if named then .ok () s' else .error f s'
      | .error g => .error g s'
    else .error f s'

def cannotImport (name : Text) (m : Module) : Fault :=
  let subject := name.quoted ++ text " from "
  .importError
    (text "cannot import name " ++ subject ++
      match m.file, m.stage with
      | none, _ => m.name.quoted ++ text " (unknown location)"
      | some file, .running true =>
        text "partially initialized module " ++ m.name.quoted ++
          text " (most likely due to a circular import) (" ++ file ++ text ")"
      | some file, _ => m.name.quoted ++ text " (" ++ file ++ text ")")
    m.name

def importedName (imp : Text → Import ModuleId) (id : ModuleId) (name : Text) : Import Value := do
  let full := (← nameOf id) ++ 0x2E :: name
  if (← isPackage id) && (← member? id name).isNone then importSubmodule imp full
  match ← member? id name with
  | some v => pure v
  | none =>
    match (← get).registered? full, (← get).module? id with
    | some id', _ => pure (.ofModule id')
    | none, some m => throw (cannotImport name m)
    | none, none => throw (.keyError full)

def valueOf (id : ModuleId) (name : Text) : Import Value := do
  match (← get).global? id name with
  | some v => pure v
  | none =>
    match (← get).global? 0 name with
    | some v => pure v
    | none => throw (.nameMissing name)

def assign (id : ModuleId) (name : Text) (v : Value) : Import Unit :=
  modify fun s => s.assign id name v

def runStatement (imp : Text → Import ModuleId) (id : ModuleId) : Statement → Import Unit
  | .classDef c => do
    let (classId, s) := (← get).addClass (← nameOf id) [] c
    set s
    assign id c.name (.ofClass classId)
  | .value name (some i) => assign id name (.number i)
  | .value name none => assign id name .nothing
  | .copy name target => do assign id name (← valueOf id target)
  | .raise cls message subject => throw (.ofClass cls message subject)
  | .importModule name => do
    let top ← importWithTop imp name
    assign id (topName name) (.ofModule top)
  | .importFrom level source name => do
    let sourceId ← imp (← absoluteName id level source)
    assign id name (← importedName imp sourceId name)
  | .unparsable => do
    match (← get).module? id with
    | some m => throw (.unparsable (m.file.getD []))
    | none => throw (.unparsable [])

def runBody (imp : Text → Import ModuleId) (id : ModuleId) : Code → Import Unit
  | .error f => throw f
  | .ok statements => statements.forM (runStatement imp id)

/-- Registers a module and runs its body. Where that ends in a fault, `undo` says whether the
module is taken out of the registry again. -/
def execute (imp : Text → Import ModuleId) (undo : Fault → Bool) (m : Module) (code : Code) :
    Import ModuleId := fun s =>
  let (id, s) := s.add m
  match runBody imp id code s with
  | .ok _ s' => .ok id (s'.setStage id .completed)
  | .error f s' =>
    let s' := s'.setStage id (.failed f)
    .error f (if undo f then s'.unregister m.name else s')

def attach (name : Text) (id : ModuleId) : Import Unit := do
  if parentName name = [] then pure ()
  else
    let parent ← registeredAs (parentName name)
    setMember parent (Finder.lastPart name) (.ofModule id)

def load (around : Surroundings) (imp : Text → Import ModuleId) (name : Text)
    (path : List Text) : Import ModuleId := do
  match ← find around name path with
  | none => throw (.moduleMissing name none)
  | some found =>
    let (m, code) ← moduleOf around true name found
    let id ← execute imp (fun _ => true) m code
    attach name id
    pure id

/-- The module of a name, imported unless it is registered. `depth` bounds how deeply
modules import one another. -/
def importModule (around : Surroundings) : (depth : Nat) → Text → Import ModuleId
  | 0, _ => throw .tooDeep
  | depth + 1, name => do
    match (← get).registered? name with
    | some id => pure id
    | none =>
      let parent := parentName name
      if parent = [] then load around (importModule around depth) name around.searchPath
      else
        if !(← get).isRegistered parent then discard (importModule around depth parent)
        match (← get).registered? name with
        | some id => pure id
        | none =>
          let parentId ← registeredAs parent
          match ← importPath around parentId with
          | none => throw (.moduleMissing name (some parent))
          | some path => load around (importModule around depth) name path

def importNamed (around : Surroundings) (name : Text) : Import ModuleId :=
  if name.head? = some 0x2E then throw (.relativeName name)
  else if name = [] then throw .emptyModuleName
  else importModule around around.nestingLimit name

end Import
end ResourceLookup
