import ResourceLookup.Modules.Import

/-!
# Looking up classes

A class is named by its module and the members that lead to it, after a colon or after the
last full stop. Below a path of its own the modules of the name are walked part by part,
each taken from the registry or found and run; otherwise the import system finds them. A
module that is found and fails is a link fault, and one that is not found no fault at all.
-/

namespace ResourceLookup

def splitClassName (name : Text) : Text × Text :=
  match name.cutFirst 0x3A with
  | some p => p
  | none =>
    match name.cutLast 0x2E with
    | some p => p
    | none => ([], name)

namespace Import

def classIn (id : ModuleId) (members : Text) : Import (Option ClassId) := do
  pure ((← get).classAt? (.ofModule id) (members.splitOn 0x2E))

/-- Runs a module that the walk has found. An ordinary fault takes it out of the registry
and becomes a link fault. -/
def executeLinked (around : Surroundings) (className : Text) (m : Module) (code : Code) :
    Import ModuleId := fun s =>
  match execute (importModule around around.nestingLimit) Fault.isOrdinary m code s with
  | .ok id s' => .ok id s'
  | .error f s' => .error (if f.isOrdinary then .classLink className f else f) s'

def loadLinked (around : Surroundings) (className name : Text) (path : List Text) :
    Import (Option ModuleId) := do
  match ← find around name path with
  | none => pure none
  | some found =>
    let (m, code) ← moduleOf around false name found
    let id ← executeLinked around className m code
    attach name id
    pure (some id)

def isFalse (o : Objects) : Value → Except Fault Bool
  | .nothing | .number 0 | .path [] => .ok true
  | .object n => (o.isTrue n).map not
  | _ => .ok false

def walkPath (around : Surroundings) : ModuleId → Import (Option (List Text)) :=
  pathOr around fun o v => (isFalse o v).map fun no => if no then some [] else none

/-- Walks the parts of a module name. `done` are the parts before these, and `path` is where
the next one is looked for. -/
def walk (around : Surroundings) (className : Text) (done : Text) (path : Option (List Text))
    (last : Option ModuleId) : List Text → Import (Option ModuleId)
  | [] => pure last
  | part :: rest => do
    let name := if last.isNone then part else done ++ 0x2E :: part
    let found? ←
      match (← get).registered? name with
      | some id => pure (some id)
      | none =>
        match path with
        | none => pure none
        | some entries => loadLinked around className name entries
    match found? with
    | none => pure none
    | some id =>
      let entries := (← walkPath around id).getD []
      walk around className name (if entries.isEmpty then none else some entries) (some id) rest

def loadUnder (around : Surroundings) (name : Text) (path : List Text) :
    Import (Option ClassId) := do
  let (module, members) := splitClassName name
  if module = [] || members = [] then pure none
  else
    match ← walk around name [] (some path) none (module.splitOn 0x2E) with
    | none => pure none
    | some id => classIn id members

def leadsTo (missing module : Text) : Bool :=
  missing == module || (missing ++ [0x2E]).isPrefixOf module

/-- The subject of an import fault is the module asked for or one of its parents. An object that is
no text is asked itself, and may fail. -/
def isMissing (o : Objects) (module : Text) : Subject → Except Fault Bool
  | .none => .ok (leadsTo [] module)
  | .named n => .ok (leadsTo n module)
  | .object k _ => do
    if !(← o.isTrue k) then pure (leadsTo [] module)
    else if ← o.isText k module then pure true
    else o.leads k module

def importClass (around : Surroundings) (name : Text) : Import (Option ClassId) := fun s =>
  let (module, members) := splitClassName name
  if module = [] || members = [] then .ok none s
  else
    match importNamed around module s with
    | .ok id s' => classIn id members s'
    | .error f s' =>
      if f.isModuleMissing then
        match isMissing s.objects module f.subject with
        | .ok missing => if missing then .ok none s' else .error (.classLink name f) s'
        | .error g => .error g s'
      else if f.isOrdinary then .error (.classLink name f) s'
      else .error f s'

end Import
end ResourceLookup
