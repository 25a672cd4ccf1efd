import ResourceLookup.Archive
import ResourceLookup.Fault
import ResourceLookup.OrderedMap

/-!
# Modules, classes and the registry

All modules ever begun are kept in a list and known by their place in it, so that a module
keeps its identity when another one is later registered under its name; classes likewise.
The registry says which module stands for a name. A module is running until its body ends,
and then completed or failed.
-/

namespace ResourceLookup

abbrev ModuleId := Nat
abbrev ClassId := Nat

inductive Value
  | ofClass (id : ClassId)
  | ofModule (id : ModuleId)
  | number (i : Int)
  | nothing
  /-- A list of entries to look for modules in. -/
  | path (entries : List Text)
  | object (n : Nat)
  deriving DecidableEq, Repr

structure ClassObject where
  module : Text
  qualifiedName : Text
  origin : Option Text
  members : OrderedMap Text Value
  deriving DecidableEq, Repr

/-- What the runtime says of objects: how those that are neither modules nor classes compare with a
text, which may fail, and which members objects have without being given them. -/
structure Objects where
  isTrue : Nat → Except Fault Bool
  isText : Nat → Text → Except Fault Bool
  /-- The text begins with the object and a full stop. -/
  leads : Nat → Text → Except Fault Bool
  /-- Members that nothing given to the object can hide. -/
  fixed : Value → Text → Option Value
  /-- What a module holds before its body runs. -/
  initial : ModuleId → Text → Option Value
  /-- Members that an object has from its class or from those above its own. -/
  inherited : Value → Text → Option Value
  /-- What a value that is no list of entries comes to as one, where it can be gone through. -/
  entries : Value → Except Fault (List Text)

def Objects.entriesOf (o : Objects) : Value → Except Fault (List Text)
  | .path entries => .ok entries
  | v => o.entries v

/-- Where the modules inside a package are looked for. -/
inductive PackagePath
  | fixed (entries : List Text)
  /-- Directories of one name on the path of the parent. They are looked for again when that
  path is no longer the one seen, or when the files have changed since. -/
  | portions (entries seen : List Text) (epoch : Nat)
  /-- What the body has put in the place of a path. The module may not have begun as a package. -/
  | given (v : Value) (package : Bool)
  deriving DecidableEq, Repr

def PackagePath.given? : PackagePath → Option Value
  | .given v _ => some v
  | _ => none

def pathName : Text := text "__path__"

inductive Stage
  /-- `regular` says that the body was begun by the import system. -/
  | running (regular : Bool)
  | completed
  | failed (cause : Fault)
  deriving DecidableEq, Repr

inductive Home
  | directory (path : Text)
  | archive (file inside : Text)
  | portions
  /-- Part of the surrounding program. -/
  | builtin
  deriving DecidableEq, Repr

structure Module where
  name : Text
  file : Option Text
  home : Home
  path : Option PackagePath
  members : OrderedMap Text Value
  stage : Stage
  deriving DecidableEq, Repr

namespace Module

def isPackage (m : Module) : Bool := m.path.isSome

def beganAsPackage (m : Module) : Bool :=
  match m.path with
  | none => false
  | some (.given _ package) => package
  | some _ => true

/-- The path that the module was made with, as the module holds it. -/
def pathMember (m : Module) (name : Text) : Option Value :=
  match m.path with
  | some (.fixed entries) => bif name == pathName then some (.path entries) else none
  | _ => none

end Module

inductive Finder
  | directory (path : Text)
  /-- `members` are those that the archive had then. -/
  | archive (file inside : Text) (members : Members)

structure ModuleSpace where
  modules : List Module
  classes : List ClassObject
  registry : OrderedMap Text ModuleId
  /-- Relative entries keep what they stood for at first. -/
  recognized : OrderedMap Text (Option Finder)
  objects : Objects
  /-- Counts the changes of the files. -/
  epoch : Nat

abbrev Import := EStateM Fault ModuleSpace

namespace ModuleSpace

def registered? (s : ModuleSpace) (name : Text) : Option ModuleId := s.registry.get? name

def isRegistered (s : ModuleSpace) (name : Text) : Bool := (s.registered? name).isSome

def register (s : ModuleSpace) (name : Text) (id : ModuleId) : ModuleSpace :=
  { s with registry := s.registry.put name id }

def unregister (s : ModuleSpace) (name : Text) : ModuleSpace :=
  { s with registry := s.registry.remove name }

def module? (s : ModuleSpace) (id : ModuleId) : Option Module := s.modules[id]?

def add (s : ModuleSpace) (m : Module) : ModuleId × ModuleSpace :=
  (s.modules.length, ({ s with modules := s.modules ++ [m] }).register m.name s.modules.length)

def modifyModule (s : ModuleSpace) (id : ModuleId) (f : Module → Module) : ModuleSpace :=
  { s with modules := s.modules.modify id f }

def setStage (s : ModuleSpace) (id : ModuleId) (stage : Stage) : ModuleSpace :=
  s.modifyModule id fun m => { m with stage := stage }

def setMember (s : ModuleSpace) (id : ModuleId) (name : Text) (v : Value) : ModuleSpace :=
  s.modifyModule id fun m => { m with members := m.members.put name v }

def givePath (s : ModuleSpace) (id : ModuleId) (v : Value) : ModuleSpace :=
  s.modifyModule id fun m => { m with path := some (.given v m.beganAsPackage) }

def assign (s : ModuleSpace) (id : ModuleId) (name : Text) (v : Value) : ModuleSpace :=
  let s := s.setMember id name v
  bif name == pathName then s.givePath id v else s

def given? (s : ModuleSpace) (id : ModuleId) : Option Value :=
  (s.module? id).bind fun m => m.path.bind PackagePath.given?

def global? (s : ModuleSpace) (id : ModuleId) (name : Text) : Option Value :=
  (s.modules[id]?).bind fun m =>
    (m.members.get? name).or ((m.pathMember name).or (s.objects.initial id name))

/-- The member of a value, which has what it holds itself and what it inherits. -/
def member? (s : ModuleSpace) (v : Value) (name : Text) : Option Value :=
  let inherited := s.objects.inherited v name
  (s.objects.fixed v name).or <|
    match v with
    | .ofClass id => (s.classes[id]?).bind fun c => (c.members.get? name).or inherited
    | .ofModule id => (s.modules[id]?).bind fun _ => (s.global? id name).or inherited
    | _ => inherited

def classAt? (s : ModuleSpace) (v : Value) : List Text → Option ClassId
  | [] => match v with | .ofClass id => some id | _ => none
  | p :: ps =>
    match s.member? v p with
    | none | some .nothing => none
    | some v' => classAt? s v' ps

def addClass (module outer : Text) (s : ModuleSpace) : ClassSource → ClassId × ModuleSpace
  | .mk name origin nested =>
    let (members, s) := addNested module (outer ++ name) s nested
    (s.classes.length,
      { s with
        classes := s.classes ++
          [⟨module, outer ++ name, some origin,
            OrderedMap.ofPairs ((text "origin", Value.object 9) :: members)⟩] })
where
  addNested (module qualified : Text) (s : ModuleSpace) :
      List ClassSource → List (Text × Value) × ModuleSpace
    | [] => ([], s)
    | c :: cs =>
      let (id, s) := addClass module (qualified ++ [0x2E]) s c
      let (rest, s) := addNested module qualified s cs
      ((c.name, .ofClass id) :: rest, s)

def builtinClass (module name : String) : ClassObject := ⟨text module, text name, none, []⟩

def builtinModule (name : String) (package : Bool) (members : List (String × Value)) : Module :=
  ⟨text name, none, .builtin, if package then some (.fixed []) else none,
    members.map fun p => (text p.1, p.2), .completed⟩

structure BuiltinClass where
  module : String
  name : String
  type : ClassId
  base : Option ClassId

def builtinClasses : List BuiltinClass :=
  [⟨"builtins", "int", 7, some 6⟩, ⟨"builtins", "dict", 7, some 6⟩,
   ⟨"collections", "OrderedDict", 7, some 1⟩, ⟨"collections.abc", "Mapping", 16, some 14⟩,
   ⟨"json.decoder", "JSONDecodeError", 7, some 11⟩, ⟨"json.decoder", "JSONDecoder", 7, some 6⟩,
   ⟨"builtins", "object", 7, none⟩, ⟨"builtins", "type", 7, some 6⟩,
   ⟨"builtins", "module", 7, some 6⟩, ⟨"builtins", "str", 7, some 6⟩,
   ⟨"builtins", "function", 7, some 6⟩, ⟨"builtins", "ValueError", 7, some 12⟩,
   ⟨"builtins", "Exception", 7, some 13⟩, ⟨"builtins", "BaseException", 7, some 6⟩,
   ⟨"collections.abc", "Collection", 16, some 15⟩, ⟨"collections.abc", "Sized", 16, some 6⟩,
   ⟨"abc", "ABCMeta", 7, some 7⟩, ⟨"_frozen_importlib", "ModuleSpec", 7, some 6⟩,
   ⟨"builtins", "tuple", 7, some 6⟩, ⟨"builtins", "mappingproxy", 7, some 6⟩,
   ⟨"builtins", "NoneType", 7, some 6⟩, ⟨"builtins", "list", 7, some 6⟩]

end ModuleSpace

namespace Objects

def classOf : Value → ClassId
  | .ofClass id =>
    match ModuleSpace.builtinClasses[id]? with
    | some c => c.type
    | none => 7
  | .ofModule _ => 8
  | .number _ => 0
  | .nothing => 20
  | .path _ => 21
  | .object n => n

def baseOf (id : ClassId) : Value :=
  match ModuleSpace.builtinClasses[id]? with
  | some c =>
    match c.base with
    | some b => .ofClass b
    | none => .nothing
  | none => .ofClass 6

/-- Members that every value of its kind has. -/
def fixedMembers (v : Value) : List (String × Value) :=
  ("__class__", .ofClass (classOf v)) ::
    match v with
    | .ofClass id =>
      [("__base__", baseOf id), ("__name__", .object 9), ("__qualname__", .object 9),
       ("__module__", .object 9), ("__mro__", .object 18), ("__bases__", .object 18),
       ("__dict__", .object 19)]
    | .ofModule _ => [("__dict__", .object 1)]
    | _ => []

def initialMembers : List (String × Value) :=
  [("__name__", .object 9), ("__package__", .object 9), ("__doc__", .nothing),
   ("__spec__", .object 17)]

def memberOf (members : List (String × Value)) (name : Text) : Option Value :=
  (members.find? fun p => text p.1 == name).map (·.2)

def notIterable (v : Value) : Fault :=
  let kind :=
    match ModuleSpace.builtinClasses[classOf v]? with
    | some c => text c.name
    | none => text "object"
  .typeError (kind.quoted ++ text " object is not iterable")

def collections : List Nat := [1, 9, 18, 19]

/-- What classes and modules are asked for most. No object is a text, nor can be put before one, and
collections hold nothing. -/
def plain : Objects where
  isTrue _ := .ok true
  isText _ _ := .ok false
  leads _ _ := .error (.typeError (text "unsupported operand type(s) for +: 'int' and 'str'"))
  fixed v := memberOf (fixedMembers v)
  initial _ := memberOf initialMembers
  inherited _ _ := none
  entries v :=
    match v with
    | .object n => if collections.contains n then .ok [] else .error (notIterable v)
    | _ => .error (notIterable v)

end Objects

namespace ModuleSpace

def start : ModuleSpace where
  modules :=
    [builtinModule "builtins" false
       [("int", .ofClass 0), ("dict", .ofClass 1), ("object", .ofClass 6), ("type", .ofClass 7),
        ("str", .ofClass 9), ("ValueError", .ofClass 11), ("Exception", .ofClass 12),
        ("BaseException", .ofClass 13), ("tuple", .ofClass 18), ("list", .ofClass 21)],
     builtinModule "collections" true
       [("OrderedDict", .ofClass 2), ("namedtuple", .object 10), ("abc", .ofModule 2)],
     builtinModule "collections.abc" false [("Mapping", .ofClass 3)],
     builtinModule "json" true
       [("JSONDecodeError", .ofClass 4), ("JSONDecoder", .ofClass 5), ("decoder", .ofModule 4)],
     builtinModule "json.decoder" false
       [("JSONDecodeError", .ofClass 4), ("JSONDecoder", .ofClass 5)]]
  classes := builtinClasses.map fun c => builtinClass c.module c.name
  registry :=
    [(text "builtins", 0), (text "collections", 1), (text "collections.abc", 2),
     (text "json", 3), (text "json.decoder", 4)]
  recognized := []
  objects := .plain
  epoch := 0

/-- After the files have changed, relative entries and missing ones are looked at anew. -/
def filesChanged (s : ModuleSpace) : ModuleSpace := { s with recognized := [], epoch := s.epoch + 1 }

end ModuleSpace
end ResourceLookup
