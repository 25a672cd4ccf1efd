import ResourceLookup.Chain
import ResourceLookup.Modules.PackageFiles
import ResourceLookup.Resolver

/-!
# The state of lookups

What lookups read and change: the files around them, the modules, the streams that were
opened, the maps and scripts of resolvers, the settings, and the record of what was logged.
Named resolvers are made when they are first asked for.
-/

namespace ResourceLookup

inductive LogLevel
  | debug
  | warning
  deriving DecidableEq, Repr

structure LogLine where
  level : LogLevel
  message : Text
  deriving DecidableEq, Repr

structure World where
  around : Surroundings
  modules : ModuleSpace
  streams : List Stream
  /-- How reading the stream of this number fails that is opened next or later. -/
  flaws : StreamId → Option Flaw := fun _ => none
  mappings : OrderedMap Text (OrderedMap Text Content)
  scripts : OrderedMap Text Script
  specs : OrderedMap Text ResolverSpec
  made : OrderedMap Text Resolver
  settings : Settings Resolver
  log : List LogLine

def World.startIn (around : Surroundings) : World where
  around := around
  modules := .start
  streams := []
  mappings := []
  scripts := []
  specs := []
  made := []
  settings := .start
  log := []

abbrev Lookup := EStateM Fault World

namespace Lookup

def answer {α : Type} (e : Except Fault α) : Lookup α := fun w =>
  match e with
  | .ok a => .ok a w
  | .error f => .error f w

def reading {α : Type} (f : Surroundings → Except Fault α) : Lookup α := fun w =>
  answer (f w.around) w

def importing {α : Type} (f : Surroundings → Import α) : Lookup α := fun w =>
  match f w.around w.modules with
  | .ok a m => .ok a { w with modules := m }
  | .error e m => .error e { w with modules := m }

def log (level : LogLevel) (message : Text) : Lookup Unit :=
  modify fun w => { w with log := w.log ++ [⟨level, message⟩] }

def debug (message : Text) : Lookup Unit := log .debug message

/-- Runs `work`, and `after` whatever it ends in. -/
def andThen {α : Type} (work : Lookup α) (after : Lookup Unit) : Lookup α := fun w =>
  match work w with
  | .ok a w' =>
    match after w' with
    | .ok _ w'' => .ok a w''
    | .error f w'' => .error f w''
  | .error e w' =>
    match after w' with
    | .ok _ w'' => .error e w''
    | .error f w'' => .error f w''

def onFault {α : Type} (work : Lookup α) (about : Fault → Bool) (after : Lookup Unit) : Lookup α :=
  fun w =>
    match work w with
    | .ok a w' => .ok a w'
    | .error e w' =>
      if about e then
        match after w' with
        | .ok _ w'' => .error e w''
        | .error f w'' => .error f w''
      else .error e w'

/-- The stream that is opened next. Reading octets in memory does not fail. -/
def newStream (w : World) (holding : Holding) : Stream :=
  match if holding.1 = .memory then none else w.flaws w.streams.length with
  | some flaw => .flawed holding.1 holding.2 flaw
  | none => .ofOctets holding.1 holding.2

def openStream (holding : Holding) : Lookup StreamId := fun w =>
  .ok w.streams.length { w with streams := w.streams ++ [newStream w holding] }

def stream (id : StreamId) : Lookup Stream := do
  match (← get).streams[id]? with
  | some s => pure s
  | none => throw (.valueError (text "no such stream"))

def setStream (id : StreamId) (s : Stream) : Lookup Unit :=
  modify fun w => { w with streams := w.streams.set id s }

def closeStream (id : StreamId) : Lookup Unit :=
  modify fun w => { w with streams := w.streams.modify id Stream.close }

def readStream (id : StreamId) (limit : Option Nat) : Lookup Octets := do
  let (bs, s) ← answer ((← stream id).read limit)
  setStream id s
  pure bs

def readStreamLine (id : StreamId) : Lookup Octets := do
  let (bs, s) ← answer (← stream id).readLine
  setStream id s
  pure bs

def changeSettings (f : Settings Resolver → Settings Resolver) : Lookup Unit :=
  modify fun w => { w with settings := f w.settings }

def setDefault (r : Option Resolver) : Lookup Unit :=
  changeSettings fun s => { s with defaultResolver := r }

def script (key : Text) : Lookup Script := do
  match (← get).scripts.get? key with
  | some s => pure s
  | none => throw (.keyError key)

def modifyScript (key : Text) (f : Script → Script) : Lookup Unit := do
  let s ← script key
  modify fun w => { w with scripts := w.scripts.put key (f s) }

end Lookup

namespace Resolver

def ofSpec (key : Text) : ResolverSpec → Lookup Resolver
  | .mapping resources => do
    modify fun w => { w with mappings := w.mappings.put key resources }
    pure (.mapping key)
  | .directory path => pure (.place (.directory (Path.ofText path)))
  | .archive path => pure (.place (.archive (Path.ofText path)))
  | .package name => pure (.package name)
  | .entries list => pure (.entries list)
  | .searchPath => pure .searchPath
  | .path path => do pure (.place (← Lookup.reading fun around => Place.ofPath around path))
  | .scripted script => do
    modify fun w => { w with scripts := w.scripts.put key script }
    pure (.scripted key)

def named (key : Text) : Lookup Resolver := do
  match (← get).made.get? key with
  | some r => pure r
  | none =>
    match (← get).specs.get? key with
    | none => throw (.keyError key)
    | some spec =>
      let r ← ofSpec key spec
      modify fun w => { w with made := w.made.put key r }
      pure r

def placeShown : Place → Text
  | .directory p => text "DirectoryResolver(" ++ p.toText.quoted ++ text ")"
  | .archive p => text "ZipResolver(" ++ p.toText.quoted ++ text ")"

def shown (w : World) : Resolver → Text
  | mapping key =>
    text "MappingResolver(<" ++ Text.decimal ((w.mappings.get? key).getD []).length ++
      text " resources>)"
  | place p => placeShown p
  | package name => text "PackageResolver(" ++ name.quoted ++ text ")"
  | entries list => text "SysPathResolver(" ++ Text.quotedList list ++ text ")"
  | searchPath => text "SysPathResolver()"
  | scripted key => text "Probe(" ++ key ++ text ")"

end Resolver
end ResourceLookup
