import ResourceLookup.Modules.ClassLookup
import ResourceLookup.Url.Data
import ResourceLookup.World

/-!
# What resolvers answer

Each resolver opens a stream, gives an address or loads a class under a name, or answers
that it has none. A scripted resolver first records the request, then changes the default
resolver if it is told to, then fails if it is told to.
-/

namespace ResourceLookup.Resolver

open Lookup

def openFound : Option Holding → Lookup (Option StreamId)
  | none => pure none
  | some h => do pure (some (← Lookup.openStream h))

def contentOf (resources : OrderedMap Text Content) (name : Text) : Except Fault (Option Octets) :=
  match resources.get? name with
  | none => .ok none
  | some c => c.toOctets.map some

def dataUrl (found : Option Octets) : Option Text := found.map (Url.ofOctets Url.defaultMediaType)

def mappingOf (key : Text) : Lookup (OrderedMap Text Content) := do
  pure (((← get).mappings.get? key).getD [])

def takeRequest (key : Text) (request : Request) (name : Text) : Lookup Unit := do
  modifyScript key fun s => { s with requests := s.requests ++ [(request, name)] }
  let s ← script key
  match s.newDefault with
  | some r => setDefault (some (← named r))
  | none => pure ()
  match s.faults.get? request with
  | some f => throw f
  | none => pure ()

def makeClass (origin : Text) : Lookup ClassId :=
  modifyGet fun w =>
    (w.modules.classes.length,
      { w with
        modules :=
          { w.modules with
            classes := w.modules.classes ++ [⟨text "probe", text "Fake", some origin, []⟩] } })

def openStream (r : Resolver) (name : Text) : Lookup (Option StreamId) :=
  match r with
  | mapping key => do
    let resources ← mappingOf key
    openFound ((← answer (contentOf resources name)).map (Medium.memory, ·))
  | place p => do openFound (← reading fun around => p.read around name)
  | package p => do
    openFound (← importing fun around => PackageFiles.lookup around p name
      fun parts files => files.readParts around parts)
  | entries list => do
    openFound (← reading fun around => Place.search around (fun p => p.read around name) list)
  | searchPath => do
    openFound (← reading fun around =>
      Place.search around (fun p => p.read around name) around.searchPath)
  | scripted key => do
    takeRequest key .openStream name
    let found ← answer (contentOf (← script key).resources name)
    let id? ← openFound (found.map (Medium.custom, ·))
    modifyScript key fun s => { s with opened := s.opened ++ id?.toList }
    pure id?

def findUrl (r : Resolver) (name : Text) : Lookup (Option Text) :=
  match r with
  | mapping key => do
    let resources ← mappingOf key
    pure (dataUrl (← answer (contentOf resources name)))
  | place p => reading fun around => p.url around name
  | package p =>
    importing fun around => PackageFiles.lookup around p name
      fun parts files => files.urlOfParts around parts
  | entries list => reading fun around => Place.search around (fun p => p.url around name) list
  | searchPath =>
    reading fun around => Place.search around (fun p => p.url around name) around.searchPath
  | scripted key => do
    takeRequest key .findUrl name
    let s ← script key
    match s.urls.get? name with
    | some u => pure (some u)
    | none => pure (dataUrl (← answer (contentOf s.resources name)))

def loadClass (r : Resolver) (name : Text) : Lookup (Option ClassId) :=
  match r with
  | mapping _ => pure none
  | place p => importing fun around => Import.loadUnder around name [p.path.toText]
  | package p =>
    if (p ++ [0x2E]).isPrefixOf name then importing fun around => Import.importClass around name
    else pure none
  | entries list => importing fun around => Import.loadUnder around name list
  | searchPath => importing fun around => Import.importClass around name
  | scripted key => do
    takeRequest key .loadClass name
    match (← script key).classes.get? name with
    | some origin => do pure (some (← makeClass origin))
    | none => pure none

end ResourceLookup.Resolver
