import ResourceLookup.Properties.Reader
import ResourceLookup.Reader
import ResourceLookup.Resolver.Answers
import ResourceLookup.Url.FilePath
import ResourceLookup.Url.Opening

/-!
# Access to resources

Resources are had by name along the chain, or by address: as a stream, octets, text, a
reader, properties, an address or a path. Absence is no fault of the chain and becomes one
here. Whoever gets a stream or a reader closes it; what only reads one closes it itself.
-/

namespace ResourceLookup

abbrev Request.Answer : Request → Type
  | openStream => StreamId
  | findUrl => Text
  | loadClass => ClassId

def Request.subject : Request → Text
  | openStream => text "stream"
  | findUrl => text "URL"
  | loadClass => text "class"

namespace Resolver

def noteShown (w : World) (request : Request) : Note Resolver → Text
  | .hit r form =>
    text "Resolved " ++ request.subject ++ text " '" ++ form ++ text "' via " ++ r.shown w
  | .miss name asked =>
    text "No " ++ request.subject ++ text " '" ++ name ++ text "' in any of " ++
      Text.decimal asked ++ text " resolvers"

def family : Family Resolver World Fault Request.Answer where
  settings := World.settings
  ask
    | .openStream => openStream
    | .findUrl => findUrl
    | .loadClass => loadClass
  note request n w := { w with log := w.log ++ [⟨.debug, noteShown w request n⟩] }

end Resolver

namespace Along

def resolveStream (c : Along Resolver) (name : Text) : Lookup (Option StreamId) :=
  Resolver.family.resolve .openStream c name

def resolveUrl (c : Along Resolver) (name : Text) : Lookup (Option Text) :=
  Resolver.family.resolve .findUrl c name

def resolveClass (c : Along Resolver) (name : Text) : Lookup (Option ClassId) :=
  Resolver.family.resolve .loadClass c name

end Along

namespace Access

def found {α : Type} (missing : Fault) : Option α → Lookup α
  | some a => pure a
  | none => throw missing

def getUrl (c : Along Resolver) (name : Text) : Lookup Text := do
  found (.resourceNotFound name) (← c.resolveUrl name)

def getStream (c : Along Resolver) (name : Text) : Lookup StreamId := do
  found (.resourceNotFound name) (← c.resolveStream name)

def loadClass (c : Along Resolver) (name : Text) : Lookup ClassId := do
  found (.classNotFound name) (← c.resolveClass name)

def drain (id : StreamId) : Lookup Octets :=
  Lookup.andThen (Lookup.readStream id none) (Lookup.closeStream id)

def drainReader (r : Reader) : Lookup Text :=
  Lookup.andThen (do Lookup.answer (← r.read none).1) (discard r.close)

def malformed (source : Text) (e : Properties.Malformed) : Fault :=
  .propertiesDecode (text "Malformed \\uxxxx encoding.") source e.line

def parseText (source content : Text) : Except Fault Properties :=
  (Properties.read content).mapError (malformed source)

def parseProperties (source : Text) (bs : Octets) : Except Fault Properties :=
  (Properties.readOctets bs).mapError (malformed source)

def drainProperties (id : StreamId) (source : Text) : Lookup Properties :=
  Lookup.andThen
    (Lookup.onFault (do Lookup.answer (parseProperties source (← Lookup.readStream id none)))
      (fun f => f.isA "ValueError")
      (Lookup.log .warning (text "Unable to decode " ++ source ++ text " as properties")))
    (Lookup.closeStream id)

def getBytes (c : Along Resolver) (name : Text) : Lookup Octets := do drain (← getStream c name)

def getProperties (c : Along Resolver) (name : Text) : Lookup Properties := do
  drainProperties (← getStream c name) name

def getReader (c : Along Resolver) (name : Text) : Lookup Reader := do
  Reader.ofStream (← getStream c name)

def getText (c : Along Resolver) (name : Text) : Lookup Text := do drainReader (← getReader c name)

def getFile (c : Along Resolver) (name : Text) : Lookup Path := do
  Lookup.answer (Url.toPath (← getUrl c name))

def mediumOf : Url.Source → Medium
  | .memory => .memory
  | .file => .file

def getUrlStream (url : Text) : Lookup StreamId := do
  let around := (← get).around
  match Url.openUrl around.tree around.cwd url around.outside with
  | .ok (source, bs) => Lookup.openStream (mediumOf source, bs)
  | .error (.urlConnection u cause) => do
    Lookup.debug (text "Could not open " ++ url)
    throw (.urlConnection u cause)
  | .error f => throw f

def getUrlReader (url : Text) : Lookup Reader := do Reader.ofStream (← getUrlStream url)

def getUrlProperties (url : Text) : Lookup Properties := do
  drainProperties (← getUrlStream url) url

end Access
end ResourceLookup
