import ResourceLookup.Access
import ResourceLookup.Text.Case

/-!
# Local document types

Well-known document type definitions are served from resources. The first known name, in
their order and without regard to case, that occurs in a system identifier decides; what
is not known or not found locally stays where it is declared to be.
-/

namespace ResourceLookup

structure DocumentTypes where
  resources : OrderedMap Text Text
  deriving DecidableEq, Repr

structure InputSource where
  systemId : Text
  publicId : Option Text
  stream : StreamId
  deriving DecidableEq, Repr

inductive EntitySource
  | declared (systemId : Text)
  | served (source : InputSource)
  deriving DecidableEq, Repr

namespace DocumentTypes

def ofMap (names : OrderedMap Text Text) : DocumentTypes :=
  ⟨OrderedMap.ofPairs (names.map fun p => (p.1.lower, p.2))⟩

def resourceFor (d : DocumentTypes) (systemId : Text) : Option Text :=
  if systemId.isEmpty then none
  else (d.resources.find? fun p => Text.hasInfix p.1 systemId.lower).map (·.2)

/-- The declared place takes over when the lookup ends in an ordinary fault. -/
def resolve (d : DocumentTypes) (c : Along Resolver) (publicId : Option Text)
    (systemId : Text) : Lookup EntitySource :=
  match d.resourceFor systemId with
  | none => pure (.declared systemId)
  | some resource => fun w =>
    match Access.getStream c resource w with
    | .ok id w' => .ok (.served ⟨systemId, publicId, id⟩) w'
    | .error f w' =>
      if f.isOrdinary then
        (do
          Lookup.debug (text "No local copy of " ++ systemId ++
            text "; using its declared location")
          pure (.declared systemId) : Lookup EntitySource) w'
      else .error f w'

end DocumentTypes
end ResourceLookup
