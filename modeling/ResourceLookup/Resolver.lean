import ResourceLookup.Chain
import ResourceLookup.Content
import ResourceLookup.Place

/-!
# Resolvers

A resolver knows where resources are: in a map in memory, at a place, in a package, along a
list of entries, or along the search path of the modules. A scripted one answers as it is
told and keeps a record of what it was asked. Maps and scripts are kept under a key of the
resolver's own, because they change.
-/

namespace ResourceLookup

inductive Resolver
  | mapping (key : Text)
  | place (p : Place)
  | package (name : Text)
  | entries (list : List Text)
  | searchPath
  | scripted (key : Text)
  deriving DecidableEq, Repr

structure Script where
  resources : OrderedMap Text Content
  urls : OrderedMap Text Text
  /-- The origins of the classes that are made, a new one each time. -/
  classes : OrderedMap Text Text
  faults : OrderedMap Request Fault
  /-- The resolver that becomes the default one at each request. -/
  newDefault : Option Text
  requests : List (Request × Text)
  opened : List StreamId
  deriving Repr

inductive ResolverSpec
  | mapping (resources : OrderedMap Text Content)
  | directory (path : Text)
  | archive (path : Text)
  | package (name : Text)
  | entries (list : List Text)
  | searchPath
  /-- A directory or an archive, whichever is at the path. -/
  | path (path : Text)
  | scripted (script : Script)
  deriving Repr

end ResourceLookup
