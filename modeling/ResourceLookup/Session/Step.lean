import ResourceLookup.DocumentTypes

/-!
# Steps of a session

What a session can be asked to do, one step at a time, and what it answers. Resolvers and
open handles go by names of the session's own.
-/

namespace ResourceLookup

/-- A resolver as a setting takes it: none, a named one, or whatever is at a path. -/
inductive ResolverChoice
  | none
  | named (key : Text)
  | path (path : Text)
  deriving Repr

structure ResourceCall where
  name : Text
  loader : Option Text
  deriving Repr

inductive Form
  | url
  | stream
  | octets
  | characters
  | reader
  | properties
  | file
  | loadedClass
  deriving DecidableEq, Repr

inductive UrlForm
  | stream
  | reader
  | properties
  deriving DecidableEq, Repr

inductive Opening
  | resource (call : ResourceCall)
  | url (url : Text)
  deriving Repr

inductive Entering
  | ambientResolver (key : Option Text)
  | defaultResolver (choice : ResolverChoice)
  | textCharset (charset : Option Text)
  /-- A charset whose name is not looked at. -/
  | uncheckedCharset (charset : Option Text)
  deriving Repr

inductive Step
  | ask (request : Request) (on name : Text)
  | describe (on : Text)
  | entriesOf (on : Text)
  | requestsOf (on : Text)
  | put (on name : Text) (content : Content)
  | chainResolvers (loader : Option Text)
  /-- `ends` are resolvers in place of the session's own fallbacks. -/
  | resolve (request : Request) (call : ResourceCall) (ends : Option (Option Text × Option Text))
  | get (form : Form) (call : ResourceCall)
  | getUrl (form : UrlForm) (url : Text)
  | openHandle (handle : Text) (asReader : Bool) (opening : Opening)
  | read (handle : Text) (limit : Option Int)
  | readLine (handle : Text)
  | close (handle : Text)
  | isClosed (handle : Text)
  | setDefault (choice : ResolverChoice)
  | parseResolver (choice : ResolverChoice)
  | currentDefault
  | setCharset (charset : Option Text)
  | currentCharset
  | enter (what : Entering)
  | leave
  /-- A step apart from all overrides. -/
  | apart (step : Step)
  | resourceFor (names : List (Text × Text)) (loader : Option Text) (systemId : Option Text)
  | resolveEntity (names : List (Text × Text)) (loader systemId publicId : Option Text)
  | archiveUrl (archive member : Text)
  | pathFromUrl (url : Text)
  | write (path : Text) (entry : Entry)
  | delete (path : Text)
  | changeDirectory (path : Text)
  | setSearchPath (entries : List Text)
  | loaded (names : List Text)

/-- A class as answers show it. `number` tells it apart from others of the session. -/
structure ShownClass where
  module : Text
  qualifiedName : Text
  origin : Option Text
  number : Nat
  deriving DecidableEq, Repr

inductive Answer
  | nothing
  | flag (b : Bool)
  | characters (t : Text)
  | octets (bs : Octets)
  | texts (ts : List Text)
  | pairs (ps : List (Text × Text))
  | ofClass (c : ShownClass)
  | reading (encoding content : Text)
  | file (path : Text) (isFile : Bool)
  /-- The record of a scripted resolver, and how often each of its streams was closed. -/
  | requests (key : Text) (asked : List (Request × Text)) (closes : List Nat)
  | entity (systemId : Text) (publicId : Option Text) (data : Octets)
  | apart (outcome : Except Fault Answer) (log : List LogLine)

structure Report where
  outcome : Except Fault Answer
  log : List LogLine

end ResourceLookup
