import ResourceLookup.Session.Step

/-!
# Sessions

A session is the state of lookups together with its fallbacks, its open handles, and the
classes it has shown so far, which are numbered in the order in which they first appear.
-/

namespace ResourceLookup

inductive Handle
  | stream (id : StreamId)
  | reader (r : Reader)
  deriving Repr

structure Session where
  world : World
  /-- The directory that paths of steps are relative to. -/
  root : Location
  own : Option Text
  system : Option Text
  handles : OrderedMap Text Handle
  shown : List ClassId

abbrev Sitting := EStateM Fault Session

namespace Session

def start (root : Location) (files : List (Text × Entry))
    (specs : List (Text × ResolverSpec)) (own system : Option Text) : Session where
  world :=
    { World.startIn
        { tree := files.foldl (fun t f => t.write root f.1 f.2)
            (FileTree.makeDirectories [] root)
          cwd := root
          searchPath := [] } with
      specs := specs }
  root := root
  own := own
  system := system
  handles := []
  shown := []

end Session

namespace Sitting

def looking {α : Type} (work : Lookup α) : Sitting α := fun s =>
  match work s.world with
  | .ok a w => .ok a { s with world := w }
  | .error f w => .error f { s with world := w }

def named? : Option Text → Sitting (Option Resolver)
  | none => pure none
  | some key => do pure (some (← looking (Resolver.named key)))

def chosen : ResolverChoice → Sitting (Option Resolver)
  | .none => pure none
  | .named key => named? (some key)
  | .path [] => pure none
  | .path path => do
    pure (some (.place (← looking (Lookup.reading fun around => Place.ofPath around path))))

def shownResolver : Option Resolver → Sitting Answer
  | none => pure .nothing
  | some r => do pure (.characters (r.shown (← get).world))

def along (loader : Option Text) : Sitting (Along Resolver) := do
  let explicit ← named? loader
  let own ← named? (← get).own
  let system ← named? (← get).system
  pure ⟨⟨own, system⟩, explicit⟩

def showClass (id : ClassId) : Sitting Answer := do
  let s ← get
  let number := s.shown.idxOf id
  if number = s.shown.length then set { s with shown := s.shown ++ [id] }
  match s.world.modules.classes[id]? with
  | some c => pure (.ofClass ⟨c.module, c.qualifiedName, c.origin, number⟩)
  | none => pure .nothing

def octetsOf : Option StreamId → Sitting Answer
  | none => pure .nothing
  | some id => do pure (.octets (← looking (Access.drain id)))

def textOf : Option Text → Answer
  | none => .nothing
  | some t => .characters t

def classOf : Option ClassId → Sitting Answer
  | none => pure .nothing
  | some id => showClass id

def readingOf (r : Reader) : Sitting Answer := do
  pure (.reading r.encoding (← looking (Access.drainReader r)))

def ask (r : Resolver) (name : Text) : Request → Sitting Answer
  | .openStream => do octetsOf (← looking (r.openStream name))
  | .findUrl => do pure (textOf (← looking (r.findUrl name)))
  | .loadClass => do classOf (← looking (r.loadClass name))

def resolve (c : Along Resolver) (name : Text) : Request → Sitting Answer
  | .openStream => do octetsOf (← looking (c.resolveStream name))
  | .findUrl => do pure (textOf (← looking (c.resolveUrl name)))
  | .loadClass => do classOf (← looking (c.resolveClass name))

def getAs (c : Along Resolver) (name : Text) : Form → Sitting Answer
  | .url => do pure (.characters (← looking (Access.getUrl c name)))
  | .stream => do octetsOf (some (← looking (Access.getStream c name)))
  | .octets => do pure (.octets (← looking (Access.getBytes c name)))
  | .characters => do pure (.characters (← looking (Access.getText c name)))
  | .reader => do readingOf (← looking (Access.getReader c name))
  | .properties => do pure (.pairs (← looking (Access.getProperties c name)))
  | .file => do
    let path ← looking (Access.getFile c name)
    let isFile ← looking (Lookup.reading fun around => around.tree.isFile around.cwd path.toText)
    pure (.file path.toText isFile)
  | .loadedClass => do showClass (← looking (Access.loadClass c name))

def getUrlAs (url : Text) : UrlForm → Sitting Answer
  | .stream => do octetsOf (some (← looking (Access.getUrlStream url)))
  | .reader => do readingOf (← looking (Access.getUrlReader url))
  | .properties => do pure (.pairs (← looking (Access.getUrlProperties url)))

def setHandle (handle : Text) (h : Handle) : Sitting Unit :=
  modify fun s => { s with handles := s.handles.put handle h }

def handleOf (handle : Text) : Sitting Handle := do
  match (← get).handles.get? handle with
  | some h => pure h
  | none => throw (.keyError handle)

def openHandle (handle : Text) (asReader : Bool) (opening : Opening) : Sitting Answer := do
  let id ←
    match opening with
    | .resource call => do
      let c ← along call.loader
      looking (Access.getStream c call.name)
    | .url url => looking (Access.getUrlStream url)
  if asReader then
    let r ← looking (Reader.ofStream id)
    setHandle handle (.reader r)
    pure (.characters r.encoding)
  else
    setHandle handle (.stream id)
    pure .nothing

def readWith (handle : Text) (onStream : StreamId → Lookup Octets)
    (onReader : Reader → Lookup (Except Fault Text × Reader)) : Sitting Answer := do
  match ← handleOf handle with
  | .stream id => do pure (.octets (← looking (onStream id)))
  | .reader r => do
    let (answer, r') ← looking (onReader r)
    setHandle handle (.reader r')
    pure (.characters (← looking (Lookup.answer answer)))

def limitOf (limit : Option Int) : Option Nat :=
  limit.bind fun i => if i < 0 then none else some i.toNat

def closeHandle (handle : Text) : Sitting Unit := do
  match ← handleOf handle with
  | .stream id => looking (Lookup.closeStream id)
  | .reader r => do setHandle handle (.reader (← looking r.close))

def handleIsClosed (handle : Text) : Sitting Bool := do
  match ← handleOf handle with
  | .stream id => do pure (← looking (Lookup.stream id)).isClosed
  | .reader r => pure r.isClosed

def changeSettings (f : Settings Resolver → Settings Resolver) : Sitting Unit :=
  looking (Lookup.changeSettings f)

def parsedCharset (charset : Option Text) : Sitting (Option Text) :=
  looking (Lookup.answer (Charset.parse charset))

def enter : Entering → Sitting Answer
  | .ambientResolver key => do
    let r ← named? key
    changeSettings fun s => s.enter (.ambientResolver r)
    shownResolver r
  | .defaultResolver choice => do
    let r ← chosen choice
    changeSettings fun s => s.enter (.defaultResolver r)
    shownResolver r
  | .textCharset charset => do
    let c ← parsedCharset charset
    changeSettings fun s => s.enter (.textCharset c)
    pure (textOf c)
  | .uncheckedCharset charset => do
    changeSettings fun s => s.enter (.textCharset charset)
    pure (textOf charset)

def changeAround (f : Surroundings → Surroundings) : Sitting Unit :=
  modify fun s => { s with world := { s.world with around := f s.world.around } }

def changeFiles (f : FileTree → FileTree) : Sitting Unit := do
  changeAround fun a => { a with tree := f a.tree }
  modify fun s =>
    { s with world := { s.world with modules := s.world.modules.filesChanged } }

def changeDirectory (path : Text) : Sitting Unit := do
  let s ← get
  match s.world.around.tree.locate s.root path with
  | .ok (place, _) => changeAround fun a => { a with cwd := place }
  | .error why => throw (.refused why (some path))

def resolveEntity (d : DocumentTypes) (loader : Option Text) (systemId : Text)
    (publicId : Option Text) : Sitting Answer := do
  let c ← along loader
  match ← looking (d.resolve c publicId systemId) with
  | .declared systemId => pure (.characters systemId)
  | .served source => do
    pure (.entity source.systemId source.publicId
      (← looking (Lookup.readStream source.stream none)))

def requestsOf (key : Text) : Sitting Answer := do
  discard (looking (Resolver.named key))
  let script ← looking (Lookup.script key)
  let streams := (← get).world.streams
  pure (.requests key script.requests
    (script.opened.map fun id => (streams[id]?.map Stream.closes).getD 0))

def entriesOf (key : Text) : Sitting Answer := do
  match ← looking (Resolver.named key) with
  | .entries list => pure (.texts list)
  | _ => do pure (.texts (← get).world.around.searchPath)

def put (key name : Text) (content : Content) : Sitting Unit := do
  match ← looking (Resolver.named key) with
  | .mapping key =>
    modify fun s =>
      { s with
        world :=
          { s.world with
            mappings := s.world.mappings.put key
              (((s.world.mappings.get? key).getD []).put name content) } }
  | _ => throw (.typeError (text "no mapping"))

/-- Runs `work` without overrides, which are in force again afterwards. -/
def runApart (work : Session → Report × Session) : Sitting Report := fun s =>
  let saved := s.world.settings.overrides
  let (report, s') :=
    work { s with world := { s.world with settings := s.world.settings.apart } }
  let settings := { s'.world.settings with overrides := saved }
  .ok report { s' with world := { s'.world with settings := settings } }

def report (work : Sitting Answer) (s : Session) : Report × Session :=
  match work { s with world := { s.world with log := [] } } with
  | .ok a s' => (⟨.ok a, s'.world.log⟩, { s' with world := { s'.world with log := [] } })
  | .error f s' => (⟨.error f, s'.world.log⟩, { s' with world := { s'.world with log := [] } })

def quietly (work : Sitting Unit) : Sitting Answer := do
  work
  pure .nothing

def run : Step → Sitting Answer
  | .ask request on name => do ask (← looking (Resolver.named on)) name request
  | .describe on => do shownResolver (some (← looking (Resolver.named on)))
  | .entriesOf on => entriesOf on
  | .requestsOf on => requestsOf on
  | .put on name content => quietly (put on name content)
  | .chainResolvers loader => do
    let c ← along loader
    let w := (← get).world
    pure (.texts ((c.resolvers w.settings).map fun r => r.shown w))
  | .resolve request call none => do resolve (← along call.loader) call.name request
  | .resolve request call (some (own, system)) => do
    let explicit ← named? call.loader
    let own ← named? own
    let system ← named? system
    resolve ⟨⟨own, system⟩, explicit⟩ call.name request
  | .get form call => do getAs (← along call.loader) call.name form
  | .getUrl form url => getUrlAs url form
  | .openHandle handle asReader opening => openHandle handle asReader opening
  | .read handle limit =>
    readWith handle (fun id => Lookup.readStream id (limitOf limit))
      fun r => r.read (limitOf limit)
  | .readLine handle => readWith handle Lookup.readStreamLine Reader.readLine
  | .close handle => quietly (closeHandle handle)
  | .isClosed handle => do pure (.flag (← handleIsClosed handle))
  | .setDefault choice => do
    let r ← chosen choice
    quietly (looking (Lookup.setDefault r))
  | .parseResolver choice => do shownResolver (← chosen choice)
  | .currentDefault => do shownResolver (← get).world.settings.currentDefault
  | .setCharset charset => do
    let c ← parsedCharset charset
    quietly (changeSettings fun s => { s with textCharset := c })
  | .currentCharset => do pure (textOf (← get).world.settings.currentCharset)
  | .enter what => enter what
  | .leave => quietly (changeSettings Settings.leave)
  | .apart step => do
    let r ← runApart (report (run step))
    pure (.apart r.outcome r.log)
  | .resourceFor names loader systemId => do
    discard (named? loader)
    pure (textOf ((DocumentTypes.ofMap (OrderedMap.ofPairs names)).resourceFor
      (systemId.getD [])))
  | .resolveEntity names loader systemId publicId => do
    match systemId with
    | none => pure .nothing
    | some systemId =>
      resolveEntity (.ofMap (OrderedMap.ofPairs names)) loader systemId publicId
  | .archiveUrl archive member => do
    pure (.characters (← looking (Lookup.reading fun around =>
      Url.ofMember around.tree around.cwd (Path.ofText archive) member)))
  | .pathFromUrl url => do
    pure (.characters (← looking (Lookup.answer (Url.toPath url))).toText)
  | .write path entry => do
    let root := (← get).root
    quietly (changeFiles fun t => t.write root path entry)
  | .delete path => do
    let root := (← get).root
    quietly (changeFiles fun t => t.remove root path)
  | .changeDirectory path => quietly (changeDirectory path)
  | .setSearchPath entries => quietly (changeAround fun a => { a with searchPath := entries })
  | .loaded names => do
    let modules := (← get).world.modules
    pure (.texts (names.filter modules.isRegistered))

end Sitting

def Session.step (s : Session) (step : Step) : Report × Session := Sitting.report (Sitting.run step) s

def Session.steps (s : Session) : List Step → List Report × Session
  | [] => ([], s)
  | step :: rest =>
    let (r, s') := s.step step
    let (rs, s'') := s'.steps rest
    (r :: rs, s'')

/-- A record of requests is shown as it stands in the end. -/
def Answer.complete (w : World) : Answer → Answer
  | requests key asked closes =>
    requests key (((w.scripts.get? key).map Script.requests).getD asked) closes
  | apart (.ok a) log => apart (.ok (a.complete w)) log
  | a => a

def Session.reports (s : Session) (steps : List Step) : List Report :=
  let (rs, s') := s.steps steps
  rs.map fun r => { r with outcome := r.outcome.map (Answer.complete s'.world) }

end ResourceLookup
