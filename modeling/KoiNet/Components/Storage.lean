import KoiNet.Components.Pipeline

/-!
# Processing over files that can fail

The cache of `NodeState` keeps every bundle as it is written.  A file system
takes no file name longer than it allows, a bundle need not serialise, and
what is read back need not be what was written.  Here the calls of
`process` that touch files for RIDs and bundles that come from outside are
given as they are over such files; the other files are those of a listing of
the directory, or have just been written or deleted.
-/

namespace KoiNet

open Foundation

structure Storage where
  /-- The file system takes the name of the RID's file. -/
  opens : RID → Bool
  /-- What is read back from the file of a bundle, unless serialising the
  bundle raises. -/
  stores : Bundle → Except Exc (Option Bundle)
  /-- The time states no offset from UTC, and so compares with none that
  does. -/
  naive : Timestamp → Bool

namespace Storage

/-- Files that take every name and keep every bundle, and times that all
compare. -/
def ideal : Storage :=
  { opens := fun _ => true
    stores := fun bundle => .ok (some bundle)
    naive := fun _ => false }

/-- Bundles as JSON text, which is not made of contents nested too deep and
has no infinities and no NaN. -/
def json (maxDepth : Nat) (opens : RID → Bool)
    (naive : Timestamp → Bool) : Storage :=
  { opens := opens
    stores := fun bundle =>
      if maxDepth < bundle.contents.depth then .error .serializationError
      else .ok (some { bundle with contents := bundle.contents.reread })
    naive := naive }

variable (storage : Storage)

/-- `open(file_path_to(rid), ..)`, but for a file that is not there. -/
def openFile (rid : RID) : NodeM Unit :=
  if storage.opens rid then pure () else Effect.raise .osError

/-- `Cache.read`. -/
def read (rid : RID) : NodeM (Option Bundle) := do
  storage.openFile rid
  let state ← Effect.get
  return state.cache.read rid

def withFile (rid : RID) (file : Option Bundle) : NodeM Unit :=
  Effect.modify fun state =>
    { state with cache := state.cache.withFile rid file }

/-- `Cache.write`: opening the file has emptied it when the bundle is
serialised. -/
def write (bundle : Bundle) : NodeM Unit := do
  storage.openFile bundle.manifest.rid
  withFile bundle.manifest.rid none
  let file ← Effect.ofExcept (storage.stores bundle)
  withFile bundle.manifest.rid file

/-- `Cache.delete`. -/
def delete (rid : RID) : NodeM Unit := do
  storage.openFile rid
  Effect.modify fun state =>
    { state with cache := state.cache.delete rid }

/-- `timestamp <= previous`. -/
def notAfter (timestamp previous : Timestamp) : NodeM Bool :=
  if storage.naive timestamp ≠ storage.naive previous then
    Effect.raise .typeError
  else
    return decide (timestamp ≤ previous)

def BasicManifestHandler.handle (kobj : KnowledgeObject) :
    NodeM HandlerResponse := do
  match ← storage.read kobj.rid with
  | none =>
      return .modified { kobj with normalizedEventType := some .new }
  | some prevBundle =>
      match kobj.manifest with
      | none => Effect.raise .attributeError
      | some manifest =>
          if manifest.sha256Hash = prevBundle.manifest.sha256Hash then
            return .stopChain
          else if ← storage.notAfter manifest.timestamp
              prevBundle.manifest.timestamp then
            return .stopChain
          else
            return .modified { kobj with normalizedEventType := some .update }

def basicManifestHandler : KnowledgeHandler :=
  { handlerType := .manifest
    handle := BasicManifestHandler.handle storage }

variable (node : Node)

def EdgeNegotiationHandler.handle (kobj : KnowledgeObject) :
    NodeM HandlerResponse := do
  if kobj.source = none then
    return .unmodified
  else
    let bundle ← Effect.ofExcept kobj.bundle
    let edgeProfile ← bundle.validateContents EdgeProfile.modelValidate
    if edgeProfile.source = node.rid then
      if edgeProfile.status ≠ .proposed then
        return .unmodified
      else
        let peerRid := edgeProfile.target
        match ← storage.read (.node peerRid) with
        | none => return .stopChain
        | some peerBundle =>
            let peerProfile ←
              peerBundle.validateContents NodeProfile.modelValidate
            if EdgeNegotiationHandler.abort node edgeProfile peerProfile then
              EventQueue.push (Event.fromRid .forget kobj.rid) peerRid
              return .stopChain
            else
              let updatedBundle ← Bundle.generate node kobj.rid
                { edgeProfile with status := .approved }.modelDump
              KobjQueue.push
                (KnowledgeObject.fromBundle updatedBundle (some .update) none)
              return .unmodified
    else
      return .unmodified

def edgeNegotiationHandler : KnowledgeHandler :=
  { handlerType := .bundle
    ridTypes := [.koiNetEdge]
    eventTypes := [some .new, some .update]
    handle := EdgeNegotiationHandler.handle storage node }

/-- `make_request`, which looks the URL of the peer up in its file. -/
def makeRequest (peer : KoiNetNode) (path : Path) (request : path.Request) :
    NodeM path.Response := do
  if peer = node.rid then
    Effect.raise (.request .selfRequest)
  else
    storage.openFile (.node peer)
    RequestHandler.makeRequest node peer path request

def attachLocal (kobj : KnowledgeObject) :
    NodeM (Option KnowledgeObject) := do
  match ← storage.read kobj.rid with
  | none => return none
  | some bundle =>
      return some
        { kobj with
          manifest := some bundle.manifest
          contents := some bundle.contents }

def obtainManifest (kobj : KnowledgeObject) :
    NodeM (Option KnowledgeObject) :=
  match kobj.manifest, kobj.source with
  | some _, _ => return some kobj
  | none, none => return none
  | none, some source => do
      let payload ← Effect.tryExcept
        (do
          let payload ← storage.makeRequest node source .fetchManifests
            ({ rids := [kobj.rid] } : FetchManifests)
          return some payload)
        Exc.isRequestError (pure none)
      KnowledgePipeline.takeManifest kobj payload

def obtainContents (kobj : KnowledgeObject) :
    NodeM (Option KnowledgeObject) :=
  if !kobj.lacksContents then
    return some kobj
  else
    match kobj.source with
    | none => return none
    | some source => do
        let payload ← Effect.tryExcept
          (do
            let payload ← storage.makeRequest node source .fetchBundles
              ({ rids := [kobj.rid] } : FetchBundles)
            return some payload)
          Exc.isRequestError (pure none)
        KnowledgePipeline.takeBundle kobj payload

section Process

open KnowledgePipeline

def obtainBundle (handlers : List KnowledgeHandler)
    (kobj : KnowledgeObject) : NodeM (Option KnowledgeObject) := do
  if kobj.eventType = some .forget then
    storage.attachLocal kobj
  else
    match ← storage.obtainManifest node kobj with
    | none => return none
    | some kobj =>
        match ← callHandlerChain .manifest handlers kobj with
        | none => return none
        | some kobj => storage.obtainContents node kobj

def settle (handlers : List KnowledgeHandler) (kobj : KnowledgeObject) :
    NodeM (Option KnowledgeObject) := do
  match ← callHandlerChain .rid handlers kobj with
  | none => return none
  | some kobj =>
      match ← storage.obtainBundle node handlers kobj with
      | none => return none
      | some kobj => callHandlerChain .bundle handlers kobj

def applyToCache (kobj : KnowledgeObject) :
    NodeM (Option KnowledgeObject) := do
  match kobj.normalizedEventType with
  | some .new =>
      let bundle ← Effect.ofExcept kobj.bundle
      storage.write bundle
      return some kobj
  | some .update =>
      let prevBundle ← storage.read kobj.rid
      let kobj := { kobj with prevBundle := prevBundle }
      let bundle ← Effect.ofExcept kobj.bundle
      storage.write bundle
      return some kobj
  | some .forget =>
      storage.delete kobj.rid
      return some kobj
  | none => return none

def process (handlers : List KnowledgeHandler) (kobj : KnowledgeObject) :
    NodeM Unit := do
  match ← storage.settle node handlers kobj with
  | none => return ()
  | some kobj =>
      match ← storage.applyToCache kobj with
      | none => return ()
      | some kobj => publish node handlers kobj

end Process

end Storage

/-- The handlers that every node registers. -/
inductive DefaultHandler where
  | basicManifestHandler
  | basicNetworkOutputFilter
  | basicRidHandler
  | forgetNodeHandler
  | nodeContactHandler
  | edgeNegotiationHandler
  | secureProfileHandler
  deriving DecidableEq, Repr

namespace DefaultHandler

def all : List DefaultHandler :=
  [.basicManifestHandler, .basicNetworkOutputFilter, .basicRidHandler,
    .forgetNodeHandler, .nodeContactHandler, .edgeNegotiationHandler,
    .secureProfileHandler]

def handler (node : Node) : DefaultHandler → KnowledgeHandler
  | .basicManifestHandler => KoiNet.basicManifestHandler
  | .basicNetworkOutputFilter => KoiNet.basicNetworkOutputFilter node
  | .basicRidHandler => KoiNet.basicRidHandler node
  | .forgetNodeHandler => KoiNet.forgetNodeHandler node
  | .nodeContactHandler => KoiNet.nodeContactHandler node
  | .edgeNegotiationHandler => KoiNet.edgeNegotiationHandler node
  | .secureProfileHandler => KoiNet.secureProfileHandler node

/-- The handler of a node with this storage. -/
def stored (storage : Storage) (node : Node) :
    DefaultHandler → KnowledgeHandler
  | .basicManifestHandler => storage.basicManifestHandler
  | .edgeNegotiationHandler => storage.edgeNegotiationHandler node
  | name => name.handler node

end DefaultHandler

/-- The order in which the default handlers registered. -/
structure Registration where
  order : List DefaultHandler
  complete : order.Perm DefaultHandler.all

namespace Registration

def listed : Registration :=
  { order := DefaultHandler.all
    complete := .refl _ }

variable (registration : Registration)

/-- The handlers of a node with this storage. -/
def stored (storage : Storage) (node : Node) : List KnowledgeHandler :=
  registration.order.map (DefaultHandler.stored storage node)

end Registration

end KoiNet
