import KoiNet.Components.EventWorker
import KoiNet.Components.SecureManager
import KoiNet.Protocol.Signing

/-!
# Responses to requests

The envelope of a request is validated before its payload is handled.  The
events of a broadcast are queued, a poll flushes the poll buffer of its
source, and the other paths read the cache.
-/

namespace KoiNet

open Foundation

/-- The payload of a request, if it is an `EventsPayload`. -/
def Path.requestEvents : (path : Path) → path.Request → Option EventsPayload
  | .broadcastEvents, payload => some payload
  | _, _ => none

/-- The JSON encoding of unsigned envelopes, and the node's private key. -/
structure Sealing where
  library : SigningLibrary
  privKey : library.PrivateKey
  dumpRequest : (path : Path) → UnsignedEnvelope path.Request → String
  dumpResponse : (path : Path) → UnsignedEnvelope path.Response → String

namespace SecureManager

/-- `create_envelope`. -/
def createEnvelope {T : Type} (node : Node) (library : SigningLibrary)
    (privKey : library.PrivateKey)
    (modelDumpJson : UnsignedEnvelope T → String) (payload : T)
    (target : KoiNetNode) : Except Exc (SignedEnvelope T) :=
  UnsignedEnvelope.signWith library modelDumpJson
    { payload := payload
      sourceNode := node.rid
      targetNode := target } privKey

end SecureManager

namespace ResponseHandler

open EventWorkerState

variable (node : Node) (sealing : Sealing)

def broadcastEventsHandler (req : EventsPayload) (source : KoiNetNode) :
    EventM Unit :=
  nodePart.within (Effect.forEach req.events fun event =>
    KobjQueue.push (.fromEvent event (some source)))

def pollEventsHandler (req : PollEvents) (source : KoiNetNode) :
    EventM EventsPayload := do
  let state ← Effect.get
  let (events, pollEventBuf) := state.pollEventBuf.flush source req.limit
  Effect.modify (pollPart.update fun _ => pollEventBuf)
  return { events }

def fetchRidsHandler (req : FetchRids) : EventM RidsPayload := do
  let rids ← nodePart.within (Cache.list node req.ridTypes)
  return { rids }

/-- The cached bundles of these RIDs, and the RIDs without one. -/
def readBundles (cache : Cache) (rids : List RID) : List Bundle × List RID :=
  (rids.filterMap cache.read, rids.filter fun rid => (cache.read rid).isNone)

/-- `req.rids or cache.list_rids(req.rid_types)`. -/
def requestedRids (req : FetchManifests) : NodeM (List RID) :=
  if req.rids.isEmpty then Cache.list node req.ridTypes else pure req.rids

def fetchManifestsHandler (req : FetchManifests) : EventM ManifestsPayload := do
  let rids ← nodePart.within (requestedRids node req)
  let state ← Effect.get
  let (bundles, notFound) := readBundles state.node.cache rids
  return { manifests := bundles.map Bundle.manifest, notFound }

def fetchBundlesHandler (req : FetchBundles) : EventM BundlesPayload := do
  let state ← Effect.get
  let (bundles, notFound) := readBundles state.node.cache req.rids
  return { bundles, notFound }

/-- `response_map[path](req.payload, req.source_node)`. -/
def respond : (path : Path) → path.Request → KoiNetNode →
    EventM (Option path.Response)
  | .broadcastEvents, req, source => do
      broadcastEventsHandler req source
      return none
  | .pollEvents, req, source => some <$> pollEventsHandler req source
  | .fetchRids, req, _ => some <$> fetchRidsHandler node req
  | .fetchManifests, req, _ => some <$> fetchManifestsHandler node req
  | .fetchBundles, req, _ => some <$> fetchBundlesHandler req

def handleResponse (path : Path) (req : SignedEnvelope path.Request) :
    EventM (Option (SignedEnvelope path.Response)) := do
  nodePart.within (SecureManager.validateEnvelope node
    sealing.library.toCryptography path.requestEvents
    (sealing.dumpRequest path) req)
  let response ← respond node path req.payload req.sourceNode
  match response with
  | none => return none
  | some response => do
      let envelope ← Effect.ofExcept (SecureManager.createEnvelope node
        sealing.library sealing.privKey (sealing.dumpResponse path) response
        req.sourceNode)
      return some envelope

end ResponseHandler

end KoiNet
