import KoiNet.Components.Graph
import KoiNet.Components.RequestHandler
import Mathlib.Data.Finset.Dedup

/-!
# The default knowledge handlers

Each handler is registered under one handler type and may be limited to some
RID types and event types.  Its response stops the pipeline, keeps the
knowledge object, or replaces it.
-/

namespace KoiNet

open Foundation

inductive HandlerType where
  | rid
  | manifest
  | bundle
  | network
  | final
  deriving DecidableEq, Repr

/-- `STOP_CHAIN`, `None`, or a knowledge object. -/
inductive HandlerResponse where
  | stopChain
  | unmodified
  | modified (kobj : KnowledgeObject)

structure KnowledgeHandler where
  handlerType : HandlerType
  ridTypes : List RIDType := []
  eventTypes : List (Option EventType) := []
  handle : KnowledgeObject → NodeM HandlerResponse

/-- Whether `call_handler_chain` passes the object to the handler. -/
def KnowledgeHandler.accepts (handler : KnowledgeHandler)
    (kobj : KnowledgeObject) : Bool :=
  (handler.ridTypes.isEmpty || handler.ridTypes.contains kobj.rid.type) &&
    (handler.eventTypes.isEmpty || handler.eventTypes.contains kobj.eventType)

section Handlers

variable (node : Node)

/-- Blocks external objects about this node's own identity, and approves
FORGET events. -/
def BasicRidHandler.handle (kobj : KnowledgeObject) :
    NodeM HandlerResponse :=
  if kobj.rid = .node node.rid ∧ kobj.source ≠ none then
    return .stopChain
  else if kobj.eventType = some .forget then
    return .modified { kobj with normalizedEventType := some .forget }
  else
    return .unmodified

def basicRidHandler : KnowledgeHandler :=
  { handlerType := .rid
    handle := BasicRidHandler.handle node }

/-- The manifest test against the cached bundle: another hash, and a later
timestamp. -/
def BasicManifestHandler.isNewer (manifest previous : Manifest) : Bool :=
  manifest.sha256Hash ≠ previous.sha256Hash &&
    previous.timestamp < manifest.timestamp

def BasicManifestHandler.handle (kobj : KnowledgeObject) :
    NodeM HandlerResponse := do
  let state ← Effect.get
  match state.cache.read kobj.rid with
  | none =>
      return .modified { kobj with normalizedEventType := some .new }
  | some prevBundle =>
      match kobj.manifest with
      | none => Effect.raise .attributeError
      | some manifest =>
          if isNewer manifest prevBundle.manifest then
            return .modified { kobj with normalizedEventType := some .update }
          else
            return .stopChain

def basicManifestHandler : KnowledgeHandler :=
  { handlerType := .manifest
    handle := BasicManifestHandler.handle }

/-- `sha256_hash(public_key)`, which encodes its argument first. -/
def hashPublicKey (publicKey : Option String) : NodeM String :=
  match publicKey with
  | some key => pure (node.sha256Hash key)
  | none => Effect.raise .attributeError

def SecureProfileHandler.handle (kobj : KnowledgeObject) :
    NodeM HandlerResponse := do
  let bundle ← Effect.ofExcept kobj.bundle
  let nodeProfile ← bundle.validateContents NodeProfile.modelValidate
  match kobj.rid with
  | .node nodeRid =>
      let keyHash ← hashPublicKey node nodeProfile.publicKey
      if keyHash ≠ nodeRid.hash then
        return .stopChain
      else if nodeRid ≠ node.rid ∧
          nodeProfile.baseUrl = node.profile.baseUrl then
        return .stopChain
      else
        return .unmodified
  | _ => Effect.raise .attributeError

def secureProfileHandler : KnowledgeHandler :=
  { handlerType := .bundle
    ridTypes := [.koiNetNode]
    eventTypes := [some .new, some .update]
    handle := SecureProfileHandler.handle node }

/-- The RID types this node sends events about to a subscriber. -/
def EdgeNegotiationHandler.providedEvents : List RIDType :=
  node.profile.provides.event ++ [.koiNetNode, .koiNetEdge]

/-- Whether a proposed edge to a peer has to be refused. -/
def EdgeNegotiationHandler.abort (edgeProfile : EdgeProfile)
    (peerProfile : NodeProfile) : Bool :=
  (edgeProfile.edgeType = .webhook && peerProfile.nodeType = .partialNode) ||
    !edgeProfile.ridTypes.all (providedEvents node).contains

def EdgeNegotiationHandler.handle (kobj : KnowledgeObject) :
    NodeM HandlerResponse := do
  if kobj.source = none then
    return .unmodified
  else
    let bundle ← Effect.ofExcept kobj.bundle
    let edgeProfile ← bundle.validateContents EdgeProfile.modelValidate
    if edgeProfile.source = node.rid then
      if edgeProfile.status ≠ .proposed then
        return .unmodified
      else
        let peerRid := edgeProfile.target
        let state ← Effect.get
        match state.cache.read (.node peerRid) with
        | none => return .stopChain
        | some peerBundle =>
            let peerProfile ←
              peerBundle.validateContents NodeProfile.modelValidate
            if abort node edgeProfile peerProfile then
              EventQueue.push (Event.fromRid .forget kobj.rid) peerRid
              return .stopChain
            else
              let updatedBundle ← Bundle.generate node kobj.rid
                { edgeProfile with status := .approved }.modelDump
              KobjQueue.push
                (KnowledgeObject.fromBundle updatedBundle (some .update) none)
              return .unmodified
    else
      return .unmodified

def edgeNegotiationHandler : KnowledgeHandler :=
  { handlerType := .bundle
    ridTypes := [.koiNetEdge]
    eventTypes := [some .new, some .update]
    handle := EdgeNegotiationHandler.handle node }

/-- The parts of this node's own knowledge that go out regardless of what it
provides: its own node object, and the edges it is an end point of. -/
def BasicNetworkOutputFilter.involvement (kobj : KnowledgeObject) :
    NodeM (List KoiNetNode × Bool) :=
  if kobj.source = none then
    match kobj.rid with
    | .node nodeRid => return (kobj.networkTargets, nodeRid = node.rid)
    | .edge _ => do
        let bundle ← Effect.ofExcept kobj.bundle
        let edgeProfile ← bundle.validateContents EdgeProfile.modelValidate
        if edgeProfile.source = node.rid then
          return (kobj.networkTargets.insert edgeProfile.target, true)
        else if edgeProfile.target = node.rid then
          return (kobj.networkTargets.insert edgeProfile.source, true)
        else
          return (kobj.networkTargets, false)
    | .other _ _ => return (kobj.networkTargets, false)
  else
    return (kobj.networkTargets, false)

/-- The subscribers to the object's RID type, if this node is to send events
about it. -/
def BasicNetworkOutputFilter.subscribers (kobj : KnowledgeObject)
    (involvesThisNode : Bool) : NodeM (List KoiNetNode) :=
  if kobj.rid.type ∈ node.profile.provides.event ∨ involvesThisNode then
    NetworkGraph.getNeighbors node (some .outgoing) none (some kobj.rid.type)
  else
    return []

/-- The targets without the node the object came from. -/
def BasicNetworkOutputFilter.withoutSource (source : Option KoiNetNode)
    (targets : List KoiNetNode) : List KoiNetNode :=
  match source with
  | some source => targets.filter (· ≠ source)
  | none => targets

def BasicNetworkOutputFilter.handle (kobj : KnowledgeObject) :
    NodeM HandlerResponse := do
  let (targets, involvesThisNode) ← involvement node kobj
  let subscribers ← subscribers node kobj involvesThisNode
  return .modified
    { kobj with
      networkTargets := withoutSource kobj.source (subscribers ∪ targets) }

def basicNetworkOutputFilter : KnowledgeHandler :=
  { handlerType := .network
    handle := BasicNetworkOutputFilter.handle node }

/-- The event types of a provider this node is interested in; no list of
interests means interest in all of them. -/
def NodeContactHandler.availableRidTypes (nodeProfile : NodeProfile) :
    List RIDType :=
  match node.config.ridTypesOfInterest with
  | none => nodeProfile.provides.event
  | some interest => (nodeProfile.provides.event.filter (· ∈ interest)).dedup

/-- `generate_edge_bundle`. -/
def generateEdgeBundle (source target : KoiNetNode) (ridTypes : List RIDType)
    (edgeType : EdgeType) : NodeM Bundle :=
  Bundle.generate node
    (.edge { id := node.sha256Hash (source.toString ++ target.toString) })
    ({ context := EdgeProfile.defaultContext
       source := source
       target := target
       edgeType := edgeType
       status := .proposed
       ridTypes := ridTypes } : EdgeProfile).modelDump

/-- The edge to propose to a provider; none if the established edge already
lists the available types. -/
def NodeContactHandler.proposal (nodeRid : KoiNetNode)
    (available : List RIDType) : NodeM (Option Bundle) := do
  match ← NetworkGraph.getEdge nodeRid node.rid with
  | some edgeRid =>
      let state ← Effect.get
      match state.cache.read (.edge edgeRid) with
      | none => Effect.raise .attributeError
      | some prevEdgeBundle =>
          let edgeProfile ←
            prevEdgeBundle.validateContents EdgeProfile.modelValidate
          if edgeProfile.ridTypes.toFinset = available.toFinset then
            return none
          else
            let updated : EdgeProfile :=
              { edgeProfile with ridTypes := available, status := .proposed }
            let bundle ← Bundle.generate node (.edge edgeRid) updated.modelDump
            return some bundle
  | none =>
      let bundle ← generateEdgeBundle node nodeRid node.rid available
        (if node.profile.nodeType = .full then .webhook else .poll)
      return some bundle

/-- Queue the RIDs of a provider that are not cached yet. -/
def NodeContactHandler.catchUp (nodeRid : KoiNetNode)
    (available : List RIDType) : NodeM Unit := do
  let payload ← Effect.tryExcept
    (do
      let payload ← RequestHandler.fetchRids node nodeRid available
      return some payload)
    Exc.isRequestError (pure none)
  match payload with
  | none => return ()
  | some payload =>
      Effect.forEach payload.rids fun rid => do
        let state ← Effect.get
        if rid = .node node.rid then
          return ()
        else if state.cache.exists rid then
          return ()
        else
          KobjQueue.push (KnowledgeObject.fromRid rid none (some nodeRid))

/-- Propose an edge for the available types, then catch up. -/
def NodeContactHandler.contact (nodeRid : KoiNetNode)
    (available : List RIDType) : NodeM Unit := do
  if available.isEmpty then
    return ()
  else
    match ← proposal node nodeRid available with
    | none => return ()
    | some edgeBundle =>
        KobjQueue.push (KnowledgeObject.fromBundle edgeBundle none none)
        catchUp node nodeRid available

def NodeContactHandler.processNode (nodeRid : KoiNetNode)
    (nodeBundle : Bundle) : NodeM Unit := do
  if nodeRid = node.rid then
    return ()
  else
    let nodeProfile ← nodeBundle.validateContents NodeProfile.modelValidate
    if nodeProfile.nodeType = .partialNode then
      return ()
    else
      contact node nodeRid (availableRidTypes node nodeProfile)

def NodeContactHandler.handle (kobj : KnowledgeObject) :
    NodeM HandlerResponse := do
  let bundle ← Effect.ofExcept kobj.bundle
  match kobj.rid with
  | .node nodeRid =>
      processNode node nodeRid bundle
      return .unmodified
  | _ => return .unmodified

def NodeContactHandler.contactCached (rid : RID) : NodeM Unit := do
  let state ← Effect.get
  match rid, state.cache.read rid with
  | .node nodeRid, some bundle => processNode node nodeRid bundle
  | _, _ => return ()

/-- Contact the cached nodes. -/
def NodeContactHandler.start : NodeM Unit := do
  let rids ← Cache.list node [.koiNetNode]
  Effect.forEach rids (contactCached node)

def nodeContactHandler : KnowledgeHandler :=
  { handlerType := .network
    ridTypes := [.koiNetNode]
    handle := NodeContactHandler.handle node }

def ForgetNodeHandler.forgetEdge (rid edgeRid : RID) : NodeM Unit := do
  let state ← Effect.get
  match state.cache.read edgeRid with
  | none => return ()
  | some edgeBundle =>
      let edgeProfile ← edgeBundle.validateContents EdgeProfile.modelValidate
      if rid = .node edgeProfile.source ∨ rid = .node edgeProfile.target then
        KobjQueue.push (KnowledgeObject.fromRid edgeRid (some .forget) none)
      else
        return ()

def ForgetNodeHandler.handle (kobj : KnowledgeObject) :
    NodeM HandlerResponse := do
  if kobj.normalizedEventType ≠ some .forget then
    return .unmodified
  else
    let edgeRids ← Cache.list node [.koiNetEdge]
    Effect.forEach edgeRids (forgetEdge kobj.rid)
    return .unmodified

def forgetNodeHandler : KnowledgeHandler :=
  { handlerType := .final
    ridTypes := [.koiNetNode]
    handle := ForgetNodeHandler.handle node }

/-- The handlers every node registers; the order in which the components of
an assembly are built, and so registered, is not fixed. -/
def defaultHandlers : List KnowledgeHandler :=
  [basicManifestHandler, basicNetworkOutputFilter node, basicRidHandler node,
    forgetNodeHandler node, nodeContactHandler node,
    edgeNegotiationHandler node, secureProfileHandler node]

end Handlers

end KoiNet
