import KoiNet.Components.Node

/-!
# Outgoing requests

`makeRequest` resolves the URL of a peer, exchanges one message with it and
keeps the timeout counter.  A node that has been unreachable more than three
times in a row is queued to be forgotten.
-/

namespace KoiNet

open Foundation

namespace ErrorHandler

def resetTimeoutCounter (peer : KoiNetNode) : NodeM Unit :=
  Effect.modify fun state =>
    { state with timeoutCounter := state.timeoutCounter.set peer 0 }

def handleConnectionError (peer : KoiNetNode) : NodeM Unit := do
  let state ← Effect.get
  let count := (state.timeoutCounter.get? peer).getD 0 + 1
  Effect.modify fun state =>
    { state with timeoutCounter := state.timeoutCounter.set peer count }
  if 3 < count then
    KobjQueue.push (KnowledgeObject.fromRid (.node peer) (some .forget) none)
  else
    pure ()

end ErrorHandler

/-- How the exchange of a message ended, whatever the response contained. -/
inductive Exchange where
  | responded
  | connectionError
  | httpError
  deriving DecidableEq, Repr

namespace RequestHandler

/-- The URL of a node; it is absent from the profile of a full node that does
not state one. -/
def getBaseUrl (node : Node) (peer : KoiNetNode) : NodeM (Option String) := do
  let state ← Effect.get
  match state.cache.read (.node peer) with
  | some nodeBundle =>
      let nodeProfile ← nodeBundle.validateContents NodeProfile.modelValidate
      if nodeProfile.nodeType ≠ .full then
        Effect.raise (.request .partialNodeQuery)
      else
        return nodeProfile.baseUrl
  | none =>
      if some peer = node.config.firstContact.rid then
        return node.config.firstContact.url
      else
        Effect.raise (.request .nodeNotFound)

def makeRequest (node : Node) (peer : KoiNetNode) (path : Path)
    (request : path.Request) : NodeM path.Response := do
  if peer = node.rid then
    Effect.raise (.request .selfRequest)
  else
    match ← getBaseUrl node peer with
    -- `None + path`
    | none => Effect.raise .typeError
    | some url =>
        let state ← Effect.get
        Effect.modify fun state =>
          { state with requests := state.requests + 1 }
        match node.answer state (url ++ path.str) peer path request with
        | .unreachable =>
            ErrorHandler.handleConnectionError peer
            Effect.raise (.request .transport)
        | .rejected error => Effect.raise (.request error)
        | .received result =>
            ErrorHandler.resetTimeoutCounter peer
            Effect.ofExcept result

/-- How the exchange of `makeRequest` ends, if it gets as far as that. -/
def exchange (node : Node) (state : NodeState)
    (peer : KoiNetNode) (path : Path) (request : path.Request) :
    Option Exchange :=
  if peer = node.rid then
    none
  else
    match ((getBaseUrl node peer).run state).1 with
    | .ok (some url) =>
        match node.answer state (url ++ path.str) peer path request with
        | .received _ => some .responded
        | .unreachable => some .connectionError
        | .rejected _ => some .httpError
    | _ => none

def broadcastEvents (node : Node) (peer : KoiNetNode) (events : List Event) :
    NodeM Unit :=
  makeRequest node peer .broadcastEvents ({ events } : EventsPayload)

def fetchRids (node : Node) (peer : KoiNetNode) (ridTypes : List RIDType) :
    NodeM RidsPayload :=
  makeRequest node peer .fetchRids ({ ridTypes } : FetchRids)

def fetchManifests (node : Node) (peer : KoiNetNode) (rids : List RID) :
    NodeM ManifestsPayload :=
  makeRequest node peer .fetchManifests ({ rids } : FetchManifests)

def fetchBundles (node : Node) (peer : KoiNetNode) (rids : List RID) :
    NodeM BundlesPayload :=
  makeRequest node peer .fetchBundles ({ rids } : FetchBundles)

end RequestHandler

end KoiNet
