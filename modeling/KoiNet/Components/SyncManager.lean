import KoiNet.Components.KnowledgeHandler

/-!
# Catching up with providers

On startup a node asks the providers that its graph knows, for each RID type
it is interested in, for the manifests they hold.
-/

namespace KoiNet

open Foundation

namespace SyncManager

variable (node : Node)

/-- The manifests a provider answers with are queued; a `RequestError` skips
the provider. -/
def fetchFrom (ridTypes : List RIDType) (nodeRid : KoiNetNode) :
    NodeM Unit := do
  let payload ← Effect.tryExcept
    (do
      let payload ← RequestHandler.makeRequest node nodeRid .fetchManifests
        ({ ridTypes } : FetchManifests)
      return some payload)
    Exc.isRequestError (pure none)
  match payload with
  | none => return ()
  | some payload =>
      Effect.forEach payload.manifests fun manifest =>
        KobjQueue.push (.fromManifest manifest none (some nodeRid))

def catchUpWithNode (ridTypes : List RIDType) (nodeRid : KoiNetNode) :
    NodeM Unit := do
  let state ← Effect.get
  match state.cache.read (.node nodeRid) with
  -- `None.validate_contents`
  | none => Effect.raise .attributeError
  | some nodeBundle =>
      let nodeProfile ← nodeBundle.validateContents NodeProfile.modelValidate
      if nodeProfile.nodeType ≠ .full then
        return ()
      else
        fetchFrom node ridTypes nodeRid

def catchUpWith (nodes : List KoiNetNode) (ridTypes : List RIDType) :
    NodeM Unit :=
  Effect.forEach nodes (catchUpWithNode node ridTypes)

def catchUpWithType (ridType : RIDType) : NodeM Unit := do
  let nodeProviders ← NetworkGraph.getNeighbors node (some .incoming) none
    (some ridType)
  if nodeProviders.isEmpty then
    return ()
  else
    catchUpWith node nodeProviders [ridType]

def catchUpWithAll (ridTypes : Option (List RIDType)) : NodeM Unit :=
  match ridTypes with
  -- `for rid_type in None`
  | none => Effect.raise .typeError
  | some ridTypes => Effect.forEach ridTypes (catchUpWithType node)

def start : NodeM Unit :=
  catchUpWithAll node node.config.ridTypesOfInterest

end SyncManager

end KoiNet
