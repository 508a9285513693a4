import KoiNet.Components.RequestHandler
import KoiNet.Protocol.KnowledgeObject

/-!
# Dereferencing

A bundle is looked for in the cache, by the handler of its type and at the
nodes that provide its type, in this order.  One that does not come from the
cache is queued, with the providing node as its source.
-/

namespace KoiNet

open Foundation

namespace NetworkResolver

variable (node : Node)

/-- One node of `get_state_providers`. -/
def providesState (ridType : RIDType) (nodeRid : KoiNetNode) : NodeM Bool := do
  if nodeRid = node.rid then
    return false
  else
    let state ← Effect.get
    match state.cache.read (.node nodeRid) with
    -- `None.validate_contents`
    | none => Effect.raise .attributeError
    | some nodeBundle =>
        let nodeProfile ← nodeBundle.validateContents NodeProfile.modelValidate
        return nodeProfile.nodeType = .full &&
          nodeProfile.provides.state.contains ridType

def collectProviders (ridType : RIDType) :
    List RID → List KoiNetNode → NodeM (List KoiNetNode)
  | [], providerNodes => pure providerNodes
  | .node nodeRid :: rest, providerNodes => do
      if ← providesState node ridType nodeRid then
        collectProviders ridType rest (providerNodes ++ [nodeRid])
      else
        collectProviders ridType rest providerNodes
  | _ :: rest, providerNodes => collectProviders ridType rest providerNodes

def getStateProviders (ridType : RIDType) : NodeM (List KoiNetNode) := do
  let rids ← Cache.list node [.koiNetNode]
  collectProviders node ridType rids []

/-- Ask the providers in turn, after `nodeRid`; a `RequestError` skips one. -/
def fetchFirst (rid : RID) : List KoiNetNode → Option KoiNetNode →
    NodeM (Option Bundle × Option KoiNetNode)
  | [], nodeRid => pure (none, nodeRid)
  | nodeRid :: rest, _ => do
      let payload ← Effect.tryExcept
        (do
          let payload ← RequestHandler.fetchBundles node nodeRid [rid]
          return payload.bundles)
        Exc.isRequestError (pure [])
      match payload with
      | [] => fetchFirst rid rest (some nodeRid)
      | remoteBundle :: _ => return (some remoteBundle, some nodeRid)

def fetchRemoteBundle (rid : RID) :
    NodeM (Option Bundle × Option KoiNetNode) := do
  let providers ← getStateProviders node rid.type
  fetchFirst node rid providers none

end NetworkResolver

inductive BundleSource where
  | cache
  | action
  deriving DecidableEq, Repr

/-- A handler for the RIDs of some types. -/
structure DerefHandler where
  ridTypes : List RIDType
  handle : RID → NodeM (Option Bundle)

namespace Effector

/-- A bundle and where it was found; a node names itself. -/
abbrev Found : Type :=
  Bundle × (BundleSource ⊕ Option KoiNetNode)

variable (node : Node) (derefHandlers : List DerefHandler)

def tryCache (rid : RID) : NodeM (Option Found) := do
  let state ← Effect.get
  return (state.cache.read rid).map fun bundle => (bundle, .inl .cache)

def tryHandler (rid : RID) : NodeM (Option Found) := do
  match derefHandlers.find? fun handler => handler.ridTypes.contains rid.type with
  | none => return none
  | some handler =>
      let bundle ← handler.handle rid
      return bundle.map fun bundle => (bundle, .inl .action)

def tryNetwork (rid : RID) : NodeM (Option Found) := do
  let (bundle, source) ← NetworkResolver.fetchRemoteBundle node rid
  return bundle.map fun bundle => (bundle, .inr source)

/-- `first or second`. -/
def orElse (first second : NodeM (Option Found)) : NodeM (Option Found) := do
  match ← first with
  | some found => return some found
  | none => second

/-- `condition and attempt`. -/
def onlyIf (condition : Bool) (attempt : NodeM (Option Found)) :
    NodeM (Option Found) :=
  if condition then attempt else pure none

def lookUp (rid : RID) (refreshCache useNetwork : Bool) :
    NodeM (Option Found) :=
  orElse (onlyIf (!refreshCache) (tryCache rid))
    (orElse (tryHandler derefHandlers rid)
      (onlyIf useNetwork (tryNetwork node rid)))

/-- `deref`, where `wait` waits for the queue while it is worked off. -/
def deref (wait : NodeM Unit) (rid : RID)
    (refreshCache useNetwork handleResult writeThrough : Bool) :
    NodeM (Option Bundle) := do
  match ← lookUp node derefHandlers rid refreshCache useNetwork with
  | none => return none
  | some (bundle, source) =>
      if handleResult && source ≠ .inl .cache then
        KobjQueue.push (.fromBundle bundle none source.getRight?.join)
        if writeThrough then
          wait
          return some bundle
        else
          return some bundle
      else
        return some bundle

end Effector

end KoiNet
