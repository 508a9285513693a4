import KoiNet.Components.KnowledgeHandler

/-!
# The knowledge pipeline

`process` takes a knowledge object through the handler chains.  Between them
it obtains the manifest and the contents, changes the cache and broadcasts.
The stages that end the pipeline early give `none`.
-/

namespace KoiNet

open Foundation

namespace KnowledgePipeline

/-- `call_handler_chain`; `none` is `STOP_CHAIN`. -/
def callHandlerChain (handlerType : HandlerType) :
    List KnowledgeHandler → KnowledgeObject → NodeM (Option KnowledgeObject)
  | [], kobj => pure (some kobj)
  | handler :: rest, kobj =>
      if handlerType ≠ handler.handlerType then
        callHandlerChain handlerType rest kobj
      else if !handler.accepts kobj then
        callHandlerChain handlerType rest kobj
      else do
        match ← handler.handle kobj with
        | .stopChain => return none
        | .unmodified => callHandlerChain handlerType rest kobj
        | .modified kobj => callHandlerChain handlerType rest kobj

/-- Attach the bundle that is about to be deleted. -/
def attachLocal (kobj : KnowledgeObject) :
    NodeM (Option KnowledgeObject) := do
  let state ← Effect.get
  match state.cache.read kobj.rid with
  | none => return none
  | some bundle =>
      return some
        { kobj with
          manifest := some bundle.manifest
          contents := some bundle.contents }

/-- `kobj.manifest = payload.manifests[0]`; no payload ends the pipeline. -/
def takeManifest (kobj : KnowledgeObject) :
    Option ManifestsPayload → NodeM (Option KnowledgeObject)
  | none => return none
  | some payload =>
      match payload.manifests with
      | [] => Effect.raise .indexError
      | manifest :: _ => return some { kobj with manifest := some manifest }

def obtainManifest (node : Node) (kobj : KnowledgeObject) :
    NodeM (Option KnowledgeObject) :=
  match kobj.manifest, kobj.source with
  | some _, _ => return some kobj
  | none, none => return none
  | none, some source => do
      let payload ← Effect.tryExcept
        (do
          let payload ← RequestHandler.fetchManifests node source [kobj.rid]
          return some payload)
        Exc.isRequestError (pure none)
      takeManifest kobj payload

/-- `bundle = payload.bundles[0]`; no payload ends the pipeline. -/
def takeBundle (kobj : KnowledgeObject) :
    Option BundlesPayload → NodeM (Option KnowledgeObject)
  | none => return none
  | some payload =>
      match payload.bundles with
      | [] => Effect.raise .indexError
      | bundle :: _ =>
          return some
            { kobj with
              manifest := some bundle.manifest
              contents := some bundle.contents }

def obtainContents (node : Node) (kobj : KnowledgeObject) :
    NodeM (Option KnowledgeObject) :=
  if !kobj.lacksContents then
    return some kobj
  else
    match kobj.source with
    | none => return none
    | some source => do
        let payload ← Effect.tryExcept
          (do
            let payload ← RequestHandler.fetchBundles node source [kobj.rid]
            return some payload)
          Exc.isRequestError (pure none)
        takeBundle kobj payload

/-- Everything between the RID chain and the Bundle chain. -/
def obtainBundle (node : Node) (handlers : List KnowledgeHandler)
    (kobj : KnowledgeObject) : NodeM (Option KnowledgeObject) := do
  if kobj.eventType = some .forget then
    attachLocal kobj
  else
    match ← obtainManifest node kobj with
    | none => return none
    | some kobj =>
        match ← callHandlerChain .manifest handlers kobj with
        | none => return none
        | some kobj => obtainContents node kobj

/-- The cache action chosen by the normalized event type. -/
def applyToCache (kobj : KnowledgeObject) :
    NodeM (Option KnowledgeObject) := do
  match kobj.normalizedEventType with
  | some .new =>
      let bundle ← Effect.ofExcept kobj.bundle
      Effect.modify fun state =>
        { state with cache := state.cache.write bundle }
      return some kobj
  | some .update =>
      let state ← Effect.get
      let kobj := { kobj with prevBundle := state.cache.read kobj.rid }
      let bundle ← Effect.ofExcept kobj.bundle
      Effect.modify fun state =>
        { state with cache := state.cache.write bundle }
      return some kobj
  | some .forget =>
      Effect.modify fun state =>
        { state with cache := state.cache.delete kobj.rid }
      return some kobj
  | none => return none

def broadcast (kobj : KnowledgeObject) : NodeM Unit :=
  Effect.forEach kobj.networkTargets fun target => do
    let event ← Effect.ofExcept kobj.normalizedEvent
    EventQueue.push event target

/-- The stages up to and including the Bundle chain, which decide what will
be done to the cache. -/
def settle (node : Node) (handlers : List KnowledgeHandler)
    (kobj : KnowledgeObject) : NodeM (Option KnowledgeObject) := do
  match ← callHandlerChain .rid handlers kobj with
  | none => return none
  | some kobj =>
      match ← obtainBundle node handlers kobj with
      | none => return none
      | some kobj => callHandlerChain .bundle handlers kobj

/-- A change to a node or an edge regenerates the network graph. -/
def regenerate (node : Node) (kobj : KnowledgeObject) : NodeM Unit :=
  if kobj.rid.type = .koiNetNode ∨ kobj.rid.type = .koiNetEdge then
    NetworkGraph.generate node
  else
    pure ()

/-- The stages after the cache action. -/
def publish (node : Node) (handlers : List KnowledgeHandler)
    (kobj : KnowledgeObject) : NodeM Unit := do
  regenerate node kobj
  match ← callHandlerChain .network handlers kobj with
  | none => return ()
  | some kobj =>
      broadcast kobj
      let _ ← callHandlerChain .final handlers kobj
      return ()

def process (node : Node) (handlers : List KnowledgeHandler)
    (kobj : KnowledgeObject) : NodeM Unit := do
  match ← settle node handlers kobj with
  | none => return ()
  | some kobj =>
      match ← applyToCache kobj with
      | none => return ()
      | some kobj => publish node handlers kobj

end KnowledgePipeline

end KoiNet
