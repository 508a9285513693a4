import KoiNet.Pipeline.Chains
import KoiNet.Pipeline.Handlers

/-!
# What handlers and requests leave alone

No handler and no request touches the cache or the graph, and the knowledge
objects they queue are of four kinds.  Only the negotiation of an edge sends
an event to another node.
-/

namespace KoiNet

open Foundation

/-- The knowledge objects that handlers and requests put into the queue of a
node with this cache. -/
inductive Queued (node : Node) (cache : Cache) : KnowledgeObject → Prop where
  | forget (rid : RID) :
      rid ≠ .node node.rid →
      Queued node cache (KnowledgeObject.fromRid rid (some .forget) none)
  | discovered (rid : RID) (peer : KoiNetNode) :
      Queued node cache (KnowledgeObject.fromRid rid none (some peer))
  | proposal (bundle : Bundle) (edgeRid : KoiNetEdge)
      (edgeProfile : EdgeProfile) :
      bundle.manifest.rid = .edge edgeRid →
      bundle.contents = edgeProfile.modelDump →
      edgeProfile.status = .proposed →
      Queued node cache (KnowledgeObject.fromBundle bundle none none)
  | approval (edgeRid : KoiNetEdge) (edgeProfile : EdgeProfile)
      (clockReads : Nat) (peerBundle : Bundle) (peerProfile : NodeProfile) :
      edgeProfile.source = node.rid →
      cache.read (.node edgeProfile.target) = some peerBundle →
      NodeProfile.modelValidate peerBundle.contents = some peerProfile →
      EdgeNegotiationHandler.abort node edgeProfile peerProfile = false →
      Queued node cache
        (KnowledgeObject.fromBundle
          (EdgeNegotiationHandler.approval node (.edge edgeRid) edgeProfile
            clockReads)
          (some .update) none)

/-- The cache stays, and the queue grows by such objects. -/
structure Enqueues (node : Node) (before after : NodeState) : Prop where
  cache : after.cache = before.cache
  queued : ∃ added, after.kobjQueue = before.kobjQueue ++ added ∧
    ∀ kobj ∈ added, Queued node before.cache kobj

/-- The graph stays as well. -/
structure Stable (node : Node) (before after : NodeState) : Prop
    extends Enqueues node before after where
  dg : after.dg = before.dg

/-- In addition, no event is sent. -/
structure Quiet (node : Node) (before after : NodeState) : Prop
    extends Stable node before after where
  eventQueue : after.eventQueue = before.eventQueue

namespace Enqueues

variable {node : Node} {first second third : NodeState}

theorem of_same {before after : NodeState}
    (cache : after.cache = before.cache)
    (kobjQueue : after.kobjQueue = before.kobjQueue) :
    Enqueues node before after :=
  { cache := cache
    queued := ⟨[], by simp [kobjQueue], by simp⟩ }

theorem refl (state : NodeState) : Enqueues node state state :=
  of_same rfl rfl

theorem trans (left : Enqueues node first second)
    (right : Enqueues node second third) : Enqueues node first third := by
  obtain ⟨early, earlyQueue, earlyQueued⟩ := left.queued
  obtain ⟨late, lateQueue, lateQueued⟩ := right.queued
  refine
    { cache := right.cache.trans left.cache
      queued := ⟨early ++ late, ?_, ?_⟩ }
  · rw [lateQueue, earlyQueue, List.append_assoc]
  · intro kobj member
    rcases List.mem_append.mp member with inEarly | inLate
    · exact earlyQueued kobj inEarly
    · rw [← left.cache]
      exact lateQueued kobj inLate

end Enqueues

def enqueuesFrame (node : Node) : Frame NodeState :=
  { rel := Enqueues node
    refl := Enqueues.refl
    trans := Enqueues.trans }

def stableFrame (node : Node) : Frame NodeState :=
  { rel := Stable node
    refl := fun state => { Enqueues.refl state with dg := rfl }
    trans := fun left right =>
      { left.toEnqueues.trans right.toEnqueues with
        dg := right.dg.trans left.dg } }

def quietFrame (node : Node) : Frame NodeState :=
  { rel := Quiet node
    refl := fun state =>
      { Enqueues.refl state with
        dg := rfl
        eventQueue := rfl }
    trans := fun left right =>
      { left.toEnqueues.trans right.toEnqueues with
        dg := right.dg.trans left.dg
        eventQueue := right.eventQueue.trans left.eventQueue } }

theorem enqueues_of_stable {node : Node} {α : Type} {body : NodeM α}
    (stable : (stableFrame node).Keeps body) :
    (enqueuesFrame node).Keeps body :=
  stable.mono fun kept => kept.toEnqueues

theorem stable_of_quiet {node : Node} {α : Type} {body : NodeM α}
    (quiet : (quietFrame node).Keeps body) : (stableFrame node).Keeps body :=
  quiet.mono fun kept => kept.toStable

section Quiet

variable {node : Node} {frame : Frame NodeState}

open Frame

theorem keeps_validateContents {frame : Frame NodeState} {α : Type}
    (bundle : Bundle) (modelValidate : Contents → Option α) :
    frame.Keeps (bundle.validateContents modelValidate) := by
  unfold Bundle.validateContents
  cases modelValidate bundle.contents with
  | none => exact keeps_raise _
  | some model => exact keeps_pure model

theorem quiet_of_same {before after : NodeState}
    (cache : after.cache = before.cache) (dg : after.dg = before.dg)
    (kobjQueue : after.kobjQueue = before.kobjQueue)
    (eventQueue : after.eventQueue = before.eventQueue) :
    Quiet node before after :=
  { cache := cache
    dg := dg
    queued := ⟨[], by simp [kobjQueue], by simp⟩
    eventQueue := eventQueue }

theorem generate_keeps
    (stamps : ∀ state clockReads, frame.rel state
      { state with clockReads := clockReads })
    (rid : RID) (contents : Contents) :
    frame.Keeps (Bundle.generate node rid contents) := by
  unfold Bundle.generate
  apply keeps_bind keeps_get
  intro _
  refine keeps_bind (keeps_modify fun state => ?_) fun _ => keeps_pure _
  exact stamps state (state.clockReads + 1)

theorem generate_quiet (rid : RID) (contents : Contents) :
    (quietFrame node).Keeps (Bundle.generate node rid contents) := by
  refine generate_keeps (fun state clockReads => ?_) rid contents
  exact quiet_of_same rfl rfl rfl rfl

theorem push_quiet {kobj : KnowledgeObject}
    (allowed : ∀ cache, Queued node cache kobj) :
    (quietFrame node).Keeps (KobjQueue.push kobj) := by
  apply keeps_modify
  intro state
  exact
    { cache := rfl
      dg := rfl
      queued := ⟨[kobj], rfl, by simpa using allowed state.cache⟩
      eventQueue := rfl }

theorem handleConnectionError_quiet {peer : KoiNetNode}
    (other : peer ≠ node.rid) :
    (quietFrame node).Keeps (ErrorHandler.handleConnectionError peer) := by
  unfold ErrorHandler.handleConnectionError
  apply keeps_bind keeps_get
  intro _
  refine keeps_bind (keeps_modify fun state => ?_) fun _ => ?_
  · exact quiet_of_same rfl rfl rfl rfl
  · split
    · refine push_quiet fun _ => .forget _ ?_
      intro same
      cases same
      exact other rfl
    · exact keeps_pure _

theorem getBaseUrl_keeps (peer : KoiNetNode) :
    frame.Keeps (RequestHandler.getBaseUrl node peer) := by
  unfold RequestHandler.getBaseUrl
  apply keeps_bind keeps_get
  intro state
  split
  · apply keeps_bind (keeps_validateContents _ _)
    intro nodeProfile
    split
    · exact keeps_raise _
    · exact keeps_pure _
  · split
    · exact keeps_pure _
    · exact keeps_raise _

/-- A request counts itself and the timeouts, and what else it does is done
about a connection error. -/
theorem makeRequest_keeps {peer : KoiNetNode} {path : Path}
    {request : path.Request}
    (counts : ∀ state requests timeoutCounter, frame.rel state
      { state with
        requests := requests
        timeoutCounter := timeoutCounter })
    (handles : ∀ state url, peer ≠ node.rid →
      node.answer state url peer path request = .unreachable →
      frame.Keeps (ErrorHandler.handleConnectionError peer)) :
    frame.Keeps (RequestHandler.makeRequest node peer path request) := by
  unfold RequestHandler.makeRequest
  split
  · exact keeps_raise _
  · rename_i other
    apply keeps_bind (getBaseUrl_keeps peer)
    intro url
    split
    · exact keeps_raise _
    · apply keeps_bind keeps_get
      intro _
      refine keeps_bind (keeps_modify fun state => ?_) fun _ => ?_
      · exact counts state (state.requests + 1) state.timeoutCounter
      · split
        · rename_i failed
          exact keeps_bind (handles _ _ other failed) fun _ => keeps_raise _
        · exact keeps_raise _
        · refine keeps_bind (keeps_modify fun state => ?_)
            fun _ => keeps_ofExcept _
          exact counts state state.requests (state.timeoutCounter.set peer 0)

/-- A request, however it ends, only queues nodes to be forgotten. -/
theorem makeRequest_quiet (peer : KoiNetNode) (path : Path)
    (request : path.Request) :
    (quietFrame node).Keeps
      (RequestHandler.makeRequest node peer path request) := by
  apply makeRequest_keeps
  · intro state requests timeoutCounter
    exact quiet_of_same rfl rfl rfl rfl
  · intro _ _ other _
    exact handleConnectionError_quiet other

theorem getEdge_keeps (source target : KoiNetNode) :
    frame.Keeps (NetworkGraph.getEdge source target) := by
  unfold NetworkGraph.getEdge
  exact keeps_bind keeps_get fun _ => keeps_pure _

theorem adjacentEdges_keeps (wanted : Bool)
    (dg : DiGraph KoiNetNode KoiNetEdge)
    (adjacent : Option (List (KoiNetNode × KoiNetNode))) :
    frame.Keeps
      (NetworkGraph.adjacentEdges wanted dg adjacent) := by
  unfold NetworkGraph.adjacentEdges
  split
  · split
    · exact keeps_pure _
    · exact keeps_raise _
  · exact keeps_pure _

theorem collectNeighbors_keeps (status : Option EdgeStatus)
    (allowedType : Option RIDType) (edges : List KoiNetEdge)
    (neighbors : List KoiNetNode) :
    frame.Keeps
      (NetworkGraph.collectNeighbors node status allowedType edges
        neighbors) := by
  induction edges generalizing neighbors with
  | nil => exact keeps_pure _
  | cons edgeRid rest induction =>
      apply keeps_bind keeps_get
      intro state
      split
      · exact induction neighbors
      · apply keeps_bind (keeps_validateContents _ _)
        intro edgeProfile
        split
        · exact induction neighbors
        · exact induction _

theorem getNeighbors_keeps (direction : Option Direction)
    (status : Option EdgeStatus) (allowedType : Option RIDType) :
    frame.Keeps
      (NetworkGraph.getNeighbors node direction status allowedType) := by
  unfold NetworkGraph.getNeighbors NetworkGraph.getEdges
  refine keeps_bind ?_ fun edges => collectNeighbors_keeps _ _ _ _
  apply keeps_bind keeps_get
  intro state
  apply keeps_bind (adjacentEdges_keeps _ _ _)
  intro _
  exact keeps_bind (adjacentEdges_keeps _ _ _) fun _ => keeps_pure _

end Quiet

section Handlers

variable {node : Node} {frame : Frame NodeState}

open Frame

theorem basicRidHandler_keeps (kobj : KnowledgeObject) :
    frame.Keeps (BasicRidHandler.handle node kobj) := by
  unfold BasicRidHandler.handle
  split
  · exact keeps_pure _
  · split <;> exact keeps_pure _

theorem basicManifestHandler_keeps (kobj : KnowledgeObject) :
    frame.Keeps (BasicManifestHandler.handle kobj) := by
  unfold BasicManifestHandler.handle
  apply keeps_bind keeps_get
  intro state
  split
  · exact keeps_pure _
  · split
    · exact keeps_raise _
    · split <;> exact keeps_pure _

theorem secureProfileHandler_keeps (kobj : KnowledgeObject) :
    frame.Keeps (SecureProfileHandler.handle node kobj) := by
  unfold SecureProfileHandler.handle
  apply keeps_bind (keeps_ofExcept _)
  intro bundle
  apply keeps_bind (keeps_validateContents _ _)
  intro nodeProfile
  split
  · refine keeps_bind ?_ fun keyHash => ?_
    · unfold hashPublicKey
      split
      · exact keeps_pure _
      · exact keeps_raise _
    · split
      · exact keeps_pure _
      · split <;> exact keeps_pure _
  · exact keeps_raise _

theorem involvement_keeps (kobj : KnowledgeObject) :
    frame.Keeps (BasicNetworkOutputFilter.involvement node kobj) := by
  unfold BasicNetworkOutputFilter.involvement
  split
  · split
    · exact keeps_pure _
    · apply keeps_bind (keeps_ofExcept _)
      intro bundle
      apply keeps_bind (keeps_validateContents _ _)
      intro edgeProfile
      split
      · exact keeps_pure _
      · split <;> exact keeps_pure _
    · exact keeps_pure _
  · exact keeps_pure _

theorem basicNetworkOutputFilter_keeps (kobj : KnowledgeObject) :
    frame.Keeps (BasicNetworkOutputFilter.handle node kobj) := by
  unfold BasicNetworkOutputFilter.handle BasicNetworkOutputFilter.subscribers
  apply keeps_bind (involvement_keeps kobj)
  intro involved
  refine keeps_bind ?_ fun _ => keeps_pure _
  split
  · exact getNeighbors_keeps _ _ _
  · exact keeps_pure _

theorem basicNetworkOutputFilter_response {kobj : KnowledgeObject}
    {response : HandlerResponse} {state after : NodeState}
    (handled : (BasicNetworkOutputFilter.handle node kobj).run state =
      (.ok response, after)) :
    ∃ targets, response = .modified { kobj with networkTargets := targets } := by
  unfold BasicNetworkOutputFilter.handle at handled
  obtain ⟨⟨targets, involved⟩, _, _, rest⟩ :=
    Effect.run_bind_eq_ok_iff.mp handled
  obtain ⟨subscribed, _, _, rest⟩ := Effect.run_bind_eq_ok_iff.mp rest
  cases rest
  exact ⟨_, rfl⟩

/-- A proposed edge of a provider: an edge profile that is still to be
approved, under an edge RID. -/
def IsProposal (bundle : Bundle) : Prop :=
  ∃ edgeRid edgeProfile, bundle.manifest.rid = .edge edgeRid ∧
    bundle.contents = EdgeProfile.modelDump edgeProfile ∧
    edgeProfile.status = .proposed

theorem generate_returns {rid : RID} {contents : Contents} {bundle : Bundle}
    {before after : NodeState}
    (returned : (Bundle.generate node rid contents).run before =
      (.ok bundle, after)) :
    bundle.manifest.rid = rid ∧ bundle.contents = contents := by
  simp only [Bundle.generate, Effect.run_get_bind, Effect.run_modify_bind,
    Effect.run_pure, Prod.mk.injEq, Except.ok.injEq] at returned
  rw [← returned.1]
  exact ⟨rfl, rfl⟩

/-- The end points of a proposed edge: the provider and this node, or those
of the edge that is already cached. -/
def ProposedEnds (node : Node) (nodeRid : KoiNetNode) (cache : Cache)
    (edgeRid : KoiNetEdge) (edgeProfile : EdgeProfile) : Prop :=
  (edgeProfile.source = nodeRid ∧ edgeProfile.target = node.rid) ∨
    ∃ previous previousProfile,
      cache.read (.edge edgeRid) = some previous ∧
      EdgeProfile.modelValidate previous.contents = some previousProfile ∧
      edgeProfile.source = previousProfile.source ∧
      edgeProfile.target = previousProfile.target

theorem proposal_ends {nodeRid : KoiNetNode} {available : List RIDType}
    {bundle : Bundle} {before after : NodeState}
    (returned : (NodeContactHandler.proposal node nodeRid available).run
      before = (.ok (some bundle), after)) :
    ∃ edgeRid edgeProfile, bundle.manifest.rid = .edge edgeRid ∧
      bundle.contents = EdgeProfile.modelDump edgeProfile ∧
      edgeProfile.status = .proposed ∧
      ProposedEnds node nodeRid before.cache edgeRid edgeProfile := by
  unfold NodeContactHandler.proposal NetworkGraph.getEdge at returned
  obtain ⟨known, between, asked, rest⟩ :=
    Effect.run_bind_eq_ok_iff.mp returned
  cases asked
  split at rest
  · rename_i edgeRid _
    simp only [Effect.run_get_bind] at rest
    split at rest
    · simp at rest
    · rename_i previous cached
      obtain ⟨edgeProfile, _, validated, rest⟩ :=
        Effect.run_bind_eq_ok_iff.mp rest
      rw [validateContents_run] at validated
      split at validated
      · rename_i valid
        cases validated
        split at rest
        · simp at rest
        · obtain ⟨generated, _, made, rest⟩ :=
            Effect.run_bind_eq_ok_iff.mp rest
          obtain ⟨named, filled⟩ := generate_returns made
          simp only [Effect.run_pure, Prod.mk.injEq, Except.ok.injEq,
            Option.some.injEq] at rest
          rw [← rest.1]
          exact ⟨edgeRid, _, named, filled, rfl,
            .inr ⟨previous, _, cached, valid, rfl, rfl⟩⟩
      · cases validated
  · obtain ⟨generated, _, made, rest⟩ := Effect.run_bind_eq_ok_iff.mp rest
    obtain ⟨named, filled⟩ := generate_returns made
    simp only [Effect.run_pure, Prod.mk.injEq, Except.ok.injEq,
      Option.some.injEq] at rest
    rw [← rest.1]
    exact ⟨_, _, named, filled, rfl, .inl ⟨rfl, rfl⟩⟩

theorem proposal_returns {nodeRid : KoiNetNode} {available : List RIDType}
    {bundle : Bundle} {before after : NodeState}
    (returned : (NodeContactHandler.proposal node nodeRid available).run
      before = (.ok (some bundle), after)) :
    IsProposal bundle := by
  obtain ⟨edgeRid, edgeProfile, named, filled, status, _⟩ :=
    proposal_ends returned
  exact ⟨edgeRid, edgeProfile, named, filled, status⟩

theorem proposal_keeps
    (stamps : ∀ state clockReads, frame.rel state
      { state with clockReads := clockReads })
    (nodeRid : KoiNetNode) (available : List RIDType) :
    frame.Keeps (NodeContactHandler.proposal node nodeRid available) := by
  unfold NodeContactHandler.proposal
  apply keeps_bind (getEdge_keeps _ _)
  intro known
  split
  · apply keeps_bind keeps_get
    intro state
    split
    · exact keeps_raise _
    · apply keeps_bind (keeps_validateContents _ _)
      intro edgeProfile
      split
      · exact keeps_pure _
      · exact keeps_bind (generate_keeps stamps _ _) fun _ => keeps_pure _
  · exact keeps_bind (generate_keeps stamps _ _) fun _ => keeps_pure _

theorem proposal_quiet (nodeRid : KoiNetNode) (available : List RIDType) :
    (quietFrame node).Keeps
      (NodeContactHandler.proposal node nodeRid available) := by
  refine proposal_keeps (fun state clockReads => ?_) nodeRid available
  exact quiet_of_same rfl rfl rfl rfl

theorem catchUp_quiet (nodeRid : KoiNetNode) (available : List RIDType) :
    (quietFrame node).Keeps
      (NodeContactHandler.catchUp node nodeRid available) := by
  unfold NodeContactHandler.catchUp
  refine keeps_bind (keeps_tryExcept ?_ (keeps_pure _)) fun payload => ?_
  · exact keeps_bind (makeRequest_quiet _ _ _) fun _ => keeps_pure _
  · split
    · exact keeps_pure _
    · refine keeps_forEach (fun rid => ?_) _
      apply keeps_bind keeps_get
      intro state
      split
      · exact keeps_pure _
      · split
        · exact keeps_pure _
        · exact push_quiet fun _ => .discovered _ _

theorem processNode_quiet (nodeRid : KoiNetNode) (nodeBundle : Bundle) :
    (quietFrame node).Keeps
      (NodeContactHandler.processNode node nodeRid nodeBundle) := by
  unfold NodeContactHandler.processNode NodeContactHandler.contact
  split
  · exact keeps_pure _
  · apply keeps_bind (keeps_validateContents _ _)
    intro nodeProfile
    split
    · exact keeps_pure _
    · split
      · exact keeps_pure _
      · apply keeps_bind_returned (proposal_quiet _ _)
        intro proposed made
        split
        · exact keeps_pure _
        · obtain ⟨before, after, returned⟩ := made
          obtain ⟨edgeRid, edgeProfile, named, filled, status⟩ :=
            proposal_returns returned
          refine keeps_bind (push_quiet fun _ => ?_) fun _ => catchUp_quiet _ _
          exact .proposal _ edgeRid edgeProfile named filled status

theorem nodeContactHandler_quiet (kobj : KnowledgeObject) :
    (quietFrame node).Keeps (NodeContactHandler.handle node kobj) := by
  unfold NodeContactHandler.handle
  apply keeps_bind (keeps_ofExcept _)
  intro bundle
  split
  · exact keeps_bind (processNode_quiet _ _) fun _ => keeps_pure _
  · exact keeps_pure _

theorem forgetNodeHandler_quiet (kobj : KnowledgeObject) :
    (quietFrame node).Keeps (ForgetNodeHandler.handle node kobj) := by
  unfold ForgetNodeHandler.handle
  split
  · exact keeps_pure _
  · refine keeps_bind_returned
      (keeps_bind keeps_get fun _ => keeps_pure _) fun edgeRids listed => ?_
    obtain ⟨before, after, returned⟩ := listed
    refine keeps_bind (keeps_forEach_mem fun edgeRid member => ?_)
      fun _ => keeps_pure _
    have isEdge : edgeRid.type = .koiNetEdge := by
      rw [← (Prod.mk.inj returned).1 |> Except.ok.inj] at member
      simpa using (List.mem_filter.mp member).2
    unfold ForgetNodeHandler.forgetEdge
    apply keeps_bind keeps_get
    intro state
    split
    · exact keeps_pure _
    · apply keeps_bind (keeps_validateContents _ _)
      intro edgeProfile
      split
      · refine push_quiet fun _ => .forget _ ?_
        intro self
        rw [self] at isEdge
        cases isEdge
      · exact keeps_pure _

/-- The negotiation of an edge may queue its approval, and may send a FORGET
event about the edge. -/
theorem EdgeNegotiationHandler.Step.stable {kobj : KnowledgeObject}
    {contents : Contents} {before after : NodeState}
    {result : Except Exc HandlerResponse} (isEdge : kobj.rid.type = .koiNetEdge)
    (step : EdgeNegotiationHandler.Step node kobj contents before result
      after) :
    Stable node before after := by
  obtain ⟨edgeRid, named⟩ : ∃ edgeRid, kobj.rid = .edge edgeRid := by
    cases rid : kobj.rid with
    | edge edgeRid => exact ⟨edgeRid, rfl⟩
    | node _ => simp [rid, RID.type] at isEdge
    | other _ _ => simp [rid, RID.type] at isEdge
  cases step with
  | internal => exact (stableFrame node).refl before
  | malformed => exact (stableFrame node).refl before
  | notProposed => exact (stableFrame node).refl before
  | unknownPeer => exact (stableFrame node).refl before
  | malformedPeer => exact (stableFrame node).refl before
  | refused =>
      exact
        { cache := rfl
          dg := rfl
          queued := ⟨[], by simp, by simp⟩ }
  | approved edgeProfile peerBundle peerProfile _ _ outgoing _ known peer
      agreed =>
      refine
        { cache := rfl
          dg := rfl
          queued := ⟨_, rfl, ?_⟩ }
      intro queued member
      rw [List.mem_singleton.mp member, named]
      exact .approval edgeRid edgeProfile before.clockReads peerBundle
        peerProfile outgoing known peer agreed

/-- A frame that admits what the negotiation of a bundle may do is kept by the
handler, which raises for an object without one. -/
theorem edgeNegotiationHandler_keeps {frame : Frame NodeState}
    (kobj : KnowledgeObject)
    (admits : ∀ {contents : Contents} {before after : NodeState}
      {result : Except Exc HandlerResponse},
      EdgeNegotiationHandler.Step node kobj contents before result after →
        frame.rel before after) :
    frame.Keeps (EdgeNegotiationHandler.handle node kobj) := by
  intro state
  cases bundled : kobj.bundle with
  | ok bundle =>
      obtain ⟨hasManifest, hasContents⟩ :=
        KnowledgeObject.fields_of_bundle bundled
      exact admits (EdgeNegotiationHandler.handle_step node hasManifest
        hasContents state)
  | error failure =>
      unfold EdgeNegotiationHandler.handle
      rw [bundled]
      split
      · exact frame.refl state
      · exact frame.refl state

theorem edgeNegotiationHandler_stable {kobj : KnowledgeObject}
    (isEdge : kobj.rid.type = .koiNetEdge) :
    (stableFrame node).Keeps (EdgeNegotiationHandler.handle node kobj) :=
  edgeNegotiationHandler_keeps kobj fun step => step.stable isEdge

end Handlers

namespace Registry

open KnowledgePipeline

variable {node : Node} (registry : Registry node)

theorem mem_handlers {handler : KnowledgeHandler}
    (member : handler ∈ registry.handlers) :
    handler = basicManifestHandler ∨
      handler = basicNetworkOutputFilter node ∨
      handler = basicRidHandler node ∨ handler = forgetNodeHandler node ∨
      handler = nodeContactHandler node ∨
      handler = edgeNegotiationHandler node ∨
      handler = secureProfileHandler node := by
  simpa [defaultHandlers] using registry.registered.mem_iff.mp member

theorem chain_stable (handlerType : HandlerType) (kobj : KnowledgeObject) :
    (stableFrame node).Keeps
      (callHandlerChain handlerType registry.handlers kobj) := by
  refine callHandlerChain_keeps (fun handler member _ kobj accepted => ?_) kobj
  rcases registry.mem_handlers member with
    rfl | rfl | rfl | rfl | rfl | rfl | rfl
  · exact stable_of_quiet (basicManifestHandler_keeps kobj)
  · exact stable_of_quiet (basicNetworkOutputFilter_keeps kobj)
  · exact stable_of_quiet (basicRidHandler_keeps kobj)
  · exact stable_of_quiet (forgetNodeHandler_quiet kobj)
  · exact stable_of_quiet (nodeContactHandler_quiet kobj)
  · exact edgeNegotiationHandler_stable
      (edgeNegotiationHandler_accepts_iff.mp accepted).1
  · exact stable_of_quiet (secureProfileHandler_keeps kobj)

end Registry

end KoiNet
