import KoiNet.Pipeline.GraphView

/-!
# Broadcasting an edge

After the cache action an object about an edge rebuilds the graph and goes
out to the subscribers.  An edge of this node that this node has decided on
itself always goes to the other end point, and nothing goes back to the node
it came from.
-/

namespace KoiNet

open Foundation Frame

/-- The parts of the state that rebuilding the graph leaves alone. -/
def NodeState.exceptGraph (state : NodeState) :
    Cache × List KnowledgeObject × List QueuedEvent × Nat :=
  (state.cache, state.kobjQueue, state.eventQueue, state.clockReads)

/-- The state with an event sent to these nodes. -/
def NodeState.sending (state : NodeState) (event : Event)
    (targets : List KoiNetNode) : NodeState :=
  { state with
    eventQueue := state.eventQueue ++
      targets.map fun target => { event, target } }

/-- The targets the output filter may choose for an edge from this source
with these contents. -/
structure EdgeTargets (node : Node) (source : Option KoiNetNode)
    (contents : Contents) (targets : List KoiNetNode) : Prop where
  nodup : targets.Nodup
  notSource : ∀ peer, source = some peer → peer ∉ targets
  otherEnd : source = none → ∀ edgeProfile,
    EdgeProfile.modelValidate contents = some edgeProfile →
    (edgeProfile.source = node.rid → edgeProfile.target ∈ targets) ∧
      (edgeProfile.source ≠ node.rid → edgeProfile.target = node.rid →
        edgeProfile.source ∈ targets)

namespace BasicNetworkOutputFilter

variable {node : Node}

theorem mem_withoutSource {source : Option KoiNetNode}
    {targets : List KoiNetNode} {target : KoiNetNode} :
    target ∈ withoutSource source targets ↔
      target ∈ targets ∧ source ≠ some target := by
  unfold withoutSource
  cases source with
  | none => simp
  | some source => simp [ne_comm]

private theorem withoutSource_nodup (source : Option KoiNetNode)
    {targets : List KoiNetNode} (nodup : targets.Nodup) :
    (withoutSource source targets).Nodup := by
  unfold withoutSource
  cases source with
  | none => exact nodup
  | some source => exact nodup.filter _

/-- The other end point of an internal object's edge is a target. -/
private theorem involvement_edge {kobj : KnowledgeObject}
    {edgeRid : KoiNetEdge} {contents : Contents} {state after : NodeState}
    {targets : List KoiNetNode} {involved : Bool}
    (isEdge : kobj.rid = .edge edgeRid) (untargeted : kobj.networkTargets = [])
    (stated : kobj.contents = some contents)
    (returned : (involvement node kobj).run state =
      (.ok (targets, involved), after)) :
    targets.Nodup ∧
      (kobj.source = none → ∀ edgeProfile,
        EdgeProfile.modelValidate contents = some edgeProfile →
        (edgeProfile.source = node.rid → edgeProfile.target ∈ targets) ∧
          (edgeProfile.source ≠ node.rid → edgeProfile.target = node.rid →
            edgeProfile.source ∈ targets)) := by
  unfold involvement at returned
  by_cases internal : kobj.source = none
  · rw [if_pos internal, isEdge, untargeted] at returned
    obtain ⟨bundle, _, bundled, rest⟩ := Effect.run_bind_eq_ok_iff.mp returned
    obtain ⟨found, _, validated, rest⟩ := Effect.run_bind_eq_ok_iff.mp rest
    rw [Effect.run_ofExcept, Prod.mk.injEq] at bundled
    obtain ⟨_, hasContents⟩ := KnowledgeObject.fields_of_bundle bundled.1
    cases hasContents.symm.trans stated
    have same : ∀ edgeProfile,
        EdgeProfile.modelValidate bundle.contents = some edgeProfile →
        found = edgeProfile := by
      intro edgeProfile valid
      rw [validateContents_some valid] at validated
      cases validated
      rfl
    split at rest
    · rename_i outgoing
      cases rest
      refine ⟨by simp, fun _ edgeProfile valid => ?_⟩
      cases same edgeProfile valid
      exact ⟨fun _ => by simp, fun incoming => (incoming outgoing).elim⟩
    · rename_i incoming
      split at rest
      · cases rest
        refine ⟨by simp, fun _ edgeProfile valid => ?_⟩
        cases same edgeProfile valid
        exact ⟨fun outgoing => (incoming outgoing).elim, fun _ _ => by simp⟩
      · rename_i foreign
        cases rest
        refine ⟨by simp, fun _ edgeProfile valid => ?_⟩
        cases same edgeProfile valid
        exact ⟨fun outgoing => (incoming outgoing).elim,
          fun _ target => (foreign target).elim⟩
  · rw [if_neg internal, untargeted] at returned
    cases returned
    exact ⟨by simp, fun absent => (internal absent).elim⟩

theorem handle_edge {kobj : KnowledgeObject} {edgeRid : KoiNetEdge}
    {state : NodeState} {contents : Contents}
    (valid : ValidCache node state.cache)
    (graph : SoundGraph node state.cache state.dg)
    (isEdge : kobj.rid = .edge edgeRid) (untargeted : kobj.networkTargets = [])
    (publishable : Publishable kobj contents) :
    ∃ targets, EdgeTargets node kobj.source contents targets ∧
      (handle node kobj).run state =
        (.ok (.modified { kobj with networkTargets := targets }), state) := by
  obtain ⟨response, after, returned, _, _, _⟩ :=
    basicNetworkOutputFilter_completes valid graph publishable state
      ⟨rfl, rfl⟩
  have kept : (unchanged id).Keeps (handle node kobj) :=
    basicNetworkOutputFilter_keeps kobj
  have same : after = state := by
    have unmoved := kept state
    rw [returned] at unmoved
    exact unmoved
  have opened := returned
  unfold handle at opened
  obtain ⟨⟨targets, involved⟩, _, decided, rest⟩ :=
    Effect.run_bind_eq_ok_iff.mp opened
  obtain ⟨subscribed, _, _, rest⟩ := Effect.run_bind_eq_ok_iff.mp rest
  obtain ⟨nodup, otherEnd⟩ := involvement_edge isEdge untargeted
    publishable.hasContents decided
  refine ⟨withoutSource kobj.source (subscribed ∪ targets), ?_, ?_⟩
  · refine
      { nodup := withoutSource_nodup _ (nodup.union _)
        notSource := ?_
        otherEnd := ?_ }
    · intro peer sender member
      rw [mem_withoutSource] at member
      exact member.2 sender
    · intro internal edgeProfile valid
      obtain ⟨outgoing, incoming⟩ := otherEnd internal edgeProfile valid
      simp only [mem_withoutSource, internal, List.mem_union_iff]
      constructor
      · intro own
        exact ⟨.inr (outgoing own), by simp⟩
      · intro other own
        exact ⟨.inr (incoming other own), by simp⟩
  · rw [returned, same]
    cases rest
    rfl

end BasicNetworkOutputFilter

namespace KnowledgePipeline

variable {node : Node} (registry : Registry node)

private theorem contact_skips {kobj : KnowledgeObject}
    (notNode : kobj.rid.type ≠ .koiNetNode) :
    (nodeContactHandler node).accepts kobj = false := by
  simp [KnowledgeHandler.accepts, nodeContactHandler, notNode]

theorem networkChain_filters {kobj : KnowledgeObject}
    {result : Except Exc HandlerResponse} {state after : NodeState}
    (notNode : kobj.rid.type ≠ .koiNetNode)
    (sameRid : ∀ changed, result = .ok (.modified changed) →
      changed.rid = kobj.rid)
    (filtered : (BasicNetworkOutputFilter.handle node kobj).run state =
      (result, after)) :
    (callHandlerChain .network registry.handlers kobj).run state =
      (result.map fun response => response.next kobj, after) := by
  have accepted : (basicNetworkOutputFilter node).accepts kobj = true := rfl
  have called : (basicNetworkOutputFilter node).handlerType = .network := rfl
  have handled : ((basicNetworkOutputFilter node).handle kobj).run state =
      (result, after) := filtered
  rw [registry.callHandlerChain_ofType]
  rcases registry.ofType_network with order | order
  · rw [order, callHandlerChain_call called accepted, Effect.run_bind, handled]
    cases result with
    | error failure => rfl
    | ok response =>
        cases response with
        | stopChain => rfl
        | unmodified =>
            simp only [callHandlerChain_skip (contact_skips notNode)]
            rfl
        | modified changed =>
            have changedNotNode : changed.rid.type ≠ .koiNetNode := by
              rw [sameRid changed rfl]
              exact notNode
            simp only [callHandlerChain_skip (contact_skips changedNotNode)]
            rfl
  · rw [order, callHandlerChain_skip (contact_skips notNode)]
    exact callHandlerChain_single called accepted filtered

theorem finalChain_skips {kobj : KnowledgeObject}
    (notNode : kobj.rid.type ≠ .koiNetNode) (state : NodeState) :
    (callHandlerChain .final registry.handlers kobj).run state =
      (.ok (some kobj), state) := by
  have skips : (forgetNodeHandler node).accepts kobj = false := by
    simp [KnowledgeHandler.accepts, forgetNodeHandler, notNode]
  rw [registry.callHandlerChain_ofType, registry.ofType_final,
    callHandlerChain_skip skips]
  rfl

theorem broadcast_run {kobj : KnowledgeObject} {event : Event}
    (made : kobj.normalizedEvent = .ok event) (state : NodeState) :
    (broadcast kobj).run state =
      (.ok (), state.sending event kobj.networkTargets) := by
  unfold broadcast
  generalize kobj.networkTargets = targets
  induction targets generalizing state with
  | nil => simp [NodeState.sending]
  | cons target rest induction =>
      have pushed : (Effect.ofExcept kobj.normalizedEvent >>= fun event =>
          EventQueue.push event target).run state =
            (.ok (), state.sending event [target]) := by
        rw [made]
        rfl
      rw [Effect.forEach, Effect.run_bind_of_ok pushed, induction]
      simp [NodeState.sending]

/-- Once the targets are chosen, publishing sends one event to each. -/
theorem publish_targeted {kobj : KnowledgeObject} {event : Event}
    {targets : List KoiNetNode} {state rebuilt chosen : NodeState}
    (notNode : kobj.rid.type ≠ .koiNetNode)
    (regenerated : (regenerate node kobj).run state = (.ok (), rebuilt))
    (passed : (callHandlerChain .network registry.handlers kobj).run rebuilt =
      (.ok (some { kobj with networkTargets := targets }), chosen))
    (made : kobj.normalizedEvent = .ok event) :
    (publish node registry.handlers kobj).run state =
      (.ok (), chosen.sending event targets) := by
  let targeted := { kobj with networkTargets := targets }
  have targetedEvent : targeted.normalizedEvent = .ok event := made
  have targetedNotNode : targeted.rid.type ≠ .koiNetNode := notNode
  have sent := broadcast_run targetedEvent chosen
  have ended := finalChain_skips registry targetedNotNode
    (chosen.sending event targets)
  unfold publish
  rw [Effect.run_bind_of_ok regenerated, Effect.run_bind_of_ok passed]
  dsimp only
  rw [Effect.run_bind_of_ok sent, Effect.run_bind_of_ok ended]
  rfl

/-- Publishing an edge rebuilds the graph and sends one event to each
target. -/
theorem publish_edge {kobj : KnowledgeObject} {edgeRid : KoiNetEdge}
    {state : NodeState} {contents : Contents} {event : Event}
    (valid : ValidCache node state.cache) (isEdge : kobj.rid = .edge edgeRid)
    (untargeted : kobj.networkTargets = [])
    (publishable : Publishable kobj contents)
    (made : kobj.normalizedEvent = .ok event) :
    ∃ (rebuilt : NodeState) (targets : List KoiNetNode),
      rebuilt.exceptGraph = state.exceptGraph ∧
      EdgeTargets node kobj.source contents targets ∧
      (publish node registry.handlers kobj).run state =
        (.ok (), rebuilt.sending event targets) := by
  let rebuilt := { state with dg := graphOf node state.cache }
  have regenerated : (regenerate node kobj).run state = (.ok (), rebuilt) :=
    regenerate_run valid (.inr (by rw [isEdge]; rfl))
  have validRebuilt : ValidCache node rebuilt.cache := valid
  have graph : SoundGraph node rebuilt.cache rebuilt.dg :=
    soundGraph_graphOf valid
  obtain ⟨targets, chosen, filtered⟩ :=
    BasicNetworkOutputFilter.handle_edge validRebuilt graph isEdge untargeted
      publishable
  let targeted := { kobj with networkTargets := targets }
  have notNode : kobj.rid.type ≠ .koiNetNode := by
    rw [isEdge]
    simp [RID.type]
  have sameRid : ∀ changed, (.ok (.modified targeted) :
      Except Exc HandlerResponse) = .ok (.modified changed) →
      changed.rid = kobj.rid := by
    rintro changed ⟨⟩
    rfl
  have passed : (callHandlerChain .network registry.handlers kobj).run
      rebuilt = (.ok (some targeted), rebuilt) :=
    networkChain_filters registry notNode sameRid filtered
  exact ⟨rebuilt, targets, rfl, chosen,
    publish_targeted registry notNode regenerated passed made⟩

end KnowledgePipeline

end KoiNet
