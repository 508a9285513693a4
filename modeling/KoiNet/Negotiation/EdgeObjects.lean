import KoiNet.Negotiation.EdgeBroadcast
import KoiNet.Pipeline.CacheEffect

/-!
# Processing an object about an edge

An object about an edge that brings its own bundle is tested against the
cache, negotiated if another node proposes the edge to this one, written and
sent on.  Here each of these is said exactly, as far as the cache and the
queues are concerned.
-/

namespace KoiNet

open Foundation Frame

/-- An object about an edge with a bundle of its own. -/
structure BringsEdge (kobj : KnowledgeObject) (edgeRid : KoiNetEdge)
    (bundle : Bundle) (edgeProfile : EdgeProfile) : Prop where
  isEdge : kobj.rid = .edge edgeRid
  hasManifest : kobj.manifest = some bundle.manifest
  hasContents : kobj.contents = some bundle.contents
  profile : bundle.contents = edgeProfile.modelDump
  notForget : kobj.eventType ≠ some .forget

namespace BringsEdge

variable {node : Node} {kobj : KnowledgeObject} {edgeRid : KoiNetEdge}
  {bundle : Bundle} {edgeProfile : EdgeProfile}

theorem passes (brings : BringsEdge kobj edgeRid bundle edgeProfile) :
    PassesRid node kobj := by
  rintro ⟨own, _⟩
  rw [brings.isEdge] at own
  cases own

theorem nonempty (brings : BringsEdge kobj edgeRid bundle edgeProfile) :
    bundle.contents ≠ [] := by
  rw [brings.profile]
  exact edgeProfile.modelDump_ne_nil

theorem validates (brings : BringsEdge kobj edgeRid bundle edgeProfile) :
    EdgeProfile.modelValidate bundle.contents = some edgeProfile := by
  rw [brings.profile, EdgeProfile.modelValidate_modelDump]

end BringsEdge

namespace KnowledgePipeline

variable {node : Node} (registry : Registry node)

section Settle

variable {state : NodeState} {kobj : KnowledgeObject} {edgeRid : KoiNetEdge}
  {bundle : Bundle} {edgeProfile : EdgeProfile}

theorem settle_edge (brings : BringsEdge kobj edgeRid bundle edgeProfile)
    (fresh : Fresh state.cache kobj.rid bundle.manifest) :
    (settle node registry.handlers kobj).run state =
      (callHandlerChain .bundle registry.handlers
        (kobj.settled (state.cache.writeType kobj.rid) bundle)).run state :=
  settle_of_carried registry brings.passes brings.notForget
    (.own _ brings.hasManifest) fresh
    (.own _ brings.hasContents brings.nonempty)

/-- Whether another node's object proposes an edge to this node. -/
def AsksApproval (node : Node) (kobj : KnowledgeObject)
    (edgeProfile : EdgeProfile) : Prop :=
  kobj.source ≠ none ∧ edgeProfile.source = node.rid ∧
    edgeProfile.status = .proposed

/-- How deciding on an object that goes through the negotiation ends. -/
theorem settle_edge_negotiated
    (brings : BringsEdge kobj edgeRid bundle edgeProfile)
    (fresh : Fresh state.cache kobj.rid bundle.manifest)
    (typed : kobj.isTyped) :
    ∃ result after,
      EdgeNegotiationHandler.Step node
        (kobj.settled (state.cache.writeType kobj.rid) bundle)
        bundle.contents state result after ∧
      (settle node registry.handlers kobj).run state =
        (result.map fun response => response.next
          (kobj.settled (state.cache.writeType kobj.rid) bundle), after) := by
  let settled := kobj.settled (state.cache.writeType kobj.rid) bundle
  have hasManifest : settled.manifest = some bundle.manifest := rfl
  have hasContents : settled.contents = some bundle.contents := rfl
  have isEdge : settled.rid = .edge edgeRid := brings.isEdge
  have settledTyped : settled.isTyped := typed
  have step := EdgeNegotiationHandler.handle_step node hasManifest hasContents
    state
  refine ⟨_, _, step, ?_⟩
  rw [settle_edge registry brings fresh]
  exact registry.bundleChain_edge isEdge settledTyped hasManifest hasContents
    rfl

theorem settle_edge_passes
    (brings : BringsEdge kobj edgeRid bundle edgeProfile)
    (fresh : Fresh state.cache kobj.rid bundle.manifest)
    (unasked : ¬AsksApproval node kobj edgeProfile) :
    (settle node registry.handlers kobj).run state =
      (.ok (some (kobj.settled (state.cache.writeType kobj.rid) bundle)),
        state) := by
  by_cases typed : kobj.isTyped
  · obtain ⟨result, after, step, ran⟩ :=
      settle_edge_negotiated registry brings fresh typed
    rw [ran]
    have unaskedAs : ∀ other,
        EdgeProfile.modelValidate bundle.contents = some other →
        kobj.source ≠ none → other.source = node.rid →
        other.status = .proposed → False := by
      intro other validated external outgoing proposed
      cases brings.validates.symm.trans validated
      exact unasked ⟨external, outgoing, proposed⟩
    cases step with
    | internal => rfl
    | notProposed => rfl
    | malformed _ malformed => cases brings.validates.symm.trans malformed
    | unknownPeer other external validated outgoing proposed =>
        exact (unaskedAs other validated external outgoing proposed).elim
    | malformedPeer other _ external validated outgoing proposed =>
        exact (unaskedAs other validated external outgoing proposed).elim
    | refused other _ _ external validated outgoing proposed =>
        exact (unaskedAs other validated external outgoing proposed).elim
    | approved other _ _ external validated outgoing proposed =>
        exact (unaskedAs other validated external outgoing proposed).elim
  · rw [settle_edge registry brings fresh]
    refine registry.bundleChain_skips (kobj.settled _ bundle) ?_
      (fun negotiates => typed negotiates.2) state
    rintro ⟨isNode, _⟩
    change kobj.rid.type = _ at isNode
    rw [brings.isEdge] at isNode
    cases isNode

/-- A proposed edge is decided by what this node makes of the peer's cached
profile. -/
theorem settle_edge_asked
    (brings : BringsEdge kobj edgeRid bundle edgeProfile)
    (fresh : Fresh state.cache kobj.rid bundle.manifest)
    (asked : AsksApproval node kobj edgeProfile) (typed : kobj.isTyped)
    {peerBundle : Bundle} {peerProfile : NodeProfile}
    (known : state.cache.read (.node edgeProfile.target) = some peerBundle)
    (peerValid : NodeProfile.modelValidate peerBundle.contents =
      some peerProfile) :
    (settle node registry.handlers kobj).run state =
      if EdgeNegotiationHandler.abort node edgeProfile peerProfile then
        (.ok none,
          { state with
            eventQueue := state.eventQueue ++
              [{ event := Event.fromRid .forget kobj.rid
                 target := edgeProfile.target }] })
      else
        (.ok (some (kobj.settled (state.cache.writeType kobj.rid) bundle)),
          { state with
            clockReads := state.clockReads + 1
            kobjQueue := state.kobjQueue ++
              [KnowledgeObject.fromBundle
                (EdgeNegotiationHandler.approval node kobj.rid edgeProfile
                  state.clockReads)
                (some .update) none] }) := by
  obtain ⟨external, outgoing, proposed⟩ := asked
  obtain ⟨result, after, step, ran⟩ :=
    settle_edge_negotiated registry brings fresh typed
  rw [ran]
  cases step with
  | internal internal => exact (external internal).elim
  | malformed _ malformed => cases brings.validates.symm.trans malformed
  | notProposed other _ validated notAsked =>
      cases brings.validates.symm.trans validated
      exact (notAsked ⟨outgoing, proposed⟩).elim
  | unknownPeer other _ validated _ _ unknown =>
      cases brings.validates.symm.trans validated
      cases known.symm.trans unknown
  | malformedPeer other _ _ validated _ _ found malformed =>
      cases brings.validates.symm.trans validated
      cases known.symm.trans found
      cases peerValid.symm.trans malformed
  | refused other _ _ _ validated _ _ found valid refused =>
      cases brings.validates.symm.trans validated
      cases known.symm.trans found
      cases peerValid.symm.trans valid
      rw [if_pos refused]
      rfl
  | approved other _ _ _ validated _ _ found valid agreed =>
      cases brings.validates.symm.trans validated
      cases known.symm.trans found
      cases peerValid.symm.trans valid
      rw [agreed]
      rfl

end Settle

section Process

variable {state : NodeState} {kobj : KnowledgeObject} {edgeRid : KoiNetEdge}
  {bundle : Bundle} {edgeProfile : EdgeProfile}

theorem process_edge_written
    (brings : BringsEdge kobj edgeRid bundle edgeProfile)
    (named : bundle.manifest.rid = .edge edgeRid)
    (untargeted : kobj.networkTargets = [])
    {decided : NodeState} (same : decided.cache = state.cache)
    (valid : ValidCache node (state.cache.write bundle))
    (ran : (settle node registry.handlers kobj).run state =
      (.ok (some (kobj.settled (state.cache.writeType kobj.rid) bundle)),
        decided)) :
    ∃ (rebuilt : NodeState) (targets : List KoiNetNode),
      rebuilt.exceptGraph =
        { decided with cache := state.cache.write bundle }.exceptGraph ∧
      EdgeTargets node kobj.source bundle.contents targets ∧
      (process node registry.handlers kobj).run state =
        (.ok (), rebuilt.sending
          (.fromBundle (state.cache.writeType kobj.rid) bundle) targets) := by
  rw [process_of_settled registry ran, same]
  let settled := kobj.settled (state.cache.writeType kobj.rid) bundle
  obtain ⟨previous, updated⟩ := applied_eq state.cache settled
  rw [updated]
  have publishable : Publishable { settled with prevBundle := previous }
      bundle.contents :=
    { hasManifest := by simp [settled, KnowledgeObject.settled]
      hasContents := rfl
      normalized := by simp [settled, KnowledgeObject.settled]
      node := by
        intro nodeRid isNode
        cases brings.isEdge.symm.trans isNode
      edge := fun _ _ _ => ⟨edgeProfile, brings.validates⟩ }
  have made : { settled with prevBundle := previous }.normalizedEvent =
      .ok (.fromBundle (state.cache.writeType kobj.rid) bundle) :=
    settled_event (named.trans brings.isEdge.symm) state.cache kobj.rid
  have isEdge : { settled with prevBundle := previous }.rid =
      .edge edgeRid := brings.isEdge
  have validAfter : ValidCache node
      { decided with cache := state.cache.write bundle }.cache := valid
  exact publish_edge registry validAfter isEdge untargeted publishable made

/-- A FORGET object about a cached edge deletes it, and is sent on. -/
theorem process_edge_forgotten (isEdge : kobj.rid = .edge edgeRid)
    (untargeted : kobj.networkTargets = [])
    (forget : kobj.eventType = some .forget)
    (cached : state.cache.read kobj.rid = some bundle)
    (valid : EdgeProfile.modelValidate bundle.contents = some edgeProfile)
    (afterwards : ValidCache node (state.cache.delete kobj.rid)) :
    ∃ (rebuilt : NodeState) (targets : List KoiNetNode),
      rebuilt.exceptGraph =
        { state with cache := state.cache.delete kobj.rid }.exceptGraph ∧
      EdgeTargets node kobj.source bundle.contents targets ∧
      (process node registry.handlers kobj).run state =
        (.ok (), rebuilt.sending (.fromRid .forget kobj.rid) targets) := by
  have deletes : Deletes node state kobj bundle :=
    { passes := by
        rintro ⟨own, _⟩
        cases isEdge.symm.trans own
      forget := forget
      cached := cached }
  rw [process_of_deletes registry deletes]
  have publishable : Publishable (kobj.settled .forget bundle)
      bundle.contents :=
    { hasManifest := by simp [KnowledgeObject.settled]
      hasContents := rfl
      normalized := by simp [KnowledgeObject.settled]
      node := by
        intro nodeRid isNode
        cases isEdge.symm.trans isNode
      edge := fun _ _ _ => ⟨edgeProfile, valid⟩ }
  have deletedEdge : (kobj.settled .forget bundle).rid = .edge edgeRid :=
    isEdge
  have validAfter : ValidCache node
      { state with cache := state.cache.delete kobj.rid }.cache := afterwards
  exact publish_edge registry validAfter deletedEdge untargeted publishable
    rfl

end Process

end KnowledgePipeline

end KoiNet
