import KoiNet.Pipeline.GraphView

/-!
# Contacting a provider

Over a valid cache whose graph is up to date, which edge `NodeContactHandler`
proposes to a provider is a function of the cache.  The proposal is queued
before the provider is asked for anything.
-/

namespace KoiNet

open Foundation

/-- The profile of a cached node. -/
def Cache.nodeProfile (cache : Cache) (nodeRid : KoiNetNode) :
    Option NodeProfile := do
  let bundle ← cache.read (.node nodeRid)
  NodeProfile.modelValidate bundle.contents

theorem Cache.nodeProfile_of_read {cache : Cache} {nodeRid : KoiNetNode}
    {bundle : Bundle} {profile : NodeProfile}
    (cached : cache.read (.node nodeRid) = some bundle)
    (validated : NodeProfile.modelValidate bundle.contents = some profile) :
    cache.nodeProfile nodeRid = some profile := by
  unfold nodeProfile
  rw [cached]
  exact validated

theorem Cache.nodeProfile_eq_some_iff {cache : Cache} {nodeRid : KoiNetNode}
    {profile : NodeProfile} :
    cache.nodeProfile nodeRid = some profile ↔
      ∃ bundle, cache.read (.node nodeRid) = some bundle ∧
        NodeProfile.modelValidate bundle.contents = some profile :=
  Option.bind_eq_some_iff

/-- What `Bundle.generate` makes at this reading of the clock. -/
def Node.stamp (node : Node) (clockReads : Nat) (rid : RID)
    (contents : Contents) : Bundle :=
  { manifest :=
      { rid := rid
        timestamp := node.now clockReads
        sha256Hash := node.sha256HashJson contents }
    contents := contents }

/-- The state after one reading of the clock. -/
def NodeState.timed (state : NodeState) : NodeState :=
  { state with clockReads := state.clockReads + 1 }

/-- An edge that is proposed, under its RID. -/
structure Proposal where
  rid : KoiNetEdge
  profile : EdgeProfile

namespace Proposal

/-- The first edge from a provider to this node. -/
def new (node : Node) (nodeRid : KoiNetNode) (available : List RIDType) :
    Proposal :=
  { rid := { id := node.sha256Hash (nodeRid.toString ++ node.rid.toString) }
    profile :=
      { context := EdgeProfile.defaultContext
        source := nodeRid
        target := node.rid
        edgeType :=
          if node.profile.nodeType = .full then .webhook else .poll
        status := .proposed
        ridTypes := available } }

/-- An edge whose types have changed is proposed again. -/
def again (edgeRid : KoiNetEdge) (profile : EdgeProfile)
    (available : List RIDType) : Proposal :=
  { rid := edgeRid
    profile := { profile with ridTypes := available, status := .proposed } }

def bundle (proposal : Proposal) (node : Node) (clockReads : Nat) : Bundle :=
  node.stamp clockReads (.edge proposal.rid) proposal.profile.modelDump

end Proposal

/-- The edge to propose to a provider of these types, if any. -/
def proposes (node : Node) (cache : Cache) (nodeRid : KoiNetNode)
    (available : List RIDType) : Option Proposal :=
  match edgeBetween node cache nodeRid node.rid with
  | none => some (.new node nodeRid available)
  | some edgeRid =>
      match cache.edgeProfile edgeRid with
      | none => none
      | some profile =>
          if profile.ridTypes.toFinset = available.toFinset then none
          else some (.again edgeRid profile available)

/-- An edge is proposed because there is none yet, or because the one in the
graph lists other types. -/
inductive Proposes (node : Node) (cache : Cache) (nodeRid : KoiNetNode)
    (available : List RIDType) : Proposal → Prop where
  | new :
      (∀ edgeRid profile, cache.edgeProfile edgeRid = some profile →
        profile.source = nodeRid → profile.target ≠ node.rid) →
      Proposes node cache nodeRid available (.new node nodeRid available)
  | again (edgeRid : KoiNetEdge) (profile : EdgeProfile) :
      edgeBetween node cache nodeRid node.rid = some edgeRid →
      cache.edgeProfile edgeRid = some profile →
      profile.source = nodeRid → profile.target = node.rid →
      profile.ridTypes.toFinset ≠ available.toFinset →
      Proposes node cache nodeRid available (.again edgeRid profile available)

namespace Proposes

variable {node : Node} {cache : Cache} {nodeRid : KoiNetNode}
  {available : List RIDType} {proposal : Proposal}

theorem source (proposes : Proposes node cache nodeRid available proposal) :
    proposal.profile.source = nodeRid := by
  cases proposes with
  | new => rfl
  | again edgeRid profile between cached isSource => exact isSource

theorem target (proposes : Proposes node cache nodeRid available proposal) :
    proposal.profile.target = node.rid := by
  cases proposes with
  | new => rfl
  | again edgeRid profile between cached isSource isTarget => exact isTarget

theorem ridTypes (proposes : Proposes node cache nodeRid available proposal) :
    proposal.profile.ridTypes = available := by
  cases proposes with
  | new => rfl
  | again => rfl

end Proposes

section Contact

variable {node : Node} {state : NodeState}

theorem getEdge_run (mirrored : state.dg = graphOf node state.cache)
    (source target : KoiNetNode) :
    (NetworkGraph.getEdge source target).run state =
      (.ok (edgeBetween node state.cache source target), state) := by
  unfold NetworkGraph.getEdge
  rw [Effect.run_get_bind, mirrored, getEdgeData_graphOf]
  rfl

theorem proposal_run (mirrored : state.dg = graphOf node state.cache)
    (nodeRid : KoiNetNode) (available : List RIDType) :
    (NodeContactHandler.proposal node nodeRid available).run state =
      match proposes node state.cache nodeRid available with
      | none => (.ok none, state)
      | some proposal =>
          (.ok (some (proposal.bundle node state.clockReads)), state.timed) := by
  unfold NodeContactHandler.proposal proposes
  rw [Effect.run_bind_of_ok (getEdge_run mirrored nodeRid node.rid)]
  cases between : edgeBetween node state.cache nodeRid node.rid with
  | none => rfl
  | some edgeRid =>
      obtain ⟨profile, cached, _⟩ := edgeBetween_joins between
      obtain ⟨bundle, read, validated⟩ :=
        Cache.edgeProfile_eq_some_iff.mp cached
      dsimp only
      rw [Effect.run_get_bind, read, cached]
      dsimp only
      rw [Effect.run_bind_of_ok (validateContents_some validated)]
      split
      · rfl
      · rfl

theorem contact_run (mirrored : state.dg = graphOf node state.cache)
    (nodeRid : KoiNetNode) {available : List RIDType}
    (offers : available ≠ []) :
    (NodeContactHandler.contact node nodeRid available).run state =
      match proposes node state.cache nodeRid available with
      | none => (.ok (), state)
      | some proposal =>
          (NodeContactHandler.catchUp node nodeRid available).run
            (state.timed.withQueue (state.kobjQueue ++
              [.fromBundle (proposal.bundle node state.clockReads) none
                none])) := by
  have nonempty : ¬available.isEmpty = true := by
    rw [List.isEmpty_iff]
    exact offers
  unfold NodeContactHandler.contact
  rw [if_neg nonempty, Effect.run_bind, proposal_run mirrored]
  cases proposes node state.cache nodeRid available with
  | none => rfl
  | some proposal => rfl

theorem processNode_run {nodeRid : KoiNetNode} {bundle : Bundle}
    {profile : NodeProfile} (other : nodeRid ≠ node.rid)
    (validated : NodeProfile.modelValidate bundle.contents = some profile) :
    (NodeContactHandler.processNode node nodeRid bundle).run state =
      if profile.nodeType = .partialNode then (.ok (), state)
      else (NodeContactHandler.contact node nodeRid
        (NodeContactHandler.availableRidTypes node profile)).run state := by
  unfold NodeContactHandler.processNode
  rw [if_neg other, Effect.run_bind_of_ok (validateContents_some validated)]
  split
  · rfl
  · rfl

end Contact

end KoiNet
