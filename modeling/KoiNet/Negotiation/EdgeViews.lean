import KoiNet.Negotiation.EdgeObjects
import KoiNet.Pipeline.WorkerSafety

/-!
# An edge as one of its ends sees it

Of the state of a node only three things concern an edge to a peer: the
bundle it holds, the objects about the edge in its queue, and the events about
the edge it has sent to the peer.  What processing an object about the edge
does to these is said here, for each way the negotiation can take.
-/

namespace KoiNet

open Foundation

structure EdgeView where
  held : Option Bundle
  queued : List KnowledgeObject
  sent : List Event

namespace NodeState

def edgeView (state : NodeState) (peer : KoiNetNode) (edgeRid : KoiNetEdge) :
    EdgeView :=
  { held := state.cache.read (.edge edgeRid)
    queued := state.kobjQueue.filter fun kobj => kobj.rid = .edge edgeRid
    sent := (state.eventQueue.filter fun queued =>
      queued.target = peer ∧ queued.event.rid = .edge edgeRid).map
        QueuedEvent.event }

variable {state : NodeState} {peer : KoiNetNode} {edgeRid : KoiNetEdge}

theorem edgeView_of_exceptGraph {rebuilt : NodeState}
    (same : rebuilt.exceptGraph = state.exceptGraph) :
    rebuilt.edgeView peer edgeRid = state.edgeView peer edgeRid := by
  simp only [exceptGraph, Prod.mk.injEq] at same
  obtain ⟨cache, kobjQueue, eventQueue, _⟩ := same
  unfold edgeView
  rw [cache, kobjQueue, eventQueue]

/-- An event that goes to several nodes goes to the peer at most once. -/
theorem edgeView_sending {event : Event} {targets : List KoiNetNode}
    (about : event.rid = .edge edgeRid) (nodup : targets.Nodup) :
    (state.sending event targets).edgeView peer edgeRid =
      { state.edgeView peer edgeRid with
        sent := (state.edgeView peer edgeRid).sent ++
          if peer ∈ targets then [event] else [] } := by
  have addressed : (targets.filter fun target => target = peer) =
      if peer ∈ targets then [peer] else [] := by
    rw [List.filter_eq]
    split
    · rename_i member
      rw [List.count_eq_one_of_mem nodup member]
      rfl
    · rename_i absent
      rw [List.count_eq_zero_of_not_mem absent]
      rfl
  have filtered : (targets.map fun target =>
        ({ event, target } : QueuedEvent)).filter (fun queued =>
          queued.target = peer ∧ queued.event.rid = .edge edgeRid) =
      (if peer ∈ targets then [peer] else []).map fun target =>
        { event, target } := by
    rw [List.filter_map, ← addressed]
    congr 1
    apply List.filter_congr
    intro target _
    simp [about]
  simp only [edgeView, sending, List.filter_append, filtered, List.map_append]
  split <;> rfl

theorem edgeView_pop {kobj : KnowledgeObject} {rest : List KnowledgeObject}
    (queue : state.kobjQueue = kobj :: rest)
    (about : kobj.rid = .edge edgeRid) :
    state.edgeView peer edgeRid =
      { (state.withQueue rest).edgeView peer edgeRid with
        queued := kobj ::
          ((state.withQueue rest).edgeView peer edgeRid).queued } := by
  simp [edgeView, queue, about, withQueue]

theorem edgeView_drop {kobj : KnowledgeObject} {rest : List KnowledgeObject}
    (queue : state.kobjQueue = kobj :: rest)
    (other : kobj.rid ≠ .edge edgeRid) :
    (state.withQueue rest).edgeView peer edgeRid =
      state.edgeView peer edgeRid := by
  simp [edgeView, queue, other, withQueue]

theorem edgeView_push (kobj : KnowledgeObject) :
    (state.withQueue (state.kobjQueue ++ [kobj])).edgeView peer edgeRid =
      { state.edgeView peer edgeRid with
        queued := (state.edgeView peer edgeRid).queued ++
          if kobj.rid = .edge edgeRid then [kobj] else [] } := by
  simp only [edgeView, withQueue, List.filter_append]
  split <;> simp_all

end NodeState

/-- The node has the peer's profile, and the profile says this type. -/
def KnowsType (cache : Cache) (peer : KoiNetNode) (nodeType : NodeType) :
    Prop :=
  ∃ bundle nodeProfile, cache.read (.node peer) = some bundle ∧
    NodeProfile.modelValidate bundle.contents = some nodeProfile ∧
    nodeProfile.nodeType = nodeType

/-- What the negotiation of an edge relies on besides the edge. -/
structure Retains (node : Node) (peer : KoiNetNode)
    (before after : NodeState) : Prop where
  sound : SoundCache node before.cache → SoundCache node after.cache
  knows : ∀ nodeType, KnowsType before.cache peer nodeType →
    KnowsType after.cache peer nodeType
  clockReads : before.clockReads ≤ after.clockReads

theorem Retains.of_same {node : Node} {peer : KoiNetNode}
    {before after : NodeState} (cache : after.cache = before.cache)
    (clockReads : before.clockReads ≤ after.clockReads) :
    Retains node peer before after :=
  { sound := by rw [cache]; exact id
    knows := by rw [cache]; exact fun _ => id
    clockReads := clockReads }

theorem Retains.of_popped {node : Node} {peer : KoiNetNode}
    {before after : NodeState} {rest : List KnowledgeObject}
    (retains : Retains node peer (before.withQueue rest) after) :
    Retains node peer before after :=
  { sound := retains.sound
    knows := retains.knows
    clockReads := retains.clockReads }

/-- Publishing after a cache action that keeps what is retained. -/
theorem Retains.of_rebuilt {node : Node} {peer : KoiNetNode} {cache : Cache}
    {state decided rebuilt : NodeState}
    (kept : rebuilt.exceptGraph = { decided with cache := cache }.exceptGraph)
    (sound : SoundCache node cache)
    (knows : ∀ nodeType, KnowsType state.cache peer nodeType →
      KnowsType cache peer nodeType)
    (clockReads : state.clockReads ≤ decided.clockReads) (event : Event)
    (targets : List KoiNetNode) :
    Retains node peer state (rebuilt.sending event targets) := by
  have sameCache : rebuilt.cache = cache := congrArg Prod.fst kept
  have sameReads : rebuilt.clockReads = decided.clockReads :=
    congrArg (fun parts => parts.2.2.2) kept
  refine
    { sound := fun _ => ?_
      knows := fun nodeType known => ?_
      clockReads := ?_ }
  · change SoundCache node rebuilt.cache
    rw [sameCache]
    exact sound
  · change KnowsType rebuilt.cache peer nodeType
    rw [sameCache]
    exact knows nodeType known
  · change state.clockReads ≤ rebuilt.clockReads
    rw [sameReads]
    exact clockReads

/-- The state the worker leaves when it has processed the object. -/
def Registry.worked {node : Node} (registry : Registry node)
    (kobj : KnowledgeObject) (state : NodeState) : NodeState :=
  ((KnowledgePipeline.process node registry.handlers kobj).run state).2

namespace Registry

open KnowledgePipeline

variable {node : Node} (registry : Registry node) {peer : KoiNetNode}
  {edgeRid : KoiNetEdge} {state : NodeState} {kobj : KnowledgeObject}
  {bundle : Bundle} {edgeProfile : EdgeProfile}

theorem worked_stale (brings : BringsEdge kobj edgeRid bundle edgeProfile)
    (stale : ¬Fresh state.cache kobj.rid bundle.manifest) :
    registry.worked kobj state = state := by
  unfold worked
  rw [process_of_stale registry brings.passes brings.notForget
    brings.hasManifest stale]

private theorem knowsType_write {cache : Cache} {nodeType : NodeType}
    (named : bundle.manifest.rid = .edge edgeRid)
    (knows : KnowsType cache peer nodeType) :
    KnowsType (cache.write bundle) peer nodeType := by
  obtain ⟨found, nodeProfile, cached, valid, typed⟩ := knows
  refine ⟨found, nodeProfile, ?_, valid, typed⟩
  rw [Cache.read_write_ne cache bundle (by rw [named]; simp), cached]

private theorem knowsType_delete {cache : Cache} {nodeType : NodeType}
    (knows : KnowsType cache peer nodeType) :
    KnowsType (cache.delete (.edge edgeRid)) peer nodeType := by
  obtain ⟨found, nodeProfile, cached, valid, typed⟩ := knows
  refine ⟨found, nodeProfile, ?_, valid, typed⟩
  rw [Cache.read_delete_ne cache (by simp), cached]

/-- An edge that is to be written is held afterwards, and an event about it is
sent to the peer if the output filter chooses the peer. -/
theorem worked_written (brings : BringsEdge kobj edgeRid bundle edgeProfile)
    (named : bundle.manifest.rid = .edge edgeRid)
    (untargeted : kobj.networkTargets = [])
    (sound : SoundCache node state.cache) {decided : NodeState}
    (same : decided.cache = state.cache)
    (clockReads : state.clockReads ≤ decided.clockReads)
    (ran : (settle node registry.handlers kobj).run state =
      (.ok (some (kobj.settled (state.cache.writeType kobj.rid) bundle)),
        decided)) :
    ∃ targets, EdgeTargets node kobj.source bundle.contents targets ∧
      (registry.worked kobj state).edgeView peer edgeRid =
        { held := some bundle
          queued := (decided.edgeView peer edgeRid).queued
          sent := (decided.edgeView peer edgeRid).sent ++
            if peer ∈ targets then
              [.fromBundle (state.cache.writeType kobj.rid) bundle]
            else [] } ∧
      Retains node peer state (registry.worked kobj state) := by
  have written : SoundCache node (state.cache.write bundle) := by
    apply sound.write
    rw [named]
    exact soundContents_edge ⟨edgeProfile, brings.validates⟩
  obtain ⟨rebuilt, targets, kept, chosen, processed⟩ :=
    process_edge_written registry brings named untargeted same
      written.valid ran
  have worked : registry.worked kobj state = rebuilt.sending
      (.fromBundle (state.cache.writeType kobj.rid) bundle) targets := by
    unfold Registry.worked
    rw [processed]
  have held : (state.cache.write bundle).read (.edge edgeRid) =
      some bundle := by
    rw [← named, Cache.read_write_self]
  refine ⟨targets, chosen, ?_, ?_⟩
  · rw [worked, NodeState.edgeView_sending named chosen.nodup,
      NodeState.edgeView_of_exceptGraph kept]
    simp only [NodeState.edgeView, held]
  · rw [worked]
    exact .of_rebuilt kept written (fun _ => knowsType_write named)
      clockReads _ targets

theorem worked_own (brings : BringsEdge kobj edgeRid bundle edgeProfile)
    (named : bundle.manifest.rid = .edge edgeRid)
    (untargeted : kobj.networkTargets = [])
    (sound : SoundCache node state.cache)
    (fresh : Fresh state.cache kobj.rid bundle.manifest)
    (internal : kobj.source = none)
    (ends : (edgeProfile.source = node.rid ∧ edgeProfile.target = peer) ∨
      (edgeProfile.source ≠ node.rid ∧ edgeProfile.target = node.rid ∧
        edgeProfile.source = peer)) :
    (registry.worked kobj state).edgeView peer edgeRid =
        { state.edgeView peer edgeRid with
          held := some bundle
          sent := (state.edgeView peer edgeRid).sent ++
            [.fromBundle (state.cache.writeType kobj.rid) bundle] } ∧
      Retains node peer state (registry.worked kobj state) := by
  have unasked : ¬AsksApproval node kobj edgeProfile :=
    fun asks => asks.1 internal
  obtain ⟨targets, chosen, view, retains⟩ :=
    registry.worked_written brings named untargeted sound rfl (Nat.le_refl _)
      (settle_edge_passes registry brings fresh unasked)
  obtain ⟨outgoing, incoming⟩ :=
    chosen.otherEnd internal edgeProfile brings.validates
  have targeted : peer ∈ targets := by
    rcases ends with ⟨source, target⟩ | ⟨source, target, other⟩
    · rw [← target]
      exact outgoing source
    · rw [← other]
      exact incoming source target
  refine ⟨?_, retains⟩
  rw [view, if_pos targeted]

/-- A peer's edge that is not proposed to this node is written. -/
theorem worked_received (brings : BringsEdge kobj edgeRid bundle edgeProfile)
    (named : bundle.manifest.rid = .edge edgeRid)
    (untargeted : kobj.networkTargets = [])
    (sound : SoundCache node state.cache)
    (fresh : Fresh state.cache kobj.rid bundle.manifest)
    (sender : kobj.source = some peer)
    (unasked : ¬AsksApproval node kobj edgeProfile) :
    (registry.worked kobj state).edgeView peer edgeRid =
        { state.edgeView peer edgeRid with held := some bundle } ∧
      Retains node peer state (registry.worked kobj state) := by
  obtain ⟨targets, chosen, view, retains⟩ :=
    registry.worked_written brings named untargeted sound rfl (Nat.le_refl _)
      (settle_edge_passes registry brings fresh unasked)
  refine ⟨?_, retains⟩
  rw [view, if_neg (chosen.notSource peer sender), List.append_nil]

section Asked

variable {peerBundle : Bundle} {peerProfile : NodeProfile}

/-- A proposal this node agrees to is written, and its approval queued. -/
theorem worked_approved (brings : BringsEdge kobj edgeRid bundle edgeProfile)
    (named : bundle.manifest.rid = .edge edgeRid)
    (untargeted : kobj.networkTargets = [])
    (sound : SoundCache node state.cache)
    (fresh : Fresh state.cache kobj.rid bundle.manifest)
    (sender : kobj.source = some peer)
    (asked : AsksApproval node kobj edgeProfile) (typed : kobj.isTyped)
    (known : state.cache.read (.node edgeProfile.target) = some peerBundle)
    (valid : NodeProfile.modelValidate peerBundle.contents = some peerProfile)
    (agreed : EdgeNegotiationHandler.abort node edgeProfile peerProfile =
      false) :
    (registry.worked kobj state).edgeView peer edgeRid =
        { state.edgeView peer edgeRid with
          held := some bundle
          queued := (state.edgeView peer edgeRid).queued ++
            [.fromBundle
              (EdgeNegotiationHandler.approval node (.edge edgeRid)
                edgeProfile state.clockReads)
              (some .update) none] } ∧
      Retains node peer state (registry.worked kobj state) := by
  have ran := settle_edge_asked registry brings fresh asked typed known valid
  rw [agreed, if_neg (by simp)] at ran
  let approval := KnowledgeObject.fromBundle
    (EdgeNegotiationHandler.approval node kobj.rid edgeProfile
      state.clockReads) (some .update) none
  let pushed := state.withQueue (state.kobjQueue ++ [approval])
  obtain ⟨targets, chosen, view, retains⟩ :=
    registry.worked_written brings named untargeted sound
      (show { pushed with clockReads := state.clockReads + 1 }.cache =
        state.cache from rfl)
      (Nat.le_succ _) ran
  refine ⟨?_, retains⟩
  have queued : (pushed.edgeView peer edgeRid).queued =
      (state.edgeView peer edgeRid).queued ++ [approval] := by
    rw [NodeState.edgeView_push, if_pos (show approval.rid = _ from
      brings.isEdge)]
  have notTargeted := chosen.notSource peer sender
  rw [view, if_neg notTargeted, List.append_nil, ← brings.isEdge]
  change ({ held := _, queued := (pushed.edgeView peer edgeRid).queued
            sent := _ } : EdgeView) = _
  rw [queued]
  rfl

/-- A proposal this node does not agree to is answered with a FORGET event. -/
theorem worked_refused (brings : BringsEdge kobj edgeRid bundle edgeProfile)
    (fresh : Fresh state.cache kobj.rid bundle.manifest)
    (asked : AsksApproval node kobj edgeProfile) (typed : kobj.isTyped)
    (known : state.cache.read (.node edgeProfile.target) = some peerBundle)
    (valid : NodeProfile.modelValidate peerBundle.contents = some peerProfile)
    (refused : EdgeNegotiationHandler.abort node edgeProfile peerProfile =
      true)
    (toPeer : edgeProfile.target = peer) :
    (registry.worked kobj state).edgeView peer edgeRid =
        { state.edgeView peer edgeRid with
          sent := (state.edgeView peer edgeRid).sent ++
            [.fromRid .forget (.edge edgeRid)] } ∧
      Retains node peer state (registry.worked kobj state) := by
  have ran := settle_edge_asked registry brings fresh asked typed known valid
  rw [refused, if_pos rfl, brings.isEdge, toPeer] at ran
  have worked : registry.worked kobj state =
      state.sending (.fromRid .forget (.edge edgeRid)) [peer] := by
    unfold Registry.worked process
    rw [Effect.run_bind_of_ok ran]
    rfl
  rw [worked]
  refine ⟨?_, .of_same rfl (Nat.le_refl _)⟩
  rw [NodeState.edgeView_sending rfl (List.nodup_singleton peer),
    if_pos (List.mem_singleton_self peer)]

end Asked

/-- A peer's FORGET object deletes the edge. -/
theorem worked_forgotten (isEdge : kobj.rid = .edge edgeRid)
    (untargeted : kobj.networkTargets = [])
    (forget : kobj.eventType = some .forget)
    (sound : SoundCache node state.cache)
    (cached : state.cache.read (.edge edgeRid) = some bundle)
    (sender : kobj.source = some peer) :
    (registry.worked kobj state).edgeView peer edgeRid =
        { state.edgeView peer edgeRid with held := none } ∧
      Retains node peer state (registry.worked kobj state) := by
  obtain ⟨edgeProfile, valid⟩ := sound.edges edgeRid bundle cached
  have deleted : SoundCache node (state.cache.delete kobj.rid) :=
    sound.delete (by rw [isEdge]; simp)
  obtain ⟨rebuilt, targets, kept, chosen, processed⟩ :=
    process_edge_forgotten registry isEdge untargeted forget
      (by rw [isEdge, cached]) valid deleted.valid
  have worked : registry.worked kobj state =
      rebuilt.sending (.fromRid .forget kobj.rid) targets := by
    unfold Registry.worked
    rw [processed]
  rw [worked]
  constructor
  · rw [NodeState.edgeView_sending isEdge chosen.nodup,
      NodeState.edgeView_of_exceptGraph kept,
      if_neg (chosen.notSource peer sender), List.append_nil, isEdge]
    simp only [NodeState.edgeView, Cache.read_delete_self]
  · refine .of_rebuilt kept deleted (fun _ known => ?_) (Nat.le_refl _) _
      targets
    rw [isEdge]
    exact knowsType_delete known

end Registry

end KoiNet
