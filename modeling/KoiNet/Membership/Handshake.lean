import KoiNet.Components.Handshaker
import KoiNet.Components.ResponseHandler
import KoiNet.Membership.Rejoining

/-!
# Accepting a handshake

The FORGET and the NEW event of a handshake are queued together.  The edges of
the forgotten node are still cached while its new profile is processed, so the
edge to propose is chosen in sight of edges that are about to go.
-/

namespace KoiNet

open Foundation KnowledgePipeline

/-- The objects that the target of a handshake queues. -/
def handshakeObjects (peer : KoiNetNode) (own : Bundle) :
    List KnowledgeObject :=
  (Handshaker.events peer own).map fun event => .fromEvent event (some peer)

theorem handshake_broadcast {node : Node} {own : Bundle} {state : NodeState}
    (cached : state.cache.read (.node node.rid) = some own)
    (target : KoiNetNode) :
    (Handshaker.handshakeWith node target).run state =
      (RequestHandler.broadcastEvents node target
        (Handshaker.events node.rid own)).run state := by
  unfold Handshaker.handshakeWith
  rw [Effect.run_get_bind, cached]

theorem handshake_accepted (peer : KoiNetNode) (own : Bundle)
    (state : EventWorkerState) :
    (ResponseHandler.broadcastEventsHandler
      { events := Handshaker.events peer own } peer).run state =
      (.ok (), EventWorkerState.nodePart.update
        (fun state => state.withQueue
          (state.kobjQueue ++ handshakeObjects peer own)) state) := by
  unfold ResponseHandler.broadcastEventsHandler
  rw [Part.run_within, KobjQueue.pushEach_run]
  rfl

section Settling

variable {node : Node} (registry : Registry node) {peer : KoiNetNode}
  {own : Bundle} {profile : NodeProfile} {state : NodeState}

/-- A full provider states a URL if an edge is proposed to it. -/
def Addressed (node : Node) (cache : Cache) (peer : KoiNetNode)
    (profile : NodeProfile) : Prop :=
  contactProposal node cache peer profile ≠ none → profile.baseUrl ≠ none

theorem Addressed.resolves {cache : Cache} (valid : ValidCache node cache)
    (cached : cache.nodeProfile peer = some profile)
    (addressed : Addressed node cache peer profile)
    (proposed : contactProposal node cache peer profile ≠ none) :
    Resolves node cache peer := by
  rcases resolves_or_unaddressed valid with resolves | unaddressed
  · exact resolves
  · obtain ⟨_, unset⟩ := (unaddressed_cached_iff cached).mp unaddressed
    exact (addressed proposed unset).elim

/-- What the FORGET object of a handshake queues. -/
def firstChores (node : Node) (state : NodeState) (peer : KoiNetNode) :
    List Chore :=
  match state.cache.nodeProfile peer with
  | none => []
  | some old => forgetFirst node state.cache state.clockReads peer old

/-- The state that the FORGET object of a handshake leaves. -/
structure Halfway (node : Node) (state : NodeState) (peer : KoiNetNode)
    (new : KnowledgeObject) (middle : NodeState) : Prop where
  cache : middle.cache = state.cache.forget (.node peer)
  queue : middle.kobjQueue =
    new :: (firstChores node state peer).map (Chore.kobj node)
  clockReads : middle.clockReads = state.clockReads +
    (firstChores node state peer).countP Chore.isProposal

namespace Halfway

variable {new : KnowledgeObject} {middle : NodeState}

theorem valid (halfway : Halfway node state peer new middle)
    (valid : ValidCache node state.cache) (other : peer ≠ node.rid) :
    ValidCache node middle.cache := by
  rw [halfway.cache]
  exact valid.forget_node other

theorem absent (halfway : Halfway node state peer new middle) :
    middle.cache.read (.node peer) = none := by
  rw [halfway.cache, Cache.read_forget, if_pos rfl]

end Halfway

end Settling

section Handshake

variable {node : Node} (registry : Registry node) {peer : KoiNetNode}
  {own : Bundle} {profile : NodeProfile} {state : NodeState}

section Locatable

variable (valid : ValidCache node state.cache)
  (queue : state.kobjQueue = handshakeObjects peer own)
  (validated : NodeProfile.modelValidate own.contents = some profile)
  (named : own.manifest.rid = .node peer) (other : peer ≠ node.rid)
  (answers : AnswersNoRids node peer)
  (locatable : ∀ old, state.cache.nodeProfile peer = some old →
    Locatable node state.cache peer old)

include valid queue validated named other answers locatable

end Locatable

section Admitted

variable (valid : ValidCache node state.cache)
  (queue : state.kobjQueue = handshakeObjects peer own)
  (validated : NodeProfile.modelValidate own.contents = some profile)
  (named : own.manifest.rid = .node peer) (other : peer ≠ node.rid)
  (admits : SecureProfileHandler.Admits node peer own.contents)
  (answers : AnswersNoRids node peer)
  (locatable : ∀ old, state.cache.nodeProfile peer = some old →
    Locatable node state.cache peer old)
  (addressed : Addressed node ((state.cache.forget (.node peer)).write own)
    peer profile)

include valid queue validated named other admits answers locatable addressed

end Admitted

end Handshake

/-- A standalone node that is answered when it asks for RIDs. -/
def Node.answered : Node :=
  { Node.standalone with
    answer := fun _ _ _ path _ =>
      if asked : path = .fetchRids then
        asked ▸ .received (.ok ({ rids := [] } : RidsPayload))
      else .unreachable }

end KoiNet
