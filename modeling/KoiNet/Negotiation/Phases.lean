import KoiNet.Negotiation.Parties

/-!
# The phases of an edge negotiation

The subscriber writes its proposal and sends it; the provider writes it and
queues an approval, or answers with a FORGET event; the approval is written
and sent back.  Each hop tests the manifest against the edge that is held, so
a clock that lags behind can end the negotiation early.
-/

namespace KoiNet

open Foundation KnowledgePipeline

/-- The manifest test against the edge that is held. -/
def NewerThan (held : Option Bundle) (manifest : Manifest) : Prop :=
  ∀ previous, held = some previous →
    BasicManifestHandler.isNewer manifest previous.manifest = true

namespace Negotiation

variable (negotiation : Negotiation)

/-- The proposed types are provided, and the edge is no webhook to a partial
node. -/
def Acceptable (edgeProfile : EdgeProfile) : Prop :=
  (∀ ridType ∈ edgeProfile.ridTypes,
    ridType ∈ EdgeNegotiationHandler.providedEvents negotiation.provider) ∧
  ¬(edgeProfile.edgeType = .webhook ∧
    negotiation.subscriber.profile.nodeType = .partialNode)

/-- A proposed edge from the provider to the subscriber. -/
structure Proposes (proposal : Bundle) (edgeProfile : EdgeProfile) :
    Prop where
  named : proposal.manifest.rid = .edge negotiation.edgeRid
  contents : proposal.contents = edgeProfile.modelDump
  source : edgeProfile.source = negotiation.provider.rid
  target : edgeProfile.target = negotiation.subscriber.rid
  status : edgeProfile.status = .proposed

/-- The approval the provider generates at this reading of its clock. -/
def approval (edgeProfile : EdgeProfile) (clockReads : Nat) : Bundle :=
  EdgeNegotiationHandler.approval negotiation.provider
    (.edge negotiation.edgeRid) edgeProfile clockReads

/-- An event as it is queued at the subscriber. -/
def atSubscriber (event : Event) : KnowledgeObject :=
  .fromEvent event (some negotiation.provider.rid)

/-- An event as it is queued at the provider. -/
def atProvider (event : Event) : KnowledgeObject :=
  .fromEvent event (some negotiation.subscriber.rid)

section Phases

variable (old : Option Bundle) (proposal : Bundle)
  (edgeProfile : EdgeProfile) (start : Nat)

/-- How far the negotiation has got, as the subscriber and the provider see
the edge.  Both held `old` when it began, and the provider had read its clock
`start` times. -/
inductive Phase : EdgeView → EdgeView → Prop where
  | proposed :
      Phase
        { held := old
          queued := [.fromBundle proposal none none]
          sent := [] }
        { held := old, queued := [], sent := [] }
  | dropped :
      ¬NewerThan old proposal.manifest →
      Phase
        { held := old, queued := [], sent := [] }
        { held := old, queued := [], sent := [] }
  | offered (eventType : EventType) :
      NewerThan old proposal.manifest → eventType ≠ .forget →
      Phase
        { held := some proposal
          queued := []
          sent := [.fromBundle eventType proposal] }
        { held := old, queued := [], sent := [] }
  | received (eventType : EventType) :
      NewerThan old proposal.manifest → eventType ≠ .forget →
      Phase
        { held := some proposal, queued := [], sent := [] }
        { held := old
          queued :=
            [negotiation.atProvider (.fromBundle eventType proposal)]
          sent := [] }
  | refused :
      ¬negotiation.Acceptable edgeProfile →
      Phase
        { held := some proposal, queued := [], sent := [] }
        { held := old
          queued := []
          sent := [.fromRid .forget (.edge negotiation.edgeRid)] }
  | recalled :
      ¬negotiation.Acceptable edgeProfile →
      Phase
        { held := some proposal
          queued := [negotiation.atSubscriber
            (.fromRid .forget (.edge negotiation.edgeRid))]
          sent := [] }
        { held := old, queued := [], sent := [] }
  | withdrawn :
      ¬negotiation.Acceptable edgeProfile →
      Phase
        { held := none, queued := [], sent := [] }
        { held := old, queued := [], sent := [] }
  | approved (clockReads : Nat) :
      start ≤ clockReads →
      Phase
        { held := some proposal, queued := [], sent := [] }
        { held := some proposal
          queued := [.fromBundle (negotiation.approval edgeProfile clockReads)
            (some .update) none]
          sent := [] }
  | unratified (clockReads : Nat) :
      start ≤ clockReads →
      ¬NewerThan (some proposal)
        (negotiation.approval edgeProfile clockReads).manifest →
      Phase
        { held := some proposal, queued := [], sent := [] }
        { held := some proposal, queued := [], sent := [] }
  | ratified (clockReads : Nat) (eventType : EventType) :
      NewerThan (some proposal)
        (negotiation.approval edgeProfile clockReads).manifest →
      eventType ≠ .forget →
      Phase
        { held := some proposal, queued := [], sent := [] }
        { held := some (negotiation.approval edgeProfile clockReads)
          queued := []
          sent := [.fromBundle eventType
            (negotiation.approval edgeProfile clockReads)] }
  | returned (clockReads : Nat) (eventType : EventType) :
      NewerThan (some proposal)
        (negotiation.approval edgeProfile clockReads).manifest →
      eventType ≠ .forget →
      Phase
        { held := some proposal
          queued := [negotiation.atSubscriber (.fromBundle eventType
            (negotiation.approval edgeProfile clockReads))]
          sent := [] }
        { held := some (negotiation.approval edgeProfile clockReads)
          queued := []
          sent := [] }
  | agreed (clockReads : Nat) :
      Phase
        { held := some (negotiation.approval edgeProfile clockReads)
          queued := []
          sent := [] }
        { held := some (negotiation.approval edgeProfile clockReads)
          queued := []
          sent := [] }

end Phases

end Negotiation

theorem Cache.writeType_ne_forget (cache : Cache) (rid : RID) :
    cache.writeType rid ≠ .forget := by
  unfold Cache.writeType
  split <;> simp

theorem EventType.typed_of_ne_forget {eventType : EventType}
    (notForget : eventType ≠ .forget) :
    some eventType = some EventType.new ∨
      some eventType = some EventType.update := by
  cases eventType with
  | new => exact .inl rfl
  | update => exact .inr rfl
  | forget => exact (notForget rfl).elim

theorem brings_fromEvent {edgeRid : KoiNetEdge} {bundle : Bundle}
    {edgeProfile : EdgeProfile} {eventType : EventType}
    (named : bundle.manifest.rid = .edge edgeRid)
    (contents : bundle.contents = edgeProfile.modelDump)
    (notForget : eventType ≠ .forget) (source : Option KoiNetNode) :
    BringsEdge (.fromEvent (.fromBundle eventType bundle) source) edgeRid
      bundle edgeProfile :=
  { isEdge := named
    hasManifest := rfl
    hasContents := rfl
    profile := contents
    notForget := fun forget => notForget (Option.some.inj forget) }

theorem brings_fromBundle {edgeRid : KoiNetEdge} {bundle : Bundle}
    {edgeProfile : EdgeProfile} {eventType : Option EventType}
    (named : bundle.manifest.rid = .edge edgeRid)
    (contents : bundle.contents = edgeProfile.modelDump)
    (notForget : eventType ≠ some .forget) :
    BringsEdge (.fromBundle bundle eventType none) edgeRid bundle
      edgeProfile :=
  { isEdge := named
    hasManifest := rfl
    hasContents := rfl
    profile := contents
    notForget := notForget }

theorem fresh_iff_newerThan {cache : Cache} {rid : RID}
    {held : Option Bundle} {manifest : Manifest}
    (cached : cache.read rid = held) :
    Fresh cache rid manifest ↔ NewerThan held manifest := by
  subst cached
  exact Iff.rfl

namespace Negotiation

variable {negotiation : Negotiation} {old : Option Bundle}
  {proposal : Bundle} {edgeProfile : EdgeProfile} {start : Nat}

namespace Phase

/-- The subscriber processes the object about the edge that it has just taken
from its queue. -/
theorem subscriber_works (proposes : negotiation.Proposes proposal edgeProfile)
    {popped : NodeState} {kobj : KnowledgeObject} {view providerView : EdgeView}
    (viewed : popped.edgeView negotiation.provider.rid negotiation.edgeRid =
      view)
    (sound : SoundCache negotiation.subscriber popped.cache)
    (phase : negotiation.Phase old proposal edgeProfile start
      { view with queued := kobj :: view.queued } providerView) :
    negotiation.Phase old proposal edgeProfile start
        ((negotiation.subscriberHandlers.worked kobj popped).edgeView
          negotiation.provider.rid negotiation.edgeRid)
        providerView ∧
      Retains negotiation.subscriber negotiation.provider.rid popped
        (negotiation.subscriberHandlers.worked kobj popped) := by
  obtain ⟨held, queued, sent⟩ := view
  have cached : popped.cache.read (.edge negotiation.edgeRid) = held :=
    congrArg EdgeView.held viewed
  have otherEnd : edgeProfile.source ≠ negotiation.subscriber.rid := by
    rw [proposes.source]
    exact negotiation.different.symm
  cases phase with
  | proposed =>
      let kobj := KnowledgeObject.fromBundle proposal none none
      have brings : BringsEdge kobj negotiation.edgeRid proposal edgeProfile :=
        brings_fromBundle proposes.named proposes.contents (by simp)
      have fresh : Fresh popped.cache kobj.rid proposal.manifest ↔
          NewerThan held proposal.manifest :=
        fresh_iff_newerThan (by rw [brings.isEdge, cached])
      by_cases newer : NewerThan held proposal.manifest
      · obtain ⟨worked, retains⟩ :=
          negotiation.subscriberHandlers.worked_own brings proposes.named rfl
            sound (fresh.mpr newer) rfl
            (.inr ⟨otherEnd, proposes.target, proposes.source⟩)
        refine ⟨?_, retains⟩
        rw [worked, viewed]
        exact .offered _ newer (Cache.writeType_ne_forget _ _)
      · rw [negotiation.subscriberHandlers.worked_stale brings
          (fun isFresh => newer (fresh.mp isFresh)), viewed]
        exact ⟨.dropped newer, .of_same rfl (Nat.le_refl _)⟩
  | recalled unacceptable =>
      let kobj := negotiation.atSubscriber
        (.fromRid .forget (.edge negotiation.edgeRid))
      have isEdge : kobj.rid = .edge negotiation.edgeRid := rfl
      have sender : kobj.source = some negotiation.provider.rid := rfl
      obtain ⟨worked, retains⟩ :=
        negotiation.subscriberHandlers.worked_forgotten isEdge rfl rfl sound
          cached sender
      refine ⟨?_, retains⟩
      rw [worked, viewed]
      exact .withdrawn unacceptable
  | returned clockReads eventType newer notForget =>
      let approval := negotiation.approval edgeProfile clockReads
      let kobj := negotiation.atSubscriber (.fromBundle eventType approval)
      have named : approval.manifest.rid = .edge negotiation.edgeRid := rfl
      have brings : BringsEdge kobj negotiation.edgeRid approval
          { edgeProfile with status := .approved } :=
        brings_fromEvent named rfl notForget _
      have fresh : Fresh popped.cache kobj.rid approval.manifest :=
        (fresh_iff_newerThan cached).mpr newer
      have sender : kobj.source = some negotiation.provider.rid := rfl
      have unasked : ¬AsksApproval negotiation.subscriber kobj
          { edgeProfile with status := .approved } :=
        fun asks => otherEnd asks.2.1
      obtain ⟨worked, retains⟩ :=
        negotiation.subscriberHandlers.worked_received brings named rfl sound
          fresh sender unasked
      refine ⟨?_, retains⟩
      rw [worked, viewed]
      exact .agreed clockReads

theorem provider_works (proposes : negotiation.Proposes proposal edgeProfile)
    {popped : NodeState} {kobj : KnowledgeObject}
    {view subscriberView : EdgeView}
    (viewed : popped.edgeView negotiation.subscriber.rid negotiation.edgeRid =
      view)
    (sound : SoundCache negotiation.provider popped.cache)
    (known : KnowsType popped.cache negotiation.subscriber.rid
      negotiation.subscriber.profile.nodeType)
    (clockReads : start ≤ popped.clockReads)
    (phase : negotiation.Phase old proposal edgeProfile start subscriberView
      { view with queued := kobj :: view.queued }) :
    negotiation.Phase old proposal edgeProfile start subscriberView
        ((negotiation.providerHandlers.worked kobj popped).edgeView
          negotiation.subscriber.rid negotiation.edgeRid) ∧
      Retains negotiation.provider negotiation.subscriber.rid popped
        (negotiation.providerHandlers.worked kobj popped) := by
  obtain ⟨held, queued, sent⟩ := view
  have cached : popped.cache.read (.edge negotiation.edgeRid) = held :=
    congrArg EdgeView.held viewed
  cases phase with
  | received eventType newer notForget =>
      let kobj := negotiation.atProvider (.fromBundle eventType proposal)
      have brings : BringsEdge kobj negotiation.edgeRid proposal edgeProfile :=
        brings_fromEvent proposes.named proposes.contents notForget _
      have fresh : Fresh popped.cache kobj.rid proposal.manifest :=
        (fresh_iff_newerThan (by rw [brings.isEdge, cached])).mpr newer
      have asked : AsksApproval negotiation.provider kobj edgeProfile :=
        ⟨Option.some_ne_none _, proposes.source, proposes.status⟩
      have typed : kobj.isTyped := EventType.typed_of_ne_forget notForget
      obtain ⟨peerBundle, peerProfile, knownPeer, valid, nodeType⟩ := known
      rw [← proposes.target] at knownPeer
      have acceptable : EdgeNegotiationHandler.abort negotiation.provider
          edgeProfile peerProfile = false ↔
            negotiation.Acceptable edgeProfile := by
        rw [EdgeNegotiationHandler.abort_eq_false_iff, nodeType]
        rfl
      cases decided : EdgeNegotiationHandler.abort negotiation.provider
          edgeProfile peerProfile with
      | true =>
          obtain ⟨worked, retains⟩ :=
            negotiation.providerHandlers.worked_refused brings fresh asked
              typed knownPeer valid decided proposes.target
          refine ⟨?_, retains⟩
          rw [worked, viewed]
          refine .refused fun accepted => ?_
          cases decided.symm.trans (acceptable.mpr accepted)
      | false =>
          have sender : kobj.source = some negotiation.subscriber.rid := rfl
          obtain ⟨worked, retains⟩ :=
            negotiation.providerHandlers.worked_approved brings proposes.named
              rfl sound fresh sender asked typed knownPeer valid decided
          refine ⟨?_, retains⟩
          rw [worked, viewed]
          exact .approved popped.clockReads clockReads
  | approved clockReads later =>
      let approval := negotiation.approval edgeProfile clockReads
      let kobj := KnowledgeObject.fromBundle approval (some .update) none
      have named : approval.manifest.rid = .edge negotiation.edgeRid := rfl
      have brings : BringsEdge kobj negotiation.edgeRid approval
          { edgeProfile with status := .approved } :=
        brings_fromBundle named rfl (by simp)
      have fresh : Fresh popped.cache kobj.rid approval.manifest ↔
          NewerThan (some proposal) approval.manifest :=
        fresh_iff_newerThan cached
      by_cases newer : NewerThan (some proposal) approval.manifest
      · obtain ⟨worked, retains⟩ :=
          negotiation.providerHandlers.worked_own brings named rfl sound
            (fresh.mpr newer) rfl (.inl ⟨proposes.source, proposes.target⟩)
        refine ⟨?_, retains⟩
        rw [worked, viewed]
        exact .ratified clockReads _ newer (Cache.writeType_ne_forget _ _)
      · rw [negotiation.providerHandlers.worked_stale brings
          (fun isFresh => newer (fresh.mp isFresh)), viewed]
        exact ⟨.unratified clockReads later newer,
          .of_same rfl (Nat.le_refl _)⟩

theorem toProvider {event : Event} {view providerView : EdgeView}
    (phase : negotiation.Phase old proposal edgeProfile start
      { view with sent := event :: view.sent } providerView) :
    negotiation.Phase old proposal edgeProfile start view
      { providerView with
        queued := providerView.queued ++ [negotiation.atProvider event] } := by
  obtain ⟨held, queued, sent⟩ := view
  cases phase with
  | offered eventType newer notForget =>
      exact .received eventType newer notForget

theorem toSubscriber {event : Event} {view subscriberView : EdgeView}
    (phase : negotiation.Phase old proposal edgeProfile start subscriberView
      { view with sent := event :: view.sent }) :
    negotiation.Phase old proposal edgeProfile start
      { subscriberView with
        queued := subscriberView.queued ++ [negotiation.atSubscriber event] }
      view := by
  obtain ⟨held, queued, sent⟩ := view
  cases phase with
  | refused unacceptable => exact .recalled unacceptable
  | ratified clockReads eventType newer notForget =>
      exact .returned clockReads eventType newer notForget

end Phase

end Negotiation

end KoiNet
