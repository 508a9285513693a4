import KoiNet.Negotiation.EdgeBroadcast
import KoiNet.Pipeline.WorkerSafety

/-!
# Objects about documents

An object about an RID that the protocol itself does not handle passes the
Bundle chain, rebuilds no graph and reaches no handler that queues an object.
-/

namespace KoiNet

open Foundation Frame

namespace KnowledgePipeline

variable {node : Node} (registry : Registry node)

section Publish

variable {kobj : KnowledgeObject} {context reference : String}

theorem notNode_of_document (isDocument : kobj.rid = .other context reference) :
    kobj.rid.type ≠ .koiNetNode := by
  rw [isDocument]
  simp [RID.type]

theorem regenerate_document (isDocument : kobj.rid = .other context reference)
    (state : NodeState) :
    (regenerate node kobj).run state = (.ok (), state) := by
  unfold regenerate
  rw [isDocument]
  simp [RID.type]

/-- Publishing a document at most sends one event to some nodes, and returns
if the output filter does. -/
theorem publish_document {event : Event}
    (isDocument : kobj.rid = .other context reference)
    (made : kobj.normalizedEvent = .ok event) (state : NodeState) :
    ∃ result targets, (publish node registry.handlers kobj).run state =
        (result, state.sending event targets) ∧
      ((∃ response, ((BasicNetworkOutputFilter.handle node kobj).run state).1 =
        .ok response) → result = .ok ()) := by
  have notNode := notNode_of_document isDocument
  have regenerated : (regenerate node kobj).run state = (.ok (), state) :=
    regenerate_document isDocument state
  have kept : (unchanged id).Keeps
      (BasicNetworkOutputFilter.handle node kobj) :=
    basicNetworkOutputFilter_keeps kobj
  have unmoved := kept state
  generalize handled : (BasicNetworkOutputFilter.handle node kobj).run state =
    ended at unmoved ⊢
  obtain ⟨result, after⟩ := ended
  have same : after = state := unmoved
  subst same
  cases result with
  | error failure =>
      have stopped := networkChain_filters registry notNode (by simp) handled
      refine ⟨.error failure, [], ?_, ?_⟩
      · unfold publish
        rw [Effect.run_bind_of_ok regenerated, Effect.run_bind, stopped]
        simp [NodeState.sending, Except.map]
      · intro returned
        obtain ⟨response, returned⟩ := returned
        cases returned
  | ok response =>
      obtain ⟨targets, same⟩ := basicNetworkOutputFilter_response handled
      subst same
      have sameRid : ∀ changed, (.ok (.modified
          { kobj with networkTargets := targets }) :
            Except Exc HandlerResponse) = .ok (.modified changed) →
          changed.rid = kobj.rid := by
        intro changed modified
        cases modified
        rfl
      have passed := networkChain_filters registry notNode sameRid handled
      exact ⟨.ok (), targets,
        publish_targeted registry notNode regenerated passed made,
        fun _ => rfl⟩

end Publish

section Written

variable {state settled : NodeState} {kobj : KnowledgeObject} {bundle : Bundle}
  {context reference : String}

theorem settle_document (isDocument : kobj.rid = .other context reference)
    (passes : PassesRid node kobj) (notForget : kobj.eventType ≠ some .forget)
    {manifest : Manifest} {between : NodeState}
    (announced : Announced node kobj state manifest between)
    (fresh : Fresh state.cache kobj.rid manifest)
    (carried : Carried node kobj manifest between bundle settled) :
    (settle node registry.handlers kobj).run state =
      (.ok (some (kobj.settled (state.cache.writeType kobj.rid) bundle)),
        settled) := by
  have notHandled : ∀ type, type = .koiNetNode ∨ type = .koiNetEdge →
      kobj.rid.type ≠ type := by
    intro type handled
    rw [isDocument]
    rcases handled with node | edge
    · simp [node, RID.type]
    · simp [edge, RID.type]
  rw [settle_of_carried registry passes notForget announced fresh carried]
  apply registry.bundleChain_skips
  · exact fun typed => notHandled _ (.inl rfl) typed.1
  · exact fun typed => notHandled _ (.inr rfl) typed.1

/-- The event about a written document. -/
theorem applied_event (named : bundle.manifest.rid = kobj.rid)
    (cache : Cache) :
    (applied settled.cache
        (kobj.settled (cache.writeType kobj.rid) bundle)).normalizedEvent =
      .ok (.fromBundle (cache.writeType kobj.rid) bundle) := by
  obtain ⟨previous, updated⟩ := applied_eq settled.cache
    (kobj.settled (cache.writeType kobj.rid) bundle)
  rw [updated]
  exact settled_event named cache kobj.rid

/-- A document that is to be written is written, and at most one event about
it is sent to some nodes. -/
theorem process_document_written
    (isDocument : kobj.rid = .other context reference)
    (named : bundle.manifest.rid = kobj.rid)
    (ran : (settle node registry.handlers kobj).run state =
      (.ok (some (kobj.settled (state.cache.writeType kobj.rid) bundle)),
        settled)) :
    ∃ event targets, event.rid = kobj.rid ∧
      ((process node registry.handlers kobj).run state).2 =
        { settled with cache := settled.cache.write bundle }.sending event
          targets := by
  have about := (applied_rid settled.cache (kobj.settled
    (state.cache.writeType kobj.rid) bundle)).trans isDocument
  rw [process_of_settled registry ran]
  obtain ⟨result, targets, published, _⟩ := publish_document registry about
    (applied_event named state.cache)
    { settled with cache := settled.cache.write bundle }
  exact ⟨_, targets, named, congrArg Prod.snd published⟩

theorem publish_document_returns {contents : Contents}
    (isDocument : kobj.rid = .other context reference)
    (publishable : Publishable kobj contents)
    (valid : ValidCache node state.cache)
    (graph : SoundGraph node state.cache state.dg) :
    ((publish node registry.handlers kobj).run state).1 = .ok () := by
  obtain ⟨response, after, filtered, _⟩ :=
    basicNetworkOutputFilter_completes valid graph publishable state ⟨rfl, rfl⟩
  obtain ⟨eventType, chosen⟩ :=
    Option.ne_none_iff_exists'.mp publishable.normalized
  obtain ⟨event, made⟩ := KnowledgeObject.normalizedEvent_of_some chosen
  obtain ⟨result, targets, published, returns⟩ :=
    publish_document registry isDocument made state
  rw [published]
  exact returns ⟨response, congrArg Prod.fst filtered⟩

theorem process_document_returns
    (isDocument : kobj.rid = .other context reference)
    (named : bundle.manifest.rid = .other context reference)
    (ran : (settle node registry.handlers kobj).run state =
      (.ok (some (kobj.settled (state.cache.writeType kobj.rid) bundle)),
        settled))
    (valid : ValidCache node settled.cache)
    (graph : SoundGraph node settled.cache settled.dg) :
    ((process node registry.handlers kobj).run state).1 = .ok () := by
  have contents : ValidContents bundle.manifest.rid bundle.contents := by
    rw [named]
    constructor
    · intro nodeRid isNode
      cases isNode
    · intro edgeRid isEdge
      cases isEdge
  let written := kobj.settled (state.cache.writeType kobj.rid) bundle
  have writtenDocument : written.rid = .other context reference := isDocument
  have about := (applied_rid settled.cache written).trans writtenDocument
  have publishable : Publishable written bundle.contents := by
    apply settled_publishable
    · intro nodeRid isNode
      cases isDocument.symm.trans isNode
    · intro _ edgeRid isEdge
      cases isDocument.symm.trans isEdge
  rw [process_of_settled registry ran]
  exact publish_document_returns registry about
    (applied_publishable publishable settled.cache) (valid.write contents)
    (graph.write bundle)

end Written

end KnowledgePipeline

end KoiNet
