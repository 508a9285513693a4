import KoiNet.Negotiation.Parties
import KoiNet.Pipeline.Convergence
import KoiNet.Pipeline.Documents

/-!
# Documents do not disturb a negotiation

An object about an RID that the protocol itself does not handle rebuilds no
graph and reaches no handler that queues an object; it can only change the
entry of its RID and send events about it.  So a worker may process versions
of documents, and forget documents, while an edge is being negotiated.
-/

namespace KoiNet

open Foundation Frame

namespace NodeState

variable {state : NodeState} {peer : KoiNetNode} {edgeRid : KoiNetEdge}

theorem edgeView_sending_ne {event : Event} {targets : List KoiNetNode}
    (other : event.rid ≠ .edge edgeRid) :
    (state.sending event targets).edgeView peer edgeRid =
      state.edgeView peer edgeRid := by
  have skipped : (targets.map fun target =>
        ({ event, target } : QueuedEvent)).filter (fun queued =>
          queued.target = peer ∧ queued.event.rid = .edge edgeRid) = [] := by
    rw [List.filter_eq_nil_iff]
    intro queued member
    obtain ⟨target, _, rfl⟩ := List.mem_map.mp member
    simp [other]
  simp only [edgeView, sending, List.filter_append, skipped, List.append_nil]

end NodeState

/-- The entry of the RID may change, and events about it are sent. -/
inductive OnlyAbout (rid : RID) (state : NodeState) : NodeState → Prop where
  | nothing : OnlyAbout rid state state
  | published (cache : Cache) (event : Event) (targets : List KoiNetNode) :
      (∀ other, other ≠ rid → cache.read other = state.cache.read other) →
      event.rid = rid →
      OnlyAbout rid state ({ state with cache := cache }.sending event targets)

theorem OnlyAbout.elsewhere {node : Node} {peer : KoiNetNode}
    {edgeRid : KoiNetEdge} {context reference : String}
    {before after : NodeState}
    (only : OnlyAbout (.other context reference) before after) :
    Elsewhere node peer edgeRid before after := by
  cases only with
  | nothing =>
      exact { Retains.of_same rfl (Nat.le_refl _) with view := rfl }
  | published cache event targets same about =>
      have nodes : ∀ nodeRid,
          cache.read (.node nodeRid) = before.cache.read (.node nodeRid) :=
        fun nodeRid => same _ (by simp)
      have edges : ∀ edgeRid,
          cache.read (.edge edgeRid) = before.cache.read (.edge edgeRid) :=
        fun edgeRid => same _ (by simp)
      refine
        { sound := ?_
          knows := ?_
          clockReads := Nat.le_refl _
          view := ?_ }
      · intro sound
        refine
          { own := ?_
            nodes := ?_
            edges := ?_ }
        · change cache.read _ ≠ none
          rw [nodes]
          exact sound.own
        · intro nodeRid bundle cached
          exact sound.nodes nodeRid bundle ((nodes nodeRid).symm.trans cached)
        · intro edgeRid bundle cached
          exact sound.edges edgeRid bundle ((edges edgeRid).symm.trans cached)
      · rintro nodeType ⟨bundle, nodeProfile, cached, valid, typed⟩
        exact ⟨bundle, nodeProfile, (nodes peer).trans cached, valid, typed⟩
      · rw [NodeState.edgeView_sending_ne (by rw [about]; simp)]
        unfold NodeState.edgeView
        rw [edges]

namespace KnowledgePipeline

variable {node : Node} (registry : Registry node)

section Documents

variable {state : NodeState} {kobj : KnowledgeObject}
  {context reference : String}

/-- Processing a version of a document concerns only the document. -/
theorem process_version {bundle : Bundle}
    (version : IsVersion context reference bundle)
    (brings : BringsVersion bundle kobj) :
    OnlyAbout kobj.rid state
      ((process node registry.handlers kobj).run state).2 := by
  have isDocument : kobj.rid = .other context reference :=
    brings.rid.trans version.rid
  have passes : PassesRid node kobj := by
    rintro ⟨own, _⟩
    cases isDocument.symm.trans own
  by_cases fresh : Fresh state.cache kobj.rid bundle.manifest
  · have ran := settle_document registry isDocument passes brings.notForget
      (.own _ brings.manifest) fresh
      (.own _ brings.contents version.nonempty)
    obtain ⟨event, targets, about, processed⟩ :=
      process_document_written registry isDocument brings.rid.symm ran
    rw [processed]
    apply OnlyAbout.published
    · intro other different
      rw [Cache.read_write_ne _ _ (by rw [← brings.rid]; exact different)]
    · exact about
  · rw [process_of_stale registry passes brings.notForget brings.manifest
      fresh]
    exact .nothing

theorem process_document_forgotten
    (isDocument : kobj.rid = .other context reference)
    (forget : kobj.eventType = some .forget) :
    OnlyAbout kobj.rid state
      ((process node registry.handlers kobj).run state).2 := by
  have passes : PassesRid node kobj := by
    rintro ⟨own, _⟩
    cases isDocument.symm.trans own
  cases cached : state.cache.read kobj.rid with
  | none =>
      have ran := settle_forget registry passes forget state
      rw [cached] at ran
      unfold process
      rw [Effect.run_bind_of_ok ran]
      exact .nothing
  | some bundle =>
      have deletes : Deletes node state kobj bundle :=
        { passes := passes
          forget := forget
          cached := cached }
      have named : (kobj.settled .forget bundle).rid =
          .other context reference := isDocument
      have made : (kobj.settled .forget bundle).normalizedEvent =
          .ok (.fromRid .forget kobj.rid) := rfl
      obtain ⟨result, targets, published, _⟩ :=
        publish_document registry named made
        { state with cache := state.cache.delete kobj.rid }
      rw [process_of_deletes registry deletes, published]
      apply OnlyAbout.published
      · intro other different
        rw [Cache.read_delete_ne _ different]
      · rfl

end Documents

end KnowledgePipeline

section Undisturbed

variable {node : Node} (registry : Registry node) (peer : KoiNetNode)
  (edgeRid : KoiNetEdge) (state : NodeState) {kobj : KnowledgeObject}
  {context reference : String}

/-- Versions of documents can be processed while an edge is negotiated. -/
theorem undisturbed_version {bundle : Bundle}
    (version : IsVersion context reference bundle)
    (brings : BringsVersion bundle kobj) :
    Undisturbed registry peer edgeRid state kobj := by
  intro _
  have only : OnlyAbout kobj.rid state (registry.worked kobj state) :=
    KnowledgePipeline.process_version registry version brings
  rw [brings.rid, version.rid] at only
  exact only.elsewhere

theorem undisturbed_document_forgotten
    (isDocument : kobj.rid = .other context reference)
    (forget : kobj.eventType = some .forget) :
    Undisturbed registry peer edgeRid state kobj := by
  intro _
  have only : OnlyAbout kobj.rid state (registry.worked kobj state) :=
    KnowledgePipeline.process_document_forgotten registry isDocument forget
  rw [isDocument] at only
  exact only.elsewhere

end Undisturbed

end KoiNet
