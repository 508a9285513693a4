import KoiNet.Pipeline.WorkerSafety

/-!
# Runs that keep the cache valid

What other nodes' objects have written is valid, and this node queues nothing
of its own that would make the cache invalid.  Then every state of a run from
a valid cache has one, also where an exception has ended the worker.
-/

namespace KoiNet

open Foundation

/-- What another node's object has written is valid. -/
def WellFormed (node : Node) (state : NodeState) (kobj : KnowledgeObject) :
    Prop :=
  kobj.source ≠ none → ∀ manifest bundle,
    Arrives node state kobj manifest bundle →
    ValidContents bundle.manifest.rid bundle.contents

/-- An object this node has queued for itself. -/
structure Honest (node : Node) (kobj : KnowledgeObject) : Prop where
  keepsOwn : kobj.eventType = some .forget → kobj.rid ≠ .node node.rid
  contents : ∀ manifest contents, kobj.manifest = some manifest →
    kobj.contents = some contents → ValidContents manifest.rid contents

/-- A valid cache, and no object of this node's own that could change that. -/
structure Recoverable (node : Node) (state : NodeState) : Prop where
  cache : ValidCache node state.cache
  queue : ∀ kobj ∈ state.kobjQueue, kobj.source = none → Honest node kobj

section Runs

variable {node : Node} {registry : Registry node} {state : NodeState}

theorem Trusted.honest {kobj : KnowledgeObject}
    (trusted : Trusted node kobj) : Honest node kobj := by
  refine { keepsOwn := trusted.keepsOwn, contents := ?_ }
  intro manifest contents hasManifest hasContents
  obtain ⟨named, sound, _⟩ :=
    trusted.contents manifest contents hasManifest hasContents
  rw [named]
  refine ⟨fun nodeRid isNode => ?_, sound.2⟩
  obtain ⟨profile, validated, _⟩ := sound.1 nodeRid isNode
  exact ⟨profile, validated⟩

theorem ValidCache.process {kobj : KnowledgeObject}
    (valid : ValidCache node state.cache)
    (wellFormed : WellFormed node state kobj)
    (honest : kobj.source = none → Honest node kobj) :
    ValidCache node ((KnowledgePipeline.process node registry.handlers
      kobj).run state).2.cache := by
  have effect := KnowledgePipeline.process_cacheEffect registry kobj state
  generalize ((KnowledgePipeline.process node registry.handlers kobj).run
    state).2.cache = after at effect ⊢
  cases effect with
  | write manifest bundle arrives =>
      apply valid.write
      by_cases internal : kobj.source = none
      · obtain ⟨hasManifest, hasContents, same⟩ :=
          arrives.offered.of_internal internal
        rw [same]
        exact (honest internal).contents manifest _ hasManifest hasContents
      · exact wellFormed internal manifest bundle arrives
  | delete bundle deletes =>
      apply valid.delete
      intro own
      by_cases internal : kobj.source = none
      · exact (honest internal).keepsOwn deletes.forget own
      · exact deletes.passes ⟨own, internal⟩
  | nothing => exact valid

theorem Recoverable.step {after : NodeState}
    (recoverable : Recoverable node state)
    (step : QueueStep registry (WellFormed node) state after) :
    Recoverable node after := by
  cases step with
  | receive kobj external =>
      refine { cache := recoverable.cache, queue := ?_ }
      intro queued member internal
      rcases List.mem_append.mp member with old | new
      · exact recoverable.queue queued old internal
      · rw [List.mem_singleton.mp new] at internal
        exact (external internal).elim
  | work kobj rest queue allowed =>
      have valid : ValidCache node (state.withQueue rest).cache :=
        recoverable.cache
      have inQueue : ∀ other ∈ kobj :: rest, other.source = none →
          Honest node other := by
        rw [← queue]
        exact recoverable.queue
      refine
        { cache := valid.process allowed (inQueue kobj List.mem_cons_self)
          queue := ?_ }
      obtain ⟨early, late, grown, earlyQueued, lateQueued⟩ :=
        KnowledgePipeline.process_queue registry kobj (state.withQueue rest)
      intro queued member internal
      rw [grown] at member
      rcases List.mem_append.mp member with member | inLate
      · rcases List.mem_append.mp member with inRest | inEarly
        · exact inQueue queued (List.mem_cons_of_mem _ inRest) internal
        · exact ((earlyQueued queued inEarly).trusted internal).honest
      · exact ((lateQueued queued inLate).trusted internal).honest
  | other _ stable =>
      obtain ⟨added, grown, allowed⟩ := stable.queued
      refine { cache := ?_, queue := ?_ }
      · rw [stable.cache]
        exact recoverable.cache
      · intro queued member internal
        rw [grown] at member
        rcases List.mem_append.mp member with old | new
        · exact recoverable.queue queued old internal
        · exact ((allowed queued new).trusted internal).honest

end Runs

theorem recoverable_of_valid {node : Node} {cache : Cache}
    (valid : ValidCache node cache) : Recoverable node (.fresh cache) := by
  refine
    { cache := valid
      queue := ?_ }
  intro kobj member
  cases member

theorem validCache_fresh {node : Node} {own : Bundle}
    (named : own.manifest.rid = .node node.rid)
    (sound : SoundProfile own.contents) :
    ValidCache node (Cache.empty.write own) :=
  (operational_fresh named sound).cache.valid

theorem recoverable_fresh {node : Node} {own : Bundle}
    (named : own.manifest.rid = .node node.rid)
    (sound : SoundProfile own.contents) :
    Recoverable node (.fresh (Cache.empty.write own)) :=
  recoverable_of_valid (validCache_fresh named sound)

theorem recoverable_standalone : Recoverable .standalone .standalone :=
  recoverable_fresh rfl (fullProfile_sound _ _)

end KoiNet
