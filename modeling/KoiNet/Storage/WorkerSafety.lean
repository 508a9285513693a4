import KoiNet.Pipeline.WorkerSafety
import KoiNet.Storage.Processing

/-!
# Objects that cannot stop the worker

Over files that can fail, an object is processed without an exception if it
would be over ideal files, if deciding on it runs into no trouble, and if the
file of what it brings can be written and read back.
-/

namespace KoiNet

open Foundation KnowledgePipeline

theorem SoundCache.withFile {node : Node} {cache : Cache}
    (sound : SoundCache node cache) {rid : RID} {stored : Bundle}
    (contents : SoundContents rid stored.contents) :
    SoundCache node (cache.withFile rid (some stored)) := by
  constructor
  · rw [Cache.read_withFile]
    split
    · simp
    · exact sound.own
  · intro nodeRid found cached
    rw [Cache.read_withFile] at cached
    split at cached
    · rename_i named
      cases cached
      exact contents.1 nodeRid named.symm
    · exact sound.nodes nodeRid found cached
  · intro edgeRid found cached
    rw [Cache.read_withFile] at cached
    split at cached
    · rename_i named
      cases cached
      exact contents.2 edgeRid named.symm
    · exact sound.edges edgeRid found cached

theorem SoundGraph.withFile {node : Node} {cache : Cache}
    {dg : DiGraph KoiNetNode KoiNetEdge} (graph : SoundGraph node cache dg)
    (rid : RID) (stored : Bundle) :
    SoundGraph node (cache.withFile rid (some stored)) dg := by
  refine { graph with joined := ?_ }
  intro source target edgeRid joined
  rw [Cache.read_withFile]
  split
  · simp
  · exact graph.joined source target edgeRid joined

namespace Storage

/-- The files take the object: deciding on it runs into no trouble, and what
it brings is written and read back as sound as it was. -/
structure Storable (storage : Storage) (node : Node) (state : NodeState)
    (kobj : KnowledgeObject) : Prop where
  untroubled : ¬storage.Trouble node state kobj
  kept : ∀ manifest bundle, Arrives node state kobj manifest bundle →
    ∃ stored, storage.Kept bundle (some stored) ∧
      (SoundContents bundle.manifest.rid bundle.contents →
        SoundContents bundle.manifest.rid stored.contents)

/-- The steps of the queue over files that can fail. -/
inductive QueueStep (storage : Storage) (node : Node)
    (registration : Registration)
    (allowed : NodeState → KnowledgeObject → Prop) :
    NodeState → NodeState → Prop where
  | receive (state : NodeState) (kobj : KnowledgeObject) :
      kobj.source ≠ none →
      QueueStep storage node registration allowed state
        (state.withQueue (state.kobjQueue ++ [kobj]))
  | work (state : NodeState) (kobj : KnowledgeObject)
      (rest : List KnowledgeObject) :
      state.kobjQueue = kobj :: rest →
      allowed (state.withQueue rest) kobj →
      QueueStep storage node registration allowed state
        ((storage.process node (registration.stored storage node) kobj).run
          (state.withQueue rest)).2
  | other (before after : NodeState) :
      Stable node before after →
      QueueStep storage node registration allowed before after

variable {storage : Storage} {node : Node} {registration : Registration}
  {state : NodeState} {kobj : KnowledgeObject}

section Process

variable (registration)

/-- A harmless object that the files take and that does not forget this node
is processed without an exception, and leaves the cache and the graph sound;
what it queues is what the pipeline queues. -/
theorem process_returns (dependable : Dependable node)
    (sound : SoundCache node state.cache)
    (graph : SoundGraph node state.cache state.dg)
    (harmless : Harmless node state kobj)
    (storable : storage.Storable node state kobj)
    (keepsOwn : PassesRid node kobj → kobj.eventType = some .forget →
      kobj.rid ≠ .node node.rid) :
    ∃ after, (storage.process node (registration.stored storage node)
        kobj).run state = (.ok (), after) ∧
      SoundCache node after.cache ∧ SoundGraph node after.cache after.dg ∧
      ∃ early late, after.kobjQueue = state.kobjQueue ++ early ++ late ∧
        (∀ queued ∈ early, Queued node state.cache queued) ∧
        ∀ queued ∈ late, Queued node after.cache queued := by
  let registry := registration.registry node
  by_cases arrives : ∃ manifest bundle,
      Arrives node state kobj manifest bundle
  · obtain ⟨manifest, bundle, arrives⟩ := arrives
    obtain ⟨stored, kept, rereads⟩ := storable.kept manifest bundle arrives
    obtain ⟨settled, stable, ran⟩ := process_of_arrives registration
      storable.untroubled arrives kept
    obtain ⟨profile, edge⟩ := harmless.published manifest bundle arrives
    have written : SoundCache node
        (settled.withFile bundle.manifest.rid (some stored)).cache := by
      change SoundCache node (settled.cache.withFile _ _)
      rw [stable.cache]
      exact sound.withFile (rereads (harmless.written manifest bundle arrives))
    obtain ⟨_, after, returned, located, joined⟩ :=
      publish_completes registry dependable written
        (applied_publishable (settled_publishable profile edge) state.cache)
        (settled.withFile bundle.manifest.rid (some stored))
        ⟨rfl, fun _ => by
          change SoundGraph node (settled.cache.withFile _ _) settled.dg
          rw [stable.cache, stable.dg]
          exact graph.withFile _ _⟩
    have published := publish_enqueues registry
      (applied state.cache
        (kobj.settled (state.cache.writeType kobj.rid) bundle))
      (settled.withFile bundle.manifest.rid (some stored))
    rw [returned] at published
    obtain ⟨early, earlyQueue, earlyQueued⟩ := stable.queued
    obtain ⟨late, lateQueue, lateQueued⟩ := published.queued
    refine ⟨after, ran.trans returned, ?_, ?_, early, late, ?_, earlyQueued,
      ?_⟩
    · rw [located]
      exact written
    · rw [located]
      exact joined
    · rw [lateQueue]
      change settled.kobjQueue ++ late = _
      rw [earlyQueue]
    · rw [located]
      exact lateQueued
  · by_cases deletes : ∃ bundle, Deletes node state kobj bundle
    · obtain ⟨bundle, deletes⟩ := deletes
      have ran := process_of_deletes registration deletes
        (opened_of_deletes storable.untroubled deletes)
      have kept := sound.delete (keepsOwn deletes.passes deletes.forget)
      have publishable : Publishable (kobj.settled .forget bundle)
          bundle.contents := by
        apply settled_publishable
        · intro nodeRid named
          have cached := deletes.cached
          rw [named] at cached
          exact sound.nodes nodeRid bundle cached
        · intro _ edgeRid named
          have cached := deletes.cached
          rw [named] at cached
          exact sound.edges edgeRid bundle cached
      obtain ⟨_, after, returned, located, joined⟩ :=
        publish_completes registry dependable kept publishable
          { state with cache := state.cache.delete kobj.rid }
          ⟨rfl, fun named => by
            obtain ⟨context, reference, named⟩ := named
            change kobj.rid = _ at named
            rw [named]
            exact graph.delete⟩
      have published := publish_enqueues registry (kobj.settled .forget bundle)
        { state with cache := state.cache.delete kobj.rid }
      rw [returned] at published
      obtain ⟨late, lateQueue, lateQueued⟩ := published.queued
      refine ⟨after, ran.trans returned, ?_, ?_, [], late, ?_, by simp, ?_⟩
      · rw [located]
        exact kept
      · rw [located]
        exact joined
      · rw [lateQueue, List.append_nil]
      · rw [located]
        exact lateQueued
    · obtain ⟨result, settled, stable, decided, ran⟩ :=
        process_of_neither registration storable.untroubled
          (fun manifest bundle found => arrives ⟨manifest, bundle, found⟩)
          (fun bundle found => deletes ⟨bundle, found⟩)
      obtain ⟨found, after, returned⟩ :=
        settle_returns_of_harmless registry dependable sound harmless
      cases decided.symm.trans returned
      obtain ⟨early, earlyQueue, earlyQueued⟩ := stable.queued
      refine ⟨_, ran, ?_, ?_, early, [], ?_, earlyQueued, by simp⟩
      · rw [stable.cache]
        exact sound
      · rw [stable.cache, stable.dg]
        exact graph
      · rw [earlyQueue, List.append_nil]

/-- An object is processed without an exception if the files take it and, when
it comes from another node, it is harmless. -/
def Safe (storage : Storage) (node : Node) (state : NodeState)
    (kobj : KnowledgeObject) : Prop :=
  storage.Storable node state kobj ∧
    (kobj.source ≠ none → Harmless node state kobj)

theorem Operational.work (dependable : Dependable node)
    (operational : Operational node state) {rest : List KnowledgeObject}
    (queue : state.kobjQueue = kobj :: rest)
    (safe : storage.Safe node (state.withQueue rest) kobj) :
    ∃ after, (storage.process node (registration.stored storage node)
        kobj).run (state.withQueue rest) = (.ok (), after) ∧
      Operational node after := by
  have inQueue : kobj ∈ state.kobjQueue := by simp [queue]
  have harmless : Harmless node (state.withQueue rest) kobj := by
    by_cases internal : kobj.source = none
    · exact (operational.queue kobj inQueue internal).harmless internal _
    · exact safe.2 internal
  have keepsOwn : PassesRid node kobj → kobj.eventType = some .forget →
      kobj.rid ≠ .node node.rid := by
    intro passes forget own
    by_cases internal : kobj.source = none
    · exact (operational.queue kobj inQueue internal).keepsOwn forget own
    · exact passes ⟨own, internal⟩
  have cache : SoundCache node (state.withQueue rest).cache :=
    operational.cache
  obtain ⟨after, returned, cache, graph, early, late, grown, earlyQueued,
      lateQueued⟩ :=
    process_returns registration dependable cache operational.graph harmless
      safe.1 keepsOwn
  refine ⟨after, returned, cache, graph, ?_⟩
  intro queued member internal
  rw [grown] at member
  rcases List.mem_append.mp member with member | inLate
  · rcases List.mem_append.mp member with inRest | inEarly
    · rw [NodeState.withQueue_kobjQueue] at inRest
      exact operational.queue queued (by simp [queue, inRest]) internal
    · exact (earlyQueued queued inEarly).trusted internal
  · exact (lateQueued queued inLate).trusted internal

end Process

theorem Operational.step (dependable : Dependable node) {after : NodeState}
    (operational : Operational node state)
    (step : storage.QueueStep node registration (storage.Safe node) state
      after) :
    Operational node after := by
  cases step with
  | receive kobj external =>
      refine
        { cache := operational.cache
          graph := operational.graph
          queue := ?_ }
      intro queued member internal
      rcases List.mem_append.mp member with old | new
      · exact operational.queue queued old internal
      · rw [List.mem_singleton.mp new] at internal
        exact (external internal).elim
  | work kobj rest queue allowed =>
      obtain ⟨last, returned, kept⟩ :=
        Operational.work registration dependable operational queue allowed
      rw [returned]
      exact kept
  | other _ stable =>
      obtain ⟨added, grown, allowed⟩ := stable.queued
      refine { cache := ?_, graph := ?_, queue := ?_ }
      · rw [stable.cache]
        exact operational.cache
      · rw [stable.cache, stable.dg]
        exact operational.graph
      · intro queued member internal
        rw [grown] at member
        rcases List.mem_append.mp member with old | new
        · exact operational.queue queued old internal
        · exact (allowed queued new).trusted internal

end Storage

end KoiNet
