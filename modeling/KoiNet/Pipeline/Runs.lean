import KoiNet.Foundation.Execution
import KoiNet.Pipeline.CacheEffect

/-!
# Runs of the pipeline

A `CacheStep` processes one knowledge object while the rest of the node, all
but its cache, is in an arbitrary state: between two objects the other
components may do whatever they like.  A `QueueStep` also follows the queue
that the worker takes the objects from.
-/

namespace KoiNet

open Foundation

/-- One object, allowed in the state it is processed in, is processed. -/
def CacheStep {node : Node} (registry : Registry node)
    (allowed : NodeState → KnowledgeObject → Prop) (kobj : KnowledgeObject)
    (before after : Cache) : Prop :=
  ∃ state : NodeState, state.cache = before ∧ allowed state kobj ∧
    after = ((KnowledgePipeline.process node registry.handlers kobj).run
      state).2.cache

/-- What happens to the cache and the queue: another node's object is queued,
the worker takes an object that is allowed in the state it is processed in,
or some other component works. -/
inductive QueueStep {node : Node} (registry : Registry node)
    (allowed : NodeState → KnowledgeObject → Prop) :
    NodeState → NodeState → Prop where
  | receive (state : NodeState) (kobj : KnowledgeObject) :
      kobj.source ≠ none →
      QueueStep registry allowed state
        (state.withQueue (state.kobjQueue ++ [kobj]))
  | work (state : NodeState) (kobj : KnowledgeObject)
      (rest : List KnowledgeObject) :
      state.kobjQueue = kobj :: rest →
      allowed (state.withQueue rest) kobj →
      QueueStep registry allowed state
        ((KnowledgePipeline.process node registry.handlers kobj).run
          (state.withQueue rest)).2
  | other (before after : NodeState) :
      Stable node before after →
      QueueStep registry allowed before after

theorem QueueStep.mono {node : Node} {registry : Registry node}
    {allowed weaker : NodeState → KnowledgeObject → Prop}
    {before after : NodeState} (step : QueueStep registry allowed before after)
    (included : ∀ state kobj, allowed state kobj → weaker state kobj) :
    QueueStep registry weaker before after := by
  cases step with
  | receive kobj external => exact .receive before kobj external
  | work kobj rest queue isAllowed =>
      exact .work before kobj rest queue (included _ kobj isAllowed)
  | other _ stable => exact .other before after stable

theorem CacheStep.effect {node : Node} {registry : Registry node}
    {allowed : NodeState → KnowledgeObject → Prop} {kobj : KnowledgeObject}
    {before after : Cache}
    (step : CacheStep registry allowed kobj before after) :
    ∃ state : NodeState, state.cache = before ∧ allowed state kobj ∧
      KnowledgePipeline.CacheEffect node state kobj after := by
  obtain ⟨state, cache, allowed, rfl⟩ := step
  exact ⟨state, cache, allowed,
    KnowledgePipeline.process_cacheEffect registry kobj state⟩

end KoiNet
