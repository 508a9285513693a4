import KoiNet.Pipeline.Coherence

/-!
# Edges that the graph has from this node

Whenever the graph is generated, also when that raises halfway, the cached
edges it names join the ends it names them for.  Afterwards the entry of an
edge may still be replaced without a change of the graph, by an object that
is not about the edge.  Unless such an object turns an edge around, what the
graph has from this node keeps leading away from it.
-/

namespace KoiNet

open Foundation

/-- The cached edges that the graph names join the ends it names them for. -/
def Labels (state : NodeState) : Prop :=
  ∀ source target edgeRid profile,
    state.dg.getEdgeData source target = some edgeRid →
    state.cache.edgeProfile edgeRid = some profile →
    profile.source = source ∧ profile.target = target

/-- No edge that the graph has from this node leads to it from another one. -/
def Outward (node : Node) (state : NodeState) : Prop :=
  ∀ target edgeRid profile,
    state.dg.getEdgeData node.rid target = some edgeRid →
    state.cache.edgeProfile edgeRid = some profile →
    profile.target = node.rid → profile.source = node.rid

theorem Labels.outward {state : NodeState} (labels : Labels state)
    (node : Node) : Outward node state :=
  fun target edgeRid profile named found _ =>
    (labels node.rid target edgeRid profile named found).1

theorem Outward.of_same {node : Node} {before after : NodeState}
    (outward : Outward node before) (cache : after.cache = before.cache)
    (dg : after.dg = before.dg) : Outward node after := by
  unfold Outward at *
  rw [cache, dg]
  exact outward

/-- The cache stays as it was, and so does that the edges are named for their
ends. -/
def labelsFrame : Frame NodeState :=
  { rel := fun before after =>
      after.cache = before.cache ∧ (Labels before → Labels after)
    refl := fun _ => ⟨rfl, id⟩
    trans := by
      intro first second third early late
      exact ⟨late.1.trans early.1, fun labels => late.2 (early.2 labels)⟩ }

theorem addNode_labels {state : NodeState} (labels : Labels state)
    (nodeRid : KoiNetNode) :
    Labels { state with dg := state.dg.addNode nodeRid } := by
  intro source target edgeRid profile named found
  exact labels source target edgeRid profile named found

theorem addEdge_labels {state : NodeState} (labels : Labels state)
    {edgeRid : KoiNetEdge} {profile : EdgeProfile}
    (cached : state.cache.edgeProfile edgeRid = some profile) :
    Labels { state with
      dg := state.dg.addEdge profile.source profile.target edgeRid } := by
  intro source target other found named read
  rw [DiGraph.getEdgeData_addEdge] at named
  split at named
  · rename_i ends
    cases named
    cases cached.symm.trans read
    cases ends
    exact ⟨rfl, rfl⟩
  · exact labels source target other found named read

theorem addRid_labels (rid : RID) :
    labelsFrame.Keeps (NetworkGraph.addRid rid) := by
  intro state
  unfold NetworkGraph.addRid
  cases rid with
  | node nodeRid => exact ⟨rfl, fun labels => addNode_labels labels nodeRid⟩
  | other context reference => exact labelsFrame.refl state
  | edge edgeRid =>
      dsimp only
      rw [Effect.run_get_bind]
      cases cached : state.cache.read (.edge edgeRid) with
      | none => exact labelsFrame.refl state
      | some bundle =>
          dsimp only
          rw [Effect.run_bind, validateContents_run]
          cases validated : EdgeProfile.modelValidate bundle.contents with
          | none => exact labelsFrame.refl state
          | some profile =>
              have found := Cache.edgeProfile_of_read cached validated
              exact ⟨rfl, fun labels => addEdge_labels labels found⟩

/-- A graph that was generated, even if this raised before all edges were
added, names edges for their ends. -/
theorem generate_labels (node : Node) (state : NodeState) :
    Labels ((NetworkGraph.generate node).run state).2 := by
  unfold NetworkGraph.generate Cache.list
  rw [Effect.run_modify_bind, Effect.run_bind_of_ok rfl]
  have empty : Labels { state with dg := DiGraph.empty } := by
    intro source target edgeRid profile named
    cases named
  exact (Frame.keeps_forEach addRid_labels _ _).2 empty

/-- An object that is about neither a node nor an edge does not turn around
an edge that the graph has from this node. -/
def KeepsOutward (node : Node) (state : NodeState)
    (kobj : KnowledgeObject) : Prop :=
  ∀ manifest bundle, Arrives node state kobj manifest bundle →
    ¬(kobj.rid.type = .koiNetNode ∨ kobj.rid.type = .koiNetEdge) →
    ∀ edgeRid target profile, bundle.manifest.rid = .edge edgeRid →
      state.dg.getEdgeData node.rid target = some edgeRid →
      EdgeProfile.modelValidate bundle.contents = some profile →
      profile.target = node.rid → profile.source = node.rid

namespace KnowledgePipeline

variable {node : Node} (registry : Registry node) {kobj : KnowledgeObject}
  {state : NodeState}

theorem publish_outward (outward : kobj.rid.type = .koiNetNode ∨
      kobj.rid.type = .koiNetEdge ∨ Outward node state) :
    Outward node ((publish node registry.handlers kobj).run state).2 := by
  by_cases graphed : kobj.rid.type = .koiNetNode ∨
      kobj.rid.type = .koiNetEdge
  · have labels := generate_labels node state
    have regenerates : regenerate node kobj = NetworkGraph.generate node := by
      unfold regenerate
      rw [if_pos graphed]
    cases ran : (NetworkGraph.generate node).run state with
    | mk result rebuilt =>
        rw [ran] at labels
        rw [← regenerates] at ran
        cases result with
        | ok value =>
            have stable := publish_stable registry ran
            exact (labels.outward node).of_same stable.cache stable.dg
        | error failure =>
            unfold publish
            rw [Effect.run_bind_of_error ran]
            exact labels.outward node
  · have outward : Outward node state := by
      rcases outward with isNode | isEdge | outward
      · exact absurd (.inl isNode) graphed
      · exact absurd (.inr isEdge) graphed
      · exact outward
    have stable := publish_elsewhere registry kobj graphed state
    exact outward.of_same stable.cache stable.dg

/-- The written bundle leaves the edges from this node outward, unless the
graph is generated anyway. -/
theorem written_outward (outward : Outward node state)
    (keeps : KeepsOutward node state kobj) {manifest : Manifest}
    {bundle : Bundle} (arrives : Arrives node state kobj manifest bundle)
    {written : NodeState} (cache : written.cache = state.cache.write bundle)
    (dg : written.dg = state.dg) :
    kobj.rid.type = .koiNetNode ∨ kobj.rid.type = .koiNetEdge ∨
      Outward node written := by
  by_cases graphed : kobj.rid.type = .koiNetNode ∨
      kobj.rid.type = .koiNetEdge
  · rcases graphed with isNode | isEdge
    · exact .inl isNode
    · exact .inr (.inl isEdge)
  · refine .inr (.inr ?_)
    intro target edgeRid profile named found towards
    rw [dg] at named
    rw [cache] at found
    obtain ⟨read, cached, validated⟩ := Cache.edgeProfile_eq_some_iff.mp found
    rcases Cache.read_of_write cached with ⟨isEdge, rfl⟩ | earlier
    · exact keeps manifest read arrives graphed edgeRid target profile
        isEdge.symm named validated towards
    · exact outward target edgeRid profile named
        (Cache.edgeProfile_of_read earlier validated) towards

theorem deleted_outward (outward : Outward node state) (rid : RID) :
    Outward node { state with cache := state.cache.delete rid } := by
  intro target edgeRid profile named found towards
  obtain ⟨bundle, cached, validated⟩ := Cache.edgeProfile_eq_some_iff.mp found
  have earlier := Cache.read_of_delete cached
  exact outward target edgeRid profile named
    (Cache.edgeProfile_of_read earlier validated) towards

theorem process_outward (outward : Outward node state)
    (keeps : KeepsOutward node state kobj) :
    Outward node ((process node registry.handlers kobj).run state).2 := by
  by_cases arrives : ∃ manifest bundle,
      Arrives node state kobj manifest bundle
  · obtain ⟨manifest, bundle, arrives⟩ := arrives
    obtain ⟨settled, stable, ran⟩ := process_of_arrives registry arrives
    rw [ran]
    apply publish_outward
    rw [applied_rid]
    exact written_outward outward keeps arrives rfl stable.dg
  · by_cases deletes : ∃ bundle, Deletes node state kobj bundle
    · obtain ⟨bundle, deletes⟩ := deletes
      rw [process_of_deletes registry deletes]
      apply publish_outward
      exact .inr (.inr (deleted_outward outward kobj.rid))
    · obtain ⟨result, settled, stable, _, ran⟩ := process_of_neither registry
        (fun manifest bundle found => arrives ⟨manifest, bundle, found⟩)
        (fun bundle found => deletes ⟨bundle, found⟩)
      rw [ran]
      exact outward.of_same stable.cache stable.dg

end KnowledgePipeline

/-- What happens to the cache and the graph: an object that is allowed in the
state it is processed in is processed, the graph is generated, or another
component works, which leaves both alone. -/
inductive NetworkStep {node : Node} (registry : Registry node)
    (allowed : NodeState → KnowledgeObject → Prop) :
    NodeState → NodeState → Prop where
  | work (state : NodeState) (kobj : KnowledgeObject) :
      allowed state kobj →
      NetworkStep registry allowed state
        ((KnowledgePipeline.process node registry.handlers kobj).run state).2
  | start (state : NodeState) :
      NetworkStep registry allowed state
        ((NetworkGraph.start node).run state).2
  | other (before after : NodeState) :
      after.cache = before.cache → after.dg = before.dg →
      NetworkStep registry allowed before after

theorem Outward.step {node : Node} {registry : Registry node}
    {state next : NodeState} (outward : Outward node state)
    (step : NetworkStep registry (KeepsOutward node) state next) :
    Outward node next := by
  cases step with
  | work kobj keeps =>
      exact KnowledgePipeline.process_outward registry outward keeps
  | start => exact (generate_labels node state).outward node
  | other _ cache dg => exact outward.of_same cache dg

/-- From a graph that has yet to be generated, whatever is cached, the edges
the graph has from this node stay outward. -/
theorem outward_of_run {node : Node} {registry : Registry node}
    {first last : NodeState} (ungenerated : first.dg = DiGraph.empty)
    (run : Run (NetworkStep registry (KeepsOutward node)) first last) :
    Outward node last := by
  have initial : Outward node first := by
    intro target edgeRid profile named
    rw [ungenerated] at named
    cases named
  exact run.invariant (fun outward step => outward.step step) initial

end KoiNet
