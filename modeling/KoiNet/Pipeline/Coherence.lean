import KoiNet.Foundation.Execution
import KoiNet.Pipeline.Neighbors

/-!
# The graph follows the cache

The graph is rebuilt after every change of a node or an edge, and nothing else
touches it.  As long as the objects that are processed name their own RIDs, no
change goes by without a rebuild.
-/

namespace KoiNet

open Foundation

/-- The nodes of the graph are the cached ones and the ends of the cached
edges, and it joins the sources of the cached edges to their targets. -/
structure Mirrors (state : NodeState) : Prop where
  nodes : ∀ nodeRid, nodeRid ∈ state.dg.nodes ↔
    state.cache.exists (.node nodeRid) = true ∨
      ∃ edgeRid profile, state.cache.edgeProfile edgeRid = some profile ∧
        (profile.source = nodeRid ∨ profile.target = nodeRid)
  edges : ∀ source target, (source, target) ∈ state.dg.edges.keys ↔
    ∃ edgeRid profile, state.cache.edgeProfile edgeRid = some profile ∧
      profile.source = source ∧ profile.target = target

theorem graphOf_mirrors (node : Node) (state : NodeState)
    (rebuilt : state.dg = graphOf node state.cache) : Mirrors state := by
  constructor
  · intro nodeRid
    rw [rebuilt]
    exact mem_graphOf_iff
  · intro source target
    have joined : (source, target) ∈ state.dg.edges.keys ↔
        edgeBetween node state.cache source target ≠ none := by
      rw [← getEdgeData_graphOf, ← rebuilt, Dict.mem_keys_iff,
        Option.ne_none_iff_exists']
      rfl
    rw [joined]
    constructor
    · intro named
      obtain ⟨edgeRid, between⟩ := Option.ne_none_iff_exists'.mp named
      exact ⟨edgeRid, edgeBetween_joins between⟩
    · rintro ⟨edgeRid, profile, found, rfl, rfl⟩
      exact edgeBetween_ne_none found

section Rebuild

variable {node : Node}

/-- A loop over the listed RIDs that returns has read every edge. -/
theorem forEach_addRid_reads {rids : List RID} {state after : NodeState}
    (returned : (Effect.forEach rids NetworkGraph.addRid).run state =
      (.ok (), after))
    {edgeRid : KoiNetEdge} {bundle : Bundle} (listed : .edge edgeRid ∈ rids)
    (cached : state.cache.read (.edge edgeRid) = some bundle) :
    IsEdgeProfile bundle.contents := by
  induction rids generalizing state with
  | nil => cases listed
  | cons rid rids induction =>
      obtain ⟨_, between, first, rest⟩ :=
        Effect.run_bind_eq_ok_iff.mp returned
      rcases List.mem_cons.mp listed with rfl | later
      · cases validated : EdgeProfile.modelValidate bundle.contents with
        | some profile => exact ⟨profile, validated⟩
        | none =>
            simp [NetworkGraph.addRid, cached, Effect.run_bind,
              validateContents_run, validated] at first
      · have kept : (Frame.unchanged NodeState.cache).rel state
            ((NetworkGraph.addRid rid).run state).2 :=
          KnowledgePipeline.addRid_keeps (fun _ _ => rfl) rid state
        rw [first] at kept
        have kept : between.cache = state.cache := kept
        exact induction rest later (by rw [kept]; exact cached)

/-- Where the graph is rebuilt without an exception, it is the one of the
cache. -/
theorem generate_returned {state after : NodeState}
    (returned : (NetworkGraph.generate node).run state = (.ok (), after)) :
    state.cache.ReadableEdges ∧
      after = { state with dg := graphOf node state.cache } := by
  have readable : state.cache.ReadableEdges := by
    intro edgeRid bundle cached
    have listed : RID.edge edgeRid ∈
        state.cache.listRids node.listdir.order [] :=
      Cache.mem_listRids_all.mpr (Cache.exists_of_read cached)
    exact forEach_addRid_reads returned listed cached
  refine ⟨readable, ?_⟩
  cases (generate_run readable).symm.trans returned
  rfl

end Rebuild

/-- What peers answer to a fetch of an RID is about that RID. -/
structure AnswersNameRids (node : Node) : Prop where
  manifests : ∀ state peer rid payload,
    Answers node state peer .fetchManifests ({ rids := [rid] } : FetchManifests)
      payload →
    ∀ manifest ∈ payload.manifests, manifest.rid = rid
  bundles : ∀ state peer rid payload,
    Answers node state peer .fetchBundles ({ rids := [rid] } : FetchBundles)
      payload →
    ∀ bundle ∈ payload.bundles, bundle.manifest.rid = rid

/-- The manifest of the object, if it has one, names the object's RID. -/
def NamesItself (kobj : KnowledgeObject) : Prop :=
  ∀ manifest, kobj.manifest = some manifest → manifest.rid = kobj.rid

section Naming

variable {node : Node} {state : NodeState} {kobj : KnowledgeObject}
  {manifest : Manifest} {bundle : Bundle}

theorem Offered.names (answers : AnswersNameRids node)
    (names : NamesItself kobj)
    (offered : Offered node state kobj manifest bundle) :
    manifest.rid = kobj.rid ∧ bundle.manifest.rid = kobj.rid := by
  obtain ⟨between, after, announced, carried⟩ := offered
  have announcedNames : manifest.rid = kobj.rid := by
    cases announced with
    | own _ present => exact names manifest present
    | fetched peer payload _ others _ _ answered listed =>
        exact answers.manifests _ _ _ _ answered manifest (by simp [listed])
  refine ⟨announcedNames, ?_⟩
  cases carried with
  | own contents _ _ => exact announcedNames
  | fetched peer payload _ others _ _ answered listed =>
      exact answers.bundles _ _ _ _ answered bundle (by simp [listed])

end Naming

/-- The graph mirrors the cache, and every cached edge can be read. -/
structure Coherent (state : NodeState) : Prop extends Mirrors state where
  readable : state.cache.ReadableEdges

theorem Coherent.of_same {before after : NodeState} (coherent : Coherent before)
    (cache : after.cache = before.cache) (dg : after.dg = before.dg) :
    Coherent after := by
  obtain ⟨⟨nodes, edges⟩, readable⟩ := coherent
  rw [← cache, ← dg] at nodes edges
  rw [← cache] at readable
  exact ⟨⟨nodes, edges⟩, readable⟩

/-- A change of an entry that is neither a node nor an edge does not show in
the graph. -/
theorem Coherent.of_elsewhere {before after : NodeState}
    (coherent : Coherent before) (dg : after.dg = before.dg)
    (nodes : ∀ nodeRid, after.cache.entry (.node nodeRid) =
      before.cache.entry (.node nodeRid))
    (edges : ∀ edgeRid, after.cache.read (.edge edgeRid) =
      before.cache.read (.edge edgeRid)) :
    Coherent after := by
  have present : ∀ nodeRid, after.cache.exists (.node nodeRid) =
      before.cache.exists (.node nodeRid) :=
    fun nodeRid => congrArg Option.isSome (nodes nodeRid)
  have profiles : ∀ edgeRid, after.cache.edgeProfile edgeRid =
      before.cache.edgeProfile edgeRid := by
    intro edgeRid
    unfold Cache.edgeProfile
    rw [edges]
  refine ⟨⟨?_, ?_⟩, ?_⟩
  · simp only [dg, present, profiles]
    exact coherent.nodes
  · simp only [dg, profiles]
    exact coherent.edges
  · intro edgeRid bundle cached
    rw [edges] at cached
    exact coherent.readable edgeRid bundle cached

namespace KnowledgePipeline

variable {node : Node} (registry : Registry node) {kobj : KnowledgeObject}
  {state rebuilt : NodeState}

theorem broadcast_stable (kobj : KnowledgeObject) :
    (stableFrame node).Keeps (broadcast kobj) := by
  unfold broadcast
  refine Frame.keeps_forEach (fun target => ?_) _
  apply Frame.keeps_bind (Frame.keeps_ofExcept _)
  intro event
  exact Frame.keeps_modify fun state =>
    { Enqueues.of_same rfl rfl with dg := rfl }

theorem publish_stable
    (ran : (regenerate node kobj).run state = (.ok (), rebuilt)) :
    Stable node rebuilt
      ((publish node registry.handlers kobj).run state).2 := by
  unfold publish
  rw [Effect.run_bind_of_ok ran]
  refine Frame.keeps_bind (registry.chain_stable .network kobj)
    (fun passed => ?_) rebuilt
  split
  · exact Frame.keeps_pure ()
  · apply Frame.keeps_bind (broadcast_stable _)
    intro _
    exact Frame.keeps_bind (registry.chain_stable .final _)
      fun _ => Frame.keeps_pure ()

/-- Publishing a node or an edge returns only if the graph could be rebuilt. -/
theorem publish_rebuilds {after : NodeState}
    (graphed : kobj.rid.type = .koiNetNode ∨ kobj.rid.type = .koiNetEdge)
    (returned : (publish node registry.handlers kobj).run state =
      (.ok (), after)) :
    state.cache.ReadableEdges := by
  obtain ⟨_, rebuilt, regenerated, _⟩ :=
    Effect.run_bind_eq_ok_iff.mp returned
  unfold regenerate at regenerated
  rw [if_pos graphed] at regenerated
  exact (generate_returned regenerated).1

theorem publish_coherent
    (graphed : kobj.rid.type = .koiNetNode ∨ kobj.rid.type = .koiNetEdge)
    (readable : state.cache.ReadableEdges) :
    Coherent ((publish node registry.handlers kobj).run state).2 := by
  have ran : (regenerate node kobj).run state =
      (.ok (), { state with dg := graphOf node state.cache }) := by
    unfold regenerate
    rw [if_pos graphed]
    exact generate_run readable
  have stable := publish_stable registry ran
  have rebuilt : Coherent { state with dg := graphOf node state.cache } :=
    ⟨graphOf_mirrors node _ rfl, readable⟩
  exact rebuilt.of_same stable.cache stable.dg

theorem publish_elsewhere (kobj : KnowledgeObject)
    (elsewhere : ¬(kobj.rid.type = .koiNetNode ∨
      kobj.rid.type = .koiNetEdge)) (state : NodeState) :
    Stable node state ((publish node registry.handlers kobj).run state).2 := by
  have ran : (regenerate node kobj).run state = (.ok (), state) := by
    unfold regenerate
    rw [if_neg elsewhere]
    rfl
  exact publish_stable registry ran

/-- An object about an edge only arrives with an edge profile. -/
def BringsEdgeProfile (node : Node) (state : NodeState)
    (kobj : KnowledgeObject) : Prop :=
  ∀ manifest bundle edgeRid, Arrives node state kobj manifest bundle →
    kobj.rid = .edge edgeRid → IsEdgeProfile bundle.contents

theorem process_coherent_of_arrives (coherent : Coherent state)
    {manifest : Manifest} {bundle : Bundle}
    (arrives : Arrives node state kobj manifest bundle)
    (named : bundle.manifest.rid = kobj.rid)
    (ends : ((process node registry.handlers kobj).run state).1 = .ok () ∨
      BringsEdgeProfile node state kobj) :
    Coherent ((process node registry.handlers kobj).run state).2 := by
  obtain ⟨settled, stable, ran⟩ := process_of_arrives registry arrives
  rw [ran] at ends ⊢
  let written : NodeState :=
    { settled with cache := state.cache.write bundle }
  let final := applied state.cache
    (kobj.settled (state.cache.writeType kobj.rid) bundle)
  have sameRid : final.rid = kobj.rid := applied_rid _ _
  by_cases graphed : kobj.rid.type = .koiNetNode ∨
      kobj.rid.type = .koiNetEdge
  · rw [← sameRid] at graphed
    suffices readable : written.cache.ReadableEdges from
      publish_coherent registry graphed readable
    rcases ends with returned | brings
    · have ran : (publish node registry.handlers final).run written =
          (.ok (), _) := Prod.ext returned rfl
      exact publish_rebuilds registry graphed ran
    · intro edgeRid cachedBundle cached
      rcases Cache.read_of_write cached with ⟨isEdge, rfl⟩ | earlier
      · exact brings manifest cachedBundle edgeRid arrives
          (named.symm.trans isEdge.symm)
      · exact coherent.readable edgeRid cachedBundle earlier
  · have kept : Stable node written
        ((publish node registry.handlers final).run written).2 :=
      publish_elsewhere registry final (by rw [sameRid]; exact graphed) written
    refine coherent.of_elsewhere (kept.dg.trans stable.dg) ?_ ?_
    · intro nodeRid
      rw [kept.cache]
      change (state.cache.write bundle).entry _ = _
      rw [Cache.entry_write, if_neg]
      intro isNode
      rw [← isNode.trans named] at graphed
      exact graphed (.inl rfl)
    · intro edgeRid
      rw [kept.cache]
      apply Cache.read_write_ne
      intro isEdge
      rw [← isEdge.trans named] at graphed
      exact graphed (.inr rfl)

theorem process_coherent_of_deletes (coherent : Coherent state)
    {bundle : Bundle} (deletes : Deletes node state kobj bundle) :
    Coherent ((process node registry.handlers kobj).run state).2 := by
  rw [process_of_deletes registry deletes]
  let deleted : NodeState :=
    { state with cache := state.cache.delete kobj.rid }
  by_cases graphed : kobj.rid.type = .koiNetNode ∨
      kobj.rid.type = .koiNetEdge
  · have readable : deleted.cache.ReadableEdges :=
      fun edgeRid bundle cached =>
        coherent.readable edgeRid bundle (Cache.read_of_delete cached)
    have graphed : (kobj.settled .forget bundle).rid.type = .koiNetNode ∨
        (kobj.settled .forget bundle).rid.type = .koiNetEdge := graphed
    exact publish_coherent registry graphed readable
  · have kept : Stable node deleted ((publish node registry.handlers
        (kobj.settled .forget bundle)).run deleted).2 :=
      publish_elsewhere registry (kobj.settled .forget bundle) graphed deleted
    refine coherent.of_elsewhere kept.dg ?_ ?_
    · intro nodeRid
      rw [kept.cache]
      change (state.cache.delete kobj.rid).entry _ = _
      rw [Cache.entry_delete, if_neg]
      intro isNode
      rw [← isNode] at graphed
      exact graphed (.inl rfl)
    · intro edgeRid
      rw [kept.cache]
      apply Cache.read_delete_ne
      intro isEdge
      rw [← isEdge] at graphed
      exact graphed (.inr rfl)

/-- A call that returns, or whose edges are edge profiles, leaves the graph
coherent. -/
theorem process_coherent (coherent : Coherent state)
    (named : ∀ manifest bundle, Arrives node state kobj manifest bundle →
      bundle.manifest.rid = kobj.rid)
    (ends : ((process node registry.handlers kobj).run state).1 = .ok () ∨
      BringsEdgeProfile node state kobj) :
    Coherent ((process node registry.handlers kobj).run state).2 := by
  by_cases arrives : ∃ manifest bundle,
      Arrives node state kobj manifest bundle
  · obtain ⟨manifest, bundle, arrives⟩ := arrives
    exact process_coherent_of_arrives registry coherent arrives
      (named manifest bundle arrives) ends
  · by_cases deletes : ∃ bundle, Deletes node state kobj bundle
    · obtain ⟨bundle, deletes⟩ := deletes
      exact process_coherent_of_deletes registry coherent deletes
    · obtain ⟨result, settled, stable, _, ran⟩ := process_of_neither registry
        (fun manifest bundle found => arrives ⟨manifest, bundle, found⟩)
        (fun bundle found => deletes ⟨bundle, found⟩)
      rw [ran]
      exact coherent.of_same stable.cache stable.dg

end KnowledgePipeline

/-- A call of `process` for an object that names itself, which returns or
whose edges are edge profiles; or a step of another component, which leaves
the cache and the graph alone. -/
inductive GraphStep {node : Node} (registry : Registry node) :
    NodeState → NodeState → Prop where
  | returned (state next : NodeState) (kobj : KnowledgeObject) :
      NamesItself kobj →
      (KnowledgePipeline.process node registry.handlers kobj).run state =
        (.ok (), next) →
      GraphStep registry state next
  | raised (state next : NodeState) (kobj : KnowledgeObject)
      (failure : Exc) :
      NamesItself kobj →
      KnowledgePipeline.BringsEdgeProfile node state kobj →
      (KnowledgePipeline.process node registry.handlers kobj).run state =
        (.error failure, next) →
      GraphStep registry state next
  | elsewhere (state next : NodeState) :
      next.cache = state.cache → next.dg = state.dg →
      GraphStep registry state next

theorem Coherent.step {node : Node} {registry : Registry node}
    (answers : AnswersNameRids node) {state next : NodeState}
    (coherent : Coherent state) (step : GraphStep registry state next) :
    Coherent next := by
  cases step with
  | returned kobj names ran =>
      have kept := KnowledgePipeline.process_coherent registry coherent
        (fun _ _ arrives => (arrives.offered.names answers names).2)
        (.inl (congrArg Prod.fst ran))
      rw [ran] at kept
      exact kept
  | raised kobj failure names brings ran =>
      have kept := KnowledgePipeline.process_coherent registry coherent
        (fun _ _ arrives => (arrives.offered.names answers names).2)
        (.inr brings)
      rw [ran] at kept
      exact kept
  | elsewhere cache dg => exact coherent.of_same cache dg

/-- From a generated graph, every run keeps the graph in agreement with the
cache. -/
theorem mirrors_of_run {node : Node} (registry : Registry node)
    (answers : AnswersNameRids node) {start first last : NodeState}
    (generated : (NetworkGraph.generate node).run start = (.ok (), first))
    (run : Run (GraphStep registry) first last) :
    Mirrors last := by
  obtain ⟨readable, rebuilt⟩ := generate_returned generated
  subst rebuilt
  have initial : Coherent
      { start with dg := graphOf node start.cache } :=
    ⟨graphOf_mirrors node _ rfl, readable⟩
  exact (run.invariant (fun coherent step => coherent.step answers step)
    initial).toMirrors

theorem answersNameRids_isolated (config : KoiNetConfig)
    (sha256Hash : String → String) (sha256HashJson : Contents → String) :
    AnswersNameRids (.isolated config sha256Hash sha256HashJson) := by
  have silent := unanswered_isolated config sha256Hash sha256HashJson
  exact ⟨fun _ _ _ _ answers => absurd answers (silent _ _ _ _ _),
    fun _ _ _ _ answers => absurd answers (silent _ _ _ _ _)⟩

/-- An edge of the standalone node, as the node itself queues it. -/
def ownEdge : KnowledgeObject :=
  .fromBundle
    (edgeEntry { id := "edge" } (edgeTo { name := "peer", hash := "key" }
      .proposed)) none none

theorem mirrors_of_run_ownEdge :
    Mirrors ((KnowledgePipeline.process .standalone
      (Registry.listed .standalone).handlers ownEdge).run
        (.fresh .empty)).2 := by
  have names : NamesItself ownEdge := by
    intro manifest present
    cases present
    rfl
  have processed : GraphStep (Registry.listed .standalone) (.fresh .empty)
      ((KnowledgePipeline.process .standalone
        (Registry.listed .standalone).handlers ownEdge).run
          (.fresh .empty)).2 :=
    .returned _ _ ownEdge names rfl
  exact mirrors_of_run (Registry.listed .standalone)
    (answersNameRids_isolated _ _ _)
    (show (NetworkGraph.generate .standalone).run (.fresh .empty) =
      (.ok (), .fresh .empty) from rfl)
    (.tail (.refl _) processed)

end KoiNet
