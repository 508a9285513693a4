import KoiNet.Pipeline.Soundness

/-!
# The graph as a function of the cache

Over a valid cache the graph is rebuilt as `graphOf`, which joins two nodes by
the edge between them that the directory lists last.  Asking it for the
providers of a type gives the sources of such edges to this node.
-/

namespace KoiNet

open Foundation

namespace Cache

variable (cache : Cache)

/-- The profile of a cached edge. -/
def edgeProfile (edgeRid : KoiNetEdge) : Option EdgeProfile := do
  let bundle ← cache.read (.edge edgeRid)
  EdgeProfile.modelValidate bundle.contents

/-- The contents of every cached edge are an edge profile. -/
def ReadableEdges : Prop :=
  ∀ edgeRid bundle, cache.read (.edge edgeRid) = some bundle →
    IsEdgeProfile bundle.contents

/-- What a listed RID adds to the graph. -/
def extend (dg : DiGraph KoiNetNode KoiNetEdge) :
    RID → DiGraph KoiNetNode KoiNetEdge
  | .node nodeRid => dg.addNode nodeRid
  | .edge edgeRid =>
      match cache.edgeProfile edgeRid with
      | some profile => dg.addEdge profile.source profile.target edgeRid
      | none => dg
  | .other _ _ => dg

/-- An RID of an edge from this source to this target. -/
def joining (source target : KoiNetNode) : RID → Option KoiNetEdge
  | .edge edgeRid =>
      match cache.edgeProfile edgeRid with
      | some profile =>
          if profile.source = source ∧ profile.target = target then
            some edgeRid
          else none
      | none => none
  | _ => none

variable {cache} {source target : KoiNetNode} {edgeRid : KoiNetEdge}
  {bundle : Bundle} {profile : EdgeProfile}

theorem edgeProfile_of_read (cached : cache.read (.edge edgeRid) = some bundle)
    (validated : EdgeProfile.modelValidate bundle.contents = some profile) :
    cache.edgeProfile edgeRid = some profile := by
  unfold edgeProfile
  rw [cached]
  exact validated

theorem edgeProfile_eq_some_iff :
    cache.edgeProfile edgeRid = some profile ↔
      ∃ bundle, cache.read (.edge edgeRid) = some bundle ∧
        EdgeProfile.modelValidate bundle.contents = some profile :=
  Option.bind_eq_some_iff

theorem joining_edge_iff {rid : RID} :
    cache.joining source target rid = some edgeRid ↔
      rid = .edge edgeRid ∧ ∃ profile,
        cache.edgeProfile edgeRid = some profile ∧
          profile.source = source ∧ profile.target = target := by
  cases rid with
  | node nodeRid => simp [joining]
  | other context reference => simp [joining]
  | edge other =>
      constructor
      · intro joined
        simp only [joining] at joined
        split at joined
        · rename_i profile found
          split at joined
          · rename_i ends
            cases joined
            exact ⟨rfl, profile, found, ends⟩
          · cases joined
        · cases joined
      · intro joins
        obtain ⟨same, profile, found, ends⟩ := joins
        cases same
        simp only [joining, found, if_pos ends]

end Cache

section Graph

variable (node : Node) (cache : Cache)

def graphOf : DiGraph KoiNetNode KoiNetEdge :=
  (cache.listRids node.listdir.order []).foldl cache.extend DiGraph.empty

/-- The edge that joins the two nodes in the graph. -/
def edgeBetween (source target : KoiNetNode) : Option KoiNetEdge :=
  ((cache.listRids node.listdir.order []).filterMap
    (cache.joining source target)).getLast?

variable {node cache}

theorem Cache.mem_listRids_all {rid : RID} :
    rid ∈ cache.listRids node.listdir.order [] ↔
      cache.exists rid = true := by
  rw [Cache.mem_listRids node.listdir.perm, Dict.mem_keys_iff]
  simp [Cache.exists, Option.isSome_iff_exists]

theorem Cache.exists_of_read {rid : RID} {bundle : Bundle}
    (cached : cache.read rid = some bundle) : cache.exists rid = true :=
  Option.isSome_iff_exists.mpr ⟨_, Cache.read_eq_some_iff.mp cached⟩

theorem getEdgeData_extend (dg : DiGraph KoiNetNode KoiNetEdge) (rid : RID)
    (source target : KoiNetNode) :
    (cache.extend dg rid).getEdgeData source target =
      (cache.joining source target rid).or (dg.getEdgeData source target) := by
  cases rid with
  | node nodeRid => rfl
  | other context reference => rfl
  | edge edgeRid =>
      simp only [Cache.extend, Cache.joining]
      cases cache.edgeProfile edgeRid with
      | none => rfl
      | some profile =>
          dsimp only
          rw [DiGraph.getEdgeData_addEdge]
          by_cases ends : profile.source = source ∧ profile.target = target
          · rw [if_pos ends, if_pos (by rw [ends.1, ends.2])]
            rfl
          · rw [if_neg ends, if_neg fun same => ends ?_]
            · rfl
            · cases same
              exact ⟨rfl, rfl⟩

theorem getEdgeData_foldl (rids : List RID)
    (dg : DiGraph KoiNetNode KoiNetEdge) (source target : KoiNetNode) :
    (rids.foldl cache.extend dg).getEdgeData source target =
      ((rids.filterMap (cache.joining source target)).getLast?).or
        (dg.getEdgeData source target) := by
  induction rids generalizing dg with
  | nil => rfl
  | cons rid rids induction =>
      rw [List.foldl_cons, induction, getEdgeData_extend]
      cases joined : cache.joining source target rid with
      | none => rw [List.filterMap_cons_none joined, Option.none_or]
      | some edgeRid =>
          rw [List.filterMap_cons_some joined, List.getLast?_cons]
          cases (rids.filterMap (cache.joining source target)).getLast? with
          | none => rfl
          | some later => rfl

theorem getEdgeData_graphOf (source target : KoiNetNode) :
    (graphOf node cache).getEdgeData source target =
      edgeBetween node cache source target := by
  unfold graphOf edgeBetween
  rw [getEdgeData_foldl]
  exact Option.or_none

theorem edgeBetween_joins {source target : KoiNetNode} {edgeRid : KoiNetEdge}
    (between : edgeBetween node cache source target = some edgeRid) :
    ∃ profile, cache.edgeProfile edgeRid = some profile ∧
      profile.source = source ∧ profile.target = target := by
  have member := List.mem_of_getLast? between
  obtain ⟨rid, _, joined⟩ := List.mem_filterMap.mp member
  exact (Cache.joining_edge_iff.mp joined).2

theorem edgeBetween_ne_none {edgeRid : KoiNetEdge} {profile : EdgeProfile}
    (cached : cache.edgeProfile edgeRid = some profile) :
    edgeBetween node cache profile.source profile.target ≠ none := by
  intro none
  have empty := List.getLast?_eq_none_iff.mp none
  obtain ⟨bundle, read, _⟩ := Cache.edgeProfile_eq_some_iff.mp cached
  have listed : RID.edge edgeRid ∈ cache.listRids node.listdir.order [] :=
    Cache.mem_listRids_all.mpr (Cache.exists_of_read read)
  have joined : cache.joining profile.source profile.target (.edge edgeRid) =
      some edgeRid :=
    Cache.joining_edge_iff.mpr ⟨rfl, profile, cached, rfl, rfl⟩
  have member := List.mem_filterMap.mpr ⟨_, listed, joined⟩
  rw [empty] at member
  cases member

/-- The nodes that a listed RID adds to the graph. -/
def Cache.Adds (cache : Cache) (rid : RID) (nodeRid : KoiNetNode) : Prop :=
  rid = .node nodeRid ∨ ∃ edgeRid profile, rid = .edge edgeRid ∧
    cache.edgeProfile edgeRid = some profile ∧
    (profile.source = nodeRid ∨ profile.target = nodeRid)

theorem mem_extend_iff {dg : DiGraph KoiNetNode KoiNetEdge} {rid : RID}
    {nodeRid : KoiNetNode} :
    nodeRid ∈ (cache.extend dg rid).nodes ↔
      nodeRid ∈ dg.nodes ∨ cache.Adds rid nodeRid := by
  unfold Cache.Adds
  cases rid with
  | node other =>
      simp only [Cache.extend, DiGraph.mem_addNode, RID.node.injEq,
        reduceCtorEq, false_and, exists_false, or_false]
      rw [or_comm, eq_comm]
  | other context reference => simp [Cache.extend]
  | edge edgeRid =>
      simp only [Cache.extend]
      cases found : cache.edgeProfile edgeRid with
      | none => simp [found]
      | some profile =>
          simp only [DiGraph.mem_addEdge, RID.edge.injEq, reduceCtorEq,
            false_or]
          constructor
          · intro member
            rcases member with rfl | rfl | known
            · exact .inr ⟨edgeRid, profile, rfl, found, .inr rfl⟩
            · exact .inr ⟨edgeRid, profile, rfl, found, .inl rfl⟩
            · exact .inl known
          · intro member
            rcases member with known | ⟨_, other, rfl, read, ends⟩
            · exact .inr (.inr known)
            · cases found.symm.trans read
              rcases ends with isSource | isTarget
              · exact .inr (.inl isSource.symm)
              · exact .inl isTarget.symm

theorem mem_foldl_nodes_iff {rids : List RID} {nodeRid : KoiNetNode}
    {dg : DiGraph KoiNetNode KoiNetEdge} :
    nodeRid ∈ (rids.foldl cache.extend dg).nodes ↔
      nodeRid ∈ dg.nodes ∨ ∃ rid ∈ rids, cache.Adds rid nodeRid := by
  induction rids generalizing dg with
  | nil => simp
  | cons rid rids induction =>
      rw [List.foldl_cons, induction, mem_extend_iff, or_assoc]
      simp only [List.mem_cons, exists_eq_or_imp]

theorem mem_graphOf_iff {nodeRid : KoiNetNode} :
    nodeRid ∈ (graphOf node cache).nodes ↔
      cache.exists (.node nodeRid) = true ∨
        ∃ edgeRid profile, cache.edgeProfile edgeRid = some profile ∧
          (profile.source = nodeRid ∨ profile.target = nodeRid) := by
  unfold graphOf
  rw [mem_foldl_nodes_iff]
  constructor
  · intro member
    rcases member with empty | ⟨rid, listed, adds⟩
    · cases empty
    · rcases adds with rfl | ⟨edgeRid, profile, _, found, ends⟩
      · exact .inl (Cache.mem_listRids_all.mp listed)
      · exact .inr ⟨edgeRid, profile, found, ends⟩
  · intro member
    rcases member with cached | ⟨edgeRid, profile, found, ends⟩
    · exact .inr ⟨_, Cache.mem_listRids_all.mpr cached, .inl rfl⟩
    · obtain ⟨bundle, read, _⟩ := Cache.edgeProfile_eq_some_iff.mp found
      exact .inr ⟨.edge edgeRid,
        Cache.mem_listRids_all.mpr (Cache.exists_of_read read),
        .inr ⟨edgeRid, profile, rfl, found, ends⟩⟩

theorem own_mem_graphOf (valid : ValidCache node cache) :
    node.rid ∈ (graphOf node cache).nodes := by
  obtain ⟨bundle, own⟩ := Option.ne_none_iff_exists'.mp valid.own
  exact mem_graphOf_iff.mpr (.inl (Cache.exists_of_read own))

theorem soundGraph_graphOf (valid : ValidCache node cache) :
    SoundGraph node cache (graphOf node cache) := by
  refine { joined := ?_, present := .inr (own_mem_graphOf valid) }
  intro source target edgeRid joined
  rw [getEdgeData_graphOf] at joined
  obtain ⟨profile, cached, _⟩ := edgeBetween_joins joined
  obtain ⟨bundle, read, _⟩ := Cache.edgeProfile_eq_some_iff.mp cached
  rw [read]
  simp

end Graph

section Rebuild

variable {node : Node}

theorem addRid_run {state : NodeState}
    (readable : state.cache.ReadableEdges) (rid : RID) :
    (NetworkGraph.addRid rid).run state =
      (.ok (), { state with dg := state.cache.extend state.dg rid }) := by
  unfold NetworkGraph.addRid Cache.extend
  cases rid with
  | node nodeRid => rfl
  | other context reference => rfl
  | edge edgeRid =>
      dsimp only
      rw [Effect.run_get_bind]
      cases cached : state.cache.read (.edge edgeRid) with
      | none => simp [Cache.edgeProfile, cached]
      | some bundle =>
          obtain ⟨profile, validated⟩ := readable edgeRid bundle cached
          rw [Cache.edgeProfile_of_read cached validated]
          dsimp only
          rw [Effect.run_bind_of_ok (validateContents_some validated)]
          rfl

theorem forEach_addRid_run (rids : List RID) {state : NodeState}
    (readable : state.cache.ReadableEdges) :
    (Effect.forEach rids NetworkGraph.addRid).run state =
      (.ok (), { state with dg := rids.foldl state.cache.extend state.dg }) := by
  induction rids generalizing state with
  | nil => rfl
  | cons rid rids induction =>
      rw [Effect.forEach, Effect.run_bind_of_ok (addRid_run readable rid)]
      exact induction readable

theorem generate_run {state : NodeState}
    (readable : state.cache.ReadableEdges) :
    (NetworkGraph.generate node).run state =
      (.ok (), { state with dg := graphOf node state.cache }) := by
  unfold NetworkGraph.generate Cache.list
  rw [Effect.run_modify_bind, Effect.run_bind_of_ok rfl]
  have cleared : { state with dg := DiGraph.empty }.cache.ReadableEdges :=
    readable
  exact forEach_addRid_run _ cleared

theorem regenerate_run {state : NodeState} {kobj : KnowledgeObject}
    (valid : ValidCache node state.cache)
    (graphed : kobj.rid.type = .koiNetNode ∨ kobj.rid.type = .koiNetEdge) :
    (KnowledgePipeline.regenerate node kobj).run state =
      (.ok (), { state with dg := graphOf node state.cache }) := by
  unfold KnowledgePipeline.regenerate
  rw [if_pos graphed]
  exact generate_run valid.edges

end Rebuild

/-- An edge with these ends is among those asked for. -/
def Adjoins (node : Node) (direction : Option Direction)
    (source target : KoiNetNode) : Prop :=
  direction ≠ some .incoming ∧ source = node.rid ∨
    direction ≠ some .outgoing ∧ target = node.rid

/-- The graph joins the neighbor to this node by an edge that is asked for and
has the status and lists the type asked for. -/
def Neighbors (node : Node) (cache : Cache) (direction : Option Direction)
    (status : Option EdgeStatus) (allowedType : Option RIDType)
    (neighbor : KoiNetNode) : Prop :=
  ∃ edgeRid profile,
    edgeBetween node cache profile.source profile.target = some edgeRid ∧
    cache.edgeProfile edgeRid = some profile ∧
    Adjoins node direction profile.source profile.target ∧
    NetworkGraph.neighborOf node status allowedType profile = some neighbor

section Neighbors

variable {node : Node} {state : NodeState}

/-- The edges at this node are those listed at one of its ends; without any
edges it need not be in the graph. -/
theorem adjacentEdges_run (wanted : Bool)
    {dg : DiGraph KoiNetNode KoiNetEdge}
    (present : dg.edges.keys = [] ∨ node.rid ∈ dg.nodes)
    (near : KoiNetNode × KoiNetNode → Bool) :
    NetworkGraph.adjacentEdges wanted dg
        (if node.rid ∈ dg.nodes then some (dg.edges.keys.filter near)
        else none) =
      pure (if wanted then dg.edges.keys.filter near else []) := by
  unfold NetworkGraph.adjacentEdges
  rcases present with empty | present
  · rw [empty]
    cases wanted <;> rfl
  · rw [if_pos present]
    cases dg.edges.keys with
    | nil => cases wanted <;> rfl
    | cons edge edges => cases wanted <;> rfl

theorem getEdges_run (direction : Option Direction)
    (present : state.dg.edges.keys = [] ∨ node.rid ∈ state.dg.nodes) :
    ∃ edges,
      (NetworkGraph.getEdges node direction).run state = (.ok edges, state) ∧
      ∀ edgeRid, edgeRid ∈ edges ↔ ∃ source target,
        state.dg.getEdgeData source target = some edgeRid ∧
          Adjoins node direction source target := by
  let outWanted := decide (direction = none) ||
    decide (direction = some Direction.outgoing)
  let inWanted := decide (direction = none) ||
    decide (direction = some Direction.incoming)
  let outEdges := if outWanted then
    state.dg.edges.keys.filter fun edge => edge.1 = node.rid else []
  let inEdges := if inWanted then
    state.dg.edges.keys.filter fun edge => edge.2 = node.rid else []
  have leaving : NetworkGraph.adjacentEdges outWanted state.dg
      (state.dg.outEdges node.rid) = pure outEdges :=
    adjacentEdges_run outWanted present _
  have entering : NetworkGraph.adjacentEdges inWanted state.dg
      (state.dg.inEdges node.rid) = pure inEdges :=
    adjacentEdges_run inWanted present _
  refine ⟨(outEdges ++ inEdges).filterMap fun edge =>
    state.dg.getEdgeData edge.1 edge.2, ?_, fun edgeRid => ?_⟩
  · unfold NetworkGraph.getEdges
    rw [Effect.run_get_bind]
    change ((NetworkGraph.adjacentEdges outWanted state.dg _ >>= fun _ =>
      NetworkGraph.adjacentEdges inWanted state.dg _ >>= _) :
        NodeM _).run state = _
    rw [leaving, entering]
    rfl
  · have listed : ∀ source target,
        (source, target) ∈ outEdges ++ inEdges ↔
          (source, target) ∈ state.dg.edges.keys ∧
            Adjoins node direction source target := by
      intro source target
      unfold Adjoins
      rcases direction with _ | _ | _ <;>
        simp [outEdges, inEdges, outWanted, inWanted, and_or_left]
    rw [List.mem_filterMap]
    constructor
    · intro member
      obtain ⟨⟨source, target⟩, among, data⟩ := member
      exact ⟨source, target, data, ((listed source target).mp among).2⟩
    · intro found
      obtain ⟨source, target, data, adjoins⟩ := found
      have stored : (source, target) ∈ state.dg.edges.keys :=
        (Dict.mem_keys_iff _).mpr ⟨edgeRid, data⟩
      exact ⟨(source, target), (listed source target).mpr ⟨stored, adjoins⟩,
        data⟩

/-- The neighbors that are collected are those of the edges, and those
collected before, each once. -/
theorem collectNeighbors_run (readable : state.cache.ReadableEdges)
    (status : Option EdgeStatus) (allowedType : Option RIDType)
    (edges : List KoiNetEdge) {neighbors : List KoiNetNode}
    (distinct : neighbors.Nodup) :
    ∃ collected,
      (NetworkGraph.collectNeighbors node status allowedType edges
        neighbors).run state = (.ok collected, state) ∧
      collected.Nodup ∧
      ∀ neighbor, neighbor ∈ collected ↔ neighbor ∈ neighbors ∨
        ∃ edgeRid ∈ edges, ∃ profile,
          state.cache.edgeProfile edgeRid = some profile ∧
          NetworkGraph.neighborOf node status allowedType profile =
            some neighbor := by
  induction edges generalizing neighbors with
  | nil => exact ⟨neighbors, rfl, distinct, by simp⟩
  | cons edgeRid rest induction =>
      unfold NetworkGraph.collectNeighbors
      rw [Effect.run_get_bind]
      cases cached : state.cache.read (.edge edgeRid) with
      | none =>
          obtain ⟨collected, ran, nodup, members⟩ := induction distinct
          have unread : state.cache.edgeProfile edgeRid = none := by
            simp [Cache.edgeProfile, cached]
          refine ⟨collected, ran, nodup, fun neighbor => ?_⟩
          rw [members]
          simp [unread]
      | some bundle =>
          obtain ⟨profile, validated⟩ := readable edgeRid bundle cached
          have read := Cache.edgeProfile_of_read cached validated
          dsimp only
          rw [Effect.run_bind_of_ok (validateContents_some validated)]
          cases found : NetworkGraph.neighborOf node status allowedType
              profile with
          | none =>
              obtain ⟨collected, ran, nodup, members⟩ := induction distinct
              refine ⟨collected, ran, nodup, fun neighbor => ?_⟩
              rw [members]
              simp [read, found]
          | some other =>
              obtain ⟨collected, ran, nodup, members⟩ :=
                induction (distinct.insert (a := other))
              refine ⟨collected, ran, nodup, fun neighbor => ?_⟩
              rw [members, List.mem_insert_iff]
              simp [read, found, eq_comm, or_assoc, or_left_comm]

/-- Where this node is in the graph, or nothing is joined in it, the neighbors
are the nodes the graph joins to this one, each once. -/
theorem getNeighbors_run (readable : state.cache.ReadableEdges)
    (mirrored : state.dg = graphOf node state.cache)
    (present : state.dg.edges.keys = [] ∨ node.rid ∈ state.dg.nodes)
    (direction : Option Direction) (status : Option EdgeStatus)
    (allowedType : Option RIDType) :
    ∃ neighbors,
      (NetworkGraph.getNeighbors node direction status allowedType).run state =
        (.ok neighbors, state) ∧
      neighbors.Nodup ∧
      ∀ neighbor, neighbor ∈ neighbors ↔
        Neighbors node state.cache direction status allowedType neighbor := by
  obtain ⟨edges, listed, among⟩ := getEdges_run direction present
  obtain ⟨neighbors, collected, nodup, members⟩ :=
    collectNeighbors_run readable status allowedType edges List.nodup_nil
  refine ⟨neighbors, ?_, nodup, fun neighbor => ?_⟩
  · unfold NetworkGraph.getNeighbors
    rw [Effect.run_bind_of_ok listed]
    exact collected
  · rw [members]
    constructor
    · intro found
      rcases found with earlier | ⟨edgeRid, member, profile, read, other⟩
      · cases earlier
      · obtain ⟨source, target, joined, adjoins⟩ := (among edgeRid).mp member
        rw [mirrored, getEdgeData_graphOf] at joined
        obtain ⟨_, same, isSource, isTarget⟩ := edgeBetween_joins joined
        cases read.symm.trans same
        subst isSource
        subst isTarget
        exact ⟨edgeRid, profile, joined, read, adjoins, other⟩
    · intro found
      obtain ⟨edgeRid, profile, joined, read, adjoins, other⟩ := found
      rw [← getEdgeData_graphOf, ← mirrored] at joined
      exact .inr ⟨edgeRid, (among edgeRid).mpr ⟨_, _, joined, adjoins⟩,
        profile, read, other⟩

/-- The graph joins the provider to this node by an edge that lists the
type. -/
def Provides (node : Node) (cache : Cache) (ridType : RIDType)
    (provider : KoiNetNode) : Prop :=
  ∃ edgeRid profile,
    edgeBetween node cache provider node.rid = some edgeRid ∧
    cache.edgeProfile edgeRid = some profile ∧ ridType ∈ profile.ridTypes

theorem providers_run (valid : ValidCache node state.cache)
    (mirrored : state.dg = graphOf node state.cache) (ridType : RIDType) :
    ∃ providers,
      (NetworkGraph.getNeighbors node (some .incoming) none
        (some ridType)).run state = (.ok providers, state) ∧
      ∀ provider, provider ∈ providers ↔
        Provides node state.cache ridType provider := by
  have present : node.rid ∈ state.dg.nodes := by
    rw [mirrored]
    exact own_mem_graphOf valid
  obtain ⟨providers, ran, _, members⟩ := getNeighbors_run valid.edges mirrored
    (.inr present) (some .incoming) none (some ridType)
  refine ⟨providers, ran, fun provider => ?_⟩
  rw [members]
  constructor
  · intro neighbors
    obtain ⟨edgeRid, profile, between, read, adjoins, other⟩ := neighbors
    have isTarget : profile.target = node.rid := by
      simpa [Adjoins] using adjoins
    simp only [NetworkGraph.neighborOf, Option.any_none, Bool.false_eq_true,
      if_false, Option.any_some, decide_not, Bool.not_eq_true',
      decide_eq_false_iff_not, isTarget, if_true] at other
    split at other
    · cases other
    · rename_i listsType
      cases other
      rw [isTarget] at between
      exact ⟨edgeRid, profile, between, read, not_not.mp listsType⟩
  · intro provides
    obtain ⟨edgeRid, profile, between, read, listsType⟩ := provides
    obtain ⟨_, same, isSource, isTarget⟩ := edgeBetween_joins between
    cases read.symm.trans same
    refine ⟨edgeRid, profile, by rw [isSource, isTarget]; exact between, read,
      .inr ⟨by simp, isTarget⟩, ?_⟩
    simp [NetworkGraph.neighborOf, listsType, isSource, isTarget]

end Neighbors

end KoiNet
