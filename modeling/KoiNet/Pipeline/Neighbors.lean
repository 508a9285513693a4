import KoiNet.Pipeline.GraphView

/-!
# Neighbors and cached edges

The graph names one edge for each source and target, the last one that was
listed.  Where a pair of nodes is joined by several edges, the others are not
looked at, so their status and their types do not count.
-/

namespace KoiNet

open Foundation

/-- The edge joins this node to the other one in the direction asked for. -/
def Connects (node : Node) (direction : Option Direction)
    (profile : EdgeProfile) (other : KoiNetNode) : Prop :=
  direction ≠ some .incoming ∧ profile.source = node.rid ∧
      profile.target = other ∨
    direction ≠ some .outgoing ∧ profile.target = node.rid ∧
      profile.source = other

/-- The edge has the status and lists the type asked for. -/
def Matches (status : Option EdgeStatus) (allowedType : Option RIDType)
    (profile : EdgeProfile) : Prop :=
  (∀ asked, status = some asked → profile.status = asked) ∧
    ∀ asked, allowedType = some asked → asked ∈ profile.ridTypes

/-- A cached edge that matches connects this node to the other one. -/
def SharesEdge (node : Node) (cache : Cache) (direction : Option Direction)
    (status : Option EdgeStatus) (allowedType : Option RIDType)
    (other : KoiNetNode) : Prop :=
  ∃ edgeRid profile, cache.edgeProfile edgeRid = some profile ∧
    Matches status allowedType profile ∧ Connects node direction profile other

/-- Generating the graph and asking it for the neighbors gives the nodes that
this one shares an edge with, each once. -/
def ExactNeighbors (node : Node) (state : NodeState)
    (direction : Option Direction) (status : Option EdgeStatus)
    (allowedType : Option RIDType) : Prop :=
  ∃ neighbors after,
    (NetworkGraph.generate node >>= fun _ =>
      NetworkGraph.getNeighbors node direction status allowedType).run state =
        (.ok neighbors, after) ∧
    neighbors.Nodup ∧
    ∀ other, other ∈ neighbors ↔
      SharesEdge node state.cache direction status allowedType other

/-- If an edge is cached, then so is this node, or it is an end of one. -/
def InGraph (node : Node) (cache : Cache) : Prop :=
  (∃ edgeRid profile, cache.edgeProfile edgeRid = some profile) →
    cache.exists (.node node.rid) = true ∨
      ∃ edgeRid profile, cache.edgeProfile edgeRid = some profile ∧
        (profile.source = node.rid ∨ profile.target = node.rid)

/-- Each node that shares an edge with this one shares one that is the last
listed of those with its source and target. -/
def ListedLast (node : Node) (cache : Cache) (direction : Option Direction)
    (status : Option EdgeStatus) (allowedType : Option RIDType) : Prop :=
  ∀ other, SharesEdge node cache direction status allowedType other →
    ∃ edgeRid profile,
      edgeBetween node cache profile.source profile.target = some edgeRid ∧
      cache.edgeProfile edgeRid = some profile ∧
      Matches status allowedType profile ∧
      Connects node direction profile other

section Neighbors

variable {node : Node} {cache : Cache} {state : NodeState}
  {direction : Option Direction} {status : Option EdgeStatus}
  {allowedType : Option RIDType} {profile : EdgeProfile} {other : KoiNetNode}

theorem neighborOf_eq_some_iff :
    NetworkGraph.neighborOf node status allowedType profile = some other ↔
      Matches status allowedType profile ∧
        (profile.target = node.rid ∧ profile.source = other ∨
          profile.target ≠ node.rid ∧ profile.source = node.rid ∧
            profile.target = other) := by
  unfold NetworkGraph.neighborOf Matches
  cases status with
  | none =>
      cases allowedType with
      | none => grind
      | some asked => grind
  | some wanted =>
      cases allowedType with
      | none => grind
      | some asked => grind

/-- Of an edge that is asked for, the collected end is the one it connects
this node to. -/
theorem adjoins_neighborOf_iff :
    Adjoins node direction profile.source profile.target ∧
        NetworkGraph.neighborOf node status allowedType profile = some other ↔
      Matches status allowedType profile ∧
        Connects node direction profile other := by
  rw [neighborOf_eq_some_iff]
  unfold Adjoins Connects
  by_cases isTarget : profile.target = node.rid
  · by_cases isSource : profile.source = node.rid
    · grind
    · grind
  · grind

theorem neighbors_iff :
    Neighbors node cache direction status allowedType other ↔
      ∃ edgeRid profile,
        edgeBetween node cache profile.source profile.target = some edgeRid ∧
        cache.edgeProfile edgeRid = some profile ∧
        Matches status allowedType profile ∧
        Connects node direction profile other := by
  unfold Neighbors
  simp only [adjoins_neighborOf_iff]

theorem Neighbors.sharesEdge
    (neighbors : Neighbors node cache direction status allowedType other) :
    SharesEdge node cache direction status allowedType other := by
  obtain ⟨edgeRid, profile, _, read, passes⟩ := neighbors_iff.mp neighbors
  exact ⟨edgeRid, profile, read, passes⟩

theorem graphOf_edges_eq_nil_iff :
    (graphOf node cache).edges.keys = [] ↔
      ¬∃ edgeRid profile, cache.edgeProfile edgeRid = some profile := by
  constructor
  · rintro empty ⟨edgeRid, profile, found⟩
    have joined : edgeBetween node cache profile.source profile.target ≠
        none := edgeBetween_ne_none found
    obtain ⟨between, named⟩ := Option.ne_none_iff_exists'.mp joined
    rw [← getEdgeData_graphOf] at named
    have member : (profile.source, profile.target) ∈
        (graphOf node cache).edges.keys :=
      (Dict.mem_keys_iff _).mpr ⟨between, named⟩
    rw [empty] at member
    cases member
  · intro apart
    apply List.eq_nil_iff_forall_not_mem.mpr
    rintro ⟨source, target⟩ member
    obtain ⟨between, named⟩ := (Dict.mem_keys_iff _).mp member
    have named : (graphOf node cache).getEdgeData source target =
        some between := named
    rw [getEdgeData_graphOf] at named
    obtain ⟨profile, found, _⟩ := edgeBetween_joins named
    exact apart ⟨between, profile, found⟩

theorem present_iff_inGraph :
    ((graphOf node cache).edges.keys = [] ∨
        node.rid ∈ (graphOf node cache).nodes) ↔
      InGraph node cache := by
  rw [graphOf_edges_eq_nil_iff, mem_graphOf_iff]
  unfold InGraph
  constructor
  · intro present joined
    rcases present with apart | present
    · exact absurd joined apart
    · exact present
  · intro inGraph
    by_cases joined :
        ∃ edgeRid profile, cache.edgeProfile edgeRid = some profile
    · exact .inr (inGraph joined)
    · exact .inl joined

/-- Asking a graph that has edges, but not this node, for its edges raises. -/
theorem getNeighbors_raises (joined : state.dg.edges.keys ≠ [])
    (absent : node.rid ∉ state.dg.nodes) :
    ((NetworkGraph.getNeighbors node direction status allowedType).run
      state).1 = .error .networkXError := by
  have raises : ∀ near : KoiNetNode × KoiNetNode → Bool,
      NetworkGraph.adjacentEdges true state.dg
        (if node.rid ∈ state.dg.nodes then
          some (state.dg.edges.keys.filter near)
        else none) = Effect.raise .networkXError := by
    intro near
    unfold NetworkGraph.adjacentEdges
    rw [if_neg absent]
    cases listed : state.dg.edges.keys with
    | nil => exact absurd listed joined
    | cons edge edges => rfl
  have leaving : NetworkGraph.adjacentEdges true state.dg
      (state.dg.outEdges node.rid) = Effect.raise .networkXError := raises _
  have entering : NetworkGraph.adjacentEdges true state.dg
      (state.dg.inEdges node.rid) = Effect.raise .networkXError := raises _
  have edges : (NetworkGraph.getEdges node direction).run state =
      (.error .networkXError, state) := by
    unfold NetworkGraph.getEdges
    rw [Effect.run_get_bind]
    rcases direction with _ | _ | _
    · change ((NetworkGraph.adjacentEdges true state.dg _ >>= _) :
        NodeM _).run state = _
      rw [leaving]
      rfl
    · change ((NetworkGraph.adjacentEdges false state.dg _ >>= fun _ =>
        NetworkGraph.adjacentEdges true state.dg _ >>= _) :
          NodeM _).run state = _
      rw [entering]
      rfl
    · change ((NetworkGraph.adjacentEdges true state.dg _ >>= _) :
        NodeM _).run state = _
      rw [leaving]
      rfl
  unfold NetworkGraph.getNeighbors
  rw [Effect.run_bind_of_error edges]

theorem generateNeighbors_run (readable : state.cache.ReadableEdges) :
    (NetworkGraph.generate node >>= fun _ =>
        NetworkGraph.getNeighbors node direction status allowedType).run
          state =
      (NetworkGraph.getNeighbors node direction status allowedType).run
        { state with dg := graphOf node state.cache } := by
  rw [Effect.run_bind_of_ok (generate_run readable)]

theorem collectNeighbors_nodup {status : Option EdgeStatus}
    {allowedType : Option RIDType} {edges : List KoiNetEdge}
    {neighbors collected : List KoiNetNode} {after : NodeState}
    (distinct : neighbors.Nodup)
    (returned : (NetworkGraph.collectNeighbors node status allowedType edges
      neighbors).run state = (.ok collected, after)) : collected.Nodup := by
  induction edges generalizing neighbors with
  | nil =>
      cases returned
      exact distinct
  | cons edgeRid rest induction =>
      unfold NetworkGraph.collectNeighbors at returned
      rw [Effect.run_get_bind] at returned
      split at returned
      · exact induction distinct returned
      · rename_i bundle cached
        obtain ⟨profile, between, validated, returned⟩ :=
          Effect.run_bind_eq_ok_iff.mp returned
        rw [validateContents_run] at validated
        split at validated
        · cases validated
          split at returned
          · exact induction distinct returned
          · exact induction distinct.insert returned
        · cases validated

theorem getNeighbors_nodup {direction : Option Direction}
    {status : Option EdgeStatus} {allowedType : Option RIDType}
    {neighbors : List KoiNetNode} {after : NodeState}
    (returned : (NetworkGraph.getNeighbors node direction status
      allowedType).run state = (.ok neighbors, after)) :
    neighbors.Nodup := by
  unfold NetworkGraph.getNeighbors at returned
  obtain ⟨edges, between, _, collected⟩ :=
    Effect.run_bind_eq_ok_iff.mp returned
  exact collectNeighbors_nodup List.nodup_nil collected

end Neighbors

/-- Over readable edges, the neighbors are exact if and only if this node is
in the graph, or nothing is joined, and every neighbor shares an edge with
this node that is listed last. -/
theorem exactNeighbors_iff (node : Node) (state : NodeState)
    (readable : state.cache.ReadableEdges) (direction : Option Direction)
    (status : Option EdgeStatus) (allowedType : Option RIDType) :
    ExactNeighbors node state direction status allowedType ↔
      InGraph node state.cache ∧
        ListedLast node state.cache direction status allowedType := by
  let generated : NodeState :=
    { state with dg := graphOf node state.cache }
  unfold ExactNeighbors
  rw [generateNeighbors_run readable, ← present_iff_inGraph]
  by_cases present : generated.dg.edges.keys = [] ∨
      node.rid ∈ generated.dg.nodes
  · have mirrored : generated.dg = graphOf node generated.cache := rfl
    obtain ⟨found, ran, nodup, members⟩ := getNeighbors_run
      (show generated.cache.ReadableEdges from readable) mirrored present
      direction status allowedType
    constructor
    · rintro ⟨neighbors, after, same, _, exact⟩
      cases ran.symm.trans same
      refine ⟨present, fun other shares => ?_⟩
      exact neighbors_iff.mp ((members other).mp ((exact other).mpr shares))
    · rintro ⟨_, listedLast⟩
      refine ⟨found, generated, ran, nodup, fun other => ?_⟩
      rw [members]
      exact ⟨fun neighbors => neighbors.sharesEdge,
        fun shares => neighbors_iff.mpr (listedLast other shares)⟩
  · obtain ⟨joined, absent⟩ := not_or.mp present
    have raised : ((NetworkGraph.getNeighbors node direction status
        allowedType).run generated).1 = .error .networkXError :=
      getNeighbors_raises joined absent
    constructor
    · rintro ⟨neighbors, after, returned, _⟩
      rw [returned] at raised
      cases raised
    · rintro ⟨inGraph, _⟩
      exact absurd inGraph present

/-- An edge from the standalone node to a peer. -/
def edgeTo (peer : KoiNetNode) (status : EdgeStatus) : EdgeProfile :=
  { context := EdgeProfile.defaultContext
    source := Node.standalone.rid
    target := peer
    edgeType := .webhook
    status := status
    ridTypes := [] }

def edgeEntry (edgeRid : KoiNetEdge) (profile : EdgeProfile) : Bundle :=
  { manifest := { rid := .edge edgeRid, timestamp := 0, sha256Hash := "" }
    contents := profile.modelDump }

/-- A cache with an approved edge to the peer and a proposed one that is
listed after it. -/
def parallelEdges (peer : KoiNetNode) : Cache :=
  (Cache.empty.write
    (edgeEntry { id := "first" } (edgeTo peer .approved))).write
    (edgeEntry { id := "second" } (edgeTo peer .proposed))

theorem parallelEdges_readable (peer : KoiNetNode) :
    (parallelEdges peer).ReadableEdges := by
  intro edgeRid bundle cached
  rcases Cache.read_of_write cached with ⟨_, rfl⟩ | earlier
  · exact ⟨_, EdgeProfile.modelValidate_modelDump _⟩
  · rcases Cache.read_of_write earlier with ⟨_, rfl⟩ | empty
    · exact ⟨_, EdgeProfile.modelValidate_modelDump _⟩
    · cases empty

theorem exactNeighbors_iff_parallelEdges :
    ExactNeighbors .standalone
        (.fresh (parallelEdges { name := "peer", hash := "key" }))
        (some .outgoing) (some .approved) none ↔
      InGraph .standalone (parallelEdges { name := "peer", hash := "key" }) ∧
        ListedLast .standalone
          (parallelEdges { name := "peer", hash := "key" })
          (some .outgoing) (some .approved) none :=
  exactNeighbors_iff .standalone _ (parallelEdges_readable _) _ _ _

/-- The peer of an approved edge is not found behind a proposed one. -/
theorem parallelEdges_not_exactNeighbors :
    ¬∀ (node : Node) (state : NodeState), state.cache.ReadableEdges →
      ∀ (direction : Option Direction) (status : Option EdgeStatus)
        (allowedType : Option RIDType),
        ExactNeighbors node state direction status allowedType := by
  intro always
  let peer : KoiNetNode := { name := "peer", hash := "key" }
  obtain ⟨neighbors, after, ran, _, exact⟩ := always .standalone
    (.fresh (parallelEdges peer)) (parallelEdges_readable peer)
    (some .outgoing) (some .approved) none
  cases ran
  have shares : SharesEdge .standalone (parallelEdges peer) (some .outgoing)
      (some .approved) none peer := by
    refine ⟨{ id := "first" }, edgeTo peer .approved, rfl, ?_, ?_⟩
    · exact ⟨fun _ same => Option.some.inj same, fun _ none => by cases none⟩
    · exact .inl ⟨by decide, rfl, rfl⟩
  have listed := (exact peer).mpr shares
  cases listed

end KoiNet
