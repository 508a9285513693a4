import KoiNet.Pipeline.CacheEffect

/-!
# States in which the pipeline does not raise

The cached nodes and edges have profiles, the graph only joins nodes by cached
edges and knows this node, and every outgoing request is answered or fails
with a `RequestError`.  In such a state the graph can be rebuilt and asked,
and the handlers return.
-/

namespace KoiNet

open Foundation

/-- A node profile that states a URL if it is a full node's. -/
def SoundProfile (contents : Contents) : Prop :=
  ∃ nodeProfile, NodeProfile.modelValidate contents = some nodeProfile ∧
    (nodeProfile.nodeType = .full → nodeProfile.baseUrl ≠ none)

def IsNodeProfile (contents : Contents) : Prop :=
  ∃ nodeProfile, NodeProfile.modelValidate contents = some nodeProfile

def IsEdgeProfile (contents : Contents) : Prop :=
  ∃ edgeProfile, EdgeProfile.modelValidate contents = some edgeProfile

structure SoundCache (node : Node) (cache : Cache) : Prop where
  own : cache.read (.node node.rid) ≠ none
  nodes : ∀ nodeRid bundle, cache.read (.node nodeRid) = some bundle →
    SoundProfile bundle.contents
  edges : ∀ edgeRid bundle, cache.read (.edge edgeRid) = some bundle →
    IsEdgeProfile bundle.contents

/-- The node's own profile is cached, and the cached nodes and edges have
profiles. -/
structure ValidCache (node : Node) (cache : Cache) : Prop where
  own : cache.read (.node node.rid) ≠ none
  nodes : ∀ nodeRid bundle, cache.read (.node nodeRid) = some bundle →
    IsNodeProfile bundle.contents
  edges : ∀ edgeRid bundle, cache.read (.edge edgeRid) = some bundle →
    IsEdgeProfile bundle.contents

theorem SoundCache.valid {node : Node} {cache : Cache}
    (sound : SoundCache node cache) : ValidCache node cache :=
  { own := sound.own
    nodes := fun nodeRid bundle cached =>
      let ⟨nodeProfile, validated, _⟩ := sound.nodes nodeRid bundle cached
      ⟨nodeProfile, validated⟩
    edges := sound.edges }

/-- What valid entries of each type have to be. -/
def ValidContents (rid : RID) (contents : Contents) : Prop :=
  (∀ nodeRid, rid = .node nodeRid → IsNodeProfile contents) ∧
    ∀ edgeRid, rid = .edge edgeRid → IsEdgeProfile contents

section Valid

variable {node : Node} {cache : Cache}

theorem ValidCache.write (valid : ValidCache node cache)
    {bundle : Bundle}
    (contents : ValidContents bundle.manifest.rid bundle.contents) :
    ValidCache node (cache.write bundle) := by
  constructor
  · exact Cache.read_write_ne_none valid.own bundle
  · intro nodeRid found cached
    rcases Cache.read_of_write cached with ⟨named, same⟩ | before
    · subst same
      exact contents.1 nodeRid named.symm
    · exact valid.nodes nodeRid found before
  · intro edgeRid found cached
    rcases Cache.read_of_write cached with ⟨named, same⟩ | before
    · subst same
      exact contents.2 edgeRid named.symm
    · exact valid.edges edgeRid found before

theorem ValidCache.delete (valid : ValidCache node cache)
    {rid : RID} (other : rid ≠ .node node.rid) :
    ValidCache node (cache.delete rid) := by
  constructor
  · rw [Cache.read_delete_ne cache (Ne.symm other)]
    exact valid.own
  · intro nodeRid found cached
    exact valid.nodes nodeRid found (Cache.read_of_delete cached)
  · intro edgeRid found cached
    exact valid.edges edgeRid found (Cache.read_of_delete cached)

theorem ValidCache.write_node (valid : ValidCache node cache)
    {bundle : Bundle} {nodeRid : KoiNetNode}
    (named : bundle.manifest.rid = .node nodeRid)
    (profile : IsNodeProfile bundle.contents) :
    ValidCache node (cache.write bundle) := by
  apply valid.write
  rw [named]
  constructor
  · intro other isNode
    exact profile
  · intro edgeRid isEdge
    cases isEdge

theorem ValidCache.delete_node (valid : ValidCache node cache)
    {nodeRid : KoiNetNode} (other : nodeRid ≠ node.rid) :
    ValidCache node (cache.delete (.node nodeRid)) := by
  apply valid.delete
  intro same
  cases same
  exact other rfl

end Valid

/-- The edges of the graph are cached. -/
def Joined (cache : Cache) (dg : DiGraph KoiNetNode KoiNetEdge) : Prop :=
  ∀ source target edgeRid, dg.getEdgeData source target = some edgeRid →
    cache.read (.edge edgeRid) ≠ none

structure SoundGraph (node : Node) (cache : Cache)
    (dg : DiGraph KoiNetNode KoiNetEdge) : Prop where
  joined : Joined cache dg
  present : dg.edges.keys = [] ∨ node.rid ∈ dg.nodes

/-- Requests are answered with the expected model or fail with a
`RequestError`, and the first contact has a URL. -/
structure Dependable (node : Node) : Prop where
  answers : ∀ state url peer path request failure,
    node.answer state url peer path request = .received (.error failure) →
    failure.isRequestError = true
  firstContact : node.config.firstContact.rid ≠ none →
    node.config.firstContact.url ≠ none

/-- The states with this cache and this graph. -/
def At (cache : Cache) (dg : DiGraph KoiNetNode KoiNetEdge)
    (state : NodeState) : Prop :=
  state.cache = cache ∧ state.dg = dg

theorem completes_validate {α β : Type} {pre : NodeState → Prop}
    {post : β → NodeState → Prop} {bundle : Bundle}
    {modelValidate : Contents → Option α} {model : α} {next : α → NodeM β}
    (validated : modelValidate bundle.contents = some model)
    (completes : Completes pre (next model) post) :
    Completes pre (bundle.validateContents modelValidate >>= next) post := by
  unfold Bundle.validateContents
  rw [validated]
  exact completes.pure_bind

theorem completes_of_quiet {node : Node} {α : Type} {cache : Cache}
    {dg : DiGraph KoiNetNode KoiNetEdge} {body : NodeM α}
    (quiet : (quietFrame node).Keeps body)
    (returns : ∀ state, At cache dg state →
      ∃ value after, body.run state = (.ok value, after)) :
    Completes (At cache dg) body fun _ => At cache dg := by
  intro state located
  obtain ⟨value, after, returned⟩ := returns state located
  have kept := quiet state
  rw [returned] at kept
  refine ⟨value, after, returned, ?_⟩
  exact ⟨kept.cache.trans located.1, kept.dg.trans located.2⟩

section Requests

variable {node : Node} {state : NodeState} {peer : KoiNetNode}

/-- In a sound state a request returns or raises a `RequestError`. -/
theorem outcome_of_sound (dependable : Dependable node)
    (sound : SoundCache node state.cache) (path : Path)
    (request : path.Request) :
    (∃ payload, RequestHandler.outcome node state peer path request =
        .ok payload) ∨
      ∃ error, RequestHandler.outcome node state peer path request =
        .error (.request error) := by
  unfold RequestHandler.outcome
  by_cases self : peer = node.rid
  · rw [if_pos self]
    exact .inr ⟨_, rfl⟩
  · rw [if_neg self]
    have resolved : (∃ url, RequestHandler.resolve node state.cache peer =
          .ok (some url)) ∨
        ∃ error, RequestHandler.resolve node state.cache peer =
          .error (.request error) := by
      unfold RequestHandler.resolve
      cases known : state.cache.read (.node peer) with
      | some nodeBundle =>
          obtain ⟨nodeProfile, validated, stated⟩ :=
            sound.nodes peer nodeBundle known
          simp only [validated]
          by_cases full : nodeProfile.nodeType = .full
          · obtain ⟨url, has⟩ := Option.ne_none_iff_exists'.mp (stated full)
            rw [if_neg (not_not.mpr full), has]
            exact .inl ⟨url, rfl⟩
          · rw [if_pos full]
            exact .inr ⟨_, rfl⟩
      | none =>
          dsimp only
          by_cases first : some peer = node.config.firstContact.rid
          · rw [if_pos first]
            have configured : node.config.firstContact.url ≠ none := by
              apply dependable.firstContact
              rw [← first]
              simp
            obtain ⟨url, has⟩ := Option.ne_none_iff_exists'.mp configured
            rw [has]
            exact .inl ⟨url, rfl⟩
          · rw [if_neg first]
            exact .inr ⟨_, rfl⟩
    rcases resolved with ⟨url, resolved⟩ | ⟨error, resolved⟩
    · rw [resolved]
      dsimp only
      cases answered :
          node.answer state (url ++ path.str) peer path request with
      | unreachable => exact .inr ⟨_, rfl⟩
      | rejected error => exact .inr ⟨error, rfl⟩
      | received result =>
          cases result with
          | ok payload => exact .inl ⟨payload, rfl⟩
          | error failure =>
              have caught := dependable.answers _ _ _ _ _ _ answered
              cases failure with
              | request error => exact .inr ⟨error, rfl⟩
              | _ => cases caught
    · rw [resolved]
      exact .inr ⟨error, rfl⟩

theorem guardedRequest_returns (dependable : Dependable node)
    (sound : SoundCache node state.cache) (path : Path)
    (request : path.Request) :
    ∃ value after,
      (guardedRequest node peer path request).run state =
        (.ok value, after) := by
  have fetched := guardedRequest_run node state peer path request
  generalize (guardedRequest node peer path request).run state = ended
    at fetched ⊢
  obtain ⟨result, after⟩ := ended
  cases fetched with
  | answered payload => exact ⟨_, _, rfl⟩
  | unanswered error => exact ⟨_, _, rfl⟩
  | raised failure _ raised uncaught =>
      rcases outcome_of_sound dependable sound path request with
        ⟨payload, returned⟩ | ⟨error, refused⟩
      · cases raised.symm.trans returned
      · cases raised.symm.trans refused
        cases uncaught

end Requests

section Graph

variable {node : Node} {cache : Cache}

/-- A stage of rebuilding the graph, which already contains some nodes. -/
structure Building (cache : Cache) (known : List KoiNetNode)
    (state : NodeState) : Prop where
  located : state.cache = cache
  joined : Joined cache state.dg
  known : ∀ nodeRid ∈ known, nodeRid ∈ state.dg.nodes

private theorem building_addNode {state : NodeState}
    {known : List KoiNetNode} (building : Building cache known state)
    (nodeRid : KoiNetNode) :
    Building cache (nodeRid :: known)
      { state with dg := state.dg.addNode nodeRid } := by
  refine
    { located := building.located
      joined := building.joined
      known := ?_ }
  intro other member
  rw [DiGraph.mem_addNode]
  rcases List.mem_cons.mp member with same | inKnown
  · exact .inl same
  · exact .inr (building.known other inKnown)

private theorem building_addEdge {state : NodeState}
    {known : List KoiNetNode} (building : Building cache known state)
    {source target : KoiNetNode} {edgeRid : KoiNetEdge}
    (cached : cache.read (.edge edgeRid) ≠ none) :
    Building cache known
      { state with dg := state.dg.addEdge source target edgeRid } := by
  refine
    { located := building.located
      joined := ?_
      known := ?_ }
  · intro otherSource otherTarget other joined
    rw [DiGraph.getEdgeData_addEdge] at joined
    split at joined
    · cases joined
      exact cached
    · exact building.joined otherSource otherTarget other joined
  · intro nodeRid member
    rw [DiGraph.mem_addEdge]
    exact .inr (.inr (building.known nodeRid member))

private theorem building_weaken {state : NodeState} {nodeRid : KoiNetNode}
    {known : List KoiNetNode}
    (building : Building cache (nodeRid :: known) state) :
    Building cache known state :=
  { located := building.located
    joined := building.joined
    known := fun other member =>
      building.known other (List.mem_cons_of_mem _ member) }

theorem addRid_completes (valid : ValidCache node cache)
    (known : List KoiNetNode) (rid : RID) :
    Completes (Building cache known) (NetworkGraph.addRid rid)
      fun _ => Building cache known := by
  unfold NetworkGraph.addRid
  cases rid with
  | node nodeRid =>
      exact .modify fun state building =>
        building_weaken (building_addNode building nodeRid)
  | edge edgeRid =>
      apply Completes.get_bind
      intro state building
      rw [building.located]
      cases cached : cache.read (.edge edgeRid) with
      | none => exact .pure fun _ building => building
      | some edgeBundle =>
          obtain ⟨edgeProfile, validated⟩ :=
            valid.edges edgeRid edgeBundle cached
          apply completes_validate validated
          apply Completes.modify
          intro state building
          exact building_addEdge building (by rw [cached]; simp)
  | other _ _ => exact .pure fun _ building => building

/-- The graph of a sound cache is rebuilt without an exception, and is
sound. -/
theorem generate_completes (valid : ValidCache node cache) :
    Completes (fun state => state.cache = cache) (NetworkGraph.generate node)
      fun _ state => state.cache = cache ∧
        SoundGraph node cache state.dg := by
  have listed : RID.node node.rid ∈
      cache.listRids node.listdir.order [] := by
    rw [Cache.mem_listRids node.listdir.perm]
    refine ⟨?_, .inl rfl⟩
    obtain ⟨bundle, own⟩ := Option.ne_none_iff_exists'.mp valid.own
    exact (Dict.mem_keys_iff _).mpr ⟨_, Cache.read_eq_some_iff.mp own⟩
  have cleared : Completes (fun state => state.cache = cache)
      (Effect.modify fun state => { state with dg := DiGraph.empty } :
        NodeM Unit)
      fun _ => Building cache [] := by
    apply Completes.modify
    intro state located
    exact
      { located := located
        joined := fun _ _ _ joined => by cases joined
        known := fun _ member => by cases member }
  have reading : Completes (Building cache []) (Cache.list node [])
      fun rids state => Building cache [] state ∧
        rids = cache.listRids node.listdir.order [] := by
    refine .get_bind fun state building => .pure fun after kept => ?_
    rw [building.located]
    exact ⟨kept, rfl⟩
  have looped : Completes (Building cache [])
      (Effect.forEach (cache.listRids node.listdir.order [])
        NetworkGraph.addRid)
      fun _ => Building cache [node.rid] := by
    refine .forEach_reaches listed
      (fun rid _ _ => addRid_completes valid [] rid)
      ?_ (fun rid _ => addRid_completes valid [node.rid] rid)
    exact .modify fun state building => building_addNode building node.rid
  have built : Completes (fun state => state.cache = cache)
      (NetworkGraph.generate node) fun _ => Building cache [node.rid] := by
    refine .bind cleared fun _ => .bind_good reading fun rids same => ?_
    rw [same]
    exact looped
  refine built.mono (fun _ located => located) fun _ state building => ?_
  refine ⟨building.located, building.joined, .inr ?_⟩
  exact building.known node.rid (by simp)

end Graph

/-- What the stages after the cache action need of an object. -/
structure Publishable (kobj : KnowledgeObject) (contents : Contents) :
    Prop where
  hasManifest : kobj.manifest ≠ none
  hasContents : kobj.contents = some contents
  normalized : kobj.normalizedEventType ≠ none
  node : ∀ nodeRid, kobj.rid = .node nodeRid → SoundProfile contents
  edge : kobj.source = none → ∀ edgeRid, kobj.rid = .edge edgeRid →
    IsEdgeProfile contents

theorem Publishable.bundle {kobj : KnowledgeObject} {contents : Contents}
    (publishable : Publishable kobj contents) :
    ∃ bundle, kobj.bundle = .ok bundle ∧ bundle.contents = contents := by
  obtain ⟨manifest, hasManifest⟩ :=
    Option.ne_none_iff_exists'.mp publishable.hasManifest
  exact ⟨{ manifest, contents },
    KnowledgeObject.bundle_of_fields hasManifest publishable.hasContents, rfl⟩

section Handlers

variable {node : Node} {cache : Cache} {dg : DiGraph KoiNetNode KoiNetEdge}
  {kobj : KnowledgeObject} {contents : Contents}

private theorem adjacentEdges_completes
    (graph : SoundGraph node cache dg) (wanted : Bool)
    {adjacent : Option (List (KoiNetNode × KoiNetNode))}
    (listed : node.rid ∈ dg.nodes → adjacent ≠ none) :
    Completes (At cache dg)
      (NetworkGraph.adjacentEdges wanted dg adjacent)
      fun _ => At cache dg := by
  unfold NetworkGraph.adjacentEdges
  rcases graph.present with empty | present
  · rw [empty, if_neg (by simp)]
    exact .pure fun _ located => located
  · obtain ⟨edges, has⟩ := Option.ne_none_iff_exists'.mp (listed present)
    rw [has]
    by_cases asked : (wanted && !dg.edges.keys.isEmpty) = true
    · rw [if_pos asked]
      exact .pure fun _ located => located
    · rw [if_neg asked]
      exact .pure fun _ located => located

theorem getEdges_completes (graph : SoundGraph node cache dg)
    (direction : Option Direction) :
    Completes (At cache dg) (NetworkGraph.getEdges node direction)
      fun _ => At cache dg := by
  unfold NetworkGraph.getEdges
  apply Completes.get_bind
  intro state located
  rw [located.2]
  refine .bind (adjacentEdges_completes graph _ fun present => ?_) fun _ => ?_
  · unfold DiGraph.outEdges
    rw [if_pos present]
    simp
  · refine .bind (adjacentEdges_completes graph _ fun present => ?_)
      fun _ => ?_
    · unfold DiGraph.inEdges
      rw [if_pos present]
      simp
    · exact .pure fun _ located => located

theorem collectNeighbors_completes (valid : ValidCache node cache)
    (status : Option EdgeStatus) (allowedType : Option RIDType)
    (edges : List KoiNetEdge) (neighbors : List KoiNetNode) :
    Completes (At cache dg)
      (NetworkGraph.collectNeighbors node status allowedType edges neighbors)
      fun _ => At cache dg := by
  induction edges generalizing neighbors with
  | nil => exact .pure fun _ located => located
  | cons edgeRid rest induction =>
      apply Completes.get_bind
      intro state located
      rw [located.1]
      cases cached : cache.read (.edge edgeRid) with
      | none => exact induction neighbors
      | some edgeBundle =>
          obtain ⟨edgeProfile, validated⟩ :=
            valid.edges edgeRid edgeBundle cached
          apply completes_validate validated
          cases NetworkGraph.neighborOf node status allowedType
              edgeProfile with
          | none => exact induction neighbors
          | some neighbor => exact induction _

theorem getNeighbors_completes (valid : ValidCache node cache)
    (graph : SoundGraph node cache dg) (direction : Option Direction)
    (status : Option EdgeStatus) (allowedType : Option RIDType) :
    Completes (At cache dg)
      (NetworkGraph.getNeighbors node direction status allowedType)
      fun _ => At cache dg :=
  .bind (getEdges_completes graph direction) fun edges =>
    collectNeighbors_completes valid status allowedType edges []

private theorem involvement_completes
    (publishable : Publishable kobj contents) :
    Completes (At cache dg) (BasicNetworkOutputFilter.involvement node kobj)
      fun _ => At cache dg := by
  unfold BasicNetworkOutputFilter.involvement
  by_cases internal : kobj.source = none
  · rw [if_pos internal]
    cases named : kobj.rid with
    | node nodeRid => exact .pure fun _ located => located
    | other _ _ => exact .pure fun _ located => located
    | edge edgeRid =>
        obtain ⟨bundle, bundled, same⟩ := publishable.bundle
        obtain ⟨edgeProfile, validated⟩ :=
          publishable.edge internal edgeRid named
        rw [← same] at validated
        apply Completes.ofExcept_bind bundled
        apply completes_validate validated
        by_cases outgoing : edgeProfile.source = node.rid
        · rw [if_pos outgoing]
          exact .pure fun _ located => located
        · rw [if_neg outgoing]
          split
          · exact .pure fun _ located => located
          · exact .pure fun _ located => located
  · rw [if_neg internal]
    exact .pure fun _ located => located

theorem basicNetworkOutputFilter_completes (valid : ValidCache node cache)
    (graph : SoundGraph node cache dg)
    (publishable : Publishable kobj contents) :
    Completes (At cache dg) (BasicNetworkOutputFilter.handle node kobj)
      fun response state => At cache dg state ∧
        ∃ targets, response =
          .modified { kobj with networkTargets := targets } := by
  have subscribers : ∀ involved, Completes (At cache dg)
      (BasicNetworkOutputFilter.subscribers node kobj involved)
      fun _ => At cache dg := by
    intro involved
    unfold BasicNetworkOutputFilter.subscribers
    split
    · exact getNeighbors_completes valid graph _ _ _
    · exact .pure fun _ located => located
  unfold BasicNetworkOutputFilter.handle
  apply Completes.bind (involvement_completes publishable)
  intro involved
  apply Completes.bind (subscribers involved.2)
  intro _
  exact .pure fun _ located => ⟨located, _, rfl⟩

private theorem generate_bundle_completes (rid : RID) (contents : Contents) :
    Completes (At cache dg) (Bundle.generate node rid contents)
      fun _ => At cache dg :=
  completes_of_quiet (generate_quiet rid contents) fun _ _ => ⟨_, _, rfl⟩

theorem proposal_completes (valid : ValidCache node cache)
    (graph : SoundGraph node cache dg) (nodeRid : KoiNetNode)
    (available : List RIDType) :
    Completes (At cache dg)
      (NodeContactHandler.proposal node nodeRid available)
      fun _ => At cache dg := by
  have asked : Completes (At cache dg)
      (NetworkGraph.getEdge nodeRid node.rid)
      fun found state => At cache dg state ∧
        found = dg.getEdgeData nodeRid node.rid := by
    refine .get_bind fun state located => .pure fun after kept => ?_
    rw [located.2]
    exact ⟨kept, rfl⟩
  unfold NodeContactHandler.proposal
  apply Completes.bind_good asked
  intro found same
  cases found with
  | some edgeRid =>
      apply Completes.get_bind
      intro state located
      rw [located.1]
      obtain ⟨edgeBundle, cached⟩ := Option.ne_none_iff_exists'.mp
        (graph.joined nodeRid node.rid edgeRid same.symm)
      obtain ⟨edgeProfile, validated⟩ :=
        valid.edges edgeRid edgeBundle cached
      rw [cached]
      apply completes_validate validated
      split
      · exact .pure fun _ located => located
      · apply Completes.bind (generate_bundle_completes _ _)
        intro _
        exact .pure fun _ located => located
  | none =>
      apply Completes.bind (generate_bundle_completes _ _)
      intro _
      exact .pure fun _ located => located

private theorem push_completes (kobj : KnowledgeObject) :
    Completes (At cache dg) (KobjQueue.push kobj) fun _ => At cache dg :=
  .modify fun _ located => located

theorem catchUp_completes (dependable : Dependable node)
    (sound : SoundCache node cache) (nodeRid : KoiNetNode)
    (available : List RIDType) :
    Completes (At cache dg)
      (NodeContactHandler.catchUp node nodeRid available)
      fun _ => At cache dg := by
  have requested : Completes (At cache dg)
      (guardedRequest node nodeRid .fetchRids
        ({ ridTypes := available } : FetchRids)) fun _ => At cache dg := by
    refine completes_of_quiet
      (KnowledgePipeline.guardedRequest_quiet _ _ _) fun state located => ?_
    refine guardedRequest_returns dependable ?_ _ _
    rw [located.1]
    exact sound
  unfold NodeContactHandler.catchUp
  apply Completes.bind requested
  intro payload
  cases payload with
  | none => exact .pure fun _ located => located
  | some payload =>
      refine .forEach fun rid _ => .get_bind fun state _ => ?_
      split
      · exact .pure fun _ located => located
      · split
        · exact .pure fun _ located => located
        · exact push_completes _

theorem nodeContactHandler_completes (dependable : Dependable node)
    (sound : SoundCache node cache) (graph : SoundGraph node cache dg)
    (publishable : Publishable kobj contents) :
    Completes (At cache dg) (NodeContactHandler.handle node kobj)
      fun response state => At cache dg state ∧ response = .unmodified := by
  obtain ⟨bundle, bundled, same⟩ := publishable.bundle
  unfold NodeContactHandler.handle
  apply Completes.ofExcept_bind bundled
  cases named : kobj.rid with
  | edge _ => exact .pure fun _ located => ⟨located, rfl⟩
  | other _ _ => exact .pure fun _ located => ⟨located, rfl⟩
  | node nodeRid =>
      obtain ⟨nodeProfile, validated, _⟩ := publishable.node nodeRid named
      rw [← same] at validated
      have processed : Completes (At cache dg)
          (NodeContactHandler.processNode node nodeRid bundle)
          fun _ => At cache dg := by
        unfold NodeContactHandler.processNode
        split
        · exact .pure fun _ located => located
        · apply completes_validate validated
          split
          · exact .pure fun _ located => located
          · unfold NodeContactHandler.contact
            split
            · exact .pure fun _ located => located
            · refine .bind (proposal_completes sound.valid graph _ _)
                fun proposed => ?_
              cases proposed with
              | none => exact .pure fun _ located => located
              | some edgeBundle =>
                  apply Completes.bind (push_completes _)
                  intro _
                  exact catchUp_completes dependable sound _ _
      apply Completes.bind processed
      intro _
      exact .pure fun _ located => ⟨located, rfl⟩

theorem forgetNodeHandler_completes (valid : ValidCache node cache)
    (kobj : KnowledgeObject) :
    Completes (At cache dg) (ForgetNodeHandler.handle node kobj)
      fun response state => At cache dg state ∧ response = .unmodified := by
  have reading : Completes (At cache dg)
      (Cache.list node [.koiNetEdge])
      fun rids state => At cache dg state ∧
        ∀ rid ∈ rids, rid.type = .koiNetEdge := by
    refine .get_bind fun state _ => .pure fun after located => ?_
    refine ⟨located, fun rid member => ?_⟩
    simpa using (List.mem_filter.mp member).2
  unfold ForgetNodeHandler.handle
  split
  · exact .pure fun _ located => ⟨located, rfl⟩
  · apply Completes.bind_good reading
    intro rids areEdges
    have looped : Completes (At cache dg)
        (Effect.forEach rids (ForgetNodeHandler.forgetEdge kobj.rid))
        fun _ => At cache dg := by
      apply Completes.forEach
      intro rid member
      unfold ForgetNodeHandler.forgetEdge
      apply Completes.get_bind
      intro state located
      rw [located.1]
      cases cached : cache.read rid with
      | none => exact .pure fun _ located => located
      | some edgeBundle =>
          have isEdge := areEdges rid member
          cases rid with
          | node _ => cases isEdge
          | other _ _ => cases isEdge
          | edge edgeRid =>
              obtain ⟨edgeProfile, validated⟩ :=
                valid.edges edgeRid edgeBundle cached
              apply completes_validate validated
              split
              · exact push_completes _
              · exact .pure fun _ located => located
    apply Completes.bind looped
    intro _
    exact .pure fun _ located => ⟨located, rfl⟩

end Handlers

end KoiNet
