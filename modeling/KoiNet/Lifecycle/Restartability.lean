import KoiNet.Components.SyncManager
import KoiNet.Pipeline.Contact
import KoiNet.Pipeline.Validity

/-!
# Restarting over what a run has left in the cache

The routines that read the cache on startup return exactly if each node that
is asked to catch up is cached and, being a full node, states a URL.  A run
keeps the cached profiles valid, but it may leave an edge whose source is not
cached.
-/

namespace KoiNet

open Foundation Frame

/-- A request that gets an answer returns it or raises a `RequestError`. -/
def AnswersRequests (node : Node) : Prop :=
  ∀ state url peer path request failure,
    node.answer state url peer path request = .received (.error failure) →
    failure.isRequestError = true

/-- Every routine returns, the later ones from any state over the cache and
the graph that the first one leaves. -/
def Restarts (node : Node) (state : NodeState) : Prop :=
  ∃ started, (NetworkGraph.start node).run state = (.ok (), started) ∧
    ∀ later, At started.cache started.dg later →
      ((SyncManager.start node).run later).1 = .ok () ∧
      ((NodeContactHandler.start node).run later).1 = .ok ()

/-- Requests to the peer have a URL, if it is a full node and another one. -/
def StatesUrl (node : Node) (peer : KoiNetNode) (profile : NodeProfile) :
    Prop :=
  profile.nodeType = .full → peer ≠ node.rid → profile.baseUrl ≠ none

/-- What the routines rely on: interests are a list, a node that the graph
joins to this one by an edge that lists one of them is cached and states a
URL, and so does a cached node that provides events of one. -/
structure Restartable (node : Node) (cache : Cache) : Prop where
  interest : node.config.ridTypesOfInterest ≠ none
  providers : ∀ ridTypes, node.config.ridTypesOfInterest = some ridTypes →
    ∀ ridType ∈ ridTypes, ∀ provider, Provides node cache ridType provider →
      ∃ profile, cache.nodeProfile provider = some profile ∧
        StatesUrl node provider profile
  contacts : ∀ nodeRid profile, cache.nodeProfile nodeRid = some profile →
    NodeContactHandler.availableRidTypes node profile ≠ [] →
      StatesUrl node nodeRid profile

section Startup

variable {node : Node} {cache : Cache} {dg : DiGraph KoiNetNode KoiNetEdge}

/-- What leaves the cache and the graph as they are. -/
def inPlace : Frame NodeState :=
  .unchanged fun state => (state.cache, state.dg)

theorem inPlace_of_quiet {α : Type} {body : NodeM α}
    (quiet : (quietFrame node).Keeps body) : inPlace.Keeps body :=
  quiet.mono fun kept => Prod.ext kept.cache kept.dg

theorem at_of_inPlace {α : Type} {body : NodeM α}
    (keeps : inPlace.Keeps body) {state : NodeState}
    (located : At cache dg state) : At cache dg (body.run state).2 := by
  have same := keeps state
  exact ⟨(congrArg Prod.fst same).trans located.1,
    (congrArg Prod.snd same).trans located.2⟩

theorem forEach_at_returns_iff {ι : Type} {items : List ι}
    {body : ι → NodeM Unit} {good : ι → Prop}
    (keeps : ∀ item, inPlace.Keeps (body item))
    (ends : ∀ item ∈ items, ∀ state, At cache dg state →
      (((body item).run state).1 = .ok () ↔ good item))
    {state : NodeState} (located : At cache dg state) :
    ((Effect.forEach items body).run state).1 = .ok () ↔
      ∀ item ∈ items, good item :=
  Effect.forEach_returns_iff
    (fun item _ _ located => at_of_inPlace (keeps item) located) ends located

theorem push_inPlace (kobj : KnowledgeObject) :
    inPlace.Keeps (KobjQueue.push kobj) :=
  keeps_modify fun _ => rfl

/-- A guarded request to a cached full node returns exactly if the node states
a URL. -/
theorem guardedRequest_returns_iff (answers : AnswersRequests node)
    {peer : KoiNetNode} {profile : NodeProfile} (path : Path)
    (request : path.Request) {state : NodeState}
    (cached : state.cache.nodeProfile peer = some profile)
    (full : profile.nodeType = .full) :
    (∃ payload, ((guardedRequest node peer path request).run state).1 =
        .ok payload) ↔ StatesUrl node peer profile := by
  have fetched := guardedRequest_run node state peer path request
  have outcome : RequestHandler.outcome node state peer path request =
      if peer = node.rid then .error (.request .selfRequest)
      else profile.baseUrl.elim (.error .typeError) fun url =>
        RequestHandler.received
          (node.answer state (url ++ path.str) peer path request) := by
    obtain ⟨bundle, read, validated⟩ := Cache.nodeProfile_eq_some_iff.mp cached
    unfold RequestHandler.outcome RequestHandler.resolve
    rw [read]
    dsimp only
    rw [validated]
    dsimp only
    rw [if_neg (not_not.mpr full)]
    cases profile.baseUrl with
    | none => rfl
    | some url => rfl
  generalize (guardedRequest node peer path request).run state = ended
    at fetched ⊢
  obtain ⟨result, after⟩ := ended
  cases fetched with
  | answered payload answered =>
      refine ⟨fun _ _ other absent => ?_, fun _ => ⟨_, rfl⟩⟩
      rw [Answers, outcome, if_neg other, absent] at answered
      cases answered
  | unanswered error _ refused =>
      refine ⟨fun _ _ other absent => ?_, fun _ => ⟨_, rfl⟩⟩
      rw [outcome, if_neg other, absent] at refused
      cases refused
  | raised failure _ raised uncaught =>
      constructor
      · intro returned
        obtain ⟨payload, returned⟩ := returned
        cases returned
      · intro states
        rw [outcome] at raised
        split at raised
        · cases raised
          cases uncaught
        · rename_i other
          obtain ⟨url, stated⟩ :=
            Option.ne_none_iff_exists'.mp (states full other)
          rw [stated, Option.elim_some] at raised
          cases answered : node.answer state (url ++ path.str) peer path
              request with
          | unreachable =>
              rw [answered] at raised
              cases raised
              cases uncaught
          | rejected error =>
              rw [answered] at raised
              cases raised
              cases uncaught
          | received result =>
              rw [answered] at raised
              have received : result = .error failure := raised
              rw [received] at answered
              rw [answers _ _ _ _ _ _ answered] at uncaught
              cases uncaught

theorem fetchFrom_returns_iff (answers : AnswersRequests node)
    {peer : KoiNetNode} {profile : NodeProfile} (ridTypes : List RIDType)
    {state : NodeState} (cached : state.cache.nodeProfile peer = some profile)
    (full : profile.nodeType = .full) :
    ((SyncManager.fetchFrom node ridTypes peer).run state).1 = .ok () ↔
      StatesUrl node peer profile := by
  rw [← guardedRequest_returns_iff answers .fetchManifests
    ({ ridTypes } : FetchManifests) cached full]
  apply Effect.bind_returns_iff
  intro payload state
  cases payload with
  | none => rfl
  | some payload => exact Effect.forEach_returns (fun _ _ => rfl) _ state

theorem fetchFrom_inPlace (ridTypes : List RIDType) (peer : KoiNetNode) :
    inPlace.Keeps (SyncManager.fetchFrom node ridTypes peer) := by
  have quiet : (quietFrame node).Keeps (guardedRequest node peer
      .fetchManifests ({ ridTypes } : FetchManifests)) :=
    KnowledgePipeline.guardedRequest_quiet _ _ _
  refine keeps_bind (inPlace_of_quiet quiet) fun payload => ?_
  cases payload with
  | none => exact keeps_pure ()
  | some payload => exact keeps_forEach (fun _ => push_inPlace _) _

/-- The node is cached, and states a URL if it has to. -/
def Reachable (node : Node) (cache : Cache) (peer : KoiNetNode) : Prop :=
  ∃ profile, cache.nodeProfile peer = some profile ∧
    StatesUrl node peer profile

theorem catchUpWithNode_returns_iff (answers : AnswersRequests node)
    (ridTypes : List RIDType) (peer : KoiNetNode) {state : NodeState}
    (valid : ValidCache node state.cache) :
    ((SyncManager.catchUpWithNode node ridTypes peer).run state).1 = .ok () ↔
      Reachable node state.cache peer := by
  unfold SyncManager.catchUpWithNode Reachable
  rw [Effect.run_get_bind]
  cases read : state.cache.read (.node peer) with
  | none => simp [Cache.nodeProfile, read]
  | some bundle =>
      obtain ⟨profile, validated⟩ := valid.nodes peer bundle read
      have cached := Cache.nodeProfile_of_read read validated
      dsimp only
      rw [Effect.run_bind_of_ok (validateContents_some validated)]
      by_cases full : profile.nodeType = .full
      · rw [if_neg (not_not.mpr full),
          fetchFrom_returns_iff answers ridTypes cached full]
        simp [cached]
      · rw [if_pos full]
        simp [cached, StatesUrl, full]

theorem catchUpWithNode_inPlace (ridTypes : List RIDType)
    (peer : KoiNetNode) :
    inPlace.Keeps (SyncManager.catchUpWithNode node ridTypes peer) := by
  unfold SyncManager.catchUpWithNode
  apply keeps_bind keeps_get
  intro state
  split
  · exact keeps_raise _
  · apply keeps_bind (keeps_validateContents _ _)
    intro profile
    split
    · exact keeps_pure ()
    · exact fetchFrom_inPlace ridTypes peer

theorem catchUpWithType_returns_iff (answers : AnswersRequests node)
    (valid : ValidCache node cache) (ridType : RIDType) {state : NodeState}
    (located : At cache (graphOf node cache) state) :
    ((SyncManager.catchUpWithType node ridType).run state).1 = .ok () ↔
      ∀ provider, Provides node cache ridType provider →
        Reachable node cache provider := by
  have validThere : ValidCache node state.cache := by
    rw [located.1]
    exact valid
  have mirrored : state.dg = graphOf node state.cache := by
    rw [located.1, located.2]
  obtain ⟨providers, ran, members⟩ := providers_run validThere mirrored ridType
  rw [located.1] at members
  have looped : ((SyncManager.catchUpWith node providers [ridType]).run
      state).1 = .ok () ↔
        ∀ provider ∈ providers, Reachable node cache provider := by
    refine forEach_at_returns_iff (catchUpWithNode_inPlace _)
      (fun provider _ state located => ?_) located
    rw [← located.1]
    apply catchUpWithNode_returns_iff answers
    rw [located.1]
    exact valid
  unfold SyncManager.catchUpWithType
  rw [Effect.run_bind_of_ok ran]
  have all : (∀ provider ∈ providers, Reachable node cache provider) ↔
      ∀ provider, Provides node cache ridType provider →
        Reachable node cache provider := by
    simp only [members]
  rw [← all]
  cases providers with
  | nil => simp
  | cons provider rest => exact looped

theorem catchUpWithType_inPlace (ridType : RIDType) :
    inPlace.Keeps (SyncManager.catchUpWithType node ridType) := by
  unfold SyncManager.catchUpWithType
  apply keeps_bind (getNeighbors_keeps _ _ _)
  intro providers
  split
  · exact keeps_pure ()
  · exact keeps_forEach (catchUpWithNode_inPlace _) _

/-- `SyncManager.start` returns exactly if interests are listed and their
providers can be asked. -/
theorem sync_returns_iff (answers : AnswersRequests node)
    (valid : ValidCache node cache) {state : NodeState}
    (located : At cache (graphOf node cache) state) :
    ((SyncManager.start node).run state).1 = .ok () ↔
      ∃ ridTypes, node.config.ridTypesOfInterest = some ridTypes ∧
        ∀ ridType ∈ ridTypes, ∀ provider,
          Provides node cache ridType provider →
            Reachable node cache provider := by
  unfold SyncManager.start SyncManager.catchUpWithAll
  cases node.config.ridTypesOfInterest with
  | none => simp
  | some ridTypes =>
      dsimp only
      rw [forEach_at_returns_iff catchUpWithType_inPlace
        (fun ridType _ _ located =>
          catchUpWithType_returns_iff answers valid ridType located) located]
      simp

theorem catchUp_returns_iff (answers : AnswersRequests node)
    {peer : KoiNetNode} {profile : NodeProfile} (available : List RIDType)
    {state : NodeState} (cached : state.cache.nodeProfile peer = some profile)
    (full : profile.nodeType = .full) :
    ((NodeContactHandler.catchUp node peer available).run state).1 = .ok () ↔
      StatesUrl node peer profile := by
  rw [← guardedRequest_returns_iff answers .fetchRids
    ({ ridTypes := available } : FetchRids) cached full]
  apply Effect.bind_returns_iff
  intro payload state
  cases payload with
  | none => rfl
  | some payload =>
      refine Effect.forEach_returns (fun rid state => ?_) _ state
      rw [Effect.run_get_bind]
      split
      · rfl
      · split
        · rfl
        · rfl

/-- A node is contacted without an exception exactly if it can be asked, or is
not asked because the edge to propose is already there. -/
theorem contact_returns_iff (answers : AnswersRequests node)
    {peer : KoiNetNode} {profile : NodeProfile} {available : List RIDType}
    (offers : available ≠ []) {state : NodeState}
    (mirrored : state.dg = graphOf node state.cache)
    (cached : state.cache.nodeProfile peer = some profile)
    (full : profile.nodeType = .full) :
    ((NodeContactHandler.contact node peer available).run state).1 = .ok () ↔
      (proposes node state.cache peer available ≠ none →
        StatesUrl node peer profile) := by
  rw [contact_run mirrored peer offers]
  cases proposes node state.cache peer available with
  | none => simp
  | some proposal =>
      dsimp only
      refine (catchUp_returns_iff answers available ?_ full).trans ?_
      · exact cached
      · simp

theorem processNode_returns_iff (answers : AnswersRequests node)
    {peer : KoiNetNode} {bundle : Bundle} {profile : NodeProfile}
    {state : NodeState} (mirrored : state.dg = graphOf node state.cache)
    (read : state.cache.read (.node peer) = some bundle)
    (validated : NodeProfile.modelValidate bundle.contents = some profile) :
    ((NodeContactHandler.processNode node peer bundle).run state).1 = .ok () ↔
      (NodeContactHandler.availableRidTypes node profile ≠ [] →
        proposes node state.cache peer
          (NodeContactHandler.availableRidTypes node profile) ≠ none →
        StatesUrl node peer profile) := by
  have cached := Cache.nodeProfile_of_read read validated
  by_cases own : peer = node.rid
  · unfold NodeContactHandler.processNode
    rw [if_pos own]
    simp [StatesUrl, own]
  · rw [processNode_run own validated]
    cases typed : profile.nodeType with
    | partialNode => simp [StatesUrl, typed]
    | full =>
        rw [if_neg (by simp)]
        by_cases offers :
            NodeContactHandler.availableRidTypes node profile = []
        · unfold NodeContactHandler.contact
          simp [offers]
        · rw [contact_returns_iff answers offers mirrored cached typed]
          simp [offers]

theorem processNode_inPlace (peer : KoiNetNode) (bundle : Bundle) :
    inPlace.Keeps (NodeContactHandler.processNode node peer bundle) :=
  inPlace_of_quiet (processNode_quiet peer bundle)

theorem contactCached_inPlace (rid : RID) :
    inPlace.Keeps (NodeContactHandler.contactCached node rid) := by
  unfold NodeContactHandler.contactCached
  apply keeps_bind keeps_get
  intro state
  split
  · exact processNode_inPlace _ _
  · exact keeps_pure ()

/-- A cached node that provides events of interest and is proposed an edge
states a URL. -/
def Contactable (node : Node) (cache : Cache) (peer : KoiNetNode) : Prop :=
  ∀ profile, cache.nodeProfile peer = some profile →
    NodeContactHandler.availableRidTypes node profile ≠ [] →
    proposes node cache peer
      (NodeContactHandler.availableRidTypes node profile) ≠ none →
    StatesUrl node peer profile

theorem contactCached_returns_iff (answers : AnswersRequests node)
    (valid : ValidCache node cache) (peer : KoiNetNode) {state : NodeState}
    (located : At cache (graphOf node cache) state) :
    ((NodeContactHandler.contactCached node (.node peer)).run state).1 =
        .ok () ↔ Contactable node cache peer := by
  obtain ⟨same, mirrored⟩ := located
  rw [← same] at mirrored
  unfold NodeContactHandler.contactCached Contactable
  rw [Effect.run_get_bind]
  cases read : state.cache.read (.node peer) with
  | none =>
      rw [same] at read
      simp [Cache.nodeProfile, read]
  | some bundle =>
      rw [same] at read
      obtain ⟨profile, validated⟩ := valid.nodes peer bundle read
      rw [Cache.nodeProfile_of_read read validated]
      rw [← same] at read
      dsimp only
      rw [processNode_returns_iff answers mirrored read validated, same]
      simp

theorem contact_start_returns_iff (answers : AnswersRequests node)
    (valid : ValidCache node cache) {state : NodeState}
    (located : At cache (graphOf node cache) state) :
    ((NodeContactHandler.start node).run state).1 = .ok () ↔
      ∀ peer, Contactable node cache peer := by
  unfold NodeContactHandler.start Cache.list
  rw [Effect.run_bind_of_ok rfl]
  have looped : ((Effect.forEach
      (state.cache.listRids node.listdir.order [.koiNetNode])
      (NodeContactHandler.contactCached node)).run state).1 = .ok () ↔
        ∀ rid ∈ state.cache.listRids node.listdir.order [.koiNetNode],
          ∀ peer, rid = .node peer → Contactable node cache peer := by
    refine forEach_at_returns_iff contactCached_inPlace
      (fun rid member state located => ?_) located
    have typed := (Cache.mem_listRids node.listdir.perm).mp member
    cases rid with
    | node peer =>
        rw [contactCached_returns_iff answers valid peer located]
        simp
    | edge edgeRid => simp [RID.type] at typed
    | other context reference => simp [RID.type] at typed
  rw [looped, located.1]
  constructor
  · intro all peer profile cached
    have listed : RID.node peer ∈
        cache.listRids node.listdir.order [.koiNetNode] := by
      rw [Cache.mem_listRids node.listdir.perm]
      obtain ⟨bundle, read, _⟩ := Cache.nodeProfile_eq_some_iff.mp cached
      refine ⟨?_, .inr (by simp [RID.type])⟩
      exact (Dict.mem_keys_iff _).mpr ⟨_, Cache.read_eq_some_iff.mp read⟩
    exact all _ listed peer rfl profile cached
  · intro all rid _ peer _
    exact all peer

/-- What is not proposed because an edge already lists the available types is
asked for these types instead. -/
theorem provides_of_not_proposed {peer : KoiNetNode}
    {available : List RIDType} {ridType : RIDType}
    (member : ridType ∈ available)
    (settled : proposes node cache peer available = none) :
    Provides node cache ridType peer := by
  unfold proposes at settled
  split at settled
  · cases settled
  · rename_i edgeRid between
    obtain ⟨profile, cached, _⟩ := edgeBetween_joins between
    rw [cached] at settled
    dsimp only at settled
    split at settled
    · rename_i same
      refine ⟨edgeRid, profile, between, cached, ?_⟩
      have inBoth : ridType ∈ profile.ridTypes.toFinset := by
        rw [same]
        exact List.mem_toFinset.mpr member
      exact List.mem_toFinset.mp inBoth
    · cases settled

theorem restarts_iff_of_valid (answers : AnswersRequests node)
    {state : NodeState} (valid : ValidCache node state.cache) :
    Restarts node state ↔ Restartable node state.cache := by
  have started : (NetworkGraph.generate node).run state =
      (.ok (), { state with dg := graphOf node state.cache }) :=
    generate_run valid.edges
  have located : At state.cache (graphOf node state.cache)
      { state with dg := graphOf node state.cache } := ⟨rfl, rfl⟩
  constructor
  · intro restarts
    obtain ⟨after, ran, returns⟩ := restarts
    cases started.symm.trans ran
    obtain ⟨synced, contacted⟩ := returns _ located
    rw [sync_returns_iff answers valid located] at synced
    rw [contact_start_returns_iff answers valid located] at contacted
    obtain ⟨ridTypes, interest, reachable⟩ := synced
    refine
      { interest := by rw [interest]; simp
        providers := ?_
        contacts := ?_ }
    · intro others same ridType member provider provides
      cases interest.symm.trans same
      exact reachable ridType member provider provides
    · intro peer profile cached offers
      by_cases settled : proposes node state.cache peer
          (NodeContactHandler.availableRidTypes node profile) = none
      · obtain ⟨ridType, rest, first⟩ := List.exists_cons_of_ne_nil offers
        have member : ridType ∈
            NodeContactHandler.availableRidTypes node profile := by
          rw [first]
          exact List.mem_cons_self
        have interesting : ridType ∈ ridTypes := by
          unfold NodeContactHandler.availableRidTypes at member
          rw [interest] at member
          simp at member
          exact member.2
        obtain ⟨found, same, states⟩ := reachable ridType interesting peer
          (provides_of_not_proposed member settled)
        cases cached.symm.trans same
        exact states
      · exact contacted peer profile cached offers settled
  · intro restartable
    obtain ⟨ridTypes, interest⟩ :=
      Option.ne_none_iff_exists'.mp restartable.interest
    refine ⟨_, started, fun later located => ⟨?_, ?_⟩⟩
    · rw [sync_returns_iff answers valid located]
      exact ⟨ridTypes, interest, restartable.providers ridTypes interest⟩
    · rw [contact_start_returns_iff answers valid located]
      intro peer profile cached offers _
      exact restartable.contacts peer profile cached offers

end Startup

section Runs

variable {node : Node} {registry : Registry node} {state : NodeState}

/-- After every run of well-formed objects, the startup routines return
exactly if the nodes they ask are cached and state a URL. -/
theorem restarts_iff (answers : AnswersRequests node) {first : NodeState}
    (run : Run (QueueStep registry (WellFormed node)) first state)
    (initial : Recoverable node first) :
    Restarts node state ↔ Restartable node state.cache := by
  have recoverable : Recoverable node state :=
    run.invariant (fun recoverable step => recoverable.step step) initial
  exact restarts_iff_of_valid answers recoverable.cache

end Runs

theorem restartable_fresh {node : Node} {own : Bundle}
    (named : own.manifest.rid = .node node.rid)
    (interest : node.config.ridTypesOfInterest ≠ none) :
    Restartable node (Cache.empty.write own) := by
  refine
    { interest := interest
      providers := ?_
      contacts := ?_ }
  · intro _ _ ridType _ provider provides
    obtain ⟨edgeRid, profile, _, cached, _⟩ := provides
    obtain ⟨bundle, read, _⟩ := Cache.edgeProfile_eq_some_iff.mp cached
    rw [Cache.read_write, named] at read
    cases read
  · intro nodeRid profile cached _ _ other
    obtain ⟨bundle, read, _⟩ := Cache.nodeProfile_eq_some_iff.mp cached
    rw [Cache.read_write, named] at read
    split at read
    · rename_i same
      cases same
      exact (other rfl).elim
    · cases read

theorem answersRequests_standalone : AnswersRequests .standalone := by
  intro state url peer path request failure answered
  cases answered

theorem restarts_iff_fresh :
    ∃ state : NodeState, Restarts .standalone state := by
  let first : NodeState := .standalone
  have restartable : Restartable .standalone first.cache :=
    restartable_fresh rfl (by simp [Node.standalone, Node.isolated])
  have run : Run (QueueStep (Registry.listed .standalone)
      (WellFormed .standalone)) first first := .refl first
  have restarts :=
    restarts_iff answersRequests_standalone run recoverable_standalone
  exact ⟨first, restarts.mpr restartable⟩

/-- A peer's edge from a node that is not cached keeps this node from
restarting. -/
theorem restart_not_safe :
    ¬∀ (node : Node) (registry : Registry node) (first state : NodeState),
      AnswersRequests node → Recoverable node first →
      Run (QueueStep registry (WellFormed node)) first state →
      Restarts node state := by
  intro always
  let peer : KoiNetNode := { name := "peer", hash := "key" }
  let stranger : KoiNetNode := { name := "stranger", hash := "other" }
  let edgeRid : KoiNetEdge := { id := "edge" }
  let edge : EdgeProfile :=
    { context := EdgeProfile.defaultContext
      source := stranger
      target := Node.standalone.rid
      edgeType := .webhook
      status := .approved
      ridTypes := [.koiNetNode] }
  let manifest : Manifest :=
    { rid := .edge edgeRid, timestamp := 0, sha256Hash := "" }
  let kobj : KnowledgeObject := .fromEvent
    (.fromBundle .new { manifest, contents := edge.modelDump }) (some peer)
  let first : NodeState := .standalone
  let received := first.withQueue [kobj]
  let registry : Registry .standalone := .listed .standalone
  let worked := ((KnowledgePipeline.process .standalone registry.handlers
    kobj).run (received.withQueue [])).2
  have wellFormed : WellFormed .standalone (received.withQueue []) kobj := by
    intro _ announced bundle arrives
    obtain ⟨_, same⟩ := arrives.offered.of_own
      (show kobj.manifest = some manifest from rfl)
      (show kobj.contents = some edge.modelDump from rfl)
      edge.modelDump_ne_nil
    rw [same]
    constructor
    · intro nodeRid isNode
      cases isNode
    · intro edgeRid isEdge
      exact ⟨edge, edge.modelValidate_modelDump⟩
  have initial : Recoverable .standalone first := recoverable_standalone
  have run : Run (QueueStep registry (WellFormed .standalone)) first worked :=
    .tail (.tail (.refl first) (.receive first kobj (by decide)))
      (.work received kobj [] rfl wellFormed)
  have recoverable : Recoverable .standalone worked :=
    run.invariant (fun recoverable step => recoverable.step step) initial
  have restarts := always .standalone registry first worked
    answersRequests_standalone initial run
  have restartable := (restarts_iff_of_valid answersRequests_standalone
    recoverable.cache).mp restarts
  have provides : Provides .standalone worked.cache .koiNetNode stranger :=
    ⟨edgeRid, edge, rfl, rfl, by decide⟩
  obtain ⟨profile, cached, _⟩ := restartable.providers [.koiNetNode] rfl
    .koiNetNode (by decide) stranger provides
  have absent : worked.cache.nodeProfile stranger = none := rfl
  cases absent.symm.trans cached

end KoiNet
