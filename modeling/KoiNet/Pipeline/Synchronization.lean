import KoiNet.Components.ResponseHandler
import KoiNet.Components.SyncManager
import KoiNet.Pipeline.Chores
import KoiNet.Pipeline.Convergence
import KoiNet.Pipeline.Documents
import KoiNet.Pipeline.Validity

/-!
# Catching up with a provider

The provider lists the manifests it holds; each is queued, tested against the
local copy, and if it passes the bundle is fetched and written.  Afterwards
the local copy of everything the provider holds has the provider's hash or is
not older.
-/

namespace KoiNet

open Foundation KnowledgePipeline

/-- The copy has the hash of what is held, or is not older. -/
def UpToDate (held copy : Bundle) : Prop :=
  copy.hash = held.hash ∨ held.timestamp ≤ copy.timestamp

/-- The cache holds a copy of the bundle that is up to date. -/
def Cache.HasCopy (cache : Cache) (held : Bundle) : Prop :=
  ∃ copy, cache.read held.manifest.rid = some copy ∧ UpToDate held copy

/-- Everything of this type that can be read in the one cache is up to date in
the other. -/
def CaughtUp (ridType : RIDType) (held copied : Cache) : Prop :=
  ∀ rid bundle, rid.type = ridType → held.read rid = some bundle →
    ∃ copy, copied.read rid = some copy ∧ UpToDate bundle copy

section Offering

variable {cache : Cache} {bundle : Bundle}

/-- Each entry of the cache is a last-writer-wins register. -/
theorem Cache.read_offer (rid : RID) :
    (cache.offer bundle).read rid =
      if rid = bundle.manifest.rid then
        LastWriter.offer Bundle.timestamp Bundle.hash (cache.read rid) bundle
      else cache.read rid := by
  by_cases named : rid = bundle.manifest.rid
  · subst named
    rw [if_pos rfl]
    unfold Cache.offer
    cases stored : cache.read bundle.manifest.rid with
    | none => exact Cache.read_write_self cache bundle
    | some old =>
        dsimp only
        by_cases newer :
            BasicManifestHandler.isNewer bundle.manifest old.manifest = true
        · rw [if_pos newer, Cache.read_write_self]
          have replaces : LastWriter.Replaces Bundle.timestamp Bundle.hash
              bundle old := BasicManifestHandler.isNewer_iff.mp newer
          exact (LastWriter.offer_replaces replaces).symm
        · rw [if_neg newer, stored]
          refine (LastWriter.offer_keeps fun replaces => newer ?_).symm
          exact BasicManifestHandler.isNewer_iff.mpr replaces
  · rw [if_neg named]
    unfold Cache.offer
    cases cache.read bundle.manifest.rid with
    | none => exact Cache.read_write_ne cache bundle named
    | some old =>
        dsimp only
        split
        · exact Cache.read_write_ne cache bundle named
        · rfl

theorem Cache.offer_cases (cache : Cache) (bundle : Bundle) :
    cache.offer bundle = cache.write bundle ∨ cache.offer bundle = cache := by
  by_cases fresh : Fresh cache bundle.manifest.rid bundle.manifest
  · exact .inl (Cache.offer_newer fresh)
  · exact .inr (Cache.offer_stale fresh)

theorem Cache.hasCopy_offer (cache : Cache) (bundle : Bundle) :
    (cache.offer bundle).HasCopy bundle := by
  obtain ⟨result, offered, settled⟩ :=
    LastWriter.offer_settles Bundle.timestamp Bundle.hash
      (cache.read bundle.manifest.rid) bundle
  refine ⟨result, ?_, ?_⟩
  · rw [Cache.read_offer, if_pos rfl, offered]
  · rcases LastWriter.not_replaces_iff.mp settled with same | older
    · exact .inl same.symm
    · exact .inr older

theorem Cache.HasCopy.offer {held : Bundle} (copied : cache.HasCopy held)
    (only : bundle.manifest.rid = held.manifest.rid → bundle = held) :
    (cache.offer bundle).HasCopy held := by
  by_cases named : bundle.manifest.rid = held.manifest.rid
  · rw [only named]
    exact cache.hasCopy_offer held
  · obtain ⟨copy, cached, current⟩ := copied
    refine ⟨copy, ?_, current⟩
    rw [Cache.read_offer, if_neg (Ne.symm named), cached]

/-- After bundles have been offered there is an up to date copy of each, as
long as no two are about one RID. -/
theorem Cache.hasCopy_foldl {bundles : List Bundle}
    (apart : ∀ left ∈ bundles, ∀ right ∈ bundles,
      left.manifest.rid = right.manifest.rid → left = right)
    {held : Bundle} (offered : held ∈ bundles ∨ cache.HasCopy held ∧
      ∀ bundle ∈ bundles, bundle.manifest.rid = held.manifest.rid →
        bundle = held) :
    (bundles.foldl Cache.offer cache).HasCopy held := by
  induction bundles generalizing cache with
  | nil =>
      rcases offered with member | copied
      · cases member
      · exact copied.1
  | cons bundle rest induction =>
      have restApart : ∀ left ∈ rest, ∀ right ∈ rest,
          left.manifest.rid = right.manifest.rid → left = right :=
        fun left inRest right alsoInRest =>
          apart left (List.mem_cons_of_mem bundle inRest) right
            (List.mem_cons_of_mem bundle alsoInRest)
      apply induction restApart
      rcases offered with member | copied
      · by_cases later : held ∈ rest
        · exact .inl later
        · have first : held = bundle := by
            rcases List.mem_cons.mp member with same | inRest
            · exact same
            · exact (later inRest).elim
          subst first
          refine .inr ⟨cache.hasCopy_offer held, ?_⟩
          intro other inRest named
          exact apart other (List.mem_cons_of_mem held inRest) held
            (List.mem_cons_self ..) named
      · obtain ⟨copied, only⟩ := copied
        refine .inr ⟨copied.offer (only bundle (List.mem_cons_self ..)), ?_⟩
        intro other inRest
        exact only other (List.mem_cons_of_mem bundle inRest)

end Offering

/-- Processing keeps every file named by the bundle in it. -/
theorem process_filed {node : Node} (registry : Registry node)
    (kobj : KnowledgeObject) {state : NodeState} (filed : state.cache.Filed) :
    ((process node registry.handlers kobj).run state).2.cache.Filed := by
  have effect := process_cacheEffect registry kobj state
  generalize ((process node registry.handlers kobj).run state).2.cache =
    after at effect ⊢
  cases effect with
  | write _ bundle => exact filed.write bundle
  | delete => exact filed.delete kobj.rid
  | nothing => exact filed

/-- A node whose cache does not change while it answers requests. -/
structure Provider where
  node : Node
  serving : EventWorkerState
  filed : serving.node.cache.Filed

namespace Provider

variable (provider : Provider)

def rid : KoiNetNode :=
  provider.node.rid

def cache : Cache :=
  provider.serving.node.cache

/-- What the response handler makes of a request. -/
def answer (source : KoiNetNode) (path : Path) (request : path.Request) :
    Outcome path.Response :=
  match ((ResponseHandler.respond provider.node path request source).run
      provider.serving).1 with
  | .ok (some response) => .received (.ok response)
  | .ok none => .unreachable
  | .error _ => .unreachable

/-- The bundles of this type that can be read. -/
def bundles (ridType : RIDType) : List Bundle :=
  (ResponseHandler.readBundles provider.cache
    (provider.cache.listRids provider.node.listdir.order [ridType])).1

variable {provider}

theorem mem_bundles_iff {ridType : RIDType} {bundle : Bundle} :
    bundle ∈ provider.bundles ridType ↔
      bundle.manifest.rid.type = ridType ∧
        provider.cache.read bundle.manifest.rid = some bundle := by
  unfold bundles ResponseHandler.readBundles
  rw [List.mem_filterMap]
  constructor
  · intro listed
    obtain ⟨rid, member, read⟩ := listed
    have named : bundle.manifest.rid = rid := provider.filed rid bundle read
    have typed := (Cache.mem_listRids provider.node.listdir.perm).mp member
    rw [named]
    exact ⟨by simpa using typed.2, read⟩
  · intro held
    obtain ⟨typed, read⟩ := held
    refine ⟨bundle.manifest.rid, ?_, read⟩
    have stored : bundle.manifest.rid ∈ provider.cache.files.keys :=
      Dict.mem_keys_iff _ |>.mpr ⟨some bundle, Cache.read_eq_some_iff.mp read⟩
    exact (Cache.mem_listRids provider.node.listdir.perm).mpr
      ⟨stored, by simp [typed]⟩

theorem bundles_apart {ridType : RIDType} :
    ∀ left ∈ provider.bundles ridType, ∀ right ∈ provider.bundles ridType,
      left.manifest.rid = right.manifest.rid → left = right := by
  intro left leftHeld right rightHeld same
  have leftRead := (mem_bundles_iff.mp leftHeld).2
  have rightRead := (mem_bundles_iff.mp rightHeld).2
  rw [same, rightRead] at leftRead
  exact (Option.some.inj leftRead).symm

theorem answer_fetchManifests (source : KoiNetNode) (ridType : RIDType) :
    ∃ notFound, provider.answer source .fetchManifests
        ({ ridTypes := [ridType] } : FetchManifests) =
      .received (.ok
        { manifests := (provider.bundles ridType).map Bundle.manifest
          notFound := notFound }) :=
  ⟨_, rfl⟩

theorem answer_fetchBundles (source : KoiNetNode) {bundle : Bundle}
    (held : provider.cache.read bundle.manifest.rid = some bundle) :
    ∃ notFound, provider.answer source .fetchBundles
        ({ rids := [bundle.manifest.rid] } : FetchBundles) =
      .received (.ok { bundles := [bundle], notFound := notFound }) := by
  have found : (ResponseHandler.readBundles provider.cache
      [bundle.manifest.rid]).1 = [bundle] := by
    simp [ResponseHandler.readBundles, held]
  rw [← found]
  exact ⟨_, rfl⟩

end Provider

/-- The node's requests for manifests and bundles reach the provider and are
answered. -/
structure Serves (provider : Provider) (node : Node) : Prop where
  manifests : ∀ state url request,
    node.answer state url provider.rid .fetchManifests request =
      provider.answer node.rid .fetchManifests request
  bundles : ∀ state url request,
    node.answer state url provider.rid .fetchBundles request =
      provider.answer node.rid .fetchBundles request

/-- The cache contains the profile of a full node with a URL, not this one. -/
structure Knows (node : Node) (cache : Cache) (peer : KoiNetNode) : Prop where
  other : peer ≠ node.rid
  cached : ∃ profile, cache.nodeProfile peer = some profile ∧
    profile.nodeType = .full ∧ profile.baseUrl ≠ none

section Requests

variable {node : Node} {peer : KoiNetNode} {state : NodeState}

theorem Knows.resolves {cache : Cache} (knows : Knows node cache peer) :
    ∃ url, RequestHandler.resolve node cache peer = .ok (some url) := by
  obtain ⟨profile, cached, full, stated⟩ := knows.cached
  obtain ⟨bundle, read, validated⟩ := Cache.nodeProfile_eq_some_iff.mp cached
  obtain ⟨url, hasUrl⟩ := Option.ne_none_iff_exists'.mp stated
  refine ⟨url, ?_⟩
  unfold RequestHandler.resolve
  rw [read]
  dsimp only
  rw [validated]
  dsimp only
  rw [if_neg (not_not.mpr full), hasUrl]

theorem Knows.answers (knows : Knows node state.cache peer) {path : Path}
    {request : path.Request} {payload : path.Response}
    (received : ∀ url, node.answer state url peer path request =
      .received (.ok payload)) :
    Answers node state peer path request payload := by
  obtain ⟨url, resolved⟩ := knows.resolves
  unfold Answers RequestHandler.outcome
  rw [if_neg knows.other, resolved]
  dsimp only
  rw [received]
  rfl

theorem Knows.offer {cache : Cache} (knows : Knows node cache peer)
    {bundle : Bundle} {context reference : String}
    (isDocument : bundle.manifest.rid = .other context reference) :
    Knows node (cache.offer bundle) peer := by
  refine ⟨knows.other, ?_⟩
  have same : (cache.offer bundle).read (.node peer) =
      cache.read (.node peer) := by
    rw [Cache.read_offer, if_neg]
    rw [isDocument]
    simp
  unfold Cache.nodeProfile
  rw [same]
  exact knows.cached

end Requests

/-- The object that is queued for a manifest of the provider. -/
def Provider.announcement (provider : Provider) (bundle : Bundle) :
    KnowledgeObject :=
  .fromManifest bundle.manifest none (some provider.rid)

section CatchUp

variable {node : Node} {provider : Provider} {state : NodeState}

theorem catchUpWith_run (serves : Serves provider node)
    (knows : Knows node state.cache provider.rid) (ridType : RIDType) :
    (SyncManager.catchUpWith node [provider.rid] [ridType]).run state =
      (.ok (), (state.answered provider.rid).withQueue
        (state.kobjQueue ++
          (provider.bundles ridType).map provider.announcement)) := by
  obtain ⟨profile, cached, full, _⟩ := knows.cached
  obtain ⟨bundle, read, validated⟩ := Cache.nodeProfile_eq_some_iff.mp cached
  obtain ⟨notFound, answered⟩ :=
    provider.answer_fetchManifests node.rid ridType
  have answers := knows.answers fun url =>
    (serves.manifests state url _).trans answered
  have fetched : (SyncManager.fetchFrom node [ridType] provider.rid).run
      state = (.ok (), (state.answered provider.rid).withQueue
        (state.kobjQueue ++
          (provider.bundles ridType).map provider.announcement)) := by
    have requested := guardedRequest_answered answers
    have queued := KobjQueue.pushEach_run
      (fun manifest => .fromManifest manifest none (some provider.rid))
      ((provider.bundles ridType).map Bundle.manifest)
      (state.answered provider.rid)
    rw [List.map_map] at queued
    exact (Effect.run_bind_of_ok requested _).trans queued
  have caught : (SyncManager.catchUpWithNode node [ridType] provider.rid).run
      state = (.ok (), (state.answered provider.rid).withQueue
        (state.kobjQueue ++
          (provider.bundles ridType).map provider.announcement)) := by
    unfold SyncManager.catchUpWithNode
    rw [Effect.run_get_bind, read]
    dsimp only
    rw [Effect.run_bind_of_ok (validateContents_some validated),
      if_neg (not_not.mpr full)]
    exact fetched
  unfold SyncManager.catchUpWith
  rw [Effect.forEach, Effect.run_bind_of_ok caught]
  rfl

/-- A manifest that passes the test is followed by the provider's bundle. -/
theorem settle_announcement (registry : Registry node)
    (serves : Serves provider node)
    (knows : Knows node state.cache provider.rid) {bundle : Bundle}
    (held : provider.cache.read bundle.manifest.rid = some bundle)
    {context reference : String}
    (isDocument : bundle.manifest.rid = .other context reference)
    (fresh : Fresh state.cache bundle.manifest.rid bundle.manifest) :
    (settle node registry.handlers (provider.announcement bundle)).run state =
      (.ok (some ((provider.announcement bundle).settled
        (state.cache.writeType bundle.manifest.rid) bundle)),
        state.answered provider.rid) := by
  obtain ⟨notFound, answered⟩ := provider.answer_fetchBundles node.rid held
  have answers := knows.answers fun url =>
    (serves.bundles state url _).trans answered
  have passes : PassesRid node (provider.announcement bundle) := by
    intro blocked
    cases isDocument.symm.trans blocked.1
  have notForget : (provider.announcement bundle).eventType ≠
      some .forget := by
    simp [Provider.announcement, KnowledgeObject.fromManifest]
  have announced : Announced node (provider.announcement bundle) state
      bundle.manifest state := .own _ rfl
  have carried : Carried node (provider.announcement bundle) bundle.manifest
      state bundle (state.answered provider.rid) :=
    .fetched provider.rid _ bundle [] rfl rfl answers rfl
  exact settle_document registry isDocument passes notForget announced fresh
    carried

/-- However processing the object ends, the bundle has been offered to the
cache, and nothing has been queued. -/
theorem process_announcement (registry : Registry node)
    (serves : Serves provider node)
    (knows : Knows node state.cache provider.rid) {bundle : Bundle}
    (held : provider.cache.read bundle.manifest.rid = some bundle)
    {context reference : String}
    (isDocument : bundle.manifest.rid = .other context reference) :
    ∃ result worked,
      (process node registry.handlers (provider.announcement bundle)).run
        state = (result, worked) ∧
      worked.cache = state.cache.offer bundle ∧
      worked.kobjQueue = state.kobjQueue ∧ worked.dg = state.dg ∧
      (ValidCache node state.cache →
        SoundGraph node state.cache state.dg → result = .ok ()) := by
  by_cases fresh : Fresh state.cache bundle.manifest.rid bundle.manifest
  · have ran := settle_announcement registry serves knows held isDocument fresh
    have about : (provider.announcement bundle).rid =
        .other context reference := isDocument
    obtain ⟨event, targets, _, left⟩ :=
      process_document_written registry about rfl ran
    have returns := process_document_returns registry about isDocument ran
    generalize (process node registry.handlers
      (provider.announcement bundle)).run state = ended at left returns ⊢
    obtain ⟨result, worked⟩ := ended
    have offered : worked.cache = state.cache.offer bundle := by
      rw [show worked = _ from left, Cache.offer_newer fresh]
      rfl
    refine ⟨result, worked, rfl, offered, ?_, ?_, returns⟩
    · rw [show worked = _ from left]
      rfl
    · rw [show worked = _ from left]
      rfl
  · have ran : (process node registry.handlers
        (provider.announcement bundle)).run state = (.ok (), state) := by
      refine process_of_stale registry ?_ ?_ rfl fresh
      · intro blocked
        cases isDocument.symm.trans blocked.1
      · simp [Provider.announcement, KnowledgeObject.fromManifest]
    refine ⟨_, _, ran, ?_, rfl, rfl, fun _ _ => rfl⟩
    rw [Cache.offer_stale fresh]

end CatchUp

/-- Nothing is queued but the manifests of these bundles of the provider. -/
structure Awaits (node : Node) (provider : Provider) (bundles : List Bundle)
    (cache : Cache) (state : NodeState) : Prop where
  located : state.cache = cache
  queue : state.kobjQueue = bundles.map provider.announcement
  knows : Knows node cache provider.rid
  held : ∀ bundle ∈ bundles,
    provider.cache.read bundle.manifest.rid = some bundle
  documents : ∀ bundle ∈ bundles, ∃ context reference,
    bundle.manifest.rid = .other context reference

section Drain

variable {node : Node} {provider : Provider} {state : NodeState}
  {cache : Cache} {bundle : Bundle} {rest : List Bundle}

theorem Awaits.idle (awaits : Awaits node provider [] cache state) :
    KobjQueue.take state = none := by
  unfold KobjQueue.take
  rw [awaits.queue]
  rfl

theorem Awaits.work (registry : Registry node)
    (serves : Serves provider node)
    (awaits : Awaits node provider (bundle :: rest) cache state) :
    ∃ taken result worked,
      KobjQueue.take state = some (provider.announcement bundle, taken) ∧
      (process node registry.handlers (provider.announcement bundle)).run
        taken = (result, worked) ∧
      Awaits node provider rest (cache.offer bundle) worked ∧
      worked.dg = state.dg ∧
      (ValidCache node cache → SoundGraph node cache state.dg →
        result = .ok ()) := by
  obtain ⟨located, queue, knows, held, documents⟩ := awaits
  subst located
  obtain ⟨context, reference, isDocument⟩ :=
    documents bundle List.mem_cons_self
  let taken := state.withQueue (rest.map provider.announcement)
  have knowsThere : Knows node taken.cache provider.rid := knows
  obtain ⟨result, worked, ran, offered, left, graph, returns⟩ :=
    process_announcement registry serves knowsThere
      (held bundle List.mem_cons_self) isDocument
  refine ⟨taken, result, worked, take_of_cons queue, ran, ?_, graph, returns⟩
  exact
    { located := offered
      queue := left
      knows := knows.offer isDocument
      held := fun other member => held other (List.mem_cons_of_mem _ member)
      documents := fun other member =>
        documents other (List.mem_cons_of_mem _ member) }

/-- When the queue is empty every bundle has been offered to the cache. -/
theorem Awaits.offered (registry : Registry node)
    (serves : Serves provider node) {bundles : List Bundle}
    (awaits : Awaits node provider bundles cache state) {after : NodeState}
    (settles : Settles registry state after) :
    after.cache = bundles.foldl Cache.offer cache := by
  have idle : ∀ cache state, Awaits node provider [] cache state →
      KobjQueue.take state = none := fun _ _ awaits => awaits.idle
  have works : ∀ bundle rest cache state,
      Awaits node provider (bundle :: rest) cache state →
      ∃ kobj taken, KobjQueue.take state = some (kobj, taken) ∧
        ∀ worked, (process node registry.handlers kobj).run taken =
            (.ok (), worked) →
          Awaits node provider rest (cache.offer bundle) worked := by
    intro bundle rest cache state awaits
    obtain ⟨taken, result, worked, takes, ran, later, _⟩ :=
      awaits.work registry serves
    refine ⟨_, taken, takes, ?_⟩
    intro other returned
    rw [ran] at returned
    cases returned
    exact later
  exact (Drains.eq_foldl idle works awaits settles).located

theorem ValidCache.offer_document (valid : ValidCache node cache)
    {context reference : String}
    (isDocument : bundle.manifest.rid = .other context reference) :
    ValidCache node (cache.offer bundle) := by
  have contents : ValidContents bundle.manifest.rid bundle.contents := by
    rw [isDocument]
    constructor
    · intro nodeRid isNode
      cases isNode
    · intro edgeRid isEdge
      cases isEdge
  rcases cache.offer_cases bundle with written | same
  · rw [written]
    exact valid.write contents
  · rw [same]
    exact valid

theorem SoundGraph.offer {dg : DiGraph KoiNetNode KoiNetEdge}
    (graph : SoundGraph node cache dg) (bundle : Bundle) :
    SoundGraph node (cache.offer bundle) dg := by
  rcases cache.offer_cases bundle with written | same
  · rw [written]
    exact graph.write bundle
  · rw [same]
    exact graph

theorem Awaits.settles (registry : Registry node)
    (serves : Serves provider node) {bundles : List Bundle}
    (awaits : Awaits node provider bundles cache state)
    (valid : ValidCache node cache)
    (graph : SoundGraph node cache state.dg) :
    ∃ after, Settles registry state after := by
  let stands (bundles : List Bundle) (cache : Cache) (state : NodeState) :
      Prop :=
    Awaits node provider bundles cache state ∧ ValidCache node cache ∧
      SoundGraph node cache state.dg
  have initial : stands bundles cache state := ⟨awaits, valid, graph⟩
  have idle : ∀ cache state, stands [] cache state →
      KobjQueue.take state = none := fun _ _ stands => stands.1.idle
  have works : ∀ bundle rest cache state,
      stands (bundle :: rest) cache state →
      ∃ kobj taken worked, KobjQueue.take state = some (kobj, taken) ∧
        (process node registry.handlers kobj).run taken = (.ok (), worked) ∧
        stands rest (cache.offer bundle) worked := by
    intro bundle rest cache state given
    obtain ⟨awaits, valid, graph⟩ := given
    obtain ⟨context, reference, isDocument⟩ :=
      awaits.documents bundle List.mem_cons_self
    obtain ⟨taken, result, worked, takes, ran, later, same, returns⟩ :=
      awaits.work registry serves
    rw [returns valid graph] at ran
    refine ⟨_, taken, worked, takes, ran, later,
      valid.offer_document isDocument, ?_⟩
    rw [same]
    exact graph.offer bundle
  obtain ⟨after, settles, _⟩ := Drains.foldl idle works initial
  exact ⟨after, settles⟩

/-- Catching up queues the manifests of a type; once the worker has emptied
the queue the local copies of that type are up to date.  Over a valid cache
and a sound graph it does empty the queue. -/
theorem catchUpWith_synchronizes (registry : Registry node)
    (serves : Serves provider node) {ridType : RIDType}
    (notNode : ridType ≠ .koiNetNode) (notEdge : ridType ≠ .koiNetEdge)
    (knows : Knows node state.cache provider.rid)
    (empty : state.kobjQueue = []) :
    ∃ queued, (SyncManager.catchUpWith node [provider.rid] [ridType]).run
        state = (.ok (), queued) ∧
      (∀ after, Settles registry queued after →
        CaughtUp ridType provider.cache after.cache) ∧
      (ValidCache node state.cache → SoundGraph node state.cache state.dg →
        ∃ after, Settles registry queued after) := by
  let bundles := provider.bundles ridType
  let queued := (state.answered provider.rid).withQueue
    (state.kobjQueue ++ bundles.map provider.announcement)
  have ran : (SyncManager.catchUpWith node [provider.rid] [ridType]).run
      state = (.ok (), queued) := catchUpWith_run serves knows ridType
  have documents : ∀ bundle ∈ bundles, ∃ context reference,
      bundle.manifest.rid = .other context reference := by
    intro bundle member
    have typed := (Provider.mem_bundles_iff.mp member).1
    cases named : bundle.manifest.rid with
    | node nodeRid =>
        rw [named] at typed
        exact (notNode typed.symm).elim
    | edge edgeRid =>
        rw [named] at typed
        exact (notEdge typed.symm).elim
    | other context reference => exact ⟨context, reference, rfl⟩
  have awaits : Awaits node provider bundles state.cache queued :=
    { located := rfl
      queue := by
        show state.kobjQueue ++ _ = _
        rw [empty, List.nil_append]
      knows := knows
      held := fun bundle member => (Provider.mem_bundles_iff.mp member).2
      documents := documents }
  refine ⟨queued, ran, ?_, ?_⟩
  · intro after settles rid bundle typed read
    have named : bundle.manifest.rid = rid := provider.filed rid bundle read
    subst named
    have member : bundle ∈ bundles :=
      Provider.mem_bundles_iff.mpr ⟨typed, read⟩
    rw [awaits.offered registry serves settles]
    exact Cache.hasCopy_foldl Provider.bundles_apart (.inl member)
  · intro valid graph
    exact awaits.settles registry serves valid graph

end Drain

/-- A provider of one document. -/
def library : Provider :=
  { node :=
      { Node.standalone with
        config :=
          { Node.standalone.config with
            nodeRid := { name := "library", hash := "key" } } }
    serving :=
      { node := .fresh (Cache.empty.write (documentVersion 1 "text"))
        pollEventBuf := .empty
        broadcastEventBuf := .empty
        broadcasts := [] }
    filed := Cache.filed_empty.write (documentVersion 1 "text") }

/-- A node whose only peer is that provider. -/
def reader : Node :=
  { Node.standalone with
    answer := fun _ _ peer path request =>
      if peer = library.rid then
        library.answer Node.standalone.rid path request
      else .unreachable }

/-- A cache with the reader's own profile and the provider's. -/
def readerCache : Cache :=
  let bundleOf (rid : RID) (contents : Contents) : Bundle :=
    { manifest := { rid, timestamp := 0, sha256Hash := "" }, contents }
  (Cache.empty.write (bundleOf (.node reader.rid) (fullProfile "url" "h"))).write
    (bundleOf (.node library.rid) (fullProfile "library-url" "key"))

theorem reader_answer (state : NodeState) (url : String) (path : Path)
    (request : path.Request) :
    reader.answer state url library.rid path request =
      library.answer reader.rid path request := by
  have chosen : reader.answer state url library.rid path request =
      if library.rid = library.rid then
        library.answer Node.standalone.rid path request
      else .unreachable := rfl
  rw [chosen, if_pos rfl]
  rfl

theorem catchUpWith_synchronizes_library :
    ∃ queued after,
      (SyncManager.catchUpWith reader [library.rid]
        [.other "orn:example"]).run (.fresh readerCache) = (.ok (), queued) ∧
      Settles (Registry.listed reader) queued after ∧
      CaughtUp (.other "orn:example") library.cache after.cache := by
  have serves : Serves library reader :=
    { manifests := fun state url request => reader_answer state url _ request
      bundles := fun state url request => reader_answer state url _ request }
  have knows : Knows reader readerCache library.rid :=
    { other := by decide
      cached := ⟨_, rfl, rfl, by simp⟩ }
  have valid : ValidCache reader readerCache :=
    (validCache_fresh rfl (fullProfile_sound "url" "h")).write_node rfl
      ⟨_, rfl⟩
  have graph : SoundGraph reader readerCache DiGraph.empty :=
    { joined := fun _ _ _ joined => by cases joined
      present := .inl rfl }
  obtain ⟨queued, ran, caughtUp, settles⟩ :=
    catchUpWith_synchronizes (Registry.listed reader) serves
      (show RIDType.other "orn:example" ≠ .koiNetNode by simp)
      (show RIDType.other "orn:example" ≠ .koiNetEdge by simp)
      (show Knows reader (NodeState.fresh readerCache).cache _ from knows) rfl
  obtain ⟨after, settled⟩ := settles valid graph
  exact ⟨queued, after, ran, settled, caughtUp after settled⟩

end KoiNet
