import KoiNet.Components.Effector
import KoiNet.Pipeline.Contact

/-!
# What dereferencing returns and queues

Dereferencing returns the first bundle in the order cache, handler, providers
and queues it unless it comes from the cache.  It relies on the handler and the
cached profiles not to fail, on every provider that is asked failing with a
`RequestError` if at all, and on the first bundle that is sent being the one
asked for.
-/

namespace KoiNet

open Foundation

namespace Effector

/-- Where a bundle is found. -/
inductive Origin where
  | cache
  | handler
  | network (provider : KoiNetNode)

section Specification

variable (node : Node) (derefHandlers : List DerefHandler) (rid : RID)

/-- Another node of the cache that provides the state of a type. -/
def provides (ridType : RIDType) (cache : Cache) (nodeRid : KoiNetNode) :
    Bool :=
  nodeRid ≠ node.rid && (cache.nodeProfile nodeRid).any fun profile =>
    profile.nodeType = .full && profile.provides.state.contains ridType

def provider (ridType : RIDType) (cache : Cache) : RID → Option KoiNetNode
  | .node nodeRid =>
      if provides node ridType cache nodeRid then some nodeRid else none
  | _ => none

/-- The providers in the order in which the cache lists them. -/
def providers (ridType : RIDType) (cache : Cache) : List KoiNetNode :=
  (node.listdir.order cache.files.keys).filterMap
    (provider node ridType cache)

/-- The first bundle that one of the providers sends, with its sender; one
that fails is skipped. -/
def firstSent : List KoiNetNode → NodeState →
    Option (Bundle × KoiNetNode) × NodeState
  | [], state => (none, state)
  | nodeRid :: rest, state =>
      match (RequestHandler.fetchBundles node nodeRid [rid]).run state with
      | (.ok payload, after) =>
          match payload.bundles with
          | [] => firstSent rest after
          | bundle :: _ => (some (bundle, nodeRid), after)
      | (.error _, after) => firstSent rest after

/-- What the handler of the type gives, if it returns. -/
def handled (state : NodeState) : Option Bundle × NodeState :=
  match derefHandlers.find? fun handler => handler.ridTypes.contains rid.type with
  | none => (none, state)
  | some handler =>
      match (handler.handle rid).run state with
      | (.ok bundle, after) => (bundle, after)
      | (.error _, after) => (none, after)

/-- What the network is to give, if it is used. -/
def remote (useNetwork : Bool) (state : NodeState) :
    Option (Bundle × Origin) × NodeState :=
  if useNetwork then
    let sent := firstSent node rid (providers node rid.type state.cache) state
    (sent.1.map fun sent => (sent.1, .network sent.2), sent.2)
  else
    (none, state)

/-- The bundle that dereferencing is to find. -/
def expected (refreshCache useNetwork : Bool) (state : NodeState) :
    Option (Bundle × Origin) × NodeState :=
  match if refreshCache then none else state.cache.read rid with
  | some bundle => (some (bundle, .cache), state)
  | none =>
      match handled derefHandlers rid state with
      | (some bundle, after) => (some (bundle, .handler), after)
      | (none, between) => remote node rid useNetwork between

/-- What is to be queued for it. -/
def announced (handleResult : Bool) :
    Option (Bundle × Origin) → List KnowledgeObject
  | some (bundle, .handler) =>
      if handleResult then [.fromBundle bundle none none] else []
  | some (bundle, .network nodeRid) =>
      if handleResult then [.fromBundle bundle none (some nodeRid)] else []
  | some (_, .cache) => []
  | none => []

/-- The state when this has been queued. -/
def queued (handleResult : Bool)
    (found : Option (Bundle × Origin) × NodeState) : NodeState :=
  found.2.withQueue (found.2.kobjQueue ++ announced handleResult found.1)

/-- What is found in the network is what was asked for. -/
def Named (found : Option (Bundle × Origin)) : Prop :=
  ∀ bundle nodeRid, found = some (bundle, .network nodeRid) →
    bundle.manifest.rid = rid

/-- Dereferencing returns what it is to find, under its RID, and queues it as
it is to. -/
def Derefs (wait : NodeM Unit)
    (refreshCache useNetwork handleResult writeThrough : Bool)
    (state : NodeState) : Prop :=
  let found := expected node derefHandlers rid refreshCache useNetwork state
  Named rid found.1 ∧
  ∃ after, (deref node derefHandlers wait rid refreshCache useNetwork
        handleResult writeThrough).run state =
      (.ok (found.1.map Prod.fst), after) ∧
    if writeThrough ∧ announced handleResult found.1 ≠ [] then
      wait.run (queued handleResult found) = (.ok (), after)
    else
      after = queued handleResult found

/-- Every other node of the cache has a profile. -/
def Readable (cache : Cache) : Prop :=
  ∀ nodeRid, .node nodeRid ∈ cache.files.keys → nodeRid ≠ node.rid →
    ∃ profile, cache.nodeProfile nodeRid = some profile

/-- The providers that are asked fail with a `RequestError` if at all, and the
first bundle that is sent is the one asked for. -/
def Undisturbed : List KoiNetNode → NodeState → Prop
  | [], _ => True
  | nodeRid :: rest, state =>
      match (RequestHandler.fetchBundles node nodeRid [rid]).run state with
      | (.ok payload, after) =>
          match payload.bundles with
          | [] => Undisturbed rest after
          | bundle :: _ => bundle.manifest.rid = rid
      | (.error exc, after) =>
          exc.isRequestError = true ∧ Undisturbed rest after

/-- What using the network relies on. -/
def NetworkSound (useNetwork : Bool) (state : NodeState) : Prop :=
  useNetwork = true →
    Readable node state.cache ∧
      Undisturbed node rid (providers node rid.type state.cache) state

/-- What looking for a bundle relies on, as far as it gets to it. -/
def Consults (refreshCache useNetwork : Bool) (state : NodeState) : Prop :=
  (refreshCache = true ∨ state.cache.read rid = none) →
    (∀ handler, derefHandlers.find? (fun handler =>
        handler.ridTypes.contains rid.type) = some handler →
      ∃ bundle after, (handler.handle rid).run state = (.ok bundle, after)) ∧
    ∀ between, handled derefHandlers rid state = (none, between) →
      NetworkSound node rid useNetwork between

/-- The queue is waited for successfully, if it is waited for. -/
def Waits (wait : NodeM Unit) (handleResult writeThrough : Bool)
    (found : Option (Bundle × Origin) × NodeState) : Prop :=
  writeThrough = true → announced handleResult found.1 ≠ [] →
    ∃ after, wait.run (queued handleResult found) = (.ok (), after)

end Specification

variable {node : Node} {derefHandlers : List DerefHandler} {rid : RID}
  {state : NodeState}

section Providers

variable {ridType : RIDType}

theorem providesState_run {nodeRid : KoiNetNode}
    (readable : nodeRid ≠ node.rid →
      ∃ profile, state.cache.nodeProfile nodeRid = some profile) :
    (NetworkResolver.providesState node ridType nodeRid).run state =
      (.ok (provides node ridType state.cache nodeRid), state) := by
  unfold NetworkResolver.providesState provides
  by_cases own : nodeRid = node.rid
  · rw [if_pos own, decide_eq_false fun other => other own]
    rfl
  · obtain ⟨profile, known⟩ := readable own
    obtain ⟨nodeBundle, cached, valid⟩ := Cache.nodeProfile_eq_some_iff.mp known
    rw [if_neg own, Effect.run_get_bind, cached]
    dsimp only
    rw [Effect.run_bind_of_ok (validateContents_some valid), known,
      decide_eq_true own]
    rfl

theorem providesState_raises {nodeRid : KoiNetNode}
    (other : nodeRid ≠ node.rid)
    (unread : state.cache.nodeProfile nodeRid = none) :
    ∃ exc, (NetworkResolver.providesState node ridType nodeRid).run state =
      (.error exc, state) := by
  unfold NetworkResolver.providesState
  rw [if_neg other, Effect.run_get_bind]
  unfold Cache.nodeProfile at unread
  cases cached : state.cache.read (.node nodeRid) with
  | none => exact ⟨_, rfl⟩
  | some nodeBundle =>
      rw [cached] at unread
      have invalid : NodeProfile.modelValidate nodeBundle.contents = none :=
        unread
      dsimp only
      rw [Effect.run_bind, validateContents_run, invalid]
      exact ⟨_, rfl⟩

theorem collectProviders_run {rids : List RID}
    (readable : ∀ nodeRid, .node nodeRid ∈ rids → nodeRid ≠ node.rid →
      ∃ profile, state.cache.nodeProfile nodeRid = some profile)
    (providerNodes : List KoiNetNode) :
    (NetworkResolver.collectProviders node ridType rids providerNodes).run
        state =
      (.ok (providerNodes ++
        rids.filterMap (provider node ridType state.cache)), state) := by
  induction rids generalizing providerNodes with
  | nil =>
      rw [List.filterMap_nil, List.append_nil]
      rfl
  | cons rid rest induction =>
      have later := induction fun nodeRid member =>
        readable nodeRid (List.mem_cons_of_mem rid member)
      cases rid with
      | node nodeRid =>
          have first : (NetworkResolver.providesState node ridType nodeRid).run
              state = _ := providesState_run
                (readable nodeRid List.mem_cons_self)
          unfold NetworkResolver.collectProviders
          rw [Effect.run_bind_of_ok first, List.filterMap_cons]
          unfold provider
          dsimp only
          split
          · rw [later, List.append_assoc]
            rfl
          · rw [later]
            rfl
      | edge edgeRid => exact later providerNodes
      | other context reference => exact later providerNodes

theorem collectProviders_readable {rids : List RID}
    {providerNodes found : List KoiNetNode} {after : NodeState}
    (returned : (NetworkResolver.collectProviders node ridType rids
      providerNodes).run state = (.ok found, after)) :
    ∀ nodeRid, .node nodeRid ∈ rids → nodeRid ≠ node.rid →
      ∃ profile, state.cache.nodeProfile nodeRid = some profile := by
  induction rids generalizing providerNodes with
  | nil =>
      intro nodeRid member
      cases member
  | cons rid rest induction =>
      intro nodeRid member other
      cases rid with
      | node head =>
          have readable : head ≠ node.rid →
              ∃ profile, state.cache.nodeProfile head = some profile := by
            intro otherHead
            rw [← Option.ne_none_iff_exists']
            intro unread
            obtain ⟨exc, raised⟩ : ∃ exc, (NetworkResolver.providesState node
                ridType head).run state = (.error exc, state) :=
              providesState_raises otherHead unread
            unfold NetworkResolver.collectProviders at returned
            rw [Effect.run_bind_of_error raised] at returned
            cases returned
          unfold NetworkResolver.collectProviders at returned
          rw [Effect.run_bind_of_ok (providesState_run readable)] at returned
          rcases List.mem_cons.mp member with same | inRest
          · cases same
            exact readable other
          · split at returned
            · exact induction returned nodeRid inRest other
            · exact induction returned nodeRid inRest other
      | edge edgeRid =>
          rcases List.mem_cons.mp member with same | inRest
          · cases same
          · exact induction returned nodeRid inRest other
      | other context reference =>
          rcases List.mem_cons.mp member with same | inRest
          · cases same
          · exact induction returned nodeRid inRest other

theorem filterMap_listed (cache : Cache) :
    (cache.listRids node.listdir.order [.koiNetNode]).filterMap
        (provider node ridType cache) =
      providers node ridType cache := by
  unfold Cache.listRids providers
  rw [List.filterMap_filter]
  apply List.filterMap_congr
  intro rid _
  cases rid with
  | node nodeRid => rfl
  | edge edgeRid => rfl
  | other context reference => rfl

theorem mem_listed {cache : Cache} {nodeRid : KoiNetNode} :
    .node nodeRid ∈ cache.listRids node.listdir.order [.koiNetNode] ↔
      .node nodeRid ∈ cache.files.keys := by
  rw [Cache.mem_listRids node.listdir.perm]
  exact and_iff_left (.inr List.mem_cons_self)

theorem getStateProviders_run (readable : Readable node state.cache) :
    (NetworkResolver.getStateProviders node ridType).run state =
      (.ok (providers node ridType state.cache), state) := by
  unfold NetworkResolver.getStateProviders Cache.list
  rw [Effect.run_bind, Effect.run_get_bind, Effect.run_pure]
  dsimp only
  rw [collectProviders_run fun nodeRid member =>
    readable nodeRid (mem_listed.mp member), filterMap_listed]
  rfl

theorem getStateProviders_readable {found : List KoiNetNode}
    {after : NodeState}
    (returned : (NetworkResolver.getStateProviders node ridType).run state =
      (.ok found, after)) :
    Readable node state.cache :=
  fun nodeRid member =>
    collectProviders_readable returned nodeRid (mem_listed.mpr member)

end Providers

theorem fetchFirst_cons_run (nodeRid : KoiNetNode) (rest : List KoiNetNode)
    (earlier : Option KoiNetNode) :
    (NetworkResolver.fetchFirst node rid (nodeRid :: rest) earlier).run state =
      match (RequestHandler.fetchBundles node nodeRid [rid]).run state with
      | (.ok payload, after) =>
          match payload.bundles with
          | [] =>
              (NetworkResolver.fetchFirst node rid rest (some nodeRid)).run after
          | bundle :: _ => (.ok (some bundle, some nodeRid), after)
      | (.error exc, after) =>
          if exc.isRequestError then
            (NetworkResolver.fetchFirst node rid rest (some nodeRid)).run after
          else
            (.error exc, after) := by
  conv => lhs; unfold NetworkResolver.fetchFirst
  unfold Effect.tryExcept
  rw [Effect.run_bind]
  dsimp only
  rw [Effect.run_bind]
  cases (RequestHandler.fetchBundles node nodeRid [rid]).run state with
  | mk result after =>
      cases result with
      | ok payload =>
          obtain ⟨bundles⟩ := payload
          cases bundles with
          | nil => rfl
          | cons bundle others => rfl
      | error exc =>
          dsimp only
          cases exc.isRequestError with
          | false => rfl
          | true => rfl

theorem fetchFirst_run {nodes : List KoiNetNode}
    {earlier source : Option KoiNetNode} {remoteBundle : Option Bundle}
    {after : NodeState}
    (returned : (NetworkResolver.fetchFirst node rid nodes earlier).run state =
      (.ok (remoteBundle, source), after)) :
    firstSent node rid nodes state =
        (remoteBundle.bind fun bundle => source.map fun nodeRid =>
          (bundle, nodeRid), after) ∧
      (remoteBundle.isSome → source.isSome) := by
  induction nodes generalizing state earlier with
  | nil =>
      cases returned
      exact ⟨rfl, Bool.false_ne_true.elim⟩
  | cons nodeRid rest induction =>
      rw [fetchFirst_cons_run] at returned
      unfold firstSent
      generalize (RequestHandler.fetchBundles node nodeRid [rid]).run state =
        ended at returned ⊢
      obtain ⟨result, between⟩ := ended
      cases result with
      | ok payload =>
          obtain ⟨bundles⟩ := payload
          cases bundles with
          | nil => exact induction returned
          | cons bundle others =>
              cases returned
              exact ⟨rfl, fun _ => rfl⟩
      | error exc =>
          dsimp only at returned
          split at returned
          · exact induction returned
          · cases returned

theorem undisturbed_iff {nodes : List KoiNetNode}
    (earlier : Option KoiNetNode) :
    Undisturbed node rid nodes state ↔
      (∃ value after, (NetworkResolver.fetchFirst node rid nodes earlier).run
        state = (.ok value, after)) ∧
      ∀ bundle nodeRid, (firstSent node rid nodes state).1 =
        some (bundle, nodeRid) → bundle.manifest.rid = rid := by
  induction nodes generalizing state earlier with
  | nil =>
      constructor
      · intro _
        refine ⟨⟨_, _, rfl⟩, ?_⟩
        intro bundle nodeRid sent
        cases sent
      · intro _
        trivial
  | cons nodeRid rest induction =>
      rw [fetchFirst_cons_run]
      unfold Undisturbed firstSent
      generalize (RequestHandler.fetchBundles node nodeRid [rid]).run state =
        ended
      obtain ⟨result, between⟩ := ended
      cases result with
      | ok payload =>
          obtain ⟨bundles⟩ := payload
          cases bundles with
          | nil => exact induction (some nodeRid)
          | cons bundle others =>
              constructor
              · intro named
                refine ⟨⟨_, _, rfl⟩, ?_⟩
                intro sent sender same
                cases same
                exact named
              · intro answered
                exact answered.2 bundle nodeRid rfl
      | error exc =>
          dsimp only
          cases exc.isRequestError with
          | false =>
              constructor
              · intro undisturbed
                cases undisturbed.1
              · intro answered
                obtain ⟨⟨value, after, returned⟩, _⟩ := answered
                cases returned
          | true =>
              rw [if_pos rfl]
              exact (and_iff_right rfl).trans (induction (some nodeRid))

/-- What the code calls the place a bundle is found in. -/
def sourced : Bundle × Origin → Found
  | (bundle, .cache) => (bundle, .inl .cache)
  | (bundle, .handler) => (bundle, .inl .action)
  | (bundle, .network nodeRid) => (bundle, .inr (some nodeRid))

theorem tryNetwork_run (readable : Readable node state.cache) :
    (tryNetwork node rid).run state =
      match (NetworkResolver.fetchFirst node rid
        (providers node rid.type state.cache) none).run state with
      | (.ok value, after) =>
          (.ok (value.1.map fun bundle => (bundle, .inr value.2)), after)
      | (.error exc, after) => (.error exc, after) := by
  unfold tryNetwork NetworkResolver.fetchRemoteBundle
  rw [Effect.run_bind, Effect.run_bind_of_ok (getStateProviders_run readable)]
  cases (NetworkResolver.fetchFirst node rid
    (providers node rid.type state.cache) none).run state with
  | mk result after =>
      cases result with
      | ok value => rfl
      | error exc => rfl

theorem tryNetwork_readable {found : Option Found} {after : NodeState}
    (returned : (tryNetwork node rid).run state = (.ok found, after)) :
    Readable node state.cache := by
  unfold tryNetwork NetworkResolver.fetchRemoteBundle at returned
  obtain ⟨_, _, fetched, _⟩ := Effect.run_bind_eq_ok_iff.mp returned
  obtain ⟨_, _, collected, _⟩ := Effect.run_bind_eq_ok_iff.mp fetched
  exact getStateProviders_readable collected

theorem named_remote :
    Named rid (remote node rid true state).1 ↔
      ∀ bundle nodeRid, (firstSent node rid
        (providers node rid.type state.cache) state).1 =
          some (bundle, nodeRid) → bundle.manifest.rid = rid := by
  unfold Named remote
  rw [if_pos rfl]
  dsimp only
  generalize (firstSent node rid (providers node rid.type state.cache)
    state).1 = sent
  cases sent with
  | none => simp
  | some sent =>
      obtain ⟨bundle, nodeRid⟩ := sent
      simp

theorem NetworkSound.run {useNetwork : Bool}
    (sound : NetworkSound node rid useNetwork state) :
    (onlyIf useNetwork (tryNetwork node rid)).run state =
        (.ok ((remote node rid useNetwork state).1.map sourced),
          (remote node rid useNetwork state).2) ∧
      Named rid (remote node rid useNetwork state).1 := by
  cases useNetwork with
  | false =>
      refine ⟨rfl, ?_⟩
      intro bundle nodeRid found
      cases found
  | true =>
      rw [named_remote]
      obtain ⟨readable, undisturbed⟩ := sound rfl
      obtain ⟨⟨⟨remoteBundle, source⟩, after, returned⟩, named⟩ :=
        (undisturbed_iff none).mp undisturbed
      refine ⟨?_, named⟩
      obtain ⟨sent, sender⟩ := fetchFirst_run returned
      unfold onlyIf remote
      rw [if_pos rfl, if_pos rfl, tryNetwork_run readable, returned, sent]
      cases remoteBundle with
      | none => rfl
      | some bundle =>
          obtain ⟨nodeRid, rfl⟩ := Option.isSome_iff_exists.mp (sender rfl)
          rfl

theorem networkSound_of_returned {useNetwork : Bool} {found : Option Found}
    {after : NodeState}
    (returned : (onlyIf useNetwork (tryNetwork node rid)).run state =
      (.ok found, after))
    (named : Named rid (remote node rid useNetwork state).1) :
    NetworkSound node rid useNetwork state := by
  rintro rfl
  rw [named_remote] at named
  unfold onlyIf at returned
  rw [if_pos rfl] at returned
  have readable := tryNetwork_readable returned
  refine ⟨readable, (undisturbed_iff none).mpr ⟨?_, named⟩⟩
  rw [tryNetwork_run readable] at returned
  split at returned
  · rename_i value after fetched
    exact ⟨value, after, fetched⟩
  · cases returned

theorem tryHandler_run
    (returns : ∀ handler, derefHandlers.find? (fun handler =>
        handler.ridTypes.contains rid.type) = some handler →
      ∃ bundle after, (handler.handle rid).run state = (.ok bundle, after)) :
    (tryHandler derefHandlers rid).run state =
      (.ok ((handled derefHandlers rid state).1.map fun bundle =>
        (bundle, .inl .action)), (handled derefHandlers rid state).2) := by
  unfold tryHandler handled
  cases matched : derefHandlers.find? fun handler =>
      handler.ridTypes.contains rid.type with
  | none => rfl
  | some handler =>
      obtain ⟨bundle, after, returned⟩ := returns handler matched
      dsimp only
      rw [Effect.run_bind_of_ok returned, returned]
      rfl

theorem tryHandler_returns {found : Option Found} {after : NodeState}
    (returned : (tryHandler derefHandlers rid).run state = (.ok found, after))
    {handler : DerefHandler}
    (matched : derefHandlers.find? (fun handler =>
        handler.ridTypes.contains rid.type) = some handler) :
    ∃ bundle after, (handler.handle rid).run state = (.ok bundle, after) := by
  unfold tryHandler at returned
  rw [matched] at returned
  obtain ⟨bundle, between, handled, _⟩ := Effect.run_bind_eq_ok_iff.mp returned
  exact ⟨bundle, between, handled⟩

section LookUp

variable {refreshCache useNetwork : Bool}

theorem tryCache_run :
    (onlyIf (!refreshCache) (tryCache rid)).run state =
      (.ok ((if refreshCache then none else state.cache.read rid).map
        fun bundle => (bundle, .inl .cache)), state) := by
  cases refreshCache with
  | false => rfl
  | true => rfl

theorem missed_iff :
    (refreshCache = true ∨ state.cache.read rid = none) ↔
      (if refreshCache then none else state.cache.read rid) = none := by
  cases refreshCache with
  | false => simp
  | true => simp

/-- A bundle is found as it is to be if what is consulted allows it. -/
theorem Consults.run
    (consults : Consults node derefHandlers rid refreshCache useNetwork
      state) :
    (lookUp node derefHandlers rid refreshCache useNetwork).run state =
        (.ok ((expected node derefHandlers rid refreshCache useNetwork
          state).1.map sourced),
          (expected node derefHandlers rid refreshCache useNetwork state).2) ∧
      Named rid (expected node derefHandlers rid refreshCache useNetwork
        state).1 := by
  unfold Consults at consults
  unfold lookUp expected
  rw [missed_iff] at consults
  rw [orElse, Effect.run_bind_of_ok tryCache_run]
  cases stored : if refreshCache then none else state.cache.read rid with
  | some bundle =>
      refine ⟨rfl, ?_⟩
      intro other nodeRid found
      cases found
  | none =>
      obtain ⟨returns, network⟩ := consults stored
      dsimp only [Option.map_none]
      rw [orElse, Effect.run_bind_of_ok (tryHandler_run returns)]
      cases ended : handled derefHandlers rid state with
      | mk handledBundle between =>
          cases handledBundle with
          | some bundle =>
              refine ⟨rfl, ?_⟩
              intro other nodeRid found
              cases found
          | none => exact (network between ended).run

theorem consults_of_lookUp {found : Option Found} {after : NodeState}
    (returned : (lookUp node derefHandlers rid refreshCache useNetwork).run
      state = (.ok found, after))
    (named : Named rid (expected node derefHandlers rid refreshCache useNetwork
      state).1) :
    Consults node derefHandlers rid refreshCache useNetwork state := by
  unfold Consults
  rw [missed_iff]
  intro missed
  unfold lookUp at returned
  unfold expected at named
  rw [orElse, Effect.run_bind_of_ok tryCache_run, missed] at returned
  rw [missed] at named
  dsimp only [Option.map_none] at returned
  rw [orElse] at returned
  have returns : ∀ handler, derefHandlers.find? (fun handler =>
        handler.ridTypes.contains rid.type) = some handler →
      ∃ bundle after, (handler.handle rid).run state = (.ok bundle, after) := by
    obtain ⟨_, _, tried, _⟩ := Effect.run_bind_eq_ok_iff.mp returned
    exact fun handler => tryHandler_returns tried
  refine ⟨returns, ?_⟩
  intro between ended
  rw [Effect.run_bind_of_ok (tryHandler_run returns), ended] at returned
  rw [ended] at named
  exact networkSound_of_returned returned named

end LookUp

theorem queued_nil {handleResult : Bool}
    {found : Option (Bundle × Origin) × NodeState}
    (nothing : announced handleResult found.1 = []) :
    queued handleResult found = found.2 := by
  unfold queued NodeState.withQueue
  rw [nothing, List.append_nil]

/-- What is found is returned, after it has been queued and waited for. -/
theorem deref_run {wait : NodeM Unit}
    {refreshCache useNetwork : Bool} (handleResult writeThrough : Bool)
    {found : Option (Bundle × Origin) × NodeState}
    (looked : (lookUp node derefHandlers rid refreshCache useNetwork).run
      state = (.ok (found.1.map sourced), found.2)) :
    (deref node derefHandlers wait rid refreshCache useNetwork handleResult
        writeThrough).run state =
      if writeThrough ∧ announced handleResult found.1 ≠ [] then
        (wait >>= fun _ => pure (found.1.map Prod.fst)).run
          (queued handleResult found)
      else
        (.ok (found.1.map Prod.fst), queued handleResult found) := by
  unfold deref
  rw [Effect.run_bind_of_ok looked]
  obtain ⟨bundle, after⟩ := found
  cases bundle with
  | none =>
      rw [if_neg fun both => both.2 rfl, queued_nil rfl]
      rfl
  | some found =>
      obtain ⟨bundle, origin⟩ := found
      cases origin with
      | cache =>
          rw [if_neg fun both => both.2 rfl, queued_nil rfl]
          cases handleResult with
          | false => rfl
          | true => rfl
      | handler =>
          cases handleResult with
          | false =>
              rw [if_neg fun both => both.2 rfl, queued_nil rfl]
              rfl
          | true =>
              cases writeThrough with
              | false => rfl
              | true => rfl
      | network nodeRid =>
          cases handleResult with
          | false =>
              rw [if_neg fun both => both.2 rfl, queued_nil rfl]
              rfl
          | true =>
              cases writeThrough with
              | false => rfl
              | true => rfl

/-- Dereferencing is right exactly if what it consults allows it and it does
not wait for the queue in vain. -/
theorem derefs_iff (node : Node) (derefHandlers : List DerefHandler)
    (wait : NodeM Unit) (rid : RID)
    (refreshCache useNetwork handleResult writeThrough : Bool)
    (state : NodeState) :
    Derefs node derefHandlers rid wait refreshCache useNetwork handleResult
        writeThrough state ↔
      Consults node derefHandlers rid refreshCache useNetwork state ∧
        Waits wait handleResult writeThrough
          (expected node derefHandlers rid refreshCache useNetwork state) := by
  constructor
  · intro derefs
    obtain ⟨named, after, returned, ends⟩ := derefs
    have consults : Consults node derefHandlers rid refreshCache useNetwork
        state := by
      unfold deref at returned
      obtain ⟨_, _, looked, _⟩ := Effect.run_bind_eq_ok_iff.mp returned
      exact consults_of_lookUp looked named
    refine ⟨consults, ?_⟩
    intro throughQueue pushed
    rw [if_pos ⟨throughQueue, pushed⟩] at ends
    exact ⟨after, ends⟩
  · intro given
    obtain ⟨consults, waits⟩ := given
    obtain ⟨looked, named⟩ := consults.run
    refine ⟨named, ?_⟩
    rw [deref_run handleResult writeThrough looked]
    by_cases waiting : writeThrough = true ∧ announced handleResult
        (expected node derefHandlers rid refreshCache useNetwork state).1 ≠ []
    · obtain ⟨after, waited⟩ := waits waiting.1 waiting.2
      rw [if_pos waiting, Effect.run_bind_of_ok waited]
      exact ⟨after, rfl, by rw [if_pos waiting]; exact waited⟩
    · rw [if_neg waiting]
      exact ⟨_, rfl, by rw [if_neg waiting]⟩

def documentNamed (name : String) : Bundle :=
  { manifest :=
      { rid := .other "orn:document" name
        timestamp := 0
        sha256Hash := "hash" }
    contents := [] }

def documentProvider (name : String) : Bundle :=
  { manifest :=
      { rid := .node { name := name, hash := "h" }
        timestamp := 0
        sha256Hash := "hash" }
    contents :=
      [("base_url", .str name), ("node_type", .str "FULL"),
        ("provides", .dict
          [("state", .list [.ridType (.other "orn:document")])])] }

/-- A node whose peers answer requests for bundles so. -/
def asking (answers : String → Except Exc BundlesPayload) : Node :=
  { Node.standalone with
    answer := fun _ _ peer path _ =>
      match path with
      | .fetchBundles => .received (answers peer.name)
      | _ => .unreachable }

/-- The node knows two providers. -/
def acquainted : NodeState :=
  .fresh ((Cache.empty.write (documentProvider "first")).write
    (documentProvider "second"))

/-- The first provider sends another document than the one asked for, or an
answer that does not validate while the second would send the document. -/
theorem deref_network_fails :
    ¬Derefs (asking fun _ => .ok { bundles := [documentNamed "b"] }) []
        (.other "orn:document" "a") (pure ()) false true true false
        acquainted ∧
      ¬Derefs
        (asking fun peer =>
          if peer = "first" then .error (.protocol .invalidSignature)
          else .ok { bundles := [documentNamed "a"] }) []
        (.other "orn:document" "a") (pure ()) false true true false
        acquainted := by
  constructor
  · intro derefs
    have named := derefs.1 (documentNamed "b") { name := "first", hash := "h" }
      rfl
    exact absurd named (by decide)
  · intro derefs
    obtain ⟨_, after, returned, _⟩ := derefs
    have raised := congrArg Prod.fst returned
    cases raised

end Effector

end KoiNet
