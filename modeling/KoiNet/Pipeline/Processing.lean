import KoiNet.Pipeline.Settlement

/-!
# Processing reaches the write exactly when the object arrives

The stages of `process` one after the other: each is inverted once, and the
effect of the whole on the cache is put together from the inversions.
-/

namespace KoiNet

open Foundation

/-- How a request guarded by `except RequestError` ends. -/
inductive Fetched (node : Node) (state : NodeState) (peer : KoiNetNode)
    (path : Path) (request : path.Request) :
    Except Exc (Option path.Response) → NodeState → Prop where
  | answered (payload : path.Response) :
      Answers node state peer path request payload →
      Fetched node state peer path request (.ok (some payload))
        (state.answered peer)
  | unanswered (error : RequestError) (after : NodeState) :
      RequestHandler.outcome node state peer path request =
        .error (.request error) →
      Fetched node state peer path request (.ok none) after
  | raised (failure : Exc) (after : NodeState) :
      RequestHandler.outcome node state peer path request = .error failure →
      failure.isRequestError = false →
      Fetched node state peer path request (.error failure) after

/-- `try: payload = request(...) except RequestError: ...`. -/
def guardedRequest (node : Node) (peer : KoiNetNode) (path : Path)
    (request : path.Request) : NodeM (Option path.Response) :=
  Effect.tryExcept
    (RequestHandler.makeRequest node peer path request >>= fun payload =>
      pure (some payload))
    Exc.isRequestError (pure none)

theorem guardedRequest_run (node : Node) (state : NodeState)
    (peer : KoiNetNode) (path : Path) (request : path.Request) :
    Fetched node state peer path request
      ((guardedRequest node peer path request).run state).1
      ((guardedRequest node peer path request).run state).2 := by
  obtain ⟨after, ran, answered⟩ :=
    RequestHandler.makeRequest_run node state peer path request
  unfold guardedRequest Effect.tryExcept
  dsimp only
  rw [Effect.run_bind, ran]
  cases ended : RequestHandler.outcome node state peer path request with
  | ok payload =>
      have answers : Answers node state peer path request payload := ended
      simp only [Effect.run_pure, answered payload answers]
      exact .answered payload answers
  | error failure =>
      dsimp only
      cases caught : failure.isRequestError with
      | true =>
          cases failure <;> simp only [Exc.isRequestError] at caught
          · exact .unanswered _ after ended
          all_goals cases caught
      | false =>
          simp only [Bool.false_eq_true, if_false]
          exact .raised failure after ended caught

theorem guardedRequest_answered {node : Node} {state : NodeState}
    {peer : KoiNetNode} {path : Path} {request : path.Request}
    {payload : path.Response}
    (answers : Answers node state peer path request payload) :
    (guardedRequest node peer path request).run state =
      (.ok (some payload), state.answered peer) := by
  unfold guardedRequest Effect.tryExcept
  dsimp only
  rw [Effect.run_bind_of_ok (RequestHandler.makeRequest_returns answers)]
  rfl

/-- The response of a handler that got the object. -/
def HandlerResponse.next (kobj : KnowledgeObject) :
    HandlerResponse → Option KnowledgeObject
  | .stopChain => none
  | .unmodified => some kobj
  | .modified changed => some changed

namespace KnowledgePipeline

theorem callHandlerChain_single {handlerType : HandlerType}
    {handler : KnowledgeHandler} {kobj : KnowledgeObject}
    {result : Except Exc HandlerResponse} {state after : NodeState}
    (called : handler.handlerType = handlerType)
    (accepted : handler.accepts kobj = true)
    (handled : (handler.handle kobj).run state = (result, after)) :
    (callHandlerChain handlerType [handler] kobj).run state =
      (result.map fun response => response.next kobj, after) := by
  rw [callHandlerChain_call called accepted, Effect.run_bind, handled]
  cases result with
  | error failure => rfl
  | ok response => cases response <;> rfl

section Obtaining

variable {node : Node} {kobj : KnowledgeObject} {state : NodeState}

theorem obtainManifest_own {manifest : Manifest}
    (hasManifest : kobj.manifest = some manifest) (state : NodeState) :
    (obtainManifest node kobj).run state = (.ok (some kobj), state) := by
  unfold obtainManifest
  rw [hasManifest]
  rfl

theorem obtainContents_own (lacks : kobj.lacksContents = false)
    (state : NodeState) :
    (obtainContents node kobj).run state = (.ok (some kobj), state) := by
  unfold obtainContents
  rw [lacks]
  rfl

theorem obtainManifest_fetches {peer : KoiNetNode}
    (absent : kobj.manifest = none) (sender : kobj.source = some peer) :
    obtainManifest node kobj =
      guardedRequest node peer .fetchManifests
        ({ rids := [kobj.rid] } : FetchManifests) >>= takeManifest kobj := by
  unfold obtainManifest
  rw [absent, sender]
  rfl

theorem obtainContents_fetches {peer : KoiNetNode}
    (lacks : kobj.lacksContents = true) (sender : kobj.source = some peer) :
    obtainContents node kobj =
      guardedRequest node peer .fetchBundles
        ({ rids := [kobj.rid] } : FetchBundles) >>= takeBundle kobj := by
  unfold obtainContents
  rw [lacks, sender]
  rfl

/-- How obtaining the manifest ends. -/
inductive ManifestStep (node : Node) (kobj : KnowledgeObject)
    (state : NodeState) :
    Except Exc (Option KnowledgeObject) → NodeState → Prop where
  | found (manifest : Manifest) (after : NodeState) :
      Announced node kobj state manifest after →
      ManifestStep node kobj state
        (.ok (some { kobj with manifest := some manifest })) after
  | noSource :
      kobj.manifest = none → kobj.source = none →
      ManifestStep node kobj state (.ok none) state
  | unanswered (peer : KoiNetNode) (error : RequestError)
      (after : NodeState) :
      kobj.manifest = none → kobj.source = some peer →
      RequestHandler.outcome node state peer .fetchManifests
        ({ rids := [kobj.rid] } : FetchManifests) = .error (.request error) →
      ManifestStep node kobj state (.ok none) after
  | emptyAnswer (peer : KoiNetNode) (payload : ManifestsPayload) :
      kobj.manifest = none → kobj.source = some peer →
      Answers node state peer .fetchManifests
        ({ rids := [kobj.rid] } : FetchManifests) payload →
      payload.manifests = [] →
      ManifestStep node kobj state (.error .indexError) (state.answered peer)
  | raised (peer : KoiNetNode) (failure : Exc) (after : NodeState) :
      kobj.manifest = none → kobj.source = some peer →
      RequestHandler.outcome node state peer .fetchManifests
        ({ rids := [kobj.rid] } : FetchManifests) = .error failure →
      failure.isRequestError = false →
      ManifestStep node kobj state (.error failure) after

theorem obtainManifest_step (node : Node) (kobj : KnowledgeObject)
    (state : NodeState) :
    ManifestStep node kobj state ((obtainManifest node kobj).run state).1
      ((obtainManifest node kobj).run state).2 := by
  cases hasManifest : kobj.manifest with
  | some manifest =>
      have announced : Announced node kobj state manifest state :=
        .own manifest hasManifest
      have found := ManifestStep.found manifest state announced
      rw [← hasManifest] at found
      rw [obtainManifest_own hasManifest]
      exact found
  | none =>
      cases sender : kobj.source with
      | none =>
          unfold obtainManifest
          rw [hasManifest, sender]
          exact .noSource hasManifest sender
      | some peer =>
          rw [obtainManifest_fetches hasManifest sender]
          have fetched := guardedRequest_run node state peer .fetchManifests
            ({ rids := [kobj.rid] } : FetchManifests)
          rw [Effect.run_bind]
          generalize (guardedRequest node peer .fetchManifests
            ({ rids := [kobj.rid] } : FetchManifests)).run state = ended
            at fetched ⊢
          obtain ⟨result, after⟩ := ended
          cases fetched with
          | answered payload answers =>
              unfold takeManifest
              dsimp only
              cases listed : payload.manifests with
              | nil =>
                  exact .emptyAnswer peer payload hasManifest sender answers
                    listed
              | cons manifest others =>
                  exact .found manifest _ (.fetched peer payload manifest
                    others hasManifest sender answers listed)
          | unanswered error after failed =>
              exact .unanswered peer error _ hasManifest sender failed
          | raised failure after failed uncaught =>
              exact .raised peer failure _ hasManifest sender failed uncaught

/-- How obtaining the contents ends. -/
inductive ContentsStep (node : Node) (kobj : KnowledgeObject)
    (manifest : Manifest) (state : NodeState) :
    Except Exc (Option KnowledgeObject) → NodeState → Prop where
  | found (bundle : Bundle) (after : NodeState) :
      Carried node kobj manifest state bundle after →
      ContentsStep node kobj manifest state
        (.ok (some
          { kobj with
            manifest := some bundle.manifest
            contents := some bundle.contents })) after
  | noSource :
      kobj.lacksContents = true → kobj.source = none →
      ContentsStep node kobj manifest state (.ok none) state
  | unanswered (peer : KoiNetNode) (error : RequestError)
      (after : NodeState) :
      kobj.lacksContents = true → kobj.source = some peer →
      RequestHandler.outcome node state peer .fetchBundles
        ({ rids := [kobj.rid] } : FetchBundles) = .error (.request error) →
      ContentsStep node kobj manifest state (.ok none) after
  | emptyAnswer (peer : KoiNetNode) (payload : BundlesPayload) :
      kobj.lacksContents = true → kobj.source = some peer →
      Answers node state peer .fetchBundles
        ({ rids := [kobj.rid] } : FetchBundles) payload →
      payload.bundles = [] →
      ContentsStep node kobj manifest state (.error .indexError)
        (state.answered peer)
  | raised (peer : KoiNetNode) (failure : Exc) (after : NodeState) :
      kobj.lacksContents = true → kobj.source = some peer →
      RequestHandler.outcome node state peer .fetchBundles
        ({ rids := [kobj.rid] } : FetchBundles) = .error failure →
      failure.isRequestError = false →
      ContentsStep node kobj manifest state (.error failure) after

theorem obtainContents_step {manifest : Manifest}
    (hasManifest : kobj.manifest = some manifest) (state : NodeState) :
    ContentsStep node kobj manifest state
      ((obtainContents node kobj).run state).1
      ((obtainContents node kobj).run state).2 := by
  cases lacks : kobj.lacksContents with
  | false =>
      obtain ⟨contents, present, nonempty⟩ :
          ∃ contents, kobj.contents = some contents ∧ contents ≠ [] := by
        unfold KnowledgeObject.lacksContents at lacks
        cases held : kobj.contents with
        | none => simp [held] at lacks
        | some contents =>
            simp only [held] at lacks
            exact ⟨contents, rfl, by simpa using lacks⟩
      have carried :
          Carried node kobj manifest state { manifest, contents } state :=
        .own contents present nonempty
      have found := ContentsStep.found _ state carried
      dsimp only at found
      rw [← hasManifest, ← present] at found
      rw [obtainContents_own lacks]
      exact found
  | true =>
      cases sender : kobj.source with
      | none =>
          unfold obtainContents
          rw [lacks, sender]
          exact .noSource lacks sender
      | some peer =>
          rw [obtainContents_fetches lacks sender]
          have fetched := guardedRequest_run node state peer .fetchBundles
            ({ rids := [kobj.rid] } : FetchBundles)
          rw [Effect.run_bind]
          generalize (guardedRequest node peer .fetchBundles
            ({ rids := [kobj.rid] } : FetchBundles)).run state = ended
            at fetched ⊢
          obtain ⟨result, after⟩ := ended
          cases fetched with
          | answered payload answers =>
              unfold takeBundle
              dsimp only
              cases listed : payload.bundles with
              | nil => exact .emptyAnswer peer payload lacks sender answers listed
              | cons bundle others =>
                  exact .found bundle _ (.fetched peer payload bundle others
                    lacks sender answers listed)
          | unanswered error after failed =>
              exact .unanswered peer error _ lacks sender failed
          | raised failure after failed uncaught =>
              exact .raised peer failure _ lacks sender failed uncaught

theorem obtainManifest_announced {manifest : Manifest} {after : NodeState}
    (announced : Announced node kobj state manifest after) :
    (obtainManifest node kobj).run state =
      (.ok (some { kobj with manifest := some manifest }), after) := by
  cases announced with
  | own manifest present =>
      rw [obtainManifest_own present, ← present]
  | fetched peer payload manifest others absent sender answers listed =>
      rw [obtainManifest_fetches absent sender,
        Effect.run_bind_of_ok (guardedRequest_answered answers)]
      unfold takeManifest
      dsimp only
      rw [listed]
      rfl

theorem obtainContents_carried {manifest : Manifest} {bundle : Bundle}
    {after : NodeState} (hasManifest : kobj.manifest = some manifest)
    (carried : Carried node kobj manifest state bundle after) :
    (obtainContents node kobj).run state =
      (.ok (some
        { kobj with
          manifest := some bundle.manifest
          contents := some bundle.contents }), after) := by
  cases carried with
  | own contents present nonempty =>
      have lacks : kobj.lacksContents = false := by
        unfold KnowledgeObject.lacksContents
        rw [present]
        simpa using nonempty
      rw [obtainContents_own lacks, ← hasManifest, ← present]
  | fetched peer payload bundle others lacks sender answers listed =>
      rw [obtainContents_fetches lacks sender,
        Effect.run_bind_of_ok (guardedRequest_answered answers)]
      unfold takeBundle
      dsimp only
      rw [listed]
      rfl

end Obtaining

end KnowledgePipeline

namespace Registry

open KnowledgePipeline

variable {node : Node} (registry : Registry node) {kobj : KnowledgeObject}

/-- An object that neither of the two Bundle handlers is given. -/
theorem bundleChain_skips (kobj : KnowledgeObject)
    (notNode : ¬(kobj.rid.type = .koiNetNode ∧ kobj.isTyped))
    (notEdge : ¬(kobj.rid.type = .koiNetEdge ∧ kobj.isTyped))
    (state : NodeState) :
    (callHandlerChain .bundle registry.handlers kobj).run state =
      (.ok (some kobj), state) := by
  have secure : (secureProfileHandler node).accepts kobj = false := by
    rw [← Bool.not_eq_true, secureProfileHandler_accepts_iff]
    exact notNode
  have negotiation : (edgeNegotiationHandler node).accepts kobj = false := by
    rw [← Bool.not_eq_true, edgeNegotiationHandler_accepts_iff]
    exact notEdge
  rw [callHandlerChain_ofType]
  rcases registry.ofType_bundle with order | order
  · rw [order, callHandlerChain_skip negotiation,
      callHandlerChain_skip secure]
    rfl
  · rw [order, callHandlerChain_skip secure,
      callHandlerChain_skip negotiation]
    rfl

theorem bundleChain_node {nodeRid : KoiNetNode} {manifest : Manifest}
    {contents : Contents} (isNode : kobj.rid = .node nodeRid)
    (typed : kobj.isTyped) (hasManifest : kobj.manifest = some manifest)
    (hasContents : kobj.contents = some contents) (state : NodeState) :
    (callHandlerChain .bundle registry.handlers kobj).run state =
      ((SecureProfileHandler.verdict node nodeRid contents).map
        fun response => response.next kobj, state) := by
  have handled := SecureProfileHandler.handle_run node isNode hasManifest
    hasContents state
  have secure : (secureProfileHandler node).accepts kobj = true := by
    rw [secureProfileHandler_accepts_iff, isNode]
    exact ⟨rfl, typed⟩
  have negotiation : (edgeNegotiationHandler node).accepts kobj = false := by
    rw [← Bool.not_eq_true, edgeNegotiationHandler_accepts_iff, isNode]
    rintro ⟨isEdge, _⟩
    cases isEdge
  rw [callHandlerChain_ofType]
  rcases registry.ofType_bundle with order | order
  · rw [order, callHandlerChain_skip negotiation]
    exact callHandlerChain_single rfl secure handled
  · rw [order, callHandlerChain_pair negotiation]
    · exact callHandlerChain_single rfl secure handled
    · intro _ changed
      change ((SecureProfileHandler.handle node kobj).run state).1 ≠ _
      rw [handled]
      exact SecureProfileHandler.verdict_ne_modified

theorem bundleChain_edge {edgeRid : KoiNetEdge} {manifest : Manifest}
    {contents : Contents} {result : Except Exc HandlerResponse}
    {state after : NodeState} (isEdge : kobj.rid = .edge edgeRid)
    (typed : kobj.isTyped) (hasManifest : kobj.manifest = some manifest)
    (hasContents : kobj.contents = some contents)
    (handled : (EdgeNegotiationHandler.handle node kobj).run state =
      (result, after)) :
    (callHandlerChain .bundle registry.handlers kobj).run state =
      (result.map fun response => response.next kobj, after) := by
  have negotiation : (edgeNegotiationHandler node).accepts kobj = true := by
    rw [edgeNegotiationHandler_accepts_iff, isEdge]
    exact ⟨rfl, typed⟩
  have secure : (secureProfileHandler node).accepts kobj = false := by
    rw [← Bool.not_eq_true, secureProfileHandler_accepts_iff, isEdge]
    rintro ⟨isNode, _⟩
    cases isNode
  rw [callHandlerChain_ofType]
  rcases registry.ofType_bundle with order | order
  · rw [order, callHandlerChain_pair secure]
    · exact callHandlerChain_single rfl negotiation handled
    · intro _ changed
      change ((EdgeNegotiationHandler.handle node kobj).run state).1 ≠ _
      exact (EdgeNegotiationHandler.handle_step node hasManifest hasContents
        state).ne_modified
  · rw [order, callHandlerChain_skip secure]
    exact callHandlerChain_single rfl negotiation handled

private theorem map_next_iff {kobj final : KnowledgeObject}
    {result : Except Exc HandlerResponse}
    (keeps : ∀ changed, result ≠ .ok (.modified changed)) :
    (result.map fun response => response.next kobj) = .ok (some final) ↔
      final = kobj ∧ result = .ok .unmodified := by
  cases result with
  | error failure => simp [Except.map]
  | ok response =>
      cases response with
      | stopChain => simp [Except.map, HandlerResponse.next]
      | unmodified => simp [Except.map, HandlerResponse.next, eq_comm]
      | modified changed => exact (keeps changed rfl).elim

/-- The Bundle chain lets pass, unchanged, exactly the admitted objects. -/
theorem bundleChain_passes_iff {manifest : Manifest} {contents : Contents}
    {final : KnowledgeObject} {state : NodeState}
    (hasManifest : kobj.manifest = some manifest)
    (hasContents : kobj.contents = some contents) :
    ((callHandlerChain .bundle registry.handlers kobj).run state).1 =
        .ok (some final) ↔
      final = kobj ∧ BundleAdmits node state.cache kobj contents := by
  by_cases typed : kobj.isTyped
  · cases named : kobj.rid with
    | other context reference =>
        rw [registry.bundleChain_skips kobj (by simp [named, RID.type])
          (by simp [named, RID.type])]
        simp [BundleAdmits, named, eq_comm]
    | node nodeRid =>
        rw [registry.bundleChain_node named typed hasManifest hasContents,
          map_next_iff fun changed =>
            SecureProfileHandler.verdict_ne_modified,
          SecureProfileHandler.verdict_eq_unmodified_iff]
        simp [BundleAdmits, named, typed]
    | edge edgeRid =>
        have step := EdgeNegotiationHandler.handle_step node hasManifest
          hasContents state
        generalize handled :
          (EdgeNegotiationHandler.handle node kobj).run state = ended at step
        obtain ⟨result, after⟩ := ended
        rw [registry.bundleChain_edge named typed hasManifest hasContents
          handled, map_next_iff fun changed => step.ne_modified,
          step.unmodified_iff]
        simp [BundleAdmits, named, typed]
  · rw [registry.bundleChain_skips kobj (fun node => typed node.2)
      (fun edge => typed edge.2)]
    cases named : kobj.rid <;>
      simp [BundleAdmits, named, typed, eq_comm]

end Registry

/-- The cache action chosen for an object with this RID that is written. -/
def Cache.writeType (cache : Cache) (rid : RID) : EventType :=
  if (cache.read rid).isSome then .update else .new

namespace KnowledgeObject

/-- The object with a bundle attached and its cache action chosen. -/
def settled (kobj : KnowledgeObject) (normalizedEventType : EventType)
    (bundle : Bundle) : KnowledgeObject :=
  { kobj with
    manifest := some bundle.manifest
    contents := some bundle.contents
    normalizedEventType := some normalizedEventType }

end KnowledgeObject

namespace KnowledgePipeline

/-- How deciding on the cache action ends. -/
inductive SettleStep (node : Node) (handlers : List KnowledgeHandler)
    (state : NodeState) (kobj : KnowledgeObject) :
    Except Exc (Option KnowledgeObject) → NodeState → Prop where
  | blocked :
      ¬PassesRid node kobj →
      SettleStep node handlers state kobj (.ok none) state
  | notCached :
      PassesRid node kobj → kobj.eventType = some .forget →
      state.cache.read kobj.rid = none →
      SettleStep node handlers state kobj (.ok none) state
  | deletes (bundle : Bundle) :
      Deletes node state kobj bundle →
      SettleStep node handlers state kobj
        (.ok (some (kobj.settled .forget bundle))) state
  | noManifest (after : NodeState) :
      PassesRid node kobj → kobj.eventType ≠ some .forget →
      ManifestStep node kobj state (.ok none) after →
      SettleStep node handlers state kobj (.ok none) after
  | manifestRaised (failure : Exc) (after : NodeState) :
      PassesRid node kobj → kobj.eventType ≠ some .forget →
      ManifestStep node kobj state (.error failure) after →
      SettleStep node handlers state kobj (.error failure) after
  | stale (manifest : Manifest) (after : NodeState) :
      PassesRid node kobj → kobj.eventType ≠ some .forget →
      Announced node kobj state manifest after →
      ¬Fresh state.cache kobj.rid manifest →
      SettleStep node handlers state kobj (.ok none) after
  | noContents (manifest : Manifest) (between after : NodeState) :
      PassesRid node kobj → kobj.eventType ≠ some .forget →
      Announced node kobj state manifest between →
      Fresh state.cache kobj.rid manifest →
      ContentsStep node kobj manifest between (.ok none) after →
      SettleStep node handlers state kobj (.ok none) after
  | contentsRaised (manifest : Manifest) (between : NodeState)
      (failure : Exc) (after : NodeState) :
      PassesRid node kobj → kobj.eventType ≠ some .forget →
      Announced node kobj state manifest between →
      Fresh state.cache kobj.rid manifest →
      ContentsStep node kobj manifest between (.error failure) after →
      SettleStep node handlers state kobj (.error failure) after
  | judged (manifest : Manifest) (bundle : Bundle)
      (between complete : NodeState)
      (result : Except Exc (Option KnowledgeObject)) (after : NodeState) :
      PassesRid node kobj → kobj.eventType ≠ some .forget →
      Announced node kobj state manifest between →
      Fresh state.cache kobj.rid manifest →
      Carried node kobj manifest between bundle complete →
      (callHandlerChain .bundle handlers
        (kobj.settled (state.cache.writeType kobj.rid) bundle)).run complete =
          (result, after) →
      SettleStep node handlers state kobj result after

/-- An object whose manifest has passed the Manifest chain. -/
def tested (cache : Cache) (kobj : KnowledgeObject)
    (manifest : Manifest) : KnowledgeObject :=
  { kobj with
    manifest := some manifest
    normalizedEventType := some (cache.writeType kobj.rid) }

theorem carried_of_tested {node : Node} {cache : Cache}
    {kobj : KnowledgeObject} {announced manifest : Manifest}
    {state after : NodeState} {bundle : Bundle} :
    Carried node (tested cache kobj announced) manifest state bundle after ↔
      Carried node kobj manifest state bundle after := by
  constructor
  · intro carried
    cases carried with
    | own contents present nonempty => exact .own contents present nonempty
    | fetched peer payload _ others lacks sender answers listed =>
        exact .fetched peer payload bundle others lacks sender answers listed
  · intro carried
    cases carried with
    | own contents present nonempty => exact .own contents present nonempty
    | fetched peer payload _ others lacks sender answers listed =>
        exact .fetched peer payload bundle others lacks sender answers listed

theorem manifestResult_fresh {cache : Cache} {kobj : KnowledgeObject}
    {manifest : Manifest} (fresh : Fresh cache kobj.rid manifest) :
    Registry.manifestResult cache { kobj with manifest := some manifest }
        manifest =
      some (tested cache kobj manifest) := by
  unfold Registry.manifestResult tested Cache.writeType
  dsimp only
  cases cached : cache.read kobj.rid with
  | none => rfl
  | some previous =>
      dsimp only
      rw [if_pos (fresh previous cached)]
      rfl

theorem manifestResult_stale {cache : Cache} {kobj : KnowledgeObject}
    {manifest : Manifest} (stale : ¬Fresh cache kobj.rid manifest) :
    Registry.manifestResult cache { kobj with manifest := some manifest }
        manifest = none := by
  unfold Registry.manifestResult
  dsimp only
  cases cached : cache.read kobj.rid with
  | none =>
      refine (stale ?_).elim
      intro previous found
      rw [cached] at found
      cases found
  | some previous =>
      dsimp only
      rw [if_neg]
      intro newer
      apply stale
      intro other found
      cases cached.symm.trans found
      exact newer

variable {node : Node} (registry : Registry node)

theorem settle_blocked {kobj : KnowledgeObject}
    (blocked : ¬PassesRid node kobj) (state : NodeState) :
    (settle node registry.handlers kobj).run state = (.ok none, state) := by
  have stopped : Registry.ridResult node kobj = none := by
    unfold Registry.ridResult
    rw [if_pos (not_not.mp blocked)]
  unfold settle
  rw [Effect.run_bind_of_ok (registry.ridChain_run kobj state), stopped]
  rfl

theorem settle_forget {kobj : KnowledgeObject} (passes : PassesRid node kobj)
    (forget : kobj.eventType = some .forget) (state : NodeState) :
    (settle node registry.handlers kobj).run state =
      (.ok ((state.cache.read kobj.rid).map (kobj.settled .forget)),
        state) := by
  have passed : Registry.ridResult node kobj =
      some { kobj with normalizedEventType := some .forget } := by
    unfold Registry.ridResult
    rw [if_neg passes, if_pos forget]
  unfold settle
  rw [Effect.run_bind_of_ok (registry.ridChain_run kobj state), passed]
  dsimp only
  unfold obtainBundle attachLocal
  rw [if_pos forget, Effect.run_bind, Effect.run_get_bind]
  cases cached : state.cache.read kobj.rid with
  | none => rfl
  | some bundle =>
      simp only [Effect.run_pure, Option.map_some]
      have untyped : ¬kobj.isTyped := by
        unfold KnowledgeObject.isTyped
        rw [forget]
        simp
      exact registry.bundleChain_skips (kobj.settled .forget bundle)
        (fun node => untyped node.2) (fun edge => untyped edge.2) state

section Obtaining

variable {kobj : KnowledgeObject} {state : NodeState}

theorem obtainBundle_of_manifest
    (notForget : kobj.eventType ≠ some .forget)
    {result : Except Exc (Option KnowledgeObject)} {after : NodeState}
    (unobtained : result = .ok none ∨ ∃ failure, result = .error failure)
    (ran : (obtainManifest node kobj).run state = (result, after)) :
    (obtainBundle node registry.handlers kobj).run state =
      (result, after) := by
  unfold obtainBundle
  rw [if_neg notForget, Effect.run_bind, ran]
  rcases unobtained with rfl | ⟨failure, rfl⟩
  · rfl
  · rfl

theorem obtainBundle_of_announced
    (notForget : kobj.eventType ≠ some .forget) {manifest : Manifest}
    {between : NodeState}
    (announced : Announced node kobj state manifest between) :
    (obtainBundle node registry.handlers kobj).run state =
      match Registry.manifestResult state.cache
          { kobj with manifest := some manifest } manifest with
      | none => (.ok none, between)
      | some judged => (obtainContents node judged).run between := by
  have chained := registry.manifestChain_run
    (show { kobj with manifest := some manifest }.manifest = some manifest
      from rfl) between
  unfold obtainBundle
  rw [if_neg notForget,
    Effect.run_bind_of_ok (obtainManifest_announced announced)]
  dsimp only
  rw [Effect.run_bind_of_ok chained, announced.cache]
  cases Registry.manifestResult state.cache
      { kobj with manifest := some manifest } manifest with
  | none => rfl
  | some judged => rfl

theorem settle_of_obtained (passes : PassesRid node kobj)
    (notForget : kobj.eventType ≠ some .forget)
    (result : Except Exc (Option KnowledgeObject)) (after : NodeState) :
    (obtainBundle node registry.handlers kobj).run state =
      (result, after) →
    (settle node registry.handlers kobj).run state =
      match result with
      | .error failure => (.error failure, after)
      | .ok none => (.ok none, after)
      | .ok (some complete) =>
          (callHandlerChain .bundle registry.handlers complete).run after := by
  intro ran
  have passed : Registry.ridResult node kobj = some kobj := by
    unfold Registry.ridResult
    rw [if_neg passes, if_neg notForget]
  unfold settle
  rw [Effect.run_bind_of_ok (registry.ridChain_run kobj state), passed]
  dsimp only
  rw [Effect.run_bind, ran]
  rcases result with failure | _ | complete
  · rfl
  · rfl
  · rfl

private theorem settle_step_announced (passes : PassesRid node kobj)
    (notForget : kobj.eventType ≠ some .forget) {manifest : Manifest}
    {between : NodeState}
    (announced : Announced node kobj state manifest between) :
    SettleStep node registry.handlers state kobj
      ((settle node registry.handlers kobj).run state).1
      ((settle node registry.handlers kobj).run state).2 := by
  have obtained :=
    obtainBundle_of_announced registry notForget announced
  by_cases fresh : Fresh state.cache kobj.rid manifest
  · rw [manifestResult_fresh fresh] at obtained
    have contents : ContentsStep node (tested state.cache kobj manifest)
        manifest between _ _ := obtainContents_step rfl between
    dsimp only at obtained
    generalize (obtainContents node
      (tested state.cache kobj manifest)).run between = ended
      at obtained contents
    obtain ⟨result, after⟩ := ended
    rw [settle_of_obtained registry passes notForget _ _ obtained]
    cases contents with
    | found bundle _ carried =>
        exact .judged manifest bundle between after _ _ passes notForget
          announced fresh (carried_of_tested.mp carried) rfl
    | noSource lacks noSource =>
        exact .noContents manifest _ _ passes notForget announced fresh
          (.noSource lacks noSource)
    | unanswered peer error _ lacks sender failed =>
        exact .noContents manifest between _ passes notForget announced fresh
          (.unanswered peer error _ lacks sender failed)
    | emptyAnswer peer payload lacks sender answers empty =>
        exact .contentsRaised manifest between _ _ passes notForget announced
          fresh (.emptyAnswer peer payload lacks sender answers empty)
    | raised peer failure _ lacks sender failed uncaught =>
        exact .contentsRaised manifest between _ _ passes notForget announced
          fresh (.raised peer failure _ lacks sender failed uncaught)
  · rw [manifestResult_stale fresh] at obtained
    rw [settle_of_obtained registry passes notForget _ _ obtained]
    exact .stale manifest between passes notForget announced fresh

theorem settle_of_carried (passes : PassesRid node kobj)
    (notForget : kobj.eventType ≠ some .forget) {manifest : Manifest}
    {bundle : Bundle} {between after : NodeState}
    (announced : Announced node kobj state manifest between)
    (fresh : Fresh state.cache kobj.rid manifest)
    (carried : Carried node kobj manifest between bundle after) :
    (settle node registry.handlers kobj).run state =
      (callHandlerChain .bundle registry.handlers
        (kobj.settled (state.cache.writeType kobj.rid) bundle)).run after := by
  have obtained := obtainBundle_of_announced registry notForget announced
  rw [manifestResult_fresh fresh] at obtained
  have contents : (obtainContents node
      (tested state.cache kobj manifest)).run between = _ :=
    obtainContents_carried rfl (carried_of_tested.mpr carried)
  dsimp only at obtained
  rw [contents] at obtained
  exact settle_of_obtained registry passes notForget _ _ obtained

theorem settle_step (kobj : KnowledgeObject) (state : NodeState) :
    SettleStep node registry.handlers state kobj
      ((settle node registry.handlers kobj).run state).1
      ((settle node registry.handlers kobj).run state).2 := by
  by_cases passes : PassesRid node kobj
  · by_cases forget : kobj.eventType = some .forget
    · rw [settle_forget registry passes forget]
      cases cached : state.cache.read kobj.rid with
      | none => exact .notCached passes forget cached
      | some bundle =>
          exact .deletes bundle
            { passes := passes
              forget := forget
              cached := cached }
    · have step := obtainManifest_step node kobj state
      generalize ran : (obtainManifest node kobj).run state = ended at step
      obtain ⟨result, between⟩ := ended
      cases result with
      | error failure =>
          rw [settle_of_obtained registry passes forget _ _
            (obtainBundle_of_manifest registry forget
              (.inr ⟨failure, rfl⟩) ran)]
          exact .manifestRaised failure between passes forget step
      | ok found =>
          cases found with
          | none =>
              rw [settle_of_obtained registry passes forget _ _
                (obtainBundle_of_manifest registry forget (.inl rfl) ran)]
              exact .noManifest between passes forget step
          | some found =>
              cases step with
              | found manifest _ announced =>
                  exact settle_step_announced registry passes forget announced
  · rw [settle_blocked registry passes]
    exact .blocked passes

end Obtaining

end KnowledgePipeline

end KoiNet
