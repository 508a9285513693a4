import KoiNet.Pipeline.Processing

/-!
# The effect of one knowledge object on the cache

Processing an object writes the bundle it arrives with, deletes the bundle
under its RID, or leaves the cache alone; what it queues is of the four kinds
of `Queued`.
-/

namespace KoiNet

open Foundation

namespace KnowledgePipeline

variable {node : Node} (registry : Registry node)

open Frame

theorem guardedRequest_keeps {frame : Frame NodeState} {peer : KoiNetNode}
    {path : Path} {request : path.Request}
    (keeps : frame.Keeps
      (RequestHandler.makeRequest node peer path request)) :
    frame.Keeps (guardedRequest node peer path request) := by
  refine keeps_tryExcept ?_ (keeps_pure none)
  exact keeps_bind keeps fun _ => keeps_pure _

theorem guardedRequest_quiet (peer : KoiNetNode) (path : Path)
    (request : path.Request) :
    (quietFrame node).Keeps (guardedRequest node peer path request) :=
  guardedRequest_keeps (makeRequest_quiet peer path request)

private theorem takeManifest_keeps {frame : Frame NodeState}
    (kobj : KnowledgeObject) (payload : Option ManifestsPayload) :
    frame.Keeps (takeManifest kobj payload) := by
  unfold takeManifest
  split
  · exact keeps_pure none
  · split
    · exact keeps_raise _
    · exact keeps_pure _

private theorem takeBundle_keeps {frame : Frame NodeState}
    (kobj : KnowledgeObject) (payload : Option BundlesPayload) :
    frame.Keeps (takeBundle kobj payload) := by
  unfold takeBundle
  split
  · exact keeps_pure none
  · split
    · exact keeps_raise _
    · exact keeps_pure _

section Obtaining

variable {frame : Frame NodeState}
  (requests : ∀ peer path request,
    frame.Keeps (guardedRequest node peer path request))

include requests

theorem obtainManifest_keeps (kobj : KnowledgeObject) :
    frame.Keeps (obtainManifest node kobj) := by
  cases hasManifest : kobj.manifest with
  | some manifest =>
      intro state
      rw [obtainManifest_own hasManifest]
      exact frame.refl state
  | none =>
      cases sender : kobj.source with
      | none =>
          unfold obtainManifest
          rw [hasManifest, sender]
          exact keeps_pure none
      | some peer =>
          rw [obtainManifest_fetches hasManifest sender]
          exact keeps_bind (requests _ _ _) (takeManifest_keeps kobj)

theorem obtainContents_keeps (kobj : KnowledgeObject) :
    frame.Keeps (obtainContents node kobj) := by
  cases lacks : kobj.lacksContents with
  | false =>
      intro state
      rw [obtainContents_own lacks]
      exact frame.refl state
  | true =>
      cases sender : kobj.source with
      | none =>
          unfold obtainContents
          rw [lacks, sender]
          exact keeps_pure none
      | some peer =>
          rw [obtainContents_fetches lacks sender]
          exact keeps_bind (requests _ _ _) (takeBundle_keeps kobj)

theorem obtainBundle_keeps {handlers : List KnowledgeHandler}
    (chain : ∀ kobj, frame.Keeps (callHandlerChain .manifest handlers kobj))
    (kobj : KnowledgeObject) :
    frame.Keeps (obtainBundle node handlers kobj) := by
  unfold obtainBundle
  split
  · unfold attachLocal
    apply keeps_bind keeps_get
    intro state
    split <;> exact keeps_pure _
  · apply keeps_bind (obtainManifest_keeps requests kobj)
    intro found
    split
    · exact keeps_pure none
    · apply keeps_bind (chain _)
      intro judged
      split
      · exact keeps_pure none
      · exact obtainContents_keeps requests _

theorem settle_keeps {handlers : List KnowledgeHandler}
    (chain : ∀ handlerType, handlerType ≠ .network → handlerType ≠ .final →
      ∀ kobj, frame.Keeps (callHandlerChain handlerType handlers kobj))
    (kobj : KnowledgeObject) :
    frame.Keeps (settle node handlers kobj) := by
  have manifestChain : ∀ kobj,
      frame.Keeps (callHandlerChain .manifest handlers kobj) :=
    chain .manifest (by simp) (by simp)
  unfold settle
  apply keeps_bind (chain .rid (by simp) (by simp) kobj)
  intro passed
  split
  · exact keeps_pure none
  · apply keeps_bind (obtainBundle_keeps requests manifestChain _)
    intro complete
    split
    · exact keeps_pure none
    · exact chain .bundle (by simp) (by simp) _

end Obtaining

theorem settle_stable (kobj : KnowledgeObject) :
    (stableFrame node).Keeps (settle node registry.handlers kobj) :=
  settle_keeps
    (fun peer path request =>
      stable_of_quiet (guardedRequest_quiet peer path request))
    (fun handlerType _ _ => registry.chain_stable handlerType) kobj

theorem addRid_keeps {frame : Frame NodeState}
    (redraws : ∀ state dg, frame.rel state { state with dg := dg })
    (rid : RID) : frame.Keeps (NetworkGraph.addRid rid) := by
  unfold NetworkGraph.addRid
  cases rid with
  | node nodeRid => exact keeps_modify fun state => redraws state _
  | edge edgeRid =>
      apply keeps_bind keeps_get
      intro state
      split
      · exact keeps_pure ()
      · apply keeps_bind (keeps_validateContents _ _)
        intro edgeProfile
        exact keeps_modify fun state => redraws state _
  | other _ _ => exact keeps_pure ()

/-- Regenerating the graph touches nothing but the graph. -/
theorem regenerate_keeps {frame : Frame NodeState}
    (redraws : ∀ state dg, frame.rel state { state with dg := dg })
    (kobj : KnowledgeObject) : frame.Keeps (regenerate node kobj) := by
  unfold regenerate
  split
  · unfold NetworkGraph.generate Cache.list
    refine keeps_bind (keeps_modify fun state => redraws state _) fun _ => ?_
    refine keeps_bind (keeps_bind keeps_get fun _ => keeps_pure _)
      fun rids => ?_
    exact keeps_forEach (addRid_keeps redraws) rids
  · exact keeps_pure ()

theorem broadcast_enqueues (kobj : KnowledgeObject) :
    (enqueuesFrame node).Keeps (broadcast kobj) := by
  unfold broadcast
  refine keeps_forEach (fun target => ?_) _
  apply keeps_bind (keeps_ofExcept _)
  intro event
  exact keeps_modify fun state => .of_same rfl rfl

theorem publish_enqueues (kobj : KnowledgeObject) :
    (enqueuesFrame node).Keeps (publish node registry.handlers kobj) := by
  have chain : ∀ handlerType kobj, (enqueuesFrame node).Keeps
      (callHandlerChain handlerType registry.handlers kobj) :=
    fun handlerType kobj =>
      enqueues_of_stable (registry.chain_stable handlerType kobj)
  unfold publish
  refine keeps_bind ?_ fun _ => ?_
  · refine regenerate_keeps (fun state dg => ?_) kobj
    show Enqueues node state { state with dg := dg }
    exact .of_same rfl rfl
  · apply keeps_bind (chain .network kobj)
    intro passed
    split
    · exact keeps_pure ()
    · apply keeps_bind (broadcast_enqueues _)
      intro _
      exact keeps_bind (chain .final _) fun _ => keeps_pure ()

theorem settle_arrives {state : NodeState} {kobj : KnowledgeObject}
    {manifest : Manifest} {bundle : Bundle}
    (arrives : Arrives node state kobj manifest bundle) :
    ((settle node registry.handlers kobj).run state).1 =
      .ok (some
        (kobj.settled (state.cache.writeType kobj.rid) bundle)) := by
  obtain ⟨between, after, announced, carried⟩ := arrives.offered
  rw [settle_of_carried registry arrives.passes arrives.notForget announced
    arrives.fresh carried, registry.bundleChain_passes_iff rfl rfl]
  refine ⟨rfl, ?_⟩
  rw [carried.cache, announced.cache]
  exact arrives.admitted

theorem settle_returns {state after : NodeState} {kobj final : KnowledgeObject}
    (settled : (settle node registry.handlers kobj).run state =
      (.ok (some final), after)) :
    (∃ manifest bundle, Arrives node state kobj manifest bundle ∧
        final = kobj.settled (state.cache.writeType kobj.rid) bundle) ∨
      ∃ bundle, Deletes node state kobj bundle ∧
        final = kobj.settled .forget bundle := by
  have step := settle_step registry kobj state
  rw [settled] at step
  cases step with
  | deletes bundle deletes => exact .inr ⟨bundle, deletes, rfl⟩
  | judged manifest bundle between complete _ _ passes notForget announced
      fresh carried judged =>
      have passed := congrArg Prod.fst judged
      rw [registry.bundleChain_passes_iff rfl rfl] at passed
      obtain ⟨same, admitted⟩ := passed
      rw [carried.cache, announced.cache] at admitted
      refine .inl ⟨manifest, bundle, ?_, same⟩
      exact
        { passes := passes
          notForget := notForget
          offered := ⟨between, complete, announced, carried⟩
          fresh := fresh
          admitted := admitted }

/-- The object after the cache action: an update remembers what it
replaced. -/
def applied (cache : Cache) (kobj : KnowledgeObject) : KnowledgeObject :=
  match kobj.normalizedEventType with
  | some .update => { kobj with prevBundle := cache.read kobj.rid }
  | _ => kobj

theorem applied_eq (cache : Cache) (kobj : KnowledgeObject) :
    ∃ previous, applied cache kobj = { kobj with prevBundle := previous } := by
  unfold applied
  split
  · exact ⟨_, rfl⟩
  · exact ⟨_, rfl⟩

theorem applied_rid (cache : Cache) (kobj : KnowledgeObject) :
    (applied cache kobj).rid = kobj.rid := by
  obtain ⟨previous, same⟩ := applied_eq cache kobj
  rw [same]

theorem settled_event {kobj : KnowledgeObject} {bundle : Bundle}
    (named : bundle.manifest.rid = kobj.rid) (cache : Cache) (rid : RID) :
    (kobj.settled (cache.writeType rid) bundle).normalizedEvent =
      .ok (.fromBundle (cache.writeType rid) bundle) := by
  unfold Cache.writeType Event.fromBundle
  rw [named]
  split
  · rfl
  · rfl

theorem applyToCache_write (kobj : KnowledgeObject) (bundle : Bundle)
    (cache : Cache) (rid : RID) (state : NodeState) :
    (applyToCache (kobj.settled (cache.writeType rid) bundle)).run state =
      (.ok (some (applied state.cache
          (kobj.settled (cache.writeType rid) bundle))),
        { state with cache := state.cache.write bundle }) := by
  unfold Cache.writeType
  cases (cache.read rid).isSome with
  | true => rfl
  | false => rfl

theorem applyToCache_delete (kobj : KnowledgeObject) (bundle : Bundle)
    (state : NodeState) :
    (applyToCache (kobj.settled .forget bundle)).run state =
      (.ok (some (kobj.settled .forget bundle)),
        { state with cache := state.cache.delete kobj.rid }) :=
  rfl

/-- An object that is to be written is published after its bundle is
written. -/
theorem process_of_settled {state settled : NodeState}
    {kobj : KnowledgeObject} {bundle : Bundle}
    (ran : (settle node registry.handlers kobj).run state =
      (.ok (some (kobj.settled (state.cache.writeType kobj.rid) bundle)),
        settled)) :
    (process node registry.handlers kobj).run state =
      (publish node registry.handlers
        (applied settled.cache
          (kobj.settled (state.cache.writeType kobj.rid) bundle))).run
        { settled with cache := settled.cache.write bundle } := by
  unfold process
  rw [Effect.run_bind_of_ok ran]
  dsimp only
  rw [Effect.run_bind_of_ok (applyToCache_write kobj bundle _ _ settled)]

/-- An object whose own manifest fails the manifest test changes nothing. -/
theorem process_of_stale {state : NodeState} {kobj : KnowledgeObject}
    {manifest : Manifest} (passes : PassesRid node kobj)
    (notForget : kobj.eventType ≠ some .forget)
    (hasManifest : kobj.manifest = some manifest)
    (stale : ¬Fresh state.cache kobj.rid manifest) :
    (process node registry.handlers kobj).run state = (.ok (), state) := by
  have announced : Announced node kobj state manifest state :=
    .own _ hasManifest
  have obtained := obtainBundle_of_announced registry notForget announced
  rw [manifestResult_stale stale] at obtained
  have settled := settle_of_obtained registry passes notForget _ _ obtained
  unfold process
  rw [Effect.run_bind_of_ok settled]
  rfl

theorem process_of_arrives {state : NodeState} {kobj : KnowledgeObject}
    {manifest : Manifest} {bundle : Bundle}
    (arrives : Arrives node state kobj manifest bundle) :
    ∃ settled, Stable node state settled ∧
      (process node registry.handlers kobj).run state =
        (publish node registry.handlers
          (applied state.cache
            (kobj.settled (state.cache.writeType kobj.rid) bundle))).run
          { settled with cache := state.cache.write bundle } := by
  have decided := settle_arrives registry arrives
  have stable := settle_stable registry kobj state
  generalize ran : (settle node registry.handlers kobj).run state = ended
    at decided stable
  obtain ⟨result, settled⟩ := ended
  dsimp only at decided
  subst decided
  have same : settled.cache = state.cache := stable.cache
  refine ⟨settled, stable, ?_⟩
  rw [process_of_settled registry ran, same]

theorem process_of_deletes {state : NodeState} {kobj : KnowledgeObject}
    {bundle : Bundle} (deletes : Deletes node state kobj bundle) :
    (process node registry.handlers kobj).run state =
      (publish node registry.handlers (kobj.settled .forget bundle)).run
        { state with cache := state.cache.delete kobj.rid } := by
  have ran := settle_forget registry deletes.passes deletes.forget state
  rw [deletes.cached] at ran
  unfold process
  rw [Effect.run_bind_of_ok ran]
  dsimp only [Option.map_some]
  rw [Effect.run_bind_of_ok (applyToCache_delete kobj bundle state)]

theorem settle_of_neither {state settled : NodeState}
    {kobj final : KnowledgeObject}
    (notArrives : ∀ manifest bundle,
      ¬Arrives node state kobj manifest bundle)
    (notDeletes : ∀ bundle, ¬Deletes node state kobj bundle) :
    (settle node registry.handlers kobj).run state ≠
      (.ok (some final), settled) := by
  intro ran
  rcases settle_returns registry ran with
    ⟨manifest, bundle, arrives, _⟩ | ⟨bundle, deletes, _⟩
  · exact notArrives manifest bundle arrives
  · exact notDeletes bundle deletes

theorem process_of_neither {state : NodeState} {kobj : KnowledgeObject}
    (notArrives : ∀ manifest bundle,
      ¬Arrives node state kobj manifest bundle)
    (notDeletes : ∀ bundle, ¬Deletes node state kobj bundle) :
    ∃ result settled, Stable node state settled ∧
      (settle node registry.handlers kobj).run state =
        (result, settled) ∧
      (process node registry.handlers kobj).run state =
        (result.map fun _ => (), settled) := by
  have stable := settle_stable registry kobj state
  generalize ran : (settle node registry.handlers kobj).run state = ended
    at stable
  obtain ⟨result, settled⟩ := ended
  refine ⟨result, settled, stable, rfl, ?_⟩
  unfold process
  rw [Effect.run_bind, ran]
  rcases result with failure | _ | final
  · rfl
  · rfl
  · exact (settle_of_neither registry notArrives notDeletes ran).elim

/-- What one object does to the cache. -/
inductive CacheEffect (node : Node) (state : NodeState)
    (kobj : KnowledgeObject) : Cache → Prop where
  | write (manifest : Manifest) (bundle : Bundle) :
      Arrives node state kobj manifest bundle →
      CacheEffect node state kobj (state.cache.write bundle)
  | delete (bundle : Bundle) :
      Deletes node state kobj bundle →
      CacheEffect node state kobj (state.cache.delete kobj.rid)
  | nothing :
      (∀ manifest bundle, ¬Arrives node state kobj manifest bundle) →
      (∀ bundle, ¬Deletes node state kobj bundle) →
      CacheEffect node state kobj state.cache

theorem process_cacheEffect (kobj : KnowledgeObject) (state : NodeState) :
    CacheEffect node state kobj
      ((process node registry.handlers kobj).run state).2.cache := by
  by_cases arrives : ∃ manifest bundle,
      Arrives node state kobj manifest bundle
  · obtain ⟨manifest, bundle, arrives⟩ := arrives
    obtain ⟨settled, _, ran⟩ := process_of_arrives registry arrives
    rw [ran, (publish_enqueues registry _ _).cache]
    exact .write manifest bundle arrives
  · by_cases deletes : ∃ bundle, Deletes node state kobj bundle
    · obtain ⟨bundle, deletes⟩ := deletes
      rw [process_of_deletes registry deletes,
        (publish_enqueues registry _ _).cache]
      exact .delete bundle deletes
    · have notArrives : ∀ manifest bundle,
          ¬Arrives node state kobj manifest bundle :=
        fun manifest bundle found => arrives ⟨manifest, bundle, found⟩
      have notDeletes : ∀ bundle, ¬Deletes node state kobj bundle :=
        fun bundle found => deletes ⟨bundle, found⟩
      obtain ⟨result, settled, stable, _, ran⟩ :=
        process_of_neither registry notArrives notDeletes
      rw [ran, stable.cache]
      exact .nothing notArrives notDeletes

/-- The objects that processing one object adds to the queue: first those of
the Bundle chain and of requests, then those of publishing. -/
theorem process_queue (kobj : KnowledgeObject) (state : NodeState) :
    ∃ early late,
      ((process node registry.handlers kobj).run state).2.kobjQueue =
        state.kobjQueue ++ early ++ late ∧
      (∀ queued ∈ early, Queued node state.cache queued) ∧
      ∀ queued ∈ late, Queued node
        ((process node registry.handlers kobj).run state).2.cache queued := by
  by_cases arrives : ∃ manifest bundle,
      Arrives node state kobj manifest bundle
  · obtain ⟨manifest, bundle, arrives⟩ := arrives
    obtain ⟨settled, stable, ran⟩ := process_of_arrives registry arrives
    obtain ⟨early, earlyQueue, earlyQueued⟩ := stable.queued
    have published := publish_enqueues registry
      (applied state.cache
        (kobj.settled (state.cache.writeType kobj.rid) bundle))
      { settled with cache := state.cache.write bundle }
    obtain ⟨late, lateQueue, lateQueued⟩ := published.queued
    refine ⟨early, late, ?_, earlyQueued, ?_⟩
    · rw [ran, lateQueue, earlyQueue]
    · rw [ran, published.cache]
      exact lateQueued
  · by_cases deletes : ∃ bundle, Deletes node state kobj bundle
    · obtain ⟨bundle, deletes⟩ := deletes
      have published := publish_enqueues registry
        (kobj.settled .forget bundle)
        { state with cache := state.cache.delete kobj.rid }
      obtain ⟨late, lateQueue, lateQueued⟩ := published.queued
      rw [process_of_deletes registry deletes]
      refine ⟨[], late, ?_, by simp, ?_⟩
      · rw [lateQueue, List.append_nil]
      · rw [published.cache]
        exact lateQueued
    · obtain ⟨result, settled, stable, _, ran⟩ :=
        process_of_neither registry
          (fun manifest bundle found => arrives ⟨manifest, bundle, found⟩)
          (fun bundle found => deletes ⟨bundle, found⟩)
      obtain ⟨early, earlyQueue, earlyQueued⟩ := stable.queued
      refine ⟨early, [], ?_, earlyQueued, by simp⟩
      rw [ran, earlyQueue, List.append_nil]

end KnowledgePipeline

end KoiNet
