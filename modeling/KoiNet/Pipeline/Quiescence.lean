import KoiNet.Pipeline.Chores
import KoiNet.Pipeline.Fidelity
import KoiNet.Pipeline.WorkerSafety

/-!
# The worker comes to rest

Processing an object may queue further ones: edges proposed to providers, the
edges of a forgotten node, approvals, what a provider holds, and nodes that
could not be reached.  As long as no request is answered this cascade ends.
Only an object about a cached node starts more of it, and the node is
forgotten then; what a provider holds can only lead to unreachable nodes; and
no other object queues anything.
-/

namespace KoiNet

open Foundation KnowledgePipeline

namespace Cache

/-- How many nodes have a file. -/
def nodeFiles (cache : Cache) : Nat :=
  cache.files.keys.countP fun rid => rid.type = .koiNetNode

variable {cache : Cache}

theorem nodeFiles_delete_lt {nodeRid : KoiNetNode} {bundle : Bundle}
    (cached : cache.read (.node nodeRid) = some bundle) :
    (cache.delete (.node nodeRid)).nodeFiles < cache.nodeFiles := by
  have stored : (RID.node nodeRid) ∈ cache.files.keys :=
    cache.files.mem_keys_iff.mpr ⟨some bundle, read_eq_some_iff.mp cached⟩
  have removed : 0 < (cache.files.keys.filter fun rid =>
      !decide (rid ≠ .node nodeRid)).countP
        fun rid => rid.type = .koiNetNode := by
    rw [List.countP_pos_iff]
    exact ⟨.node nodeRid, by simpa using stored, by simp [RID.type]⟩
  unfold nodeFiles delete
  rw [Dict.keys_erase, List.countP_eq_countP_filter_add cache.files.keys _
    fun rid => decide (rid ≠ .node nodeRid)]
  omega

theorem nodeFiles_delete_of_ne {rid : RID} (notNode : rid.type ≠ .koiNetNode) :
    (cache.delete rid).nodeFiles = cache.nodeFiles := by
  unfold nodeFiles delete
  rw [Dict.keys_erase, List.countP_filter]
  apply List.countP_congr
  intro other _
  constructor
  · intro both
    simpa using (Bool.and_eq_true_iff.mp both).1
  · intro isNode
    have different : other ≠ rid := by
      intro same
      subst same
      exact notNode (by simpa using isNode)
    simpa [different] using isNode

theorem nodeFiles_write_of_ne {bundle : Bundle}
    (notNode : bundle.manifest.rid.type ≠ .koiNetNode) :
    (cache.write bundle).nodeFiles = cache.nodeFiles := by
  unfold nodeFiles write withFile
  rw [Dict.keys_set]
  split
  · rfl
  · simp [notNode]

end Cache

section Internal

variable {node : Node} {kobj : KnowledgeObject} {manifest : Manifest}
  {bundle : Bundle} {state after : NodeState}
  {result : Except Exc (Option KnowledgeObject)}

theorem Announced.internal (internal : kobj.source = none)
    (announced : Announced node kobj state manifest after) :
    after = state := by
  cases announced with
  | own => rfl
  | fetched peer _ _ _ _ sender => cases internal.symm.trans sender

theorem Carried.internal (internal : kobj.source = none)
    (carried : Carried node kobj manifest state bundle after) :
    after = state := by
  cases carried with
  | own => rfl
  | fetched peer _ _ _ _ sender => cases internal.symm.trans sender

theorem KnowledgePipeline.ManifestStep.internal (internal : kobj.source = none)
    (step : ManifestStep node kobj state result after) : after = state := by
  cases step with
  | found _ _ announced => exact announced.internal internal
  | noSource => rfl
  | unanswered peer _ _ _ sender => cases internal.symm.trans sender
  | emptyAnswer peer _ _ sender => cases internal.symm.trans sender
  | raised peer _ _ _ sender => cases internal.symm.trans sender

theorem KnowledgePipeline.ContentsStep.internal (internal : kobj.source = none)
    (step : ContentsStep node kobj manifest state result after) :
    after = state := by
  cases step with
  | found _ _ carried => exact carried.internal internal
  | noSource => rfl
  | unanswered peer _ _ _ sender => cases internal.symm.trans sender
  | emptyAnswer peer _ _ sender => cases internal.symm.trans sender
  | raised peer _ _ _ sender => cases internal.symm.trans sender

end Internal

section Process

variable {node : Node} (registry : Registry node) {kobj : KnowledgeObject}
  {state : NodeState}

theorem Registry.bundleChain_internal (internal : kobj.source = none)
    {manifest : Manifest} {contents : Contents}
    (hasManifest : kobj.manifest = some manifest)
    (hasContents : kobj.contents = some contents) (state : NodeState) :
    ((callHandlerChain .bundle registry.handlers kobj).run state).2 =
      state := by
  by_cases typed : kobj.isTyped
  · cases named : kobj.rid with
    | node nodeRid =>
        rw [registry.bundleChain_node named typed hasManifest hasContents]
    | edge edgeRid =>
        have passed : (EdgeNegotiationHandler.handle node kobj).run state =
            (.ok .unmodified, state) := by
          unfold EdgeNegotiationHandler.handle
          rw [if_pos internal]
          rfl
        rw [registry.bundleChain_edge named typed hasManifest hasContents
          passed]
    | other context reference =>
        rw [registry.bundleChain_skips kobj (by simp [named, RID.type])
          (by simp [named, RID.type])]
  · rw [registry.bundleChain_skips kobj (fun both => typed both.2)
      fun both => typed both.2]

/-- Deciding on an object without a source has no effect at all. -/
theorem settle_internal (internal : kobj.source = none) (state : NodeState) :
    ((settle node registry.handlers kobj).run state).2 = state := by
  have step := settle_step registry kobj state
  generalize (settle node registry.handlers kobj).run state = ended at step ⊢
  obtain ⟨result, after⟩ := ended
  dsimp only at step ⊢
  cases step with
  | blocked => rfl
  | notCached => rfl
  | deletes => rfl
  | noManifest _ _ _ obtained => exact obtained.internal internal
  | manifestRaised _ _ _ _ obtained => exact obtained.internal internal
  | stale _ _ _ _ announced => exact announced.internal internal
  | noContents _ between _ _ _ announced _ obtained =>
      exact (obtained.internal internal).trans (announced.internal internal)
  | contentsRaised _ between _ _ _ _ announced _ obtained =>
      exact (obtained.internal internal).trans (announced.internal internal)
  | judged manifest bundle between complete _ _ _ _ announced _ carried
      judged =>
      have settledInternal : (kobj.settled
          (state.cache.writeType kobj.rid) bundle).source = none := internal
      have kept := registry.bundleChain_internal settledInternal rfl rfl
        complete
      rw [judged] at kept
      rw [show after = complete from kept, carried.internal internal,
        announced.internal internal]

open Frame

theorem networkChain_keeps_queue (notNode : kobj.rid.type ≠ .koiNetNode) :
    (unchanged NodeState.kobjQueue).Keeps
      (callHandlerChain .network registry.handlers kobj) := by
  intro state
  have filterKeeps : (unchanged NodeState.kobjQueue).Keeps
      (BasicNetworkOutputFilter.handle node kobj) :=
    basicNetworkOutputFilter_keeps kobj
  have kept := filterKeeps state
  generalize filtered :
    (BasicNetworkOutputFilter.handle node kobj).run state = ended at kept
  obtain ⟨result, after⟩ := ended
  have sameRid : ∀ changed, result = .ok (.modified changed) →
      changed.rid = kobj.rid := by
    intro changed modified
    rw [modified] at filtered
    obtain ⟨targets, same⟩ := basicNetworkOutputFilter_response filtered
    cases same
    rfl
  rw [networkChain_filters registry notNode sameRid filtered]
  exact kept

theorem publish_keeps_queue (notNode : kobj.rid.type ≠ .koiNetNode) :
    (unchanged NodeState.kobjQueue).Keeps
      (publish node registry.handlers kobj) := by
  unfold publish
  apply keeps_bind
  · exact regenerate_keeps (fun _ _ => rfl) kobj
  · intro _
    apply keeps_bind_returned (networkChain_keeps_queue registry notNode)
    intro passed known
    obtain ⟨before, after, returned⟩ := known
    cases passed with
    | none => exact keeps_pure ()
    | some last =>
        obtain ⟨targets, same⟩ := networkChain_targets registry returned
        have lastNotNode : last.rid.type ≠ .koiNetNode := by
          rw [same]
          exact notNode
        apply keeps_bind
        · unfold broadcast
          refine keeps_forEach (fun target => ?_) _
          exact keeps_bind (keeps_ofExcept _) fun _ => keeps_modify fun _ => rfl
        · intro _
          refine keeps_bind (fun state => ?_) fun _ => keeps_pure ()
          rw [finalChain_skips registry lastNotNode]
          rfl

/-- An object without a source that is not about a node queues nothing. -/
theorem process_keeps_queue (internal : kobj.source = none)
    (notNode : kobj.rid.type ≠ .koiNetNode) (state : NodeState) :
    ((process node registry.handlers kobj).run state).2.kobjQueue =
      state.kobjQueue := by
  have unmoved := settle_internal registry internal state
  by_cases arrives : ∃ manifest bundle,
      Arrives node state kobj manifest bundle
  · obtain ⟨manifest, bundle, arrives⟩ := arrives
    have decided := settle_arrives registry arrives
    have ran : (settle node registry.handlers kobj).run state =
        (.ok (some (kobj.settled (state.cache.writeType kobj.rid) bundle)),
          state) := Prod.ext decided unmoved
    rw [process_of_settled registry ran]
    refine publish_keeps_queue registry ?_ _
    rw [applied_rid]
    exact notNode
  · by_cases deletes : ∃ bundle, Deletes node state kobj bundle
    · obtain ⟨bundle, deletes⟩ := deletes
      have deletedNotNode : (kobj.settled .forget bundle).rid.type ≠
          .koiNetNode := notNode
      rw [process_of_deletes registry deletes]
      exact publish_keeps_queue registry deletedNotNode _
    · obtain ⟨result, settled, _, decided, ran⟩ :=
        process_of_neither registry
          (fun manifest bundle found => arrives ⟨manifest, bundle, found⟩)
          (fun bundle found => deletes ⟨bundle, found⟩)
      rw [decided] at unmoved
      rw [ran, show settled = state from unmoved]

theorem process_keeps_nodeFiles (internal : kobj.source = none)
    (notNode : kobj.rid.type ≠ .koiNetNode) (names : NamesItself kobj)
    (state : NodeState) :
    ((process node registry.handlers kobj).run state).2.cache.nodeFiles =
      state.cache.nodeFiles := by
  have effect := process_cacheEffect registry kobj state
  generalize ((process node registry.handlers kobj).run state).2.cache =
    after at effect ⊢
  cases effect with
  | nothing => rfl
  | delete => exact Cache.nodeFiles_delete_of_ne notNode
  | write manifest bundle arrives =>
      obtain ⟨hasManifest, _, same⟩ := arrives.offered.of_internal internal
      apply Cache.nodeFiles_write_of_ne
      rw [same, names manifest hasManifest]
      exact notNode

end Process

/-- How many queued objects have a source. -/
def NodeState.external (state : NodeState) : Nat :=
  state.kobjQueue.countP fun kobj => kobj.source.isSome

/-- The objects that handlers and the error handler queue, by what they can
lead to. -/
inductive Cascading : KnowledgeObject → Prop where
  | node (nodeRid : KoiNetNode) :
      Cascading (.fromRid (.node nodeRid) (some .forget) none)
  | discovered (rid : RID) (peer : KoiNetNode) :
      Cascading (.fromRid rid none (some peer))
  | quiet (kobj : KnowledgeObject) :
      kobj.source = none → kobj.rid.type ≠ .koiNetNode → NamesItself kobj →
      Cascading kobj

theorem namesItself_fromBundle (bundle : Bundle)
    (eventType : Option EventType) (source : Option KoiNetNode) :
    NamesItself (.fromBundle bundle eventType source) := by
  intro manifest present
  cases present
  rfl

theorem Queued.cascading {node : Node} {cache : Cache} {kobj : KnowledgeObject}
    (queued : Queued node cache kobj) : Cascading kobj := by
  cases queued with
  | forget rid =>
      have names : NamesItself (.fromRid rid (some .forget) none) := by
        intro manifest present
        cases present
      cases rid with
      | node nodeRid => exact .node nodeRid
      | edge edgeRid =>
          have notNode : (RID.edge edgeRid).type ≠ .koiNetNode := by
            simp [RID.type]
          exact .quiet _ rfl notNode names
      | other context reference =>
          have notNode : (RID.other context reference).type ≠
              .koiNetNode := by
            simp [RID.type]
          exact .quiet _ rfl notNode names
  | discovered rid peer => exact .discovered rid peer
  | proposal bundle edgeRid edgeProfile isEdge =>
      refine .quiet _ rfl ?_ (namesItself_fromBundle bundle none none)
      show bundle.manifest.rid.type ≠ .koiNetNode
      rw [isEdge]
      simp [RID.type]
  | approval edgeRid edgeProfile clockReads =>
      refine .quiet _ rfl ?_ (namesItself_fromBundle _ _ none)
      show (RID.edge edgeRid).type ≠ .koiNetNode
      simp [RID.type]

/-- What a worked on object leads to: it forgets a node, or it had a source
and nothing queued on its account has, or it queues nothing. -/
inductive Subsides (kobj : KnowledgeObject) (before after : NodeState) :
    Prop where
  | forgets :
      after.cache.nodeFiles < before.cache.nodeFiles →
      Subsides kobj before after
  | asked :
      kobj.source.isSome = true →
      after.cache.nodeFiles = before.cache.nodeFiles →
      after.external = before.external →
      Subsides kobj before after
  | rests :
      after.cache.nodeFiles = before.cache.nodeFiles →
      after.kobjQueue = before.kobjQueue →
      Subsides kobj before after

section Cascade

variable {node : Node} (registry : Registry node) (state : NodeState)

theorem process_forgets (nodeRid : KoiNetNode) :
    Subsides (.fromRid (.node nodeRid) (some .forget) none) state
      ((process node registry.handlers
        (.fromRid (.node nodeRid) (some .forget) none)).run state).2 := by
  cases cached : state.cache.read (.node nodeRid) with
  | none =>
      have unchanged := process_uncached registry cached
      rw [show (process node registry.handlers
          (.fromRid (.node nodeRid) (some .forget) none)).run state =
        (.ok (), state) from unchanged]
      exact .rests rfl rfl
  | some bundle =>
      have deletes : Deletes node state
          (.fromRid (.node nodeRid) (some .forget) none) bundle :=
        { passes := fun blocked => blocked.2 rfl
          forget := rfl
          cached := cached }
      apply Subsides.forgets
      rw [process_of_deletes registry deletes,
        (publish_enqueues registry _ _).cache]
      exact Cache.nodeFiles_delete_lt cached

open Frame

/-- However a request ends, it queues nothing with a source. -/
theorem makeRequest_keeps_external (peer : KoiNetNode) (path : Path)
    (request : path.Request) :
    (unchanged NodeState.external).Keeps
      (RequestHandler.makeRequest node peer path request) := by
  apply makeRequest_keeps
  · intro state requests timeoutCounter
    rfl
  · intro _ _ _ _
    unfold ErrorHandler.handleConnectionError
    apply keeps_bind keeps_get
    intro _
    refine keeps_bind (keeps_modify fun _ => rfl) fun _ => ?_
    split
    · apply keeps_modify
      intro state
      exact List.countP_append
    · exact keeps_pure ()

theorem edgeNegotiationHandler_keeps_external (kobj : KnowledgeObject) :
    (unchanged NodeState.external).Keeps
      (EdgeNegotiationHandler.handle node kobj) := by
  apply edgeNegotiationHandler_keeps
  intro contents before after result step
  cases step with
  | approved => exact List.countP_append
  | _ => rfl

theorem chain_keeps_external {handlerType : HandlerType}
    (notNetwork : handlerType ≠ .network) (notFinal : handlerType ≠ .final)
    (kobj : KnowledgeObject) :
    (unchanged NodeState.external).Keeps
      (callHandlerChain handlerType registry.handlers kobj) := by
  refine callHandlerChain_keeps (fun handler member called kobj _ => ?_) kobj
  rcases registry.mem_handlers member with
    rfl | rfl | rfl | rfl | rfl | rfl | rfl
  · exact basicManifestHandler_keeps kobj
  · exact (notNetwork called.symm).elim
  · exact basicRidHandler_keeps kobj
  · exact (notFinal called.symm).elim
  · exact (notNetwork called.symm).elim
  · exact edgeNegotiationHandler_keeps_external kobj
  · exact secureProfileHandler_keeps kobj

/-- What a provider holds is not obtained, and at most the provider is to be
forgotten. -/
theorem process_asks (unanswered : Unanswered node) (rid : RID)
    (peer : KoiNetNode) :
    Subsides (.fromRid rid none (some peer)) state
      ((process node registry.handlers
        (.fromRid rid none (some peer))).run state).2 := by
  have notArrives : ∀ manifest bundle,
      ¬Arrives node state (.fromRid rid none (some peer)) manifest bundle := by
    intro manifest bundle arrives
    obtain ⟨between, after, announced, _⟩ := arrives.offered
    cases announced with
    | own _ present => cases present
    | fetched _ _ _ _ _ _ answers => exact unanswered _ _ _ _ _ answers
  have notDeletes : ∀ bundle,
      ¬Deletes node state (.fromRid rid none (some peer)) bundle := by
    intro bundle deletes
    cases deletes.forget
  obtain ⟨result, settled, stable, decided, ran⟩ :=
    process_of_neither registry notArrives notDeletes
  have requests : ∀ peer path request, (unchanged NodeState.external).Keeps
      (guardedRequest node peer path request) :=
    fun peer path request =>
      guardedRequest_keeps (makeRequest_keeps_external peer path request)
  have kept := settle_keeps requests (fun _ => chain_keeps_external registry)
    (.fromRid rid none (some peer)) state
  rw [decided] at kept
  rw [ran]
  exact .asked rfl (congrArg Cache.nodeFiles stable.cache) kept

/-- One queued object brings the cascade closer to its end. -/
theorem process_subsides (unanswered : Unanswered node)
    {kobj : KnowledgeObject} (cascading : Cascading kobj) :
    Subsides kobj state ((process node registry.handlers kobj).run state).2 := by
  cases cascading with
  | node nodeRid => exact process_forgets registry state nodeRid
  | discovered rid peer => exact process_asks registry state unanswered rid peer
  | quiet _ internal notNode names =>
      exact .rests
        (process_keeps_nodeFiles registry internal notNode names state)
        (process_keeps_queue registry internal notNode state)

end Cascade

/-- What the cascade still has to feed on: cached nodes, then queued objects
with a source, then any queued objects. -/
def NodeState.backlog (state : NodeState) : Nat × Nat × Nat :=
  (state.cache.nodeFiles, state.external, state.kobjQueue.length)

/-- Backlogs are compared by what feeds more of the cascade. -/
def SmallerBacklog : Nat × Nat × Nat → Nat × Nat × Nat → Prop :=
  Prod.Lex (· < ·) (Prod.Lex (· < ·) (· < ·))

theorem smallerBacklog_wellFounded : WellFounded SmallerBacklog := by
  have lengths : WellFounded (Prod.Lex (fun left right : Nat => left < right)
      fun left right : Nat => left < right) :=
    WellFounded.prod_lex Nat.lt_wfRel.wf Nat.lt_wfRel.wf
  exact WellFounded.prod_lex Nat.lt_wfRel.wf lengths

theorem KobjQueue.take_eq_some {state taken : NodeState}
    {kobj : KnowledgeObject}
    (takes : KobjQueue.take state = some (kobj, taken)) :
    ∃ rest, state.kobjQueue = kobj :: rest ∧ taken = state.withQueue rest := by
  unfold KobjQueue.take at takes
  split at takes
  · cases takes
  · rename_i first rest queue
    cases takes
    exact ⟨rest, queue, rfl⟩

theorem KobjQueue.take_eq_none {state : NodeState}
    (idle : KobjQueue.take state = none) : state.kobjQueue = [] := by
  unfold KobjQueue.take at idle
  split at idle
  · assumption
  · cases idle

theorem Subsides.backlog {state worked : NodeState} {kobj : KnowledgeObject}
    {rest : List KnowledgeObject} (queue : state.kobjQueue = kobj :: rest)
    (subsides : Subsides kobj (state.withQueue rest) worked) :
    SmallerBacklog worked.backlog state.backlog := by
  have counted : state.external =
      (state.withQueue rest).external + if kobj.source.isSome then 1 else 0 := by
    unfold NodeState.external
    rw [queue]
    exact List.countP_cons
  have longer : state.kobjQueue.length = rest.length + 1 := by
    rw [queue]
    rfl
  have nodes : (state.withQueue rest).cache.nodeFiles =
      state.cache.nodeFiles := rfl
  unfold SmallerBacklog NodeState.backlog
  simp only [Prod.lex_def]
  cases subsides with
  | forgets fewer => exact .inl fewer
  | asked sent same kept =>
      rw [if_pos sent] at counted
      exact .inr ⟨same, .inl (by omega)⟩
  | rests same kept =>
      have shorter : worked.kobjQueue.length = rest.length :=
        congrArg List.length kept
      have external : worked.external = (state.withQueue rest).external := by
        unfold NodeState.external
        rw [kept]
      refine .inr ⟨same, ?_⟩
      by_cases sent : kobj.source.isSome = true
      · rw [if_pos sent] at counted
        exact .inl (by omega)
      · rw [if_neg sent] at counted
        exact .inr ⟨by omega, by omega⟩

section Worker

variable {node : Node} (registry : Registry node)

theorem process_adds (kobj : KnowledgeObject) (state : NodeState) :
    ∃ later, ((process node registry.handlers kobj).run state).2.kobjQueue =
        state.kobjQueue ++ later ∧
      ∀ other ∈ later, Cascading other := by
  obtain ⟨early, late, grown, earlyQueued, lateQueued⟩ :=
    process_queue registry kobj state
  refine ⟨early ++ late, by rw [grown, List.append_assoc], ?_⟩
  intro other member
  rcases List.mem_append.mp member with inEarly | inLate
  · exact (earlyQueued other inEarly).cascading
  · exact (lateQueued other inLate).cascading

/-- Once only the cascade is queued, each call leaves less of it. -/
theorem process_backlog (unanswered : Unanswered node)
    {state taken : NodeState} {kobj : KnowledgeObject}
    (cascade : ∀ other ∈ state.kobjQueue, Cascading other)
    (takes : KobjQueue.take state = some (kobj, taken)) :
    (∀ other ∈ ((process node registry.handlers kobj).run taken).2.kobjQueue,
        Cascading other) ∧
      SmallerBacklog
        ((process node registry.handlers kobj).run taken).2.backlog
        state.backlog := by
  obtain ⟨rest, queue, same⟩ := KobjQueue.take_eq_some takes
  subst same
  rw [queue] at cascade
  have first : Cascading kobj := cascade kobj (by simp)
  have subsides := process_subsides registry (state.withQueue rest)
    unanswered first
  obtain ⟨later, grown, laterCascade⟩ :=
    process_adds registry kobj (state.withQueue rest)
  refine ⟨?_, subsides.backlog queue⟩
  intro other member
  rw [grown] at member
  rcases List.mem_append.mp member with inRest | inLater
  · exact cascade other (List.mem_cons_of_mem kobj inRest)
  · exact laterCascade other inLater

theorem stops_of_cascade (unanswered : Unanswered node) {state : NodeState}
    (cascade : ∀ kobj ∈ state.kobjQueue, Cascading kobj) :
    Stops KobjQueue.take (process node registry.handlers) state := by
  have decreases : ∀ state kobj taken worked,
      (∀ other ∈ state.kobjQueue, Cascading other) →
      KobjQueue.take state = some (kobj, taken) →
      (process node registry.handlers kobj).run taken = (.ok (), worked) →
      (∀ other ∈ worked.kobjQueue, Cascading other) ∧
        SmallerBacklog worked.backlog state.backlog := by
    intro state kobj taken worked cascade takes ran
    have smaller := process_backlog registry unanswered cascade takes
    rw [ran] at smaller
    exact smaller
  exact .of_measure smallerBacklog_wellFounded NodeState.backlog decreases
    cascade

/-- As long as no request is answered the worker stops, whatever is queued
and cached: it empties the queue, or an exception ends it. -/
theorem worker_stops (unanswered : Unanswered node) (state : NodeState) :
    ∃ calls result after,
      drain KobjQueue.take (process node registry.handlers) calls state =
        some (result, after) ∧
      (result = .ok () →
        Settles registry state after ∧ after.kobjQueue = []) := by
  have takes : ∀ state kobj rest, state.kobjQueue = kobj :: rest →
      ∃ taken, KobjQueue.take state = some (kobj, taken) ∧
        taken.kobjQueue = rest :=
    fun state kobj rest queue => ⟨_, take_of_cons queue, rfl⟩
  have adds : ∀ kobj taken worked,
      (process node registry.handlers kobj).run taken = (.ok (), worked) →
      ∃ later, worked.kobjQueue = taken.kobjQueue ++ later ∧
        ∀ other ∈ later, Cascading other := by
    intro kobj taken worked ran
    have grown := process_adds registry kobj taken
    rw [ran] at grown
    exact grown
  obtain ⟨calls, ended, stopped⟩ := Stops.of_added takes adds
    (fun state => stops_of_cascade registry unanswered) state
  obtain ⟨result, after⟩ := ended
  refine ⟨calls, result, after, stopped, ?_⟩
  intro returned
  subst returned
  have settles := drain_drains stopped
  exact ⟨settles, KobjQueue.take_eq_none settles.idle_after⟩

end Worker

/-- A node that cannot reach a peer for the fourth time. -/
def unreachablePeer : NodeState :=
  let peer : KoiNetNode := { name := "peer", hash := "key" }
  let cached : Bundle :=
    { manifest := { rid := .node peer, timestamp := 0, sha256Hash := "" }
      contents := fullProfile "peer-url" "key" }
  { NodeState.fresh (Cache.empty.write cached) with
    kobjQueue := [.fromRid (.other "orn" "document") (some .new) (some peer)]
    timeoutCounter := Dict.empty.set peer 3 }

theorem worker_stops_unreachablePeer :
    ∃ calls result after,
      drain KobjQueue.take
          (process .standalone (Registry.listed .standalone).handlers) calls
          unreachablePeer =
        some (result, after) ∧
      (result = .ok () →
        Settles (Registry.listed .standalone) unreachablePeer after ∧
          after.kobjQueue = []) :=
  worker_stops (Registry.listed .standalone) (unanswered_isolated _ _ _)
    unreachablePeer

end KoiNet
