import KoiNet.Pipeline.Fidelity
import KoiNet.Storage.Processing

/-!
# What the broadcast announces is what was written

Over files that need not give back what was written to them, an announced
bundle is the one that the call wrote to the file of its RID; the cache holds
what is read back of it.
-/

namespace KoiNet

open Foundation Recorded KnowledgePipeline

namespace Storage

variable (storage : Storage)

/-- `process` with a record of the events that its broadcast pushes. -/
def recordedProcess (node : Node) (handlers : List KnowledgeHandler)
    (kobj : KnowledgeObject) : RecordingM Unit := do
  match ← unrecorded (storage.settle node handlers kobj) with
  | none => return ()
  | some kobj =>
      match ← unrecorded (storage.applyToCache kobj) with
      | none => return ()
      | some kobj => Recording.publish node handlers kobj

/-- The event says how the entry of the RID changed, and carries what was
written to its file. -/
structure Faithful (rid : RID) (before after : Cache) (event : Event) :
    Prop where
  names : event.rid = rid
  new : event.eventType = .new → before.read rid = none
  update : event.eventType = .update →
    ∃ bundle, before.read rid = some bundle
  forget : event.eventType = .forget →
    (∃ bundle, before.read rid = some bundle) ∧ after.read rid = none
  written : event.eventType ≠ .forget →
    ∃ bundle, bundle.manifest.rid = rid ∧
      event.manifest = some bundle.manifest ∧
      event.contents = some bundle.contents ∧
      storage.Kept bundle (after.read rid)

variable {storage} {node : Node} {registration : Registration}

theorem recordedChain_stored {handlerType : HandlerType}
    (notManifest : handlerType ≠ .manifest) (notBundle : handlerType ≠ .bundle)
    (kobj : KnowledgeObject) :
    Recording.callHandlerChain handlerType
        (registration.stored storage node) kobj =
      Recording.callHandlerChain handlerType
        (registration.registry node).handlers kobj := by
  unfold Registration.stored Registration.registry
  dsimp only
  generalize registration.order = order
  induction order generalizing kobj with
  | nil => rfl
  | cons name rest induction =>
      have same : Recording.callHandlerChain handlerType
            (rest.map (DefaultHandler.stored storage node)) =
          Recording.callHandlerChain handlerType
            (rest.map (DefaultHandler.handler node)) := funext induction
      rw [List.map_cons, List.map_cons, Recording.callHandlerChain,
        Recording.callHandlerChain]
      cases name with
      | basicManifestHandler =>
          exact (if_pos notManifest).trans
            ((induction kobj).trans (if_pos notManifest).symm)
      | edgeNegotiationHandler =>
          exact (if_pos notBundle).trans
            ((induction kobj).trans (if_pos notBundle).symm)
      | _ =>
          rw [same]
          rfl

theorem recordedPublish_stored (kobj : KnowledgeObject) :
    Recording.publish node (registration.stored storage node) kobj =
      Recording.publish node (registration.registry node).handlers kobj := by
  unfold Recording.publish
  rw [recordedChain_stored (by decide) (by decide)]
  congr 1
  funext _
  congr 1
  funext passed
  cases passed with
  | none => rfl
  | some kobj =>
      dsimp only
      rw [recordedChain_stored (by decide) (by decide)]

theorem process_pushes (registration : Registration) (kobj : KnowledgeObject) :
    Records
      (storage.recordedProcess node (registration.stored storage node) kobj)
      (storage.process node (registration.stored storage node) kobj)
      fun state ended actions =>
        ∀ event target, .pushed event target ∈ actions →
          ∃ settled between applied changed,
            (storage.settle node (registration.stored storage node) kobj).run
                state = (.ok (some settled), between) ∧
              (storage.applyToCache settled).run between =
                (.ok (some applied), changed) ∧
              applied.normalizedEvent = .ok event ∧
              ended.2.cache = changed.cache := by
  unfold recordedProcess process
  apply Records.unrecorded_bind
  · intro state failure after _ event target member
    cases member
  · intro settled _
    cases settled with
    | none =>
        apply Records.pure
        simp
    | some settled =>
        apply Records.unrecorded_bind
        · intro between failure after _ state decided event target member
          cases member
        · intro applied _
          cases applied with
          | none =>
              apply Records.pure
              simp
          | some applied =>
              dsimp only
              rw [publish_stored, recordedPublish_stored]
              apply (publish_announces (registration.registry node)
                applied).mono
              intro changed actions announces between applies state decided
                event target member
              obtain ⟨made, same⟩ := announces event target member
              exact ⟨settled, between, applied, changed, decided, applies,
                made, same⟩

section Fidelity

variable {kobj : KnowledgeObject} {state : NodeState} {event : Event}

theorem faithful_of_arrives (answers : AnswersNameRids node)
    (names : NamesItself kobj) {manifest : Manifest} {bundle : Bundle}
    {file : Option Bundle} (arrives : Arrives node state kobj manifest bundle)
    (kept : storage.Kept bundle file)
    (made : (kobj.settled (state.cache.writeType kobj.rid)
      bundle).normalizedEvent = .ok event) :
    storage.Faithful kobj.rid state.cache
      (state.cache.withFile bundle.manifest.rid file) event := by
  have plain := KnowledgePipeline.faithful_of_arrives answers names arrives made
  have named := (arrives.offered.names answers names).2
  rw [settled_event named] at made
  cases made
  refine
    { names := plain.names
      new := plain.new
      update := plain.update
      forget := ?_
      written := ?_ }
  · unfold Cache.writeType Event.fromBundle
    split <;> simp
  · intro _
    refine ⟨bundle, named, rfl, rfl, ?_⟩
    rw [Cache.read_withFile, if_pos named.symm]
    exact kept

theorem faithful_of_deletes {bundle : Bundle}
    (deletes : Deletes node state kobj bundle)
    (made : (kobj.settled .forget bundle).normalizedEvent = .ok event) :
    storage.Faithful kobj.rid state.cache (state.cache.delete kobj.rid)
      event := by
  have plain := KnowledgePipeline.faithful_of_deletes deletes made
  cases made
  exact
    { names := plain.names
      new := plain.new
      update := plain.update
      forget := plain.forget
      written := fun notForget => absurd rfl notForget }

/-- Every event that the broadcast of a call pushes says what the call did to
the cache, and carries what the call wrote to the file of the RID. -/
theorem broadcast_faithful (registration : Registration)
    (answers : AnswersNameRids node) (names : NamesItself kobj)
    (state : NodeState) :
    ∃ actions,
      (storage.recordedProcess node (registration.stored storage node)
          kobj).run { state := state, actions := [] } =
        (((storage.process node (registration.stored storage node) kobj).run
            state).1,
          { state := ((storage.process node
              (registration.stored storage node) kobj).run state).2
            actions := actions }) ∧
      ∀ event target, .pushed event target ∈ actions →
        storage.Faithful kobj.rid state.cache
          ((storage.process node (registration.stored storage node) kobj).run
            state).2.cache event := by
  let registry := registration.registry node
  have recorded : Records
      (storage.recordedProcess node (registration.stored storage node) kobj)
      _ _ := process_pushes registration kobj
  obtain ⟨actions, ran, pushes⟩ :=
    recorded state []
  refine ⟨actions, ran, ?_⟩
  intro event target member
  obtain ⟨settled, between, applied, changed, decided, changes, made, same⟩ :=
    pushes event target member
  have decided := (settle_agrees registration kobj state).run_eq_of_ok decided
  have kept : between.cache = state.cache := by
    have stable := settle_stable registry kobj state
    rw [decided] at stable
    exact stable.cache
  rw [same]
  rcases settle_returns registry decided with
    ⟨manifest, bundle, arrives, rfl⟩ | ⟨bundle, deletes, rfl⟩
  · obtain ⟨file, stored, applies, rfl⟩ := applyToCache_wrote changes
    cases applies
    obtain ⟨previous, applied_eq⟩ := applied_eq between.cache
      (kobj.settled (state.cache.writeType kobj.rid) bundle)
    rw [applied_eq] at made
    unfold NodeState.withFile
    dsimp only
    rw [kept]
    exact faithful_of_arrives answers names arrives stored made
  · obtain ⟨applies, rfl⟩ := applyToCache_deleted changes
    cases applies
    dsimp only
    rw [kept]
    exact faithful_of_deletes deletes made

end Fidelity

/-- The edge of the standalone node, with an infinite weight. -/
def weightedEdge : Bundle :=
  let edge := edgeEntry { id := "edge" }
    (edgeTo { name := "peer", hash := "key" } .proposed)
  { edge with contents := edge.contents ++ [("weight", .float .inf)] }

theorem namesItself_fromBundle (bundle : Bundle) :
    NamesItself (.fromBundle bundle none none) := by
  intro manifest present
  cases present
  rfl

/-- The weighted edge is announced to its other end. -/
theorem broadcast_faithful_weightedEdge :
    let storage := Storage.json 255 (fun _ => true) fun _ => false
    let handlers := Registration.listed.stored storage .standalone
    ((storage.process .standalone handlers
        (.fromBundle weightedEdge none none)).run
        (.fresh .empty)).2.eventQueue.length = 1 ∧
      ∃ actions,
        (storage.recordedProcess .standalone handlers
            (.fromBundle weightedEdge none none)).run
            { state := .fresh .empty, actions := [] } =
          (((storage.process .standalone handlers
              (.fromBundle weightedEdge none none)).run (.fresh .empty)).1,
            { state := ((storage.process .standalone handlers
                (.fromBundle weightedEdge none none)).run (.fresh .empty)).2
              actions := actions }) ∧
        ∀ event target, .pushed event target ∈ actions →
          storage.Faithful weightedEdge.rid (NodeState.fresh .empty).cache
            ((storage.process .standalone handlers
              (.fromBundle weightedEdge none none)).run
                (.fresh .empty)).2.cache event := by
  exact ⟨rfl, broadcast_faithful Registration.listed
    (answersNameRids_isolated _ _ _) (namesItself_fromBundle weightedEdge)
    (.fresh .empty)⟩

/-- An infinity is announced as such, and null in the cache. -/
theorem broadcast_not_verbatim :
    ¬∀ (storage : Storage) (node : Node) (registration : Registration)
      (kobj : KnowledgeObject) (state : NodeState),
      AnswersNameRids node → NamesItself kobj →
      ∀ event target,
        .pushed event target ∈ ((storage.recordedProcess node
          (registration.stored storage node) kobj).run
            { state := state, actions := [] }).2.actions →
        KoiNet.Faithful kobj.rid state.cache
          ((storage.process node (registration.stored storage node) kobj).run
            state).2.cache event := by
  intro always
  let storage := Storage.json 255 (fun _ => true) fun _ => false
  let handlers := Registration.listed.stored storage .standalone
  let peer : KoiNetNode := { name := "peer", hash := "key" }
  have recorded : ((storage.recordedProcess .standalone handlers
      (.fromBundle weightedEdge none none)).run
        { state := .fresh .empty, actions := [] }).2.actions[2]? =
          some (.pushed (.fromBundle .new weightedEdge) peer) := rfl
  have faithful := always storage .standalone Registration.listed
    (.fromBundle weightedEdge none none) (.fresh .empty)
    (answersNameRids_isolated _ _ _) (namesItself_fromBundle weightedEdge)
    (.fromBundle .new weightedEdge) peer
    (List.mem_of_getElem? recorded)
  obtain ⟨bundle, cached, _, carried⟩ := faithful.stored (by decide)
  have reread : ((storage.process .standalone handlers
      (.fromBundle weightedEdge none none)).run (.fresh .empty)).2.cache.read
        weightedEdge.rid =
      some { weightedEdge with contents := weightedEdge.contents.reread } := rfl
  cases reread.symm.trans cached
  have weights := congrArg (Option.map fun contents : Contents =>
    contents.field "weight") carried
  cases weights

end Storage

end KoiNet
