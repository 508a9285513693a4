import KoiNet.Pipeline.Coherence
import KoiNet.Pipeline.Recording

/-!
# What the broadcast announces is what the cache holds

The type of an announced event is decided in the first stages, its bundle may
be fetched behind them, and the event itself is formed at the end from a copy
that went through several chains.  With the default handlers it still says
what the call did to the cache, and carries what the cache holds afterwards.
-/

namespace KoiNet

open Foundation Recorded

/-- The event says how the entry of the RID changed, and carries it. -/
structure Faithful (rid : RID) (before after : Cache) (event : Event) :
    Prop where
  names : event.rid = rid
  new : event.eventType = .new → before.read rid = none
  update : event.eventType = .update →
    ∃ bundle, before.read rid = some bundle
  forget : event.eventType = .forget →
    (∃ bundle, before.read rid = some bundle) ∧ after.read rid = none
  stored : event.eventType ≠ .forget →
    ∃ bundle, after.read rid = some bundle ∧
      event.manifest = some bundle.manifest ∧
      event.contents = some bundle.contents

/-- Only such events are pushed. -/
def pushesLedger (allowed : Event → Prop) : Ledger NodeState PipelineAction :=
  { rel := fun _ actions _ =>
      ∀ event target, .pushed event target ∈ actions → allowed event
    refl := by simp
    trans := by
      intro _ _ _ early late earlyAllowed lateAllowed event target member
      rcases List.mem_append.mp member with inEarly | inLate
      · exact earlyAllowed event target inEarly
      · exact lateAllowed event target inLate }

namespace KnowledgePipeline

variable {node : Node}

theorem pushes_balances (node : Node) (handlers : List KnowledgeHandler)
    (allowed : Event → Prop) :
    Balances (pushesLedger allowed) node handlers :=
  { chain := by
      intro handlerType kobj
      apply (callHandlerChain_records handlerType handlers kobj).mono
      intro state actions chain event target member
      cases chain.kinds _ member
    manifest := fun kobj => Ledger.keeps_unrecorded fun state => by
      simp [pushesLedger]
    contents := fun kobj => Ledger.keeps_unrecorded fun state => by
      simp [pushesLedger]
    write := by simp [pushesLedger]
    delete := by simp [pushesLedger] }

theorem broadcast_pushesLedger (kobj : KnowledgeObject) :
    (pushesLedger fun event => kobj.normalizedEvent = .ok event).Keeps
      (Recording.broadcast kobj) (broadcast kobj) := by
  apply (broadcast_pushes kobj).mono
  intro state actions pushes event target member
  obtain ⟨announced, _, same, made, _⟩ := pushes _ member
  cases same
  exact made

theorem nodeContactHandler_response {kobj : KnowledgeObject}
    {response : HandlerResponse} {state after : NodeState}
    (handled : (NodeContactHandler.handle node kobj).run state =
      (.ok response, after)) :
    response = .unmodified := by
  unfold NodeContactHandler.handle at handled
  obtain ⟨bundle, between, _, rest⟩ := Effect.run_bind_eq_ok_iff.mp handled
  cases named : kobj.rid with
  | node nodeRid =>
      rw [named] at rest
      obtain ⟨_, _, _, rest⟩ := Effect.run_bind_eq_ok_iff.mp rest
      cases rest
      rfl
  | edge edgeRid =>
      rw [named] at rest
      cases rest
      rfl
  | other context reference =>
      rw [named] at rest
      cases rest
      rfl

variable (registry : Registry node)

/-- The default Network handlers only choose targets. -/
theorem networkChain_targets {kobj last : KnowledgeObject}
    {state after : NodeState}
    (returned : (callHandlerChain .network registry.handlers kobj).run state =
      (.ok (some last), after)) :
    ∃ targets, last = { kobj with networkTargets := targets } := by
  obtain ⟨actions, _, chain⟩ :=
    callHandlerChain_records .network registry.handlers kobj state []
  rw [returned] at chain
  have kept := chain.good
    (fun other => ∃ targets, other = { kobj with networkTargets := targets })
  refine (kept ?_ ⟨kobj.networkTargets, rfl⟩).2 last rfl
  intro handler member called other next state after response good ran passed
  obtain ⟨targets, rfl⟩ := good
  rcases registry.mem_handlers member with
    rfl | rfl | rfl | rfl | rfl | rfl | rfl
  · cases called
  · obtain ⟨targets, rfl⟩ := basicNetworkOutputFilter_response ran
    cases passed
    exact ⟨targets, rfl⟩
  · cases called
  · cases called
  · rw [nodeContactHandler_response ran] at passed
    cases passed
    exact ⟨targets, rfl⟩
  · cases called
  · cases called

theorem publish_pushes (kobj : KnowledgeObject) :
    (pushesLedger fun event => kobj.normalizedEvent = .ok event).Keeps
      (Recording.publish node registry.handlers kobj)
      (publish node registry.handlers kobj) := by
  have balances := pushes_balances node registry.handlers
    fun event => kobj.normalizedEvent = .ok event
  unfold Recording.publish publish
  apply Ledger.keeps_bind
  · exact Ledger.keeps_unrecorded fun state => by simp [pushesLedger]
  · intro _
    apply Ledger.keeps_bind_returned (balances.chain .network kobj)
    intro passed known
    obtain ⟨state, between, returned⟩ := known
    cases passed with
    | none => exact Ledger.keeps_pure ()
    | some last =>
        obtain ⟨targets, rfl⟩ := networkChain_targets registry returned
        apply Ledger.keeps_bind (broadcast_pushesLedger _)
        intro _
        apply Ledger.keeps_bind (balances.chain .final _)
        intro _
        exact Ledger.keeps_pure ()

/-- Every event pushed is that of the object handed on, and publishing leaves
the cache as the cache action left it. -/
theorem publish_announces (applied : KnowledgeObject) :
    Records (Recording.publish node registry.handlers applied)
      (publish node registry.handlers applied) fun changed ended actions =>
        ∀ event target, .pushed event target ∈ actions →
          applied.normalizedEvent = .ok event ∧
            ended.2.cache = changed.cache := by
  apply (publish_pushes registry applied).mono
  intro changed actions pushes event target member
  exact ⟨pushes event target member,
    (publish_enqueues registry applied changed).cache⟩

/-- An event is only pushed where an object was settled and put into the
cache, and then by publishing it. -/
theorem process_publishes (kobj : KnowledgeObject)
    {log : KnowledgeObject → NodeState → Except Exc Unit × NodeState →
      List PipelineAction → Prop}
    (publishes : ∀ applied,
      Records (Recording.publish node registry.handlers applied)
        (publish node registry.handlers applied) (log applied)) :
    Records (Recording.process node registry.handlers kobj)
      (process node registry.handlers kobj) fun state ended actions =>
        ∀ event target, .pushed event target ∈ actions →
          ∃ settled between applied changed late,
            (settle node registry.handlers kobj).run state =
                (.ok (some settled), between) ∧
              (applyToCache settled).run between =
                (.ok (some applied), changed) ∧
              log applied changed ended late ∧
              .pushed event target ∈ late := by
  have silent := pushes_balances node registry.handlers fun _ => False
  have records := process_records (silent.settle kobj).ran
    (fun settled _ => (silent.applyToCache settled).ran)
    (fun applied _ => publishes applied)
  apply records.mono
  intro state actions call event target member
  generalize (process node registry.handlers kobj).run state = ended at call
  cases call with
  | undecided decided _ => exact (decided.2 event target member).elim
  | unapplied decided changes _ =>
      rcases List.mem_append.mp member with inEarly | inLate
      · exact (decided.2 event target inEarly).elim
      · exact (changes.2 event target inLate).elim
  | published decided changes published =>
      rcases List.mem_append.mp member with inEarly | member
      · exact (decided.2 event target inEarly).elim
      · rcases List.mem_append.mp member with inChange | inLate
        · exact (changes.2 event target inChange).elim
        · exact ⟨_, _, _, _, _, decided.1, changes.1, published, inLate⟩

section Fidelity

variable {kobj : KnowledgeObject} {state : NodeState} {event : Event}

theorem faithful_of_arrives (answers : AnswersNameRids node)
    (names : NamesItself kobj) {manifest : Manifest} {bundle : Bundle}
    (arrives : Arrives node state kobj manifest bundle)
    (made : (kobj.settled (state.cache.writeType kobj.rid)
      bundle).normalizedEvent = .ok event) :
    Faithful kobj.rid state.cache (state.cache.write bundle) event := by
  have named := (arrives.offered.names answers names).2
  rw [settled_event named] at made
  cases made
  have stored : (state.cache.write bundle).read kobj.rid = some bundle := by
    rw [← named]
    exact Cache.read_write_self state.cache bundle
  cases cached : state.cache.read kobj.rid with
  | none =>
      have type : state.cache.writeType kobj.rid = .new := by
        simp [Cache.writeType, cached]
      rw [type]
      exact
        { names := named
          new := fun _ => cached
          update := by simp [Event.fromBundle]
          forget := by simp [Event.fromBundle]
          stored := fun _ => ⟨bundle, stored, rfl, rfl⟩ }
  | some previous =>
      have type : state.cache.writeType kobj.rid = .update := by
        simp [Cache.writeType, cached]
      rw [type]
      exact
        { names := named
          new := by simp [Event.fromBundle]
          update := fun _ => ⟨previous, cached⟩
          forget := by simp [Event.fromBundle]
          stored := fun _ => ⟨bundle, stored, rfl, rfl⟩ }

theorem faithful_of_deletes {bundle : Bundle}
    (deletes : Deletes node state kobj bundle)
    (made : (kobj.settled .forget bundle).normalizedEvent = .ok event) :
    Faithful kobj.rid state.cache (state.cache.delete kobj.rid) event := by
  cases made
  exact
    { names := rfl
      new := by simp [Event.fromRid]
      update := by simp [Event.fromRid]
      forget := fun _ => ⟨⟨bundle, deletes.cached⟩, by simp⟩
      stored := by simp [Event.fromRid] }

end Fidelity

end KnowledgePipeline

end KoiNet
