import KoiNet.Pipeline.Accounting

/-!
# The order of what the pipeline does

Handlers may do what they like with a knowledge object but clear its manifest
or its contents.  Then every run calls the handlers of each type with what
that type is promised, changes the cache at most once and only behind a whole
Bundle chain, and pushes events only behind that change and a whole Network
chain.
-/

namespace KoiNet

open Foundation Recorded

/-- Manifest and contents are present. -/
structure KnowledgeObject.Complete (kobj : KnowledgeObject) : Prop where
  manifest : kobj.manifest.isSome = true
  contents : kobj.contents.isSome = true

/-- The knowledge that handlers of the type are promised. -/
def HandlerType.Provided : HandlerType → KnowledgeObject → Prop
  | .rid, _ => True
  | .manifest, kobj => kobj.manifest.isSome = true
  | .bundle, kobj => kobj.Complete
  | .network, kobj => kobj.Complete
  | .final, kobj => kobj.Complete

/-- The handler never clears the manifest or the contents of the object. -/
structure KnowledgeHandler.Retains (handler : KnowledgeHandler) : Prop where
  manifest : ∀ {kobj state changed after},
    (handler.handle kobj).run state = (.ok (.modified changed), after) →
    kobj.manifest.isSome = true → changed.manifest.isSome = true
  contents : ∀ {kobj state changed after},
    (handler.handle kobj).run state = (.ok (.modified changed), after) →
    kobj.contents.isSome = true → changed.contents.isSome = true

namespace KnowledgePipeline

/-- The whole chain ran on one object and handed on another; none of its
handlers stopped it or raised. -/
def RanWhole (handlerType : HandlerType) (handlers : List KnowledgeHandler)
    (kobj last : KnowledgeObject) (chain : List PipelineAction) : Prop :=
  ∃ state after,
    ChainLog handlerType handlers kobj state (.ok (some last), after) chain

/-- The RID chain handed on the object that the manifest and the contents were
obtained for, and with them the whole Bundle chain ran last and handed on the
settled object. -/
structure Decided (node : Node) (handlers : List KnowledgeHandler)
    (kobj : KnowledgeObject) (state : NodeState) (settled : KnowledgeObject)
    (actions : List PipelineAction) : Prop where
  stages : ∃ passed complete between obtained after rids fetched chain,
    actions = rids ++ (fetched ++ chain) ∧
      ChainLog .rid handlers kobj state (.ok (some passed), between) rids ∧
      (obtainBundle node handlers passed).run between =
        (.ok (some complete), obtained) ∧
      ChainLog .bundle handlers complete obtained (.ok (some settled), after)
        chain

/-- The cache action that the normalized event type of the object chooses. -/
def Chooses (settled : KnowledgeObject) (change : PipelineAction) : Prop :=
  match settled.normalizedEventType with
  | some .forget => change = .deleted settled.rid
  | some _ => ∃ bundle, settled.bundle = .ok bundle ∧ change = .wrote bundle
  | none => False

/-- The event of the object, pushed to one of its targets. -/
def Announces (announced : KnowledgeObject) (push : PipelineAction) : Prop :=
  ∃ event, announced.normalizedEvent = .ok event ∧
    ∃ target ∈ announced.networkTargets, push = .pushed event target

/-- Every handler is called with what its type is promised. -/
def CallsProvided (actions : List PipelineAction) : Prop :=
  ∀ handler kobj, .called handler kobj ∈ actions →
    handler.handlerType.Provided kobj

/-- The guarantees of the pipeline about the order of what it does with an
object: what is written or deleted is what the Bundle chain handed on, and what
is pushed is what the Network chain handed on, which was given just that. -/
structure Ordered (node : Node) (handlers : List KnowledgeHandler)
    (kobj : KnowledgeObject) (state : NodeState)
    (actions : List PipelineAction) : Prop where
  provided : CallsProvided actions
  oneChange :
    (actions.filter fun action => action.kind = .cacheChange).length ≤ 1
  changed : ∀ before change after, actions = before ++ change :: after →
    change.kind = .cacheChange →
    ∃ settled, Decided node handlers kobj state settled before ∧
      Chooses settled change
  announced : ∀ before push after, actions = before ++ push :: after →
    push.kind = .push →
    ∃ earlier settled change prevBundle chain announced pushes,
      before = earlier ++ change :: (chain ++ pushes) ∧
        Decided node handlers kobj state settled earlier ∧
        Chooses settled change ∧
        RanWhole .network handlers { settled with prevBundle } announced
          chain ∧
        ∀ action ∈ pushes ++ [push], Announces announced action

theorem Chooses.kind {settled : KnowledgeObject} {change : PipelineAction}
    (chooses : Chooses settled change) : change.kind = .cacheChange := by
  unfold Chooses at chooses
  split at chooses
  · rw [chooses]
    rfl
  · obtain ⟨bundle, _, rfl⟩ := chooses
    rfl
  · exact chooses.elim

theorem Announces.kind {announced : KnowledgeObject} {push : PipelineAction}
    (announces : Announces announced push) : push.kind = .push := by
  obtain ⟨event, _, target, _, rfl⟩ := announces
  rfl

section Chains

variable {handlerType : HandlerType} {handlers : List KnowledgeHandler}
  {kobj : KnowledgeObject} {state : NodeState}
  {ended : Except Exc (Option KnowledgeObject) × NodeState}
  {actions : List PipelineAction}

theorem provided_of_retains {handler : KnowledgeHandler}
    {next : KnowledgeObject} {after : NodeState} {response : HandlerResponse}
    (retains : handler.Retains) (given : handlerType.Provided kobj)
    (ran : (handler.handle kobj).run state = (.ok response, after))
    (passed : response.next kobj = some next) :
    handlerType.Provided next := by
  cases response with
  | stopChain => cases passed
  | unmodified =>
      cases passed
      exact given
  | modified changed =>
      cases passed
      cases handlerType with
      | rid => trivial
      | manifest => exact retains.manifest ran given
      | bundle | network | final =>
          exact
            { manifest := retains.manifest ran given.manifest
              contents := retains.contents ran given.contents }

/-- A chain that starts with what its handlers are promised calls each of them
with it, and hands it on. -/
theorem ChainLog.provided
    (chain : ChainLog handlerType handlers kobj state ended actions)
    (retain : ∀ handler ∈ handlers, handler.Retains)
    (given : handlerType.Provided kobj) :
    CallsProvided actions ∧
      ∀ last, ended.1 = .ok (some last) → handlerType.Provided last := by
  have good := chain.good handlerType.Provided
    (fun handler member _ => provided_of_retains (retain handler member)) given
  refine ⟨?_, good.2⟩
  intro handler kobj member
  obtain ⟨called, provided⟩ := good.1 handler kobj member
  rw [called]
  exact provided

end Chains

section Stages

variable {node : Node} {handlers : List KnowledgeHandler}

/-- What a stage hands on, from which state and in which it leaves it, and what
it has recorded. -/
abbrev Closing : Type :=
  NodeState → KnowledgeObject → NodeState → List PipelineAction → Prop

/-- A stage that only calls handlers.  If it hands on an object, the object
is good and the record is closed. -/
structure StageLog (good : KnowledgeObject → Prop) (closed : Closing)
    (state : NodeState)
    (ended : Except Exc (Option KnowledgeObject) × NodeState)
    (actions : List PipelineAction) : Prop where
  kinds : ∀ action ∈ actions, action.kind = .chain
  provided : CallsProvided actions
  good : ∀ last, ended.1 = .ok (some last) → good last
  closed : ∀ last after, ended = (.ok (some last), after) →
    closed state last after actions

theorem callsProvided_append {early late : List PipelineAction} :
    CallsProvided (early ++ late) ↔
      CallsProvided early ∧ CallsProvided late := by
  constructor
  · intro provided
    exact
      ⟨fun handler kobj member => provided handler kobj (by simp [member]),
        fun handler kobj member => provided handler kobj (by simp [member])⟩
  · intro provided handler kobj member
    rcases List.mem_append.mp member with early | late
    · exact provided.1 handler kobj early
    · exact provided.2 handler kobj late

theorem callsProvided_of_kinds {actions : List PipelineAction}
    (kinds : ∀ action ∈ actions, action.kind ≠ .chain) :
    CallsProvided actions :=
  fun _ _ member => absurd rfl (kinds _ member)

theorem unrecorded_stage {good : KnowledgeObject → Prop}
    {body : NodeM (Option KnowledgeObject)}
    (yields : ∀ state last, (body.run state).1 = .ok (some last) →
      good last) :
    Records (α := PipelineAction) (unrecorded body) body
      (StageLog good fun _ _ _ _ => True) :=
  Records.unrecorded fun state =>
    { kinds := by simp
      provided := by simp [CallsProvided]
      good := fun last returned => yields state last returned
      closed := fun _ _ _ => trivial }

theorem stopped_stage {good : KnowledgeObject → Prop} {closed : Closing} :
    Records (α := PipelineAction) (pure none) (pure none)
      (StageLog good closed) := by
  apply Records.pure
  intro state
  exact
    { kinds := by simp
      provided := by simp [CallsProvided]
      good := fun last same => by cases same
      closed := fun last after same => by cases same }

theorem stage_bind {goodFirst good : KnowledgeObject → Prop}
    {closedFirst closed : Closing}
    {closedNext : KnowledgeObject → Closing}
    {recordingFirst : RecordingM (Option KnowledgeObject)}
    {first : NodeM (Option KnowledgeObject)}
    {recordingNext : Option KnowledgeObject →
      RecordingM (Option KnowledgeObject)}
    {next : Option KnowledgeObject → NodeM (Option KnowledgeObject)}
    (firstStage : Records recordingFirst first
      (StageLog goodFirst closedFirst))
    (recordingStops : recordingNext none = pure none)
    (stops : next none = pure none)
    (nextStage : ∀ kobj, goodFirst kobj →
      Records (recordingNext (some kobj)) (next (some kobj))
        (StageLog good (closedNext kobj)))
    (joined : ∀ {state kobj between last after early late},
      closedFirst state kobj between early →
      closedNext kobj between last after late →
      closed state last after (early ++ late)) :
    Records (recordingFirst >>= recordingNext) (first >>= next)
      (StageLog good closed) := by
  have rest : ∀ passed, (∀ kobj, passed = some kobj → goodFirst kobj) →
      Records (recordingNext passed) (next passed)
        (StageLog good fun state last after actions =>
          ∃ kobj, passed = some kobj ∧
            closedNext kobj state last after actions) := by
    intro passed handed
    cases passed with
    | some kobj =>
        apply (nextStage kobj (handed kobj rfl)).mono
        intro state actions log
        exact
          { log with
            closed := fun last after same =>
              ⟨kobj, rfl, log.closed last after same⟩ }
    | none =>
        rw [recordingStops, stops]
        exact stopped_stage
  apply Records.bind firstStage
  · intro passed known
    obtain ⟨_, _, _, log⟩ := known
    apply rest passed
    intro kobj same
    exact log.good kobj (by rw [same])
  · intro state failure after actions log
    exact
      { log with
        good := fun last same => by cases same
        closed := fun last after same => by cases same }
  · intro state passed between ended early late earlyLog lateLog
    refine
      { kinds := ?_
        provided := callsProvided_append.mpr
          ⟨earlyLog.provided, lateLog.provided⟩
        good := lateLog.good
        closed := ?_ }
    · intro action member
      rcases List.mem_append.mp member with inEarly | inLate
      · exact earlyLog.kinds action inEarly
      · exact lateLog.kinds action inLate
    · intro last after same
      obtain ⟨kobj, rfl, late⟩ := lateLog.closed last after same
      exact joined (earlyLog.closed kobj between rfl) late

theorem callHandlerChain_stage
    (retain : ∀ handler ∈ handlers, handler.Retains)
    {handlerType : HandlerType} {kobj : KnowledgeObject}
    (given : handlerType.Provided kobj) :
    Records (Recording.callHandlerChain handlerType handlers kobj)
      (callHandlerChain handlerType handlers kobj)
      (StageLog handlerType.Provided fun state last after =>
        ChainLog handlerType handlers kobj state (.ok (some last), after)) := by
  apply (callHandlerChain_records handlerType handlers kobj).mono
  intro state actions chain
  have provided := chain.provided retain given
  refine
    { kinds := chain.kinds
      provided := provided.1
      good := provided.2
      closed := ?_ }
  intro last after returned
  rw [← returned]
  exact chain

theorem attachLocal_complete {kobj last : KnowledgeObject}
    {state : NodeState}
    (returned : ((attachLocal kobj).run state).1 = .ok (some last)) :
    last.Complete := by
  unfold attachLocal at returned
  rw [Effect.run_get_bind] at returned
  cases cached : state.cache.read kobj.rid with
  | none => simp [cached] at returned
  | some bundle =>
      simp only [cached, Effect.run_pure, Except.ok.injEq,
        Option.some.injEq] at returned
      rw [← returned]
      exact { manifest := rfl, contents := rfl }

theorem obtainManifest_provided {kobj last : KnowledgeObject}
    {state : NodeState}
    (returned : ((obtainManifest node kobj).run state).1 = .ok (some last)) :
    HandlerType.manifest.Provided last := by
  have step := obtainManifest_step node kobj state
  rw [returned] at step
  cases step with
  | found manifest _ _ => rfl

theorem obtainContents_complete {kobj last : KnowledgeObject}
    {state : NodeState} (given : HandlerType.manifest.Provided kobj)
    (returned : ((obtainContents node kobj).run state).1 = .ok (some last)) :
    last.Complete := by
  obtain ⟨manifest, hasManifest⟩ := Option.isSome_iff_exists.mp given
  have step := @obtainContents_step node kobj manifest hasManifest state
  rw [returned] at step
  cases step with
  | found bundle _ _ => exact { manifest := rfl, contents := rfl }

theorem obtainBundle_staged (retain : ∀ handler ∈ handlers, handler.Retains)
    (kobj : KnowledgeObject) :
    Records (Recording.obtainBundle node handlers kobj)
      (obtainBundle node handlers kobj)
      (StageLog KnowledgeObject.Complete fun _ _ _ _ => True) := by
  unfold Recording.obtainBundle obtainBundle
  by_cases forgets : kobj.eventType = some .forget
  · rw [if_pos forgets, if_pos forgets]
    apply unrecorded_stage
    intro state last returned
    exact attachLocal_complete returned
  · rw [if_neg forgets, if_neg forgets]
    have announced : Records (α := PipelineAction)
        (unrecorded (obtainManifest node kobj)) (obtainManifest node kobj)
        (StageLog HandlerType.manifest.Provided fun _ _ _ _ => True) :=
      unrecorded_stage fun state last returned =>
        obtainManifest_provided returned
    have fetched : ∀ kobj, HandlerType.manifest.Provided kobj →
        Records (α := PipelineAction) (unrecorded (obtainContents node kobj))
          (obtainContents node kobj)
          (StageLog KnowledgeObject.Complete fun _ _ _ _ => True) :=
      fun kobj given => unrecorded_stage fun state last returned =>
        obtainContents_complete given returned
    refine stage_bind announced rfl rfl
      (show ∀ kobj, _ → Records _ _ (StageLog _ fun _ _ _ _ => True) from ?_)
      fun _ _ => trivial
    intro kobj given
    exact stage_bind (callHandlerChain_stage retain given) rfl rfl fetched
      fun _ _ => trivial

theorem obtainBundle_stage (retain : ∀ handler ∈ handlers, handler.Retains)
    (kobj : KnowledgeObject) :
    Records (Recording.obtainBundle node handlers kobj)
      (obtainBundle node handlers kobj)
      (StageLog KnowledgeObject.Complete fun state last after _ =>
        (obtainBundle node handlers kobj).run state =
          (.ok (some last), after)) := by
  have staged : Records (Recording.obtainBundle node handlers kobj)
      (obtainBundle node handlers kobj)
      (StageLog KnowledgeObject.Complete fun _ _ _ _ => True) :=
    obtainBundle_staged retain kobj
  apply staged.mono
  intro state actions log
  exact { log with closed := fun last after returned => returned }

theorem settle_stage (retain : ∀ handler ∈ handlers, handler.Retains)
    (kobj : KnowledgeObject) :
    Records (Recording.settle node handlers kobj) (settle node handlers kobj)
      (StageLog KnowledgeObject.Complete fun state settled _ =>
        Decided node handlers kobj state settled) := by
  have ridStage := callHandlerChain_stage retain
    (show HandlerType.rid.Provided kobj from trivial)
  have bundleStage : ∀ complete : KnowledgeObject, complete.Complete →
      Records (Recording.callHandlerChain .bundle handlers complete)
        (callHandlerChain .bundle handlers complete) _ :=
    fun complete given => callHandlerChain_stage retain
      (show HandlerType.bundle.Provided complete from given)
  unfold Recording.settle settle
  refine stage_bind ridStage rfl rfl
    (show ∀ passed, _ → Records _ _ (StageLog _
      fun between settled after actions => ∃ complete obtained fetched chain,
        actions = fetched ++ chain ∧
          (obtainBundle node handlers passed).run between =
            (.ok (some complete), obtained) ∧
          ChainLog .bundle handlers complete obtained
            (.ok (some settled), after) chain) from ?_) ?_
  · intro passed _
    exact stage_bind (obtainBundle_stage retain passed) rfl rfl bundleStage
      fun obtained ran => ⟨_, _, _, _, rfl, obtained, ran⟩
  intro state passed between settled after rids late ridChain rest
  obtain ⟨complete, obtained, fetched, chain, rfl, ran, bundleChain⟩ := rest
  exact ⟨passed, complete, between, obtained, after, rids, fetched, chain, rfl,
    ridChain, ran, bundleChain⟩

/-- The cache is changed once exactly if an object is handed on, by the action
that the settled object chooses. -/
structure ApplyLog (settled : KnowledgeObject)
    (ended : Except Exc (Option KnowledgeObject) × NodeState)
    (actions : List PipelineAction) : Prop where
  chosen : ∀ action ∈ actions, Chooses settled action
  atMostOne : actions.length ≤ 1
  changed : ∀ last, ended.1 = .ok (some last) →
    actions ≠ [] ∧ last.Complete ∧
      ∃ prevBundle, last = { settled with prevBundle }

theorem ApplyLog.nothing {settled : KnowledgeObject}
    {result : Except Exc (Option KnowledgeObject)}
    {state : NodeState} (stopped : ∀ last, result ≠ .ok (some last)) :
    ApplyLog settled (result, state) [] :=
  { chosen := by simp
    atMostOne := by simp
    changed := fun last same => absurd same (stopped last) }

/-- A change of the cache, noted, after which the object is handed on. -/
theorem noted_apply {action : PipelineAction}
    {change : NodeState → NodeState} {settled kobj : KnowledgeObject}
    (chosen : Chooses settled action) (complete : kobj.Complete)
    (same : ∃ prevBundle, kobj = { settled with prevBundle }) :
    Records
      (noting action (Effect.modify change) >>= fun _ => pure (some kobj))
      ((Effect.modify change : NodeM Unit) >>= fun _ => pure (some kobj))
      fun _ => ApplyLog settled := by
  apply Records.noting_modify.mono
  intro state actions recorded
  rw [recorded.1, recorded.2]
  refine
    { chosen := by simpa using chosen
      atMostOne := by simp
      changed := ?_ }
  intro last returned
  cases returned
  exact ⟨by simp, complete, same⟩

theorem write_stage {settled kobj : KnowledgeObject} {eventType : EventType}
    (decided : settled.normalizedEventType = some eventType)
    (writes : eventType ≠ .forget) (complete : kobj.Complete)
    (same : ∃ prevBundle, kobj = { settled with prevBundle }) :
    Records
      (unrecorded (Effect.ofExcept kobj.bundle) >>= fun bundle =>
        noting (.wrote bundle) (Effect.modify fun state =>
          { state with cache := state.cache.write bundle }) >>= fun _ =>
            pure (some kobj))
      ((Effect.ofExcept kobj.bundle : NodeM Bundle) >>= fun bundle =>
        Effect.modify (fun state =>
          { state with cache := state.cache.write bundle }) >>= fun _ =>
            pure (some kobj))
      fun _ => ApplyLog settled := by
  apply Records.unrecorded_bind
  · intro state failure after raised
    exact .nothing fun last same => by cases same
  · intro bundle known
    obtain ⟨_, _, made⟩ := known
    have chosen : Chooses settled (.wrote bundle) := by
      obtain ⟨previous, rfl⟩ := same
      have made : settled.bundle = .ok bundle := congrArg Prod.fst made
      unfold Chooses
      rw [decided]
      cases eventType with
      | new => exact ⟨bundle, made, rfl⟩
      | update => exact ⟨bundle, made, rfl⟩
      | forget => exact absurd rfl writes
    apply (noted_apply chosen complete same).mono
    intro _ _ log _ _
    exact log

theorem applyToCache_stage {kobj : KnowledgeObject}
    (complete : kobj.Complete) :
    Records (Recording.applyToCache kobj) (applyToCache kobj)
      fun _ => ApplyLog kobj := by
  unfold Recording.applyToCache applyToCache
  cases decided : kobj.normalizedEventType with
  | none =>
      exact Records.pure fun _ => .nothing fun last same => by cases same
  | some eventType =>
      cases eventType with
      | new =>
          exact write_stage decided (by decide) complete
            ⟨kobj.prevBundle, rfl⟩
      | update =>
          apply Records.unrecorded_bind
          · intro state failure after raised
            cases raised
          · intro read _
            have updated : { kobj with
                normalizedEventType := some .update
                prevBundle := read.cache.read kobj.rid }.Complete :=
              { manifest := complete.manifest
                contents := complete.contents }
            apply (write_stage decided (by decide) updated
              ⟨read.cache.read kobj.rid, by rw [← decided]⟩).mono
            intro _ _ log _ _
            exact log
      | forget =>
          refine noted_apply ?_ complete ⟨kobj.prevBundle, rfl⟩
          unfold Chooses
          rw [decided]

/-- What the broadcast and the Final chain record behind a Network chain that
handed on an object, or none. -/
structure AnnounceLog (passed : Option KnowledgeObject)
    (pushes finals : List PipelineAction) : Prop where
  finalKinds : ∀ action ∈ finals, action.kind = .chain
  finalsProvided : CallsProvided finals
  announced : ∀ push ∈ pushes, ∃ kobj, passed = some kobj ∧
    Announces kobj push

theorem AnnounceLog.nothing (passed : Option KnowledgeObject) :
    AnnounceLog passed [] [] :=
  { finalKinds := by simp
    finalsProvided := by simp [CallsProvided]
    announced := by simp }

theorem finalChain_stage (retain : ∀ handler ∈ handlers, handler.Retains)
    {kobj : KnowledgeObject} (complete : kobj.Complete) :
    Records
      (Recording.callHandlerChain .final handlers kobj >>= fun _ => pure ())
      (callHandlerChain .final handlers kobj >>= fun _ => pure ())
      fun _ _ actions => (∀ action ∈ actions, action.kind = .chain) ∧
        CallsProvided actions := by
  have finalStage := callHandlerChain_stage retain
    (show HandlerType.final.Provided kobj from complete)
  have ends : Records (α := PipelineAction) (pure () : RecordingM Unit)
      (pure () : NodeM Unit) fun _ _ actions => actions = [] :=
    Records.pure fun _ => rfl
  apply Records.bind finalStage fun _ _ => ends
  · intro state failure after actions log
    exact ⟨log.kinds, log.provided⟩
  · intro state value between ended early late log nothing
    rw [nothing, List.append_nil]
    exact ⟨log.kinds, log.provided⟩

theorem announces_of_broadcast {kobj : KnowledgeObject}
    {state after : NodeState} {pushes : List PipelineAction}
    (recorded : (broadcastLedger kobj).rel state pushes after) :
    ∀ push ∈ pushes, ∃ passed, some kobj = some passed ∧
      Announces passed push := by
  intro push member
  obtain ⟨event, target, rfl, made, targeted⟩ := recorded push member
  exact ⟨kobj, rfl, event, made, target, targeted, rfl⟩

theorem announce_stage (retain : ∀ handler ∈ handlers, handler.Retains)
    {kobj : KnowledgeObject} (complete : kobj.Complete) :
    Records
      (Recording.broadcast kobj >>= fun _ =>
        Recording.callHandlerChain .final handlers kobj >>= fun _ => pure ())
      (broadcast kobj >>= fun _ =>
        callHandlerChain .final handlers kobj >>= fun _ => pure ())
      fun _ _ actions => ∃ pushes finals, actions = pushes ++ finals ∧
        AnnounceLog (some kobj) pushes finals := by
  apply Records.bind (broadcast_pushes kobj) fun _ _ =>
    finalChain_stage retain complete
  · intro state failure after actions pushes
    refine ⟨actions, [], by simp, ?_⟩
    exact
      { AnnounceLog.nothing (some kobj) with
        announced := announces_of_broadcast pushes }
  · intro state value between ended early late pushes finals
    refine ⟨early, late, rfl, ?_⟩
    exact
      { finalKinds := finals.1
        finalsProvided := finals.2
        announced := announces_of_broadcast pushes }

/-- What is recorded once the cache has changed: the Network chain of the
object, the pushes of what it handed on, the Final chain. -/
structure PublishLog (handlers : List KnowledgeHandler)
    (applied : KnowledgeObject) (chain pushes finals : List PipelineAction) :
    Prop where
  chainKinds : ∀ action ∈ chain, action.kind = .chain
  chainProvided : CallsProvided chain
  finalKinds : ∀ action ∈ finals, action.kind = .chain
  finalsProvided : CallsProvided finals
  whole : pushes ≠ [] → ∃ announced,
    RanWhole .network handlers applied announced chain ∧
      ∀ push ∈ pushes, Announces announced push

theorem PublishLog.pushKinds {applied : KnowledgeObject}
    {chain pushes finals : List PipelineAction}
    (log : PublishLog handlers applied chain pushes finals) :
    ∀ action ∈ pushes, action.kind = .push := by
  intro push member
  obtain ⟨announced, _, announces⟩ := log.whole (List.ne_nil_of_mem member)
  exact (announces push member).kind

theorem PublishLog.of_chain {applied : KnowledgeObject}
    {chain : List PipelineAction}
    (kinds : ∀ action ∈ chain, action.kind = .chain)
    (provided : CallsProvided chain) :
    PublishLog handlers applied chain [] [] :=
  { chainKinds := kinds
    chainProvided := provided
    finalKinds := by simp
    finalsProvided := by simp [CallsProvided]
    whole := by simp }

theorem publish_stage (retain : ∀ handler ∈ handlers, handler.Retains)
    {kobj : KnowledgeObject} (complete : kobj.Complete) :
    Records (Recording.publish node handlers kobj) (publish node handlers kobj)
      fun _ _ actions => ∃ chain pushes finals,
        actions = chain ++ (pushes ++ finals) ∧
          PublishLog handlers kobj chain pushes finals := by
  have networkStage := callHandlerChain_stage retain
    (show HandlerType.network.Provided kobj from complete)
  unfold Recording.publish publish
  apply Records.unrecorded_bind
  · intro state failure after raised
    exact ⟨[], [], [], rfl, .of_chain (by simp) (by simp [CallsProvided])⟩
  · intro _ _
    refine Records.bind networkStage
      (show ∀ passed, _ → Records _ _ fun _ _ actions =>
        ∃ pushes finals, actions = pushes ++ finals ∧
          AnnounceLog passed pushes finals from ?_) ?_ ?_
    · intro passed known
      obtain ⟨_, _, _, log⟩ := known
      cases passed with
      | none =>
          apply Records.pure
          intro state
          exact ⟨[], [], rfl, .nothing none⟩
      | some kobj => exact announce_stage retain (log.good kobj rfl)
    · intro state failure after actions log _ _
      exact ⟨actions, [], [], by simp, .of_chain log.kinds log.provided⟩
    · intro state passed between ended early late log announced _ _
      obtain ⟨pushes, finals, rfl, announced⟩ := announced
      refine ⟨early, pushes, finals, rfl,
        { announced with
          chainKinds := log.kinds
          chainProvided := log.provided
          whole := ?_ }⟩
      intro pushed
      obtain ⟨push, member⟩ := List.exists_mem_of_ne_nil pushes pushed
      obtain ⟨last, rfl, _⟩ := announced.announced push member
      refine ⟨last, ⟨_, _, log.closed last between rfl⟩, ?_⟩
      intro other among
      obtain ⟨_, same, announces⟩ := announced.announced other among
      cases same
      exact announces

/-- What is recorded from the cache action on, if settling handed on an
object, or none. -/
structure ChangeLog (handlers : List KnowledgeHandler)
    (settled : Option KnowledgeObject)
    (changes chain pushes finals : List PipelineAction) : Prop where
  chosen : ∀ action ∈ changes, ∃ kobj, settled = some kobj ∧
    Chooses kobj action
  atMostOne : changes.length ≤ 1
  published : ∃ applied, PublishLog handlers applied chain pushes finals ∧
    (pushes ≠ [] → changes ≠ [] ∧ ∃ kobj prevBundle, settled = some kobj ∧
      applied = { kobj with prevBundle })

theorem ChangeLog.nothing (kobj : KnowledgeObject) :
    ChangeLog handlers none [] [] [] [] :=
  { chosen := by simp
    atMostOne := by simp
    published :=
      ⟨kobj, .of_chain (by simp) (by simp [CallsProvided]), by simp⟩ }

/-- The record of a run falls into the stages. -/
structure RunLog (node : Node) (handlers : List KnowledgeHandler)
    (kobj : KnowledgeObject) (state : NodeState)
    (settled : Option KnowledgeObject)
    (decided changes chain pushes finals : List PipelineAction) : Prop where
  decidedKinds : ∀ action ∈ decided, action.kind = .chain
  decidedProvided : CallsProvided decided
  decidedWhole : ∀ last, settled = some last →
    Decided node handlers kobj state last decided
  changeLog : ChangeLog handlers settled changes chain pushes finals

theorem process_runLog (retain : ∀ handler ∈ handlers, handler.Retains)
    (kobj : KnowledgeObject) :
    Records (Recording.process node handlers kobj) (process node handlers kobj)
      fun state _ actions => ∃ settled decided changes chain pushes finals,
        actions = decided ++ (changes ++ (chain ++ (pushes ++ finals))) ∧
          RunLog node handlers kobj state settled decided changes chain pushes
            finals := by
  have settles : Records (Recording.settle node handlers kobj)
      (settle node handlers kobj) _ := settle_stage retain kobj
  have records := process_records settles
    (fun settled ⟨_, _, _, decided⟩ =>
      applyToCache_stage (decided.good settled rfl))
    (fun applied ⟨_, _, _, _, changes⟩ =>
      publish_stage retain (changes.changed applied rfl).2.1)
  apply records.mono
  intro state actions call
  generalize (process node handlers kobj).run state = ended at call
  cases call with
  | undecided decided _ =>
      refine ⟨none, actions, [], [], [], [], by simp, ?_⟩
      exact
        { decidedKinds := decided.kinds
          decidedProvided := decided.provided
          decidedWhole := by simp
          changeLog := .nothing kobj }
  | @unapplied settled between _ _ early late decided changes _ =>
      refine ⟨some settled, early, late, [], [], [], by simp, ?_⟩
      refine
        { decidedKinds := decided.kinds
          decidedProvided := decided.provided
          decidedWhole := ?_
          changeLog :=
            { chosen := fun action member =>
                ⟨settled, rfl, changes.chosen action member⟩
              atMostOne := changes.atMostOne
              published :=
                ⟨kobj, .of_chain (by simp) (by simp [CallsProvided]),
                  by simp⟩ } }
      rintro last ⟨⟩
      exact decided.closed settled between rfl
  | @published settled applied between _ _ early changed late decided changes
      published =>
      obtain ⟨chain, pushes, finals, rfl, log⟩ := published
      obtain ⟨noted, _, previous, same⟩ := changes.changed applied rfl
      refine ⟨some settled, early, changed, chain, pushes, finals, rfl, ?_⟩
      refine
        { decidedKinds := decided.kinds
          decidedProvided := decided.provided
          decidedWhole := ?_
          changeLog :=
            { chosen := fun action member =>
                ⟨settled, rfl, changes.chosen action member⟩
              atMostOne := changes.atMostOne
              published :=
                ⟨applied, log, fun _ =>
                  ⟨noted, settled, previous, rfl, same⟩⟩ } }
      rintro last ⟨⟩
      exact decided.closed settled between rfl

theorem other_kind {actions : List PipelineAction} {kind other : ActionKind}
    (kinds : ∀ action ∈ actions, action.kind = kind) (differ : kind ≠ other) :
    ∀ action ∈ actions, ¬action.kind = other := by
  intro action member same
  exact differ ((kinds action member).symm.trans same)

theorem other_kind_append {early late : List PipelineAction}
    {other : ActionKind} (notEarly : ∀ action ∈ early, ¬action.kind = other)
    (notLate : ∀ action ∈ late, ¬action.kind = other) :
    ∀ action ∈ early ++ late, ¬action.kind = other := by
  intro action member
  rcases List.mem_append.mp member with inEarly | inLate
  · exact notEarly action inEarly
  · exact notLate action inLate

section RunLogs

variable {kobj : KnowledgeObject} {state : NodeState}
  {settled : Option KnowledgeObject}
  {decided changes chain pushes finals : List PipelineAction}

theorem ChangeLog.changeKinds
    (log : ChangeLog handlers settled changes chain pushes finals) :
    ∀ action ∈ changes, action.kind = .cacheChange := by
  intro action member
  obtain ⟨last, _, chooses⟩ := log.chosen action member
  exact chooses.kind

theorem ChangeLog.change
    (log : ChangeLog handlers settled changes chain pushes finals)
    (changed : changes ≠ []) : ∃ change, changes = [change] := by
  obtain ⟨change, rest, rfl⟩ := List.exists_cons_of_ne_nil changed
  have one := log.atMostOne
  have none : rest = [] := by
    rw [← List.length_eq_zero_iff]
    simp only [List.length_cons] at one
    omega
  exact ⟨change, by rw [none]⟩

theorem PublishLog.no_change {applied : KnowledgeObject}
    (log : PublishLog handlers applied chain pushes finals) :
    ∀ action ∈ chain ++ (pushes ++ finals), ¬action.kind = .cacheChange :=
  other_kind_append (other_kind log.chainKinds (by decide))
    (other_kind_append (other_kind log.pushKinds (by decide))
      (other_kind log.finalKinds (by decide)))

theorem RunLog.provided
    (log : RunLog node handlers kobj state settled decided changes chain pushes
      finals) :
    CallsProvided (decided ++ (changes ++ (chain ++ (pushes ++ finals)))) := by
  obtain ⟨applied, published, _⟩ := log.changeLog.published
  have noCalls : CallsProvided changes :=
    callsProvided_of_kinds (other_kind log.changeLog.changeKinds (by decide))
  have noCallsPushed : CallsProvided pushes :=
    callsProvided_of_kinds (other_kind published.pushKinds (by decide))
  simp only [callsProvided_append]
  exact ⟨log.decidedProvided, noCalls, published.chainProvided,
    noCallsPushed, published.finalsProvided⟩

theorem RunLog.oneChange
    (log : RunLog node handlers kobj state settled decided changes chain pushes
      finals) :
    ((decided ++ (changes ++ (chain ++ (pushes ++ finals)))).filter
      fun action => action.kind = .cacheChange).length ≤ 1 := by
  obtain ⟨applied, published, _⟩ := log.changeLog.published
  have noneDecided : decided.filter
      (fun action => action.kind = .cacheChange) = [] := by
    apply List.filter_eq_nil_iff.mpr
    simpa using other_kind log.decidedKinds (by decide)
  have noneLater : (chain ++ (pushes ++ finals)).filter
      (fun action => action.kind = .cacheChange) = [] := by
    apply List.filter_eq_nil_iff.mpr
    intro action member
    simpa using published.no_change action member
  rw [List.filter_append, List.filter_append, noneDecided, noneLater,
    List.nil_append, List.append_nil]
  exact Nat.le_trans (List.length_filter_le _ _) log.changeLog.atMostOne

theorem RunLog.changed
    (log : RunLog node handlers kobj state settled decided changes chain pushes
      finals)
    {before after : List PipelineAction} {change : PipelineAction}
    (split : decided ++ (changes ++ (chain ++ (pushes ++ finals))) =
      before ++ change :: after)
    (kind : change.kind = .cacheChange) :
    ∃ last, Decided node handlers kobj state last before ∧
      Chooses last change := by
  obtain ⟨applied, published, _⟩ := log.changeLog.published
  obtain ⟨front, back, changes_eq, before_eq⟩ :=
    segment_of_split (fun action => action.kind = .cacheChange) split kind
      (other_kind log.decidedKinds (by decide)) published.no_change
  have first : front = [] := by
    have one := log.changeLog.atMostOne
    rw [changes_eq, List.length_append, List.length_cons] at one
    rw [← List.length_eq_zero_iff]
    omega
  obtain ⟨last, same, chooses⟩ := log.changeLog.chosen change
    (by rw [changes_eq]; simp)
  refine ⟨last, ?_, chooses⟩
  rw [before_eq, first, List.append_nil]
  exact log.decidedWhole last same

theorem RunLog.announced
    (log : RunLog node handlers kobj state settled decided changes chain pushes
      finals)
    {before after : List PipelineAction} {push : PipelineAction}
    (split : decided ++ (changes ++ (chain ++ (pushes ++ finals))) =
      before ++ push :: after)
    (kind : push.kind = .push) :
    ∃ earlier last change prevBundle chain announced pushes,
      before = earlier ++ change :: (chain ++ pushes) ∧
        Decided node handlers kobj state last earlier ∧
        Chooses last change ∧
        RanWhole .network handlers { last with prevBundle } announced chain ∧
        ∀ action ∈ pushes ++ [push], Announces announced action := by
  obtain ⟨applied, published, behind⟩ := log.changeLog.published
  have regrouped : (decided ++ (changes ++ chain)) ++ (pushes ++ finals) =
      before ++ push :: after := by
    rw [← split]
    simp only [List.append_assoc]
  have notEarlier : ∀ action ∈ decided ++ (changes ++ chain),
      ¬action.kind = .push :=
    other_kind_append (other_kind log.decidedKinds (by decide))
      (other_kind_append (other_kind log.changeLog.changeKinds (by decide))
        (other_kind published.chainKinds (by decide)))
  obtain ⟨front, back, pushes_eq, before_eq⟩ :=
    segment_of_split (fun action => action.kind = .push) regrouped kind
      notEarlier (other_kind published.finalKinds (by decide))
  have pushed : pushes ≠ [] := by
    rw [pushes_eq]
    simp
  obtain ⟨changed, last, previous, rfl, rfl⟩ := behind pushed
  obtain ⟨change, rfl⟩ := log.changeLog.change changed
  obtain ⟨announced, ran, announces⟩ := published.whole pushed
  obtain ⟨same, settledIs, chooses⟩ :=
    log.changeLog.chosen change List.mem_cons_self
  cases settledIs
  refine ⟨decided, last, change, previous, chain, announced, front, ?_,
    log.decidedWhole last rfl, chooses, ran, ?_⟩
  · rw [before_eq]
    simp
  · intro action member
    apply announces action
    rw [pushes_eq]
    simp only [List.mem_append, List.mem_cons] at member ⊢
    tauto

theorem RunLog.ordered
    (log : RunLog node handlers kobj state settled decided changes chain pushes
      finals) :
    Ordered node handlers kobj state
      (decided ++ (changes ++ (chain ++ (pushes ++ finals)))) :=
  { provided := log.provided
    oneChange := log.oneChange
    changed := fun _ _ _ => log.changed
    announced := fun _ _ _ => log.announced }

end RunLogs

end Stages

/-- Every execution of the pipeline, whatever its handlers do, gives them
what their types are promised and keeps the order of its stages; the recorded
actions are all that happened to the cache and the event queue. -/
theorem process_ordered {handlers : List KnowledgeHandler}
    (retain : ∀ handler ∈ handlers, handler.Retains)
    (leave : ∀ handler ∈ handlers, handler.LeavesStores)
    (node : Node) (kobj : KnowledgeObject) (state : NodeState) :
    ∃ actions,
      (Recording.process node handlers kobj).run
          { state := state, actions := [] } =
        (((process node handlers kobj).run state).1,
          { state := ((process node handlers kobj).run state).2
            actions := actions }) ∧
      Accounts state actions ((process node handlers kobj).run state).2 ∧
      Ordered node handlers kobj state actions := by
  have accounted : accountsLedger.Keeps (Recording.process node handlers kobj)
      (process node handlers kobj) := process_accounts leave kobj
  have records := (process_runLog retain kobj).and accounted
  obtain ⟨actions, ran, log, accounts⟩ := records state []
  obtain ⟨settled, decided, changes, chain, pushes, finals, rfl, runLog⟩ := log
  exact ⟨_, ran, accounts, runLog.ordered⟩

/-- A Network handler that names one peer. -/
def announcer (peer : KoiNetNode) : KnowledgeHandler :=
  { handlerType := .network
    handle := fun kobj =>
      pure (.modified { kobj with networkTargets := [peer] }) }

theorem announcer_retains (peer : KoiNetNode) : (announcer peer).Retains := by
  constructor
  · intro kobj state changed after returned given
    cases returned
    exact given
  · intro kobj state changed after returned given
    cases returned
    exact given

theorem basicManifestHandler_retains : basicManifestHandler.Retains := by
  have kept : ∀ {kobj : KnowledgeObject} {state : NodeState}
      {changed : KnowledgeObject} {after : NodeState},
      (BasicManifestHandler.handle kobj).run state =
        (.ok (.modified changed), after) →
      changed.manifest = kobj.manifest ∧ changed.contents = kobj.contents := by
    intro kobj state changed after returned
    unfold BasicManifestHandler.handle at returned
    rw [Effect.run_get_bind] at returned
    split at returned
    · cases returned
      exact ⟨rfl, rfl⟩
    · split at returned
      · cases returned
      · split at returned
        · cases returned
          exact ⟨rfl, rfl⟩
        · cases returned
  constructor
  · intro kobj state changed after returned given
    rw [(kept returned).1]
    exact given
  · intro kobj state changed after returned given
    rw [(kept returned).2]
    exact given

/-- A note that this node wrote itself. -/
def note : KnowledgeObject :=
  .fromBundle
    { manifest :=
        { rid := .other "note" "1", timestamp := 1, sha256Hash := "hash" }
      contents := [("text", .str "hello")] } none none

/-- The handlers of a node that announces everything new to one peer. -/
def announcing : List KnowledgeHandler :=
  [basicManifestHandler, announcer { name := "peer", hash := "key" }]

theorem process_ordered_note :
    ((process .standalone announcing note).run
        (.fresh .empty)).2.eventQueue.length = 1 ∧
      ∃ actions,
        (Recording.process .standalone announcing note).run
            { state := .fresh .empty, actions := [] } =
          (((process .standalone announcing note).run (.fresh .empty)).1,
            { state :=
                ((process .standalone announcing note).run (.fresh .empty)).2
              actions := actions }) ∧
        Accounts (.fresh .empty) actions
          ((process .standalone announcing note).run (.fresh .empty)).2 ∧
        Ordered .standalone announcing note (.fresh .empty) actions := by
  refine ⟨rfl, process_ordered ?_ ?_ .standalone note (.fresh .empty)⟩
  · intro handler member
    rcases List.mem_pair.mp member with rfl | rfl
    · exact basicManifestHandler_retains
    · exact announcer_retains _
  · intro handler member
    rcases List.mem_pair.mp member with rfl | rfl
    · exact basicManifestHandler_keeps
    · intro kobj
      exact Frame.keeps_pure _

end KnowledgePipeline

end KoiNet
