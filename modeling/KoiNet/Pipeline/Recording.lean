import KoiNet.Foundation.Recorded
import KoiNet.Pipeline.CacheEffect

/-!
# The pipeline, recording what it does

`Recording.process` is `process` with a record of every handler call and its
response, every write to and delete from the cache, and every event pushed by
the broadcast.  It runs as `process` does, and what it records accounts for
the cache and the event queue.
-/

namespace KoiNet

open Foundation Recorded

/-- What the pipeline does that others can observe. -/
inductive PipelineAction where
  | called (handler : KnowledgeHandler) (kobj : KnowledgeObject)
  | answered (handler : KnowledgeHandler) (response : HandlerResponse)
  | wrote (bundle : Bundle)
  | deleted (rid : RID)
  | pushed (event : Event) (target : KoiNetNode)

inductive ActionKind where
  | chain
  | cacheChange
  | push
  deriving DecidableEq, Repr

namespace PipelineAction

def kind : PipelineAction → ActionKind
  | called _ _ => .chain
  | answered _ _ => .chain
  | wrote _ => .cacheChange
  | deleted _ => .cacheChange
  | pushed _ _ => .push

/-- What the action does to the cache. -/
def replay (cache : Cache) : PipelineAction → Cache
  | wrote bundle => cache.write bundle
  | deleted rid => cache.delete rid
  | _ => cache

/-- What the action adds to the event queue. -/
def queued : PipelineAction → List QueuedEvent
  | pushed event target => [{ event, target }]
  | _ => []

end PipelineAction

abbrev RecordingM := Effect Exc (Recorded NodeState PipelineAction)

namespace KnowledgePipeline

namespace Recording

/-- `call_handler_chain`. -/
def callHandlerChain (handlerType : HandlerType) :
    List KnowledgeHandler → KnowledgeObject →
      RecordingM (Option KnowledgeObject)
  | [], kobj => pure (some kobj)
  | handler :: rest, kobj =>
      if handlerType ≠ handler.handlerType then
        callHandlerChain handlerType rest kobj
      else if !handler.accepts kobj then
        callHandlerChain handlerType rest kobj
      else do
        record (.called handler kobj)
        let response ← unrecorded (handler.handle kobj)
        record (.answered handler response)
        match response with
        | .stopChain => return none
        | .unmodified => callHandlerChain handlerType rest kobj
        | .modified kobj => callHandlerChain handlerType rest kobj

def obtainBundle (node : Node) (handlers : List KnowledgeHandler)
    (kobj : KnowledgeObject) : RecordingM (Option KnowledgeObject) := do
  if kobj.eventType = some .forget then
    unrecorded (attachLocal kobj)
  else
    match ← unrecorded (obtainManifest node kobj) with
    | none => return none
    | some kobj =>
        match ← callHandlerChain .manifest handlers kobj with
        | none => return none
        | some kobj => unrecorded (obtainContents node kobj)

def applyToCache (kobj : KnowledgeObject) :
    RecordingM (Option KnowledgeObject) := do
  match kobj.normalizedEventType with
  | some .new =>
      let bundle ← unrecorded (Effect.ofExcept kobj.bundle)
      noting (.wrote bundle) (Effect.modify fun state =>
        { state with cache := state.cache.write bundle })
      return some kobj
  | some .update =>
      let state ← unrecorded Effect.get
      let kobj := { kobj with prevBundle := state.cache.read kobj.rid }
      let bundle ← unrecorded (Effect.ofExcept kobj.bundle)
      noting (.wrote bundle) (Effect.modify fun state =>
        { state with cache := state.cache.write bundle })
      return some kobj
  | some .forget =>
      noting (.deleted kobj.rid) (Effect.modify fun state =>
        { state with cache := state.cache.delete kobj.rid })
      return some kobj
  | none => return none

def broadcast (kobj : KnowledgeObject) : RecordingM Unit :=
  Effect.forEach kobj.networkTargets fun target => do
    let event ← unrecorded (Effect.ofExcept kobj.normalizedEvent)
    noting (.pushed event target) (EventQueue.push event target)

def settle (node : Node) (handlers : List KnowledgeHandler)
    (kobj : KnowledgeObject) : RecordingM (Option KnowledgeObject) := do
  match ← callHandlerChain .rid handlers kobj with
  | none => return none
  | some kobj =>
      match ← obtainBundle node handlers kobj with
      | none => return none
      | some kobj => callHandlerChain .bundle handlers kobj

def publish (node : Node) (handlers : List KnowledgeHandler)
    (kobj : KnowledgeObject) : RecordingM Unit := do
  unrecorded (regenerate node kobj)
  match ← callHandlerChain .network handlers kobj with
  | none => return ()
  | some kobj =>
      broadcast kobj
      let _ ← callHandlerChain .final handlers kobj
      return ()

def process (node : Node) (handlers : List KnowledgeHandler)
    (kobj : KnowledgeObject) : RecordingM Unit := do
  match ← settle node handlers kobj with
  | none => return ()
  | some kobj =>
      match ← applyToCache kobj with
      | none => return ()
      | some kobj => publish node handlers kobj

end Recording

/-- The record of one chain and how the chain ends: each handler of the list
is skipped, or is called and stops the chain, raises, or hands an object to
the rest. -/
inductive ChainLog (handlerType : HandlerType) :
    List KnowledgeHandler → KnowledgeObject → NodeState →
      Except Exc (Option KnowledgeObject) × NodeState →
      List PipelineAction → Prop where
  | completed (kobj : KnowledgeObject) (state : NodeState) :
      ChainLog handlerType [] kobj state (.ok (some kobj), state) []
  | skipped {handler : KnowledgeHandler} {rest : List KnowledgeHandler}
      {kobj : KnowledgeObject} {state : NodeState}
      {ended : Except Exc (Option KnowledgeObject) × NodeState}
      {actions : List PipelineAction} :
      handler.handlerType ≠ handlerType ∨ handler.accepts kobj = false →
      ChainLog handlerType rest kobj state ended actions →
      ChainLog handlerType (handler :: rest) kobj state ended actions
  | raised {handler : KnowledgeHandler} {rest : List KnowledgeHandler}
      {kobj : KnowledgeObject} {state after : NodeState} {failure : Exc} :
      handler.handlerType = handlerType → handler.accepts kobj = true →
      (handler.handle kobj).run state = (.error failure, after) →
      ChainLog handlerType (handler :: rest) kobj state
        (.error failure, after) [.called handler kobj]
  | stopped {handler : KnowledgeHandler} {rest : List KnowledgeHandler}
      {kobj : KnowledgeObject} {state after : NodeState} :
      handler.handlerType = handlerType → handler.accepts kobj = true →
      (handler.handle kobj).run state = (.ok .stopChain, after) →
      ChainLog handlerType (handler :: rest) kobj state (.ok none, after)
        [.called handler kobj, .answered handler .stopChain]
  | passed {handler : KnowledgeHandler} {rest : List KnowledgeHandler}
      {kobj next : KnowledgeObject} {state between : NodeState}
      {response : HandlerResponse}
      {ended : Except Exc (Option KnowledgeObject) × NodeState}
      {actions : List PipelineAction} :
      handler.handlerType = handlerType → handler.accepts kobj = true →
      (handler.handle kobj).run state = (.ok response, between) →
      response.next kobj = some next →
      ChainLog handlerType rest next between ended actions →
      ChainLog handlerType (handler :: rest) kobj state ended
        (.called handler kobj :: .answered handler response :: actions)

private theorem callHandlerChain_called {handlerType : HandlerType}
    {handler : KnowledgeHandler} {rest : List KnowledgeHandler}
    {kobj : KnowledgeObject} (called : handler.handlerType = handlerType)
    (accepted : handler.accepts kobj = true)
    (restRecords : ∀ kobj, Records
      (Recording.callHandlerChain handlerType rest kobj)
      (callHandlerChain handlerType rest kobj)
      (ChainLog handlerType rest kobj)) :
    Records (Recording.callHandlerChain handlerType (handler :: rest) kobj)
      (callHandlerChain handlerType (handler :: rest) kobj)
      (ChainLog handlerType (handler :: rest) kobj) := by
  have notOther : ¬(handlerType ≠ handler.handlerType) := by simp [called]
  have notRefused : ¬(!handler.accepts kobj) = true := by simp [accepted]
  rw [callHandlerChain_call called accepted, Recording.callHandlerChain,
    if_neg notOther, if_neg notRefused]
  apply Records.record
  apply Records.unrecorded_bind
  · intro state failure after raised
    exact .raised called accepted raised
  · intro response _
    apply Records.record
    cases response with
    | stopChain =>
        apply Records.pure
        intro after state handled
        exact .stopped called accepted handled
    | unmodified =>
        apply (restRecords kobj).mono
        intro between actions chain state handled
        exact .passed called accepted handled rfl chain
    | modified changed =>
        apply (restRecords changed).mono
        intro between actions chain state handled
        exact .passed called accepted handled rfl chain

theorem callHandlerChain_records (handlerType : HandlerType)
    (handlers : List KnowledgeHandler) (kobj : KnowledgeObject) :
    Records (Recording.callHandlerChain handlerType handlers kobj)
      (callHandlerChain handlerType handlers kobj)
      (ChainLog handlerType handlers kobj) := by
  induction handlers generalizing kobj with
  | nil =>
      apply Records.pure
      intro state
      exact .completed kobj state
  | cons handler rest induction =>
      by_cases called : handler.handlerType = handlerType
      · cases accepted : handler.accepts kobj with
        | true => exact callHandlerChain_called called accepted induction
        | false =>
            rw [callHandlerChain_skip accepted, Recording.callHandlerChain]
            simp only [called, ne_eq, not_true_eq_false, if_false, accepted,
              Bool.not_false, if_true]
            apply (induction kobj).mono
            intro state actions chain
            exact .skipped (.inr accepted) chain
      · rw [callHandlerChain_other called, Recording.callHandlerChain,
          if_pos (Ne.symm called)]
        apply (induction kobj).mono
        intro state actions chain
        exact .skipped (.inl called) chain

section ChainLogs

variable {handlerType : HandlerType} {handlers : List KnowledgeHandler}
  {kobj : KnowledgeObject} {state : NodeState}
  {ended : Except Exc (Option KnowledgeObject) × NodeState}
  {actions : List PipelineAction}

theorem ChainLog.kinds
    (chain : ChainLog handlerType handlers kobj state ended actions) :
    ∀ action ∈ actions, action.kind = .chain := by
  induction chain with
  | completed _ _ => simp
  | skipped _ _ induction => exact induction
  | raised _ _ _ => simp [PipelineAction.kind]
  | stopped _ _ _ => simp [PipelineAction.kind]
  | passed _ _ _ _ _ induction =>
      simpa [PipelineAction.kind] using induction

theorem callHandlerChain_kinds (handlerType : HandlerType)
    (handlers : List KnowledgeHandler) (kobj : KnowledgeObject) :
    (Ledger.each fun action : PipelineAction => action.kind = .chain).Keeps
      (Recording.callHandlerChain handlerType handlers kobj)
      (callHandlerChain handlerType handlers kobj) := by
  apply (callHandlerChain_records handlerType handlers kobj).mono
  intro state actions chain
  exact chain.kinds

/-- What the responses of a chain keep holds of every object that its handlers
are called with, and of the object it hands on. -/
theorem ChainLog.good
    (chain : ChainLog handlerType handlers kobj state ended actions)
    (good : KnowledgeObject → Prop)
    (keep : ∀ handler ∈ handlers, handler.handlerType = handlerType →
      ∀ {kobj next state after response}, good kobj →
        (handler.handle kobj).run state = (.ok response, after) →
        response.next kobj = some next → good next)
    (given : good kobj) :
    (∀ handler kobj, .called handler kobj ∈ actions →
        handler.handlerType = handlerType ∧ good kobj) ∧
      ∀ last, ended.1 = .ok (some last) → good last := by
  induction chain with
  | completed kobj state =>
      refine ⟨by simp, ?_⟩
      intro last same
      cases same
      exact given
  | skipped _ _ induction =>
      apply induction _ given
      intro later member
      exact keep later (by simp [member])
  | raised called _ _ =>
      refine ⟨?_, fun last same => by cases same⟩
      intro handler kobj member
      simp only [List.mem_singleton, PipelineAction.called.injEq] at member
      obtain ⟨rfl, rfl⟩ := member
      exact ⟨called, given⟩
  | stopped called _ _ =>
      refine ⟨?_, fun last same => by cases same⟩
      intro handler kobj member
      simp only [List.mem_cons, PipelineAction.called.injEq, reduceCtorEq,
        List.not_mem_nil, or_false] at member
      obtain ⟨rfl, rfl⟩ := member
      exact ⟨called, given⟩
  | passed called _ ran next _ induction =>
      have nextGood := keep _ (by simp) called given ran next
      have rest := induction
        (fun later member => keep later (by simp [member])) nextGood
      refine ⟨?_, rest.2⟩
      intro handler kobj member
      simp only [List.mem_cons, PipelineAction.called.injEq, reduceCtorEq,
        false_or] at member
      rcases member with ⟨rfl, rfl⟩ | later
      · exact ⟨called, given⟩
      · exact rest.1 handler kobj later

theorem ChainLog.handsOn
    (chain : ChainLog handlerType handlers kobj state ended actions)
    (good : KnowledgeObject → NodeState → Prop)
    (keep : ∀ handler ∈ handlers, handler.handlerType = handlerType →
      ∀ {kobj next state after response}, good kobj state →
        (handler.handle kobj).run state = (.ok response, after) →
        response.next kobj = some next → good next after)
    (given : good kobj state) {last : KnowledgeObject} {after : NodeState}
    (returned : ended = (.ok (some last), after)) : good last after := by
  induction chain with
  | completed kobj state =>
      cases returned
      exact given
  | skipped _ _ induction =>
      apply induction _ given returned
      intro later member
      exact keep later (by simp [member])
  | raised _ _ _ => cases returned
  | stopped _ _ _ => cases returned
  | passed called _ ran next _ induction =>
      have nextGood := keep _ (by simp) called given ran next
      exact induction (fun later member => keep later (by simp [member]))
        nextGood returned

end ChainLogs

/-- A ledger that every part of the pipeline up to the broadcast keeps. -/
structure Balances (ledger : Ledger NodeState PipelineAction) (node : Node)
    (handlers : List KnowledgeHandler) : Prop where
  chain : ∀ handlerType kobj,
    ledger.Keeps (Recording.callHandlerChain handlerType handlers kobj)
      (callHandlerChain handlerType handlers kobj)
  manifest : ∀ kobj,
    ledger.Keeps (unrecorded (obtainManifest node kobj))
      (obtainManifest node kobj)
  contents : ∀ kobj,
    ledger.Keeps (unrecorded (obtainContents node kobj))
      (obtainContents node kobj)
  write : ∀ bundle state, ledger.rel state [.wrote bundle]
    { state with cache := state.cache.write bundle }
  delete : ∀ rid state, ledger.rel state [.deleted rid]
    { state with cache := state.cache.delete rid }

namespace Balances

variable {ledger : Ledger NodeState PipelineAction} {node : Node}
  {handlers : List KnowledgeHandler}

theorem attachLocal (kobj : KnowledgeObject) :
    ledger.Keeps (unrecorded (KnowledgePipeline.attachLocal kobj))
      (KnowledgePipeline.attachLocal kobj) := by
  apply Ledger.keeps_unrecorded
  intro state
  have same : ((KnowledgePipeline.attachLocal kobj).run state).2 = state := by
    unfold KnowledgePipeline.attachLocal
    rw [Effect.run_get_bind]
    split <;> rfl
  rw [same]
  exact ledger.refl state

theorem obtainBundle (balances : Balances ledger node handlers)
    (kobj : KnowledgeObject) :
    ledger.Keeps (Recording.obtainBundle node handlers kobj)
      (KnowledgePipeline.obtainBundle node handlers kobj) := by
  unfold Recording.obtainBundle KnowledgePipeline.obtainBundle
  by_cases forgets : kobj.eventType = some .forget
  · rw [if_pos forgets, if_pos forgets]
    exact attachLocal kobj
  · rw [if_neg forgets, if_neg forgets]
    apply Ledger.keeps_bind (balances.manifest kobj)
    intro announced
    cases announced with
    | none => exact Ledger.keeps_pure none
    | some kobj =>
        apply Ledger.keeps_bind (balances.chain .manifest kobj)
        intro judged
        cases judged with
        | none => exact Ledger.keeps_pure none
        | some kobj => exact balances.contents kobj

theorem settle (balances : Balances ledger node handlers)
    (kobj : KnowledgeObject) :
    ledger.Keeps (Recording.settle node handlers kobj)
      (KnowledgePipeline.settle node handlers kobj) := by
  unfold Recording.settle KnowledgePipeline.settle
  apply Ledger.keeps_bind (balances.chain .rid kobj)
  intro passed
  cases passed with
  | none => exact Ledger.keeps_pure none
  | some kobj =>
      apply Ledger.keeps_bind (balances.obtainBundle kobj)
      intro complete
      cases complete with
      | none => exact Ledger.keeps_pure none
      | some kobj => exact balances.chain .bundle kobj

theorem modify {action : PipelineAction} {change : NodeState → NodeState}
    (balanced : ∀ state, ledger.rel state [action] (change state)) :
    ledger.Keeps (noting action (Effect.modify change))
      (Effect.modify change : NodeM Unit) := by
  apply Ledger.keeps_noting
  · intro state value after returned
    cases returned
    exact balanced state
  · intro state failure after raised
    cases raised

theorem applyToCache (balances : Balances ledger node handlers)
    (kobj : KnowledgeObject) :
    ledger.Keeps (Recording.applyToCache kobj)
      (KnowledgePipeline.applyToCache kobj) := by
  have computed : ∀ result : Except Exc Bundle,
      ledger.Keeps (unrecorded (Effect.ofExcept result))
        (Effect.ofExcept result) := fun _ =>
    Ledger.keeps_unrecorded ledger.refl
  unfold Recording.applyToCache KnowledgePipeline.applyToCache
  cases decided : kobj.normalizedEventType with
  | none => exact Ledger.keeps_pure none
  | some eventType =>
      cases eventType with
      | new =>
          apply Ledger.keeps_bind (computed kobj.bundle)
          intro bundle
          apply Ledger.keeps_bind (modify (balances.write bundle))
          intro _
          exact Ledger.keeps_pure _
      | update =>
          apply Ledger.keeps_bind (Ledger.keeps_unrecorded ledger.refl)
          intro read
          apply Ledger.keeps_bind (computed _)
          intro bundle
          apply Ledger.keeps_bind (modify (balances.write bundle))
          intro _
          exact Ledger.keeps_pure _
      | forget =>
          apply Ledger.keeps_bind (modify (balances.delete kobj.rid))
          intro _
          exact Ledger.keeps_pure _

theorem publish (balances : Balances ledger node handlers)
    (regenerates : ∀ kobj, ledger.Keeps (unrecorded (regenerate node kobj))
      (regenerate node kobj))
    (announces : ∀ kobj, ledger.Keeps (Recording.broadcast kobj)
      (broadcast kobj))
    (kobj : KnowledgeObject) :
    ledger.Keeps (Recording.publish node handlers kobj)
      (KnowledgePipeline.publish node handlers kobj) := by
  unfold Recording.publish KnowledgePipeline.publish
  apply Ledger.keeps_bind (regenerates kobj)
  intro _
  apply Ledger.keeps_bind (balances.chain .network kobj)
  intro passed
  cases passed with
  | none => exact Ledger.keeps_pure ()
  | some kobj =>
      apply Ledger.keeps_bind (announces kobj)
      intro _
      apply Ledger.keeps_bind (balances.chain .final kobj)
      intro _
      exact Ledger.keeps_pure ()

end Balances

/-- The record of a call, stage by stage.  The call ends where deciding or the
cache action gives no object, or with publishing. -/
inductive CallLog
    (settleLog : NodeState →
      Except Exc (Option KnowledgeObject) × NodeState →
      List PipelineAction → Prop)
    (applyLog : KnowledgeObject → NodeState →
      Except Exc (Option KnowledgeObject) × NodeState →
      List PipelineAction → Prop)
    (publishLog : KnowledgeObject → NodeState → Except Exc Unit × NodeState →
      List PipelineAction → Prop) (state : NodeState) :
    Except Exc Unit × NodeState → List PipelineAction → Prop where
  | undecided {result : Except Exc (Option KnowledgeObject)}
      {after : NodeState} {actions : List PipelineAction} :
      settleLog state (result, after) actions →
      (∀ settled, result ≠ .ok (some settled)) →
      CallLog settleLog applyLog publishLog state
        (result.map fun _ => (), after) actions
  | unapplied {settled : KnowledgeObject} {between after : NodeState}
      {result : Except Exc (Option KnowledgeObject)}
      {early actions : List PipelineAction} :
      settleLog state (.ok (some settled), between) early →
      applyLog settled between (result, after) actions →
      (∀ applied, result ≠ .ok (some applied)) →
      CallLog settleLog applyLog publishLog state
        (result.map fun _ => (), after) (early ++ actions)
  | published {settled applied : KnowledgeObject}
      {between changed : NodeState} {ended : Except Exc Unit × NodeState}
      {early actions late : List PipelineAction} :
      settleLog state (.ok (some settled), between) early →
      applyLog settled between (.ok (some applied), changed) actions →
      publishLog applied changed ended late →
      CallLog settleLog applyLog publishLog state ended
        (early ++ (actions ++ late))

section Calls

variable {node : Node} {handlers : List KnowledgeHandler}
  {settleLog : NodeState → Except Exc (Option KnowledgeObject) × NodeState →
    List PipelineAction → Prop}
  {applyLog : KnowledgeObject → NodeState →
    Except Exc (Option KnowledgeObject) × NodeState →
    List PipelineAction → Prop}
  {publishLog : KnowledgeObject → NodeState → Except Exc Unit × NodeState →
    List PipelineAction → Prop}

/-- A call records what its stages record, each of which may rely on what the
one before can hand on. -/
theorem process_records {kobj : KnowledgeObject}
    (settles : Records (Recording.settle node handlers kobj)
      (settle node handlers kobj) settleLog)
    (applies : ∀ settled, (∃ state between actions,
        settleLog state (.ok (some settled), between) actions) →
      Records (Recording.applyToCache settled) (applyToCache settled)
        (applyLog settled))
    (publishes : ∀ applied, (∃ settled between changed actions,
        applyLog settled between (.ok (some applied), changed) actions) →
      Records (Recording.publish node handlers applied)
        (publish node handlers applied) (publishLog applied)) :
    Records (Recording.process node handlers kobj)
      (process node handlers kobj)
      (CallLog settleLog applyLog publishLog) := by
  unfold Recording.process process
  refine Records.bind settles
    (show ∀ settled, _ → Records _ _ fun between ended late =>
      ∀ state early, settleLog state (.ok settled, between) early →
        CallLog settleLog applyLog publishLog state ended (early ++ late)
      from ?_) ?_ ?_
  · intro settled known
    cases settled with
    | none =>
        apply Records.pure
        intro between state early decided
        rw [List.append_nil]
        exact .undecided decided (by simp)
    | some settled =>
        refine Records.bind (applies settled known)
          (show ∀ applied, _ → Records _ _ fun changed ended late =>
            ∀ state between early actions,
              settleLog state (.ok (some settled), between) early →
              applyLog settled between (.ok applied, changed) actions →
              CallLog settleLog applyLog publishLog state ended
                (early ++ (actions ++ late)) from ?_) ?_ ?_
        · intro applied known
          cases applied with
          | none =>
              apply Records.pure
              intro changed state between early actions decided changes
              rw [List.append_nil]
              exact .unapplied decided changes (by simp)
          | some applied =>
              obtain ⟨between, changed, actions, known⟩ := known
              apply (publishes applied
                ⟨settled, between, changed, actions, known⟩).mono
              intro changed late published state between early actions decided
                changes
              exact .published decided changes published
        · intro between failure changed actions raised state early decided
          exact .unapplied decided raised (by simp)
        · intro between applied changed ended actions late changes rest state
            early decided
          exact rest state between early actions decided changes
  · intro state failure between actions raised
    exact .undecided raised (by simp)
  · intro state settled between ended early late decided rest
    exact rest state early decided

end Calls

/-- Nothing but the event of the object is pushed, to its targets. -/
def broadcastLedger (kobj : KnowledgeObject) :
    Ledger NodeState PipelineAction :=
  { rel := fun _ actions _ => ∀ action ∈ actions, ∃ event target,
      action = .pushed event target ∧ kobj.normalizedEvent = .ok event ∧
        target ∈ kobj.networkTargets
    refl := by simp
    trans := by
      intro _ _ _ early late earlyPushes latePushes action member
      rcases List.mem_append.mp member with inEarly | inLate
      · exact earlyPushes action inEarly
      · exact latePushes action inLate }

theorem broadcast_pushes (kobj : KnowledgeObject) :
    (broadcastLedger kobj).Keeps (Recording.broadcast kobj)
      (broadcast kobj) := by
  apply Ledger.keeps_forEach_mem
  intro target targeted
  apply Records.unrecorded_bind
  · intro state failure after raised
    exact (broadcastLedger kobj).refl state
  · intro event known
    obtain ⟨_, _, made⟩ := known
    have made : kobj.normalizedEvent = .ok event := congrArg Prod.fst made
    apply Records.noting
    · intro state value after _ _ _ action member
      exact ⟨event, target, List.mem_singleton.mp member, made, targeted⟩
    · intro state failure after raised
      cases raised

end KnowledgePipeline

end KoiNet
