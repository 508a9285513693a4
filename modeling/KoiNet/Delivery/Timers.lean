import KoiNet.Delivery.Losslessness
import Mathlib.Data.List.Infix

/-!
# How long events wait

The start time of a buffer is taken away when a flush begins, and a flush that
fails does not put it back although it keeps the events.  A tick that finds
events without a start time passes them over.
-/

namespace KoiNet

open Foundation

namespace EventBuffer

section Rollback

variable {ε σ : Type} {part : Part σ EventBuffer} {target : KoiNetNode}
  {limit : Int} {body : List Event → Effect ε σ Unit} {failure : ε}
  {state between : σ}

/-- The flush raises what its block raised, and the buffers and start times of
all nodes are what they were. -/
def RollsBack (part : Part σ EventBuffer) (target : KoiNetNode) (limit : Int)
    (body : List Event → Effect ε σ Unit) (failure : ε) (state : σ) : Prop :=
  ∃ after,
    (safeFlush part target limit false body).run state =
      (.error failure, after) ∧
    part.get after = part.get state

theorem safeFlush_ends
    (raised : (body ((part.get state).flush target limit).1).run
      (part.update (stopTimer target) state) = (.error failure, between)) :
    (safeFlush part target limit false body).run state =
      (.error failure, between) := by
  unfold flush at raised
  cases buffered : (part.get state).buffers.get? target with
  | none =>
      rw [buffered] at raised
      rw [safeFlush_absent buffered]
      exact raised
  | some events =>
      rw [buffered] at raised
      rw [safeFlush_raises buffered raised]
      rfl

theorem stopTimer_eq_self_iff (buffer : EventBuffer) :
    buffer.stopTimer target = buffer ↔ buffer.startTime.get? target = none := by
  constructor
  · intro same
    rw [← same]
    exact Dict.get?_erase_self _ target
  · intro absent
    unfold stopTimer
    rw [Dict.erase_of_absent absent]

/-- A flush whose block raises, and touches the buffer no further, is rolled
back exactly if no start time was set. -/
theorem safeFlush_rollsBack_iff
    (raised : (body ((part.get state).flush target limit).1).run
      (part.update (stopTimer target) state) = (.error failure, between))
    (untouched : part.get between =
      part.get (part.update (stopTimer target) state)) :
    RollsBack part target limit body failure state ↔
      (part.get state).startTime.get? target = none := by
  rw [Part.get_update] at untouched
  rw [← stopTimer_eq_self_iff, ← untouched]
  constructor
  · rintro ⟨after, ended, restored⟩
    cases (safeFlush_ends raised).symm.trans ended
    exact restored
  · intro restored
    exact ⟨between, safeFlush_ends raised, restored⟩

end Rollback

/-- The state of a worker that has one event for a node. -/
def oneBuffered (target : KoiNetNode) (event : Event) : EventWorkerState :=
  { node := .fresh .empty
    pollEventBuf := .empty
    broadcastEventBuf := EventBuffer.empty.push target event 0
    broadcasts := [] }

def subscriber : KoiNetNode :=
  { name := "subscriber", hash := "key" }

def forgotten : Event :=
  .fromRid .forget (.other "orn:example" "document")

theorem safeFlush_rollsBack_iff_pending :
    RollsBack EventWorkerState.broadcastPart subscriber 0
        (fun _ => Effect.raise (Exc.request .transport)) (.request .transport)
        (oneBuffered subscriber forgotten) ↔
      (oneBuffered subscriber forgotten).broadcastEventBuf.startTime.get?
        subscriber = none :=
  safeFlush_rollsBack_iff rfl rfl

/-- One event is pushed and its broadcast fails: the event is back, the time
at which it was pushed is not. -/
theorem safeFlush_loses_startTime :
    ¬∀ (state : EventWorkerState) (target : KoiNetNode) (limit : Int)
      (failure : Exc),
      RollsBack EventWorkerState.broadcastPart target limit
        (fun _ => Effect.raise failure) failure state := by
  intro always
  obtain ⟨after, ended, restored⟩ :=
    always (oneBuffered subscriber forgotten) subscriber 0 .validationError
  cases ended
  have timers := congrArg
    (fun buffer => EventBuffer.startTime buffer |>.get? subscriber) restored
  cases timers

end EventBuffer

inductive WaitAction where
  | pushed (event : Event) (time : Timestamp)
  | attempted (delivered : Bool)

/-- The events that wait for a node with the times at which they were pushed,
oldest first, when the first event since the last attempt to send them was
pushed, and whether that attempt failed. -/
structure Wait where
  waiting : List (Event × Timestamp)
  since : Option Timestamp
  failed : Bool

namespace Wait

def idle : Wait :=
  { waiting := []
    since := none
    failed := false }

def advance (wait : Wait) : WaitAction → Wait
  | .pushed event time =>
      { wait with
        waiting := wait.waiting ++ [(event, time)]
        since := some (wait.since.getD time) }
  | .attempted true => idle
  | .attempted false =>
      { wait with
        since := none
        failed := true }

/-- When the oldest waiting event was pushed. -/
def oldest (wait : Wait) : Option Timestamp :=
  wait.waiting.head?.map Prod.snd

/-- Unless the last attempt failed, the oldest event is the first one pushed
since. -/
def Timely (wait : Wait) : Prop :=
  wait.failed = false → wait.since = wait.oldest

theorem Timely.advance {wait : Wait} (timely : wait.Timely)
    (action : WaitAction) : (wait.advance action).Timely := by
  cases action with
  | attempted delivered =>
      cases delivered with
      | true => exact fun _ => rfl
      | false =>
          intro failed
          cases failed
  | pushed event time =>
      intro kept
      have same : wait.since = wait.oldest := timely kept
      unfold oldest at same
      unfold Wait.advance oldest
      dsimp only
      rw [same]
      cases wait.waiting with
      | nil => rfl
      | cons first rest => rfl

theorem timely_foldl (actions : List WaitAction) :
    (actions.foldl advance idle).Timely := by
  have keeps : ∀ wait : Wait, wait.Timely →
      (actions.foldl advance wait).Timely := by
    induction actions with
    | nil => exact fun _ timely => timely
    | cons action later induction =>
        exact fun wait timely => induction _ (timely.advance action)
  exact keeps idle fun _ => rfl

end Wait

abbrev History : Type := List (KoiNetNode × WaitAction)

namespace History

/-- What happened to the events for a node. -/
def actionsOf (history : History) (target : KoiNetNode) : List WaitAction :=
  (history.filter fun entry => entry.1 = target).map Prod.snd

def waitOf (history : History) (target : KoiNetNode) : Wait :=
  (history.actionsOf target).foldl Wait.advance Wait.idle

/-- The attempts to send these batches. -/
def attempts (outcomes : Outcomes) (batches : List Broadcast) : History :=
  batches.map fun batch =>
    (batch.target, .attempted (outcomes batch.target batch.events).isOk)

theorem actionsOf_append (left right : History) (target : KoiNetNode) :
    actionsOf (left ++ right) target =
      left.actionsOf target ++ right.actionsOf target := by
  simp [actionsOf]

theorem attempts_append (outcomes : Outcomes) (left right : List Broadcast) :
    attempts outcomes (left ++ right) =
      attempts outcomes left ++ attempts outcomes right :=
  List.map_append

theorem actionsOf_singleton_self (target : KoiNetNode) (action : WaitAction) :
    actionsOf [(target, action)] target = [action] := by
  simp [actionsOf]

theorem actionsOf_singleton_ne {target other : KoiNetNode}
    (action : WaitAction) (different : other ≠ target) :
    actionsOf [(target, action)] other = [] := by
  simp [actionsOf, Ne.symm different]

end History

/-- A run of the delivery with the history of its broadcast buffers. -/
structure Timeline where
  delivery : Delivery
  history : History

namespace Timeline

open EventProcessingWorker

/-- The batches that a step passed to the request handler. -/
def triedIn (before after : Delivery) : List Broadcast :=
  after.worker.broadcasts.drop before.worker.broadcasts.length

/-- What a step does to the events of the broadcast buffers: an event that is
routed to one is pushed with the reading of the clock, before any attempt. -/
def happened (node : Node) (before after : Delivery) :
    DeliveryAction → History
  | .dequeue item outcomes =>
      (if route node before.worker.node item.target = .broadcast then
        [(item.target,
          .pushed item.event (node.now before.worker.node.clockReads))]
      else
        []) ++ History.attempts outcomes (triedIn before after)
  | .timeout outcomes => History.attempts outcomes (triedIn before after)
  | _ => []

def step (node : Node) (timeline : Timeline) (action : DeliveryAction) :
    Timeline :=
  let after := Delivery.step node timeline.delivery action
  { delivery := after
    history := timeline.history ++
      happened node timeline.delivery after action }

def initial (state : NodeState) : Timeline :=
  { delivery := .initial state
    history := [] }

def run (node : Node) (state : NodeState) (actions : List DeliveryAction) :
    Timeline :=
  actions.foldl (step node) (initial state)

/-- The buffer of the node holds its waiting events, and the start time is
that of the first one since the last attempt. -/
structure Holds (worker : EventWorkerState) (target : KoiNetNode)
    (wait : Wait) : Prop where
  pending : worker.broadcastEventBuf.pending target =
    wait.waiting.map Prod.fst
  started : worker.broadcastEventBuf.startTime.get? target = wait.since

/-- The worker after these pushes and the attempts it has added since. -/
structure Happens (outcomes : Outcomes) (pushes : History)
    (before after : EventWorkerState) : Prop where
  holds : ∃ batches, after.broadcasts = before.broadcasts ++ batches ∧
    ∀ target wait, Holds before target wait → Holds after target
      (((pushes ++ History.attempts outcomes batches).actionsOf target).foldl
        Wait.advance wait)

variable {outcomes : Outcomes}

theorem Happens.of_unchanged {before after : EventWorkerState}
    (broadcasts : after.broadcasts = before.broadcasts)
    (buffered : after.broadcastEventBuf = before.broadcastEventBuf) :
    Happens outcomes [] before after := by
  refine ⟨[], by rw [broadcasts, List.append_nil], ?_⟩
  intro target wait holds
  constructor
  · rw [buffered]
    exact holds.pending
  · rw [buffered]
    exact holds.started

theorem Happens.trans {pushes : History}
    {before between after : EventWorkerState}
    (first : Happens outcomes pushes before between)
    (second : Happens outcomes [] between after) :
    Happens outcomes pushes before after := by
  obtain ⟨batches, recorded, held⟩ := first.holds
  obtain ⟨later, laterRecorded, laterHeld⟩ := second.holds
  refine ⟨batches ++ later, ?_, fun target wait holds => ?_⟩
  · rw [laterRecorded, recorded, List.append_assoc]
  · have ended := laterHeld target _ (held target wait holds)
    rw [List.nil_append] at ended
    rw [History.attempts_append, ← List.append_assoc, History.actionsOf_append,
      List.foldl_append]
    exact ended

/-- What only attempts to send what is buffered. -/
def attempting (outcomes : Outcomes) : Frame EventWorkerState :=
  { rel := Happens outcomes []
    refl := fun _ => .of_unchanged rfl rfl
    trans := Happens.trans }

theorem flushAndBroadcast_attempting (target : KoiNetNode) :
    (attempting outcomes).Keeps
      (flushAndBroadcast (answering outcomes) target) := by
  intro state
  rw [flushAndBroadcast_answering]
  refine ⟨[{ target, events := _ }], rfl, fun other wait holds => ?_⟩
  rw [List.nil_append]
  change Holds _ other
    ((History.actionsOf [(target, .attempted _)] other).foldl _ wait)
  by_cases same : other = target
  · subst same
    rw [History.actionsOf_singleton_self]
    cases ended : outcomes other (state.broadcastEventBuf.pending other) with
    | ok value =>
        constructor
        · rw [tried_of_ok ended, EventBuffer.pending, Dict.get?_erase_self]
          rfl
        · rw [tried_of_ok ended]
          exact Dict.get?_erase_self _ other
    | error error =>
        constructor
        · rw [tried_of_error ended]
          exact holds.pending
        · rw [tried_of_error ended]
          exact Dict.get?_erase_self _ other
  · rw [History.actionsOf_singleton_ne _ same]
    cases ended : outcomes target (state.broadcastEventBuf.pending target) with
    | ok value =>
        constructor
        · rw [tried_of_ok ended, EventBuffer.pending,
            Dict.get?_erase_ne _ same]
          exact holds.pending
        · rw [tried_of_ok ended]
          exact (Dict.get?_erase_ne _ same).trans holds.started
    | error error =>
        constructor
        · rw [tried_of_error ended]
          exact holds.pending
        · rw [tried_of_error ended]
          exact (Dict.get?_erase_ne _ same).trans holds.started

variable (node : Node)

theorem time_attempting : (attempting outcomes).Keeps (time node) := by
  apply Frame.keeps_bind Frame.keeps_get
  intro read
  apply Frame.keeps_bind
  · exact Frame.keeps_modify fun _ => .of_unchanged rfl rfl
  · intro _
    exact Frame.keeps_pure _

theorem flushOverdue_attempting (target : KoiNetNode) :
    (attempting outcomes).Keeps
      (flushOverdue (answering outcomes) node target) := by
  unfold flushOverdue
  apply Frame.keeps_bind Frame.keeps_get
  intro state
  split
  · exact Frame.keeps_pure ()
  · split
    · exact Frame.keeps_pure ()
    · apply Frame.keeps_bind (time_attempting node)
      intro now
      split
      · exact flushAndBroadcast_attempting target
      · exact Frame.keeps_pure ()

theorem handleEmpty_attempting :
    (attempting outcomes).Keeps (handleEmpty (answering outcomes) node) := by
  unfold handleEmpty
  apply Frame.keeps_bind Frame.keeps_get
  intro state
  exact Frame.keeps_forEach (flushOverdue_attempting node) _

theorem Happens.pushed {before after : EventWorkerState}
    (target : KoiNetNode) (event : Event) (time : Timestamp)
    (broadcasts : after.broadcasts = before.broadcasts)
    (buffered : after.broadcastEventBuf =
      before.broadcastEventBuf.push target event time) :
    Happens outcomes [(target, .pushed event time)] before after := by
  refine ⟨[], by rw [broadcasts, List.append_nil], ?_⟩
  intro other wait holds
  rw [History.attempts, List.map_nil, List.append_nil]
  have timers : after.broadcastEventBuf.startTime.get? other =
      if other = target then
        some ((before.broadcastEventBuf.startTime.get? target).getD time)
      else before.broadcastEventBuf.startTime.get? other := by
    rw [buffered]
    exact Dict.get?_setDefault _ target other time
  have events : after.broadcastEventBuf.pending other =
      before.broadcastEventBuf.pending other ++
        if target = other then [event] else [] := by
    rw [buffered]
    exact pending_push _ target other event time
  rw [holds.pending] at events
  by_cases same : other = target
  · subst same
    rw [History.actionsOf_singleton_self]
    rw [if_pos rfl] at timers events
    constructor
    · rw [events]
      simp [Wait.advance]
    · rw [timers, holds.started]
      rfl
  · rw [History.actionsOf_singleton_ne _ same]
    rw [if_neg same, holds.started] at timers
    rw [if_neg (Ne.symm same), List.append_nil] at events
    exact ⟨events, timers⟩

variable (item : QueuedEvent) (state : EventWorkerState)

theorem bufferBroadcast_happens :
    Happens outcomes
      [(item.target, .pushed item.event (node.now state.node.clockReads))]
      state ((bufferBroadcast (answering outcomes) node item).run state).2 := by
  have first : Happens outcomes _ state (pushedBroadcast node item state) :=
    .pushed item.target item.event (node.now state.node.clockReads) rfl rfl
  rw [bufferBroadcast_run]
  split
  · exact first.trans (flushAndBroadcast_attempting item.target _)
  · exact first

theorem bufferEvent_happens :
    Happens outcomes
      (if route node state.node item.target = .broadcast then
        [(item.target, .pushed item.event (node.now state.node.clockReads))]
      else [])
      state ((bufferEvent (answering outcomes) node item).run state).2 := by
  rw [bufferEvent_after]
  cases routed : route node state.node item.target with
  | broadcast => exact bufferBroadcast_happens node item state
  | poll => exact .of_unchanged rfl rfl
  | nowhere => exact .of_unchanged rfl rfl

/-- Every broadcast buffer holds what its history says. -/
def Follows (timeline : Timeline) : Prop :=
  ∀ target, Holds timeline.delivery.worker target
    (timeline.history.waitOf target)

variable {timeline : Timeline} {pushes : History} {after : Delivery}

theorem Follows.happens (follows : timeline.Follows)
    (happens : Happens outcomes pushes timeline.delivery.worker
      after.worker) :
    Follows
      { delivery := after
        history := timeline.history ++
          (pushes ++ History.attempts outcomes
            (triedIn timeline.delivery after)) } := by
  intro target
  obtain ⟨batches, recorded, held⟩ := happens.holds
  have ended := held target _ (follows target)
  rw [triedIn, recorded, List.drop_left, History.waitOf,
    History.actionsOf_append, List.foldl_append]
  exact ended

theorem Follows.kept (follows : timeline.Follows)
    (buffered : after.worker.broadcastEventBuf =
      timeline.delivery.worker.broadcastEventBuf) :
    Follows
      { delivery := after
        history := timeline.history ++ [] } := by
  intro target
  rw [List.append_nil]
  constructor
  · rw [buffered]
    exact (follows target).pending
  · rw [buffered]
    exact (follows target).started

theorem step_dequeue_worker (outcomes : Outcomes) (delivery : Delivery) :
    (Delivery.step node delivery (.dequeue item outcomes)).worker =
      ((bufferEvent (answering outcomes) node item).run
        delivery.worker).2 := by
  rw [← Delivery.dequeue_queued_run]
  dsimp only [Delivery.step]
  cases route node delivery.worker.node item.target <;> rfl

theorem Follows.step (follows : timeline.Follows) (action : DeliveryAction) :
    (timeline.step node action).Follows := by
  cases action with
  | dequeue item outcomes =>
      apply follows.happens
      rw [step_dequeue_worker]
      exact bufferEvent_happens node item timeline.delivery.worker
  | timeout outcomes =>
      have happens : Happens outcomes [] timeline.delivery.worker
          (Delivery.step node timeline.delivery (.timeout outcomes)).worker :=
        handleEmpty_attempting node timeline.delivery.worker
      have followed := follows.happens happens
      rw [List.nil_append] at followed
      exact followed
  | poll target limit => exact follows.kept rfl
  | change state => exact follows.kept rfl

theorem run_follows (state : NodeState) (actions : List DeliveryAction) :
    (run node state actions).Follows := by
  have keeps : ∀ timeline : Timeline, timeline.Follows →
      (actions.foldl (step node) timeline).Follows := by
    induction actions with
    | nil => exact fun _ follows => follows
    | cons action later induction =>
        exact fun timeline follows => induction _ (follows.step node action)
  exact keeps (initial state) fun _ => ⟨rfl, rfl⟩

/-- A clock that never goes back. -/
def NonDecreasing (clock : Nat → Timestamp) : Prop :=
  ∀ {earlier later}, earlier ≤ later → clock earlier ≤ clock later

/-- What only goes forward and leaves the buffers of these nodes alone. -/
def sparing (spared : List KoiNetNode) : Frame EventWorkerState :=
  { rel := fun before after =>
      before.node.clockReads ≤ after.node.clockReads ∧
      before.broadcasts <+: after.broadcasts ∧
      ∀ target ∈ spared,
        after.broadcastEventBuf.buffers.get? target =
            before.broadcastEventBuf.buffers.get? target ∧
          after.broadcastEventBuf.startTime.get? target =
            before.broadcastEventBuf.startTime.get? target
    refl := fun _ => ⟨Nat.le_refl _, List.prefix_rfl, fun _ _ => ⟨rfl, rfl⟩⟩
    trans := fun first second =>
      ⟨Nat.le_trans first.1 second.1, first.2.1.trans second.2.1,
        fun target member =>
          ⟨(second.2.2 target member).1.trans (first.2.2 target member).1,
            (second.2.2 target member).2.trans (first.2.2 target member).2⟩⟩ }

variable {spared : List KoiNetNode} {target : KoiNetNode}

theorem flushAndBroadcast_sparing (elsewhere : target ∉ spared) :
    (sparing spared).Keeps
      (flushAndBroadcast (answering outcomes) target) := by
  intro state
  rw [flushAndBroadcast_answering]
  refine ⟨Nat.le_refl _, List.prefix_append _ _, fun other member => ?_⟩
  have different : other ≠ target := by
    rintro rfl
    exact elsewhere member
  have timers : (state.broadcastEventBuf.startTime.erase target).get? other =
      state.broadcastEventBuf.startTime.get? other :=
    Dict.get?_erase_ne _ different
  cases ended : outcomes target (state.broadcastEventBuf.pending target) with
  | ok value =>
      rw [tried_of_ok ended]
      exact ⟨Dict.get?_erase_ne _ different, timers⟩
  | error error =>
      rw [tried_of_error ended]
      exact ⟨rfl, timers⟩

theorem time_sparing : (sparing spared).Keeps (time node) := by
  intro state
  exact ⟨Nat.le_succ _, List.prefix_rfl, fun _ _ => ⟨rfl, rfl⟩⟩

theorem flushOverdue_sparing (elsewhere : target ∉ spared) :
    (sparing spared).Keeps
      (flushOverdue (answering outcomes) node target) := by
  unfold flushOverdue
  apply Frame.keeps_bind Frame.keeps_get
  intro state
  split
  · exact Frame.keeps_pure ()
  · split
    · exact Frame.keeps_pure ()
    · apply Frame.keeps_bind (time_sparing node)
      intro now
      split
      · exact flushAndBroadcast_sparing elsewhere
      · exact Frame.keeps_pure ()

theorem flushOverdue_returns (target : KoiNetNode)
    (state : EventWorkerState) :
    ((flushOverdue (answering outcomes) node target).run state).1 =
      .ok () := by
  unfold flushOverdue
  rw [Effect.run_get_bind]
  split
  · rfl
  · split
    · rfl
    · rw [Effect.run_bind]
      dsimp only [time, Effect.run_get_bind, Effect.run_modify_bind,
        Effect.run_pure]
      split
      · rw [flushAndBroadcast_answering]
      · rfl

/-- A broadcast of these events to the node has been attempted since. -/
def Attempted (worker : EventWorkerState) (target : KoiNetNode)
    (events : List Event) (state : EventWorkerState) : Prop :=
  { target, events } ∈ state.broadcasts.drop worker.broadcasts.length

/-- The events have been waiting since the tick began. -/
structure StillWaits (worker : EventWorkerState) (target : KoiNetNode)
    (events : List Event) (start : Timestamp) (state : EventWorkerState) :
    Prop where
  reads : worker.node.clockReads ≤ state.node.clockReads
  grown : worker.broadcasts <+: state.broadcasts
  buffered : state.broadcastEventBuf.buffers.get? target = some events
  started : state.broadcastEventBuf.startTime.get? target = some start

variable {worker : EventWorkerState} {events : List Event} {start : Timestamp}

theorem StillWaits.sparing {before after : EventWorkerState}
    (waits : StillWaits worker target events start before)
    (spared : (sparing [target]).rel before after) :
    StillWaits worker target events start after := by
  obtain ⟨reads, grown, kept⟩ := spared
  obtain ⟨buffered, started⟩ := kept target (by simp)
  exact
    { reads := Nat.le_trans waits.reads reads
      grown := waits.grown.trans grown
      buffered := buffered.trans waits.buffered
      started := started.trans waits.started }

theorem Attempted.sparing {before after : EventWorkerState}
    (attempted : Attempted worker target events before)
    (spared : (sparing []).rel before after) :
    Attempted worker target events after :=
  (List.IsPrefix.drop spared.2.1 _).subset attempted

theorem StillWaits.attempts {state : EventWorkerState}
    (waits : StillWaits worker target events start state)
    (nonempty : events ≠ []) (forward : NonDecreasing node.now)
    (overdue : start + node.config.eventWorker.maxWaitTime ≤
      node.now worker.node.clockReads) :
    Attempted worker target events
      ((flushOverdue (answering outcomes) node target).run state).2 := by
  have later : node.now worker.node.clockReads ≤
      node.now state.node.clockReads := forward waits.reads
  have pending : state.broadcastEventBuf.pending target = events := by
    rw [EventBuffer.pending, waits.buffered]
    rfl
  have filled : ¬state.broadcastEventBuf.bufLen target = 0 := by
    rw [EventBuffer.bufLen, pending, List.length_eq_zero_iff]
    exact nonempty
  have elapsed : node.config.eventWorker.maxWaitTime ≤
      node.now state.node.clockReads - start :=
    Int.le_sub_left_of_add_le (Int.le_trans overdue later)
  unfold flushOverdue
  rw [Effect.run_get_bind, waits.started]
  dsimp only
  rw [if_neg filled, Effect.run_bind]
  dsimp only [time, Effect.run_get_bind, Effect.run_modify_bind,
    Effect.run_pure]
  rw [if_pos elapsed, flushAndBroadcast_answering]
  change Broadcast.mk target events ∈ (state.broadcasts ++
    [Broadcast.mk target (state.broadcastEventBuf.pending target)]).drop _
  rw [pending, List.drop_append_of_le_length waits.grown.length_le]
  simp

/-- A tick attempts to send every buffer whose start time is long enough
ago. -/
theorem handleEmpty_attempts (forward : NonDecreasing node.now)
    (nonempty : events ≠ [])
    (buffered : worker.broadcastEventBuf.buffers.get? target = some events)
    (started : worker.broadcastEventBuf.startTime.get? target = some start)
    (overdue : start + node.config.eventWorker.maxWaitTime ≤
      node.now worker.node.clockReads) :
    Attempted worker target events
      ((handleEmpty (answering outcomes) node).run worker).2 := by
  have listed : target ∈ worker.broadcastEventBuf.buffers.keys :=
    (Dict.mem_keys_iff _).mpr ⟨events, buffered⟩
  have reaches : Completes (StillWaits worker target events start)
      (Effect.forEach worker.broadcastEventBuf.buffers.keys fun target =>
        flushOverdue (answering outcomes) node target)
      fun _ => Attempted worker target events := by
    apply Completes.forEach_reaches listed
    · intro other _ different
      exact .of_keeps (flushOverdue_returns node other)
        (flushOverdue_sparing node (by simpa using different))
        StillWaits.sparing
    · intro state waits
      exact ⟨(), _, by rw [← flushOverdue_returns node target state],
        waits.attempts node nonempty forward overdue⟩
    · intro other _
      exact .of_keeps (flushOverdue_returns node other)
        (flushOverdue_sparing node List.not_mem_nil) Attempted.sparing
  obtain ⟨_, after, ran, attempted⟩ := reaches worker
    { reads := Nat.le_refl _
      grown := List.prefix_rfl
      buffered := buffered
      started := started }
  unfold handleEmpty
  rw [Effect.run_get_bind, ran]
  exact attempted

/-- A tick that begins now attempts to send the events of the node if the
oldest of them has waited for `max_wait_time`. -/
def SendsOverdue (node : Node) (timeline : Timeline) (outcomes : Outcomes)
    (target : KoiNetNode) : Prop :=
  ∀ oldest, (timeline.history.waitOf target).oldest = some oldest →
    oldest + node.config.eventWorker.maxWaitTime ≤
      node.now timeline.delivery.worker.node.clockReads →
    Attempted timeline.delivery.worker target
      (timeline.delivery.worker.broadcastEventBuf.pending target)
      (timeline.step node (.timeout outcomes)).delivery.worker

/-- If the last attempt to send the events failed, one has been pushed since
and the first such has waited for `max_wait_time`. -/
def Punctual (node : Node) (timeline : Timeline) (target : KoiNetNode) :
    Prop :=
  (timeline.history.waitOf target).failed = true →
    ∃ since, (timeline.history.waitOf target).since = some since ∧
      since + node.config.eventWorker.maxWaitTime ≤
        node.now timeline.delivery.worker.node.clockReads

theorem Follows.sendsOverdue (follows : timeline.Follows)
    (forward : NonDecreasing node.now)
    (timely : (timeline.history.waitOf target).Timely)
    (punctual : timeline.Punctual node target) :
    timeline.SendsOverdue node outcomes target := by
  intro oldest first overdue
  have holds := follows target
  have nonempty :
      timeline.delivery.worker.broadcastEventBuf.pending target ≠ [] := by
    intro empty
    rw [holds.pending, List.map_eq_nil_iff] at empty
    rw [Wait.oldest, empty] at first
    cases first
  have started : ∃ since,
      timeline.delivery.worker.broadcastEventBuf.startTime.get? target =
          some since ∧
        since + node.config.eventWorker.maxWaitTime ≤
          node.now timeline.delivery.worker.node.clockReads := by
    rw [holds.started]
    cases failed : (timeline.history.waitOf target).failed with
    | true => exact punctual failed
    | false => exact ⟨oldest, (timely failed).trans first, overdue⟩
  obtain ⟨since, started, elapsed⟩ := started
  cases buffered :
      timeline.delivery.worker.broadcastEventBuf.buffers.get? target with
  | none =>
      rw [EventBuffer.pending, buffered] at nonempty
      exact absurd rfl nonempty
  | some events =>
      rw [EventBuffer.pending, buffered] at nonempty ⊢
      exact handleEmpty_attempts node forward nonempty buffered started
        elapsed

/-- In every run, the history says what is buffered for a node, and a tick
sends what is overdue unless a failed attempt has stopped the timer. -/
theorem sendsOverdue_of_run (node : Node) (forward : NonDecreasing node.now)
    (state : NodeState) (actions : List DeliveryAction) (outcomes : Outcomes)
    (target : KoiNetNode)
    (punctual : (run node state actions).Punctual node target) :
    (run node state actions).delivery.worker.broadcastEventBuf.pending target =
        ((run node state actions).history.waitOf target).waiting.map
          Prod.fst ∧
      (run node state actions).SendsOverdue node outcomes target := by
  have follows := run_follows node state actions
  exact ⟨(follows target).pending,
    follows.sendsOverdue node forward (Wait.timely_foldl _) punctual⟩

/-- A node whose first contact is the subscriber. -/
def publisher : Node :=
  { Node.standalone with
    config :=
      { Node.standalone.config with
        firstContact := { rid := some EventBuffer.subscriber } } }

theorem publisher_forward : NonDecreasing publisher.now :=
  fun before => Int.ofNat_le.mpr before

def queuedForgotten : QueuedEvent :=
  { event := EventBuffer.forgotten
    target := EventBuffer.subscriber }

theorem sendsOverdue_of_run_pushed :
    (run publisher (.fresh .empty)
          [.dequeue queuedForgotten fun _ _ => .ok ()]
        ).delivery.worker.broadcastEventBuf.pending EventBuffer.subscriber =
        ((run publisher (.fresh .empty)
          [.dequeue queuedForgotten fun _ _ => .ok ()]
          ).history.waitOf EventBuffer.subscriber).waiting.map Prod.fst ∧
      (run publisher (.fresh .empty)
          [.dequeue queuedForgotten fun _ _ => .ok ()]
        ).SendsOverdue publisher (fun _ _ => .ok ()) EventBuffer.subscriber :=
  sendsOverdue_of_run publisher publisher_forward _ _ _ _ fun failed => by
    cases failed

/-- The first tick tries to send the event and fails; the second one, with the
event still buffered, does not try. -/
theorem failedAttempt_not_sendsOverdue :
    ¬∀ (node : Node), NonDecreasing node.now →
      ∀ (state : NodeState) (actions : List DeliveryAction)
        (outcomes : Outcomes) (target : KoiNetNode),
        (run node state actions).SendsOverdue node outcomes target := by
  intro always
  have attempted := always publisher publisher_forward (.fresh .empty)
    [.dequeue queuedForgotten fun _ _ => .ok (),
      .timeout fun _ _ => .error .transport]
    (fun _ _ => .ok ()) EventBuffer.subscriber 0 rfl (by decide)
  exact List.not_mem_nil attempted

end Timeline

end KoiNet
