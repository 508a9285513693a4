import KoiNet.Components.ResponseHandler
import KoiNet.Delivery.Shutdown

/-!
# No event is lost on its way

Iterations of the event worker and polls of other nodes are interleaved in any
order, and every broadcast may fail.  The events routed to a buffer are at all
times those that have left it, in the order in which they did, followed by
those it holds.
-/

namespace KoiNet

open Foundation

/-- The answer to a poll. -/
structure PollAnswer where
  target : KoiNetNode
  limit : Int
  events : List Event

/-- The events for a target, in order. -/
def eventsTo (target : KoiNetNode) (items : List QueuedEvent) : List Event :=
  (items.filter fun item => item.target = target).map QueuedEvent.event

def batchesTo (target : KoiNetNode) (batches : List Broadcast) : List Event :=
  (batches.filter fun batch => batch.target = target).flatMap Broadcast.events

def answersTo (target : KoiNetNode) (answers : List PollAnswer) :
    List Event :=
  (answers.filter fun answer => answer.target = target).flatMap
    PollAnswer.events

/-- How the broadcasts of an iteration end. -/
abbrev Outcomes : Type := KoiNetNode → List Event → Except RequestError Unit

/-- The broadcasts that succeeded. -/
def successes (outcomes : Outcomes) (broadcasts : List Broadcast) :
    List Broadcast :=
  broadcasts.filter fun broadcast =>
    match outcomes broadcast.target broadcast.events with
    | .ok _ => true
    | .error _ => false

/-- Where an event for a target is to go. -/
inductive Route where
  | broadcast
  | poll
  | nowhere
  deriving DecidableEq, Repr

/-- Full nodes and the first contact are sent broadcasts, and partial nodes
poll. -/
def route (node : Node) (state : NodeState) (target : KoiNetNode) : Route :=
  match state.cache.read (.node target) with
  | some bundle =>
      match NodeProfile.modelValidate bundle.contents with
      | some { nodeType := .full, .. } => .broadcast
      | some { nodeType := .partialNode, .. } => .poll
      | none => .nowhere
  | none =>
      if some target = node.config.firstContact.rid then .broadcast
      else .nowhere

/-- The worker, and what was routed, delivered and answered so far. -/
structure Delivery where
  worker : EventWorkerState
  toBroadcast : List QueuedEvent
  toPoll : List QueuedEvent
  delivered : List Broadcast
  answers : List PollAnswer

/-- An iteration of the worker, a poll, or a change of the node made by
another component. -/
inductive DeliveryAction where
  | dequeue (item : QueuedEvent) (outcomes : Outcomes)
  | timeout (outcomes : Outcomes)
  | poll (target : KoiNetNode) (limit : Int)
  | change (state : NodeState)

namespace Delivery

open EventProcessingWorker

/-- The worker after an iteration; the broadcasts it has tried are those at the
end of its list. -/
def iterate (delivery : Delivery) (outcomes : Outcomes)
    (after : EventWorkerState) : Delivery :=
  { delivery with
    worker := after
    delivered := delivery.delivered ++ successes outcomes
      (after.broadcasts.drop delivery.worker.broadcasts.length) }

def step (node : Node) (delivery : Delivery) : DeliveryAction → Delivery
  | .dequeue item outcomes =>
      let iterated := delivery.iterate outcomes
        ((EventProcessingWorker.dequeue (answering outcomes) node
          (.queued item)).run delivery.worker).2
      match route node delivery.worker.node item.target with
      | .broadcast =>
          { iterated with toBroadcast := iterated.toBroadcast ++ [item] }
      | .poll => { iterated with toPoll := iterated.toPoll ++ [item] }
      | .nowhere => iterated
  | .timeout outcomes =>
      delivery.iterate outcomes
        ((handleEmpty (answering outcomes) node).run delivery.worker).2
  | .poll target limit =>
      match (ResponseHandler.pollEventsHandler { limit } target).run
          delivery.worker with
      | (.ok payload, after) =>
          { delivery with
            worker := after
            answers := delivery.answers ++
              [{ target, limit, events := payload.events }] }
      | (.error _, after) => { delivery with worker := after }
  | .change state =>
      { delivery with worker := { delivery.worker with node := state } }

/-- Two empty buffers. -/
def initial (state : NodeState) : Delivery :=
  { worker :=
      { node := state
        pollEventBuf := .empty
        broadcastEventBuf := .empty
        broadcasts := [] }
    toBroadcast := []
    toPoll := []
    delivered := []
    answers := [] }

/-- Every routed event has been delivered or is buffered, once and in order,
and no poll was answered with more events than it asked for. -/
structure Lossless (delivery : Delivery) : Prop where
  broadcast : ∀ target, eventsTo target delivery.toBroadcast =
    batchesTo target delivery.delivered ++
      delivery.worker.broadcastEventBuf.pending target
  poll : ∀ target, eventsTo target delivery.toPoll =
    answersTo target delivery.answers ++
      delivery.worker.pollEventBuf.pending target
  bounded : ∀ answer ∈ delivery.answers, 0 < answer.limit →
    (answer.events.length : Int) ≤ answer.limit

end Delivery

namespace EventProcessingWorker

variable {outcomes : Outcomes}

/-- The buffers after events were routed to them and batches delivered. -/
structure Iterates (outcomes : Outcomes)
    (toBroadcast toPoll : List QueuedEvent) (before after : EventWorkerState) :
    Prop where
  broadcast : ∃ tried, after.broadcasts = before.broadcasts ++ tried ∧
    ∀ target,
      batchesTo target (successes outcomes tried) ++
          after.broadcastEventBuf.pending target =
        before.broadcastEventBuf.pending target ++
          eventsTo target toBroadcast
  poll : ∀ target, after.pollEventBuf.pending target =
    before.pollEventBuf.pending target ++ eventsTo target toPoll

theorem batchesTo_append (target : KoiNetNode)
    (left right : List Broadcast) :
    batchesTo target (left ++ right) =
      batchesTo target left ++ batchesTo target right := by
  simp [batchesTo]

theorem successes_append (left right : List Broadcast) :
    successes outcomes (left ++ right) =
      successes outcomes left ++ successes outcomes right :=
  List.filter_append ..

theorem Iterates.refl (state : EventWorkerState) :
    Iterates outcomes [] [] state state :=
  { broadcast := ⟨[], by simp, fun target => by
      simp [batchesTo, successes, eventsTo]⟩
    poll := fun target => by simp [eventsTo] }

theorem Iterates.trans {toBroadcast toPoll : List QueuedEvent}
    {before between after : EventWorkerState}
    (first : Iterates outcomes toBroadcast toPoll before between)
    (second : Iterates outcomes [] [] between after) :
    Iterates outcomes toBroadcast toPoll before after := by
  obtain ⟨tried, recorded, moved⟩ := first.broadcast
  obtain ⟨later, laterRecorded, laterMoved⟩ := second.broadcast
  constructor
  · refine ⟨tried ++ later, ?_, fun target => ?_⟩
    · rw [laterRecorded, recorded, List.append_assoc]
    · have movedLater := laterMoved target
      rw [eventsTo, List.filter_nil, List.map_nil, List.append_nil]
        at movedLater
      rw [successes_append, batchesTo_append, List.append_assoc, movedLater]
      exact moved target
  · intro target
    rw [second.poll, first.poll]
    simp [eventsTo]

/-- What moves events out of the broadcast buffer by delivering them. -/
def delivers (outcomes : Outcomes) : Frame EventWorkerState :=
  { rel := Iterates outcomes [] []
    refl := Iterates.refl
    trans := Iterates.trans }

theorem pending_push (buffer : EventBuffer) (target other : KoiNetNode)
    (event : Event) (now : Timestamp) :
    (buffer.push target event now).pending other =
      buffer.pending other ++ if target = other then [event] else [] := by
  unfold EventBuffer.push EventBuffer.pending
  dsimp only
  rw [Dict.get?_set]
  by_cases same : other = target
  · simp [same]
  · simp [same, Ne.symm same]

theorem flushed_zero (events : List Event) :
    EventBuffer.flushed 0 events = events := by
  simp [EventBuffer.flushed, EventBuffer.exceeds]

theorem Iterates.sent {before after : EventWorkerState}
    (attempt : Broadcast)
    (undelivered : batchesTo attempt.target (successes outcomes [attempt]) =
      [])
    (broadcasts : after.broadcasts = before.broadcasts ++ [attempt])
    (buffered : after.broadcastEventBuf.buffers =
      before.broadcastEventBuf.buffers)
    (poll : after.pollEventBuf = before.pollEventBuf) :
    Iterates outcomes [] [] before after := by
  have nothing : ∀ target,
      batchesTo target (successes outcomes [attempt]) = [] := by
    intro target
    by_cases same : attempt.target = target
    · rw [← same]
      exact undelivered
    · unfold batchesTo successes
      rw [List.filter_filter, List.filter_cons_of_neg (by simp [same])]
      rfl
  constructor
  · refine ⟨_, broadcasts, fun target => ?_⟩
    unfold EventBuffer.pending
    rw [buffered, nothing]
    simp [eventsTo]
  · intro target
    rw [poll]
    simp [eventsTo]

theorem broadcast_answering (outcomes : Outcomes) (target : KoiNetNode)
    (events : List Event) (state : EventWorkerState) :
    (broadcast (answering outcomes) target events).run state =
      ((outcomes target events).mapError .request,
        sent state target events state.node) :=
  rfl

theorem successes_of_ok {attempt : Broadcast}
    (ended : outcomes attempt.target attempt.events = .ok ()) :
    successes outcomes [attempt] = [attempt] := by
  simp [successes, ended]

theorem successes_of_error {attempt : Broadcast} {error : RequestError}
    (ended : outcomes attempt.target attempt.events = .error error) :
    successes outcomes [attempt] = [] := by
  simp [successes, ended]

/-- The worker after an attempt: the timer is stopped, and the buffer is gone if
the attempt succeeded. -/
def tried (outcomes : Outcomes) (target : KoiNetNode)
    (state : EventWorkerState) : EventWorkerState :=
  let events := state.broadcastEventBuf.pending target
  let started := state.broadcastEventBuf.stopTimer target
  { sent state target events state.node with
    broadcastEventBuf :=
      bif (outcomes target events).isOk then
        { started with buffers := started.buffers.erase target }
      else started }

theorem flushAndBroadcast_answering (target : KoiNetNode)
    (state : EventWorkerState) :
    (flushAndBroadcast (answering outcomes) target).run state =
      (.ok (), tried outcomes target state) := by
  let started := EventWorkerState.broadcastPart.update
    (EventBuffer.stopTimer target) state
  unfold flushAndBroadcast Effect.tryExcept tried EventBuffer.pending
  dsimp only
  cases buffered : state.broadcastEventBuf.buffers.get? target with
  | none =>
      rw [EventBuffer.safeFlush_absent buffered, broadcast_answering,
        EventBuffer.stopTimer_buffers, Dict.erase_of_absent buffered]
      dsimp only [Option.getD_none]
      cases outcomes target [] with
      | ok => rfl
      | error => rfl
  | some events =>
      have passes := broadcast_answering outcomes target
        (EventBuffer.flushed (boolAsInt false) events) started
      have zero : EventBuffer.flushed (boolAsInt false) events = events :=
        flushed_zero events
      dsimp only [Option.getD_some]
      cases ended : outcomes target events with
      | ok value =>
          rw [zero, ended] at passes
          rw [EventBuffer.safeFlush_returns buffered
            (by rw [zero]; exact passes)]
          rfl
      | error error =>
          rw [zero, ended] at passes
          rw [EventBuffer.safeFlush_raises buffered
            (by rw [zero]; exact passes)]
          rfl

section Tried

variable {target : KoiNetNode} {state : EventWorkerState}

theorem tried_of_ok
    (ended : outcomes target (state.broadcastEventBuf.pending target) =
      .ok ()) :
    (tried outcomes target state).broadcastEventBuf =
      { buffers := state.broadcastEventBuf.buffers.erase target
        startTime := state.broadcastEventBuf.startTime.erase target } := by
  unfold tried
  dsimp only
  rw [ended]
  rfl

theorem tried_of_error {error : RequestError}
    (ended : outcomes target (state.broadcastEventBuf.pending target) =
      .error error) :
    (tried outcomes target state).broadcastEventBuf =
      state.broadcastEventBuf.stopTimer target := by
  unfold tried
  dsimp only
  rw [ended]
  rfl

end Tried

/-- A flush delivers what it removes from the buffer. -/
theorem flushAndBroadcast_delivers (target : KoiNetNode) :
    (delivers outcomes).Keeps
      (flushAndBroadcast (answering outcomes) target) := by
  intro state
  rw [flushAndBroadcast_answering]
  cases ended : outcomes target (state.broadcastEventBuf.pending target) with
  | ok value =>
      refine
        { broadcast := ⟨[{ target, events := _ }], rfl, fun other => ?_⟩
          poll := fun other => by simp [eventsTo, tried, sent] }
      rw [successes_of_ok ended, tried_of_ok ended]
      unfold EventBuffer.pending
      rw [Dict.get?_erase]
      by_cases same : other = target
      · simp [batchesTo, eventsTo, same]
      · simp [batchesTo, eventsTo, same, Ne.symm same]
  | error error =>
      have kept : (tried outcomes target state).broadcastEventBuf.buffers =
          state.broadcastEventBuf.buffers := by
        rw [tried_of_error ended]
        rfl
      refine .sent { target, events := _ } ?_ rfl kept rfl
      rw [successes_of_error ended]
      rfl

theorem Iterates.change (state : EventWorkerState) (node : NodeState) :
    Iterates outcomes [] [] state { state with node := node } :=
  { broadcast := ⟨[], by simp, fun target => by
      simp [batchesTo, successes, eventsTo]⟩
    poll := fun target => by simp [eventsTo] }

variable (node : Node)

theorem time_delivers : (delivers outcomes).Keeps (time node) :=
  Frame.keeps_bind Frame.keeps_get fun _ =>
    Frame.keeps_bind
      (Frame.keeps_modify fun state => Iterates.change state _)
      fun _ => Frame.keeps_pure _

theorem flushOverdue_delivers (target : KoiNetNode) :
    (delivers outcomes).Keeps
      (flushOverdue (answering outcomes) node target) := by
  unfold flushOverdue
  apply Frame.keeps_bind Frame.keeps_get
  intro state
  split
  · exact Frame.keeps_pure ()
  · split
    · exact Frame.keeps_pure ()
    · apply Frame.keeps_bind (time_delivers node)
      intro now
      split
      · exact flushAndBroadcast_delivers target
      · exact Frame.keeps_pure ()

theorem handleEmpty_delivers :
    (delivers outcomes).Keeps (handleEmpty (answering outcomes) node) := by
  unfold handleEmpty
  apply Frame.keeps_bind Frame.keeps_get
  intro state
  exact Frame.keeps_forEach (flushOverdue_delivers node) _

variable (item : QueuedEvent) (state : EventWorkerState)

/-- The state after the event has been pushed to the broadcast buffer. -/
def pushedBroadcast : EventWorkerState :=
  { state with
    node := { state.node with clockReads := state.node.clockReads + 1 }
    broadcastEventBuf := state.broadcastEventBuf.push item.target item.event
      (node.now state.node.clockReads) }

theorem bufferBroadcast_run
    {broadcastEvents : KoiNetNode → List Event → NodeM Unit} :
    (bufferBroadcast broadcastEvents node item).run state =
      (if node.config.eventWorker.maxBufLen <
          (pushedBroadcast node item state).broadcastEventBuf.bufLen
            item.target then
        flushAndBroadcast broadcastEvents item.target
      else
        pure ()).run (pushedBroadcast node item state) :=
  rfl

theorem bufferBroadcast_routes :
    Iterates outcomes [item] [] state
      ((bufferBroadcast (answering outcomes) node item).run state).2 := by
  have routes : Iterates outcomes [item] [] state
      (pushedBroadcast node item state) := by
    refine
      { broadcast := ⟨[], by simp [pushedBroadcast], fun target => ?_⟩
        poll := fun target => by simp [pushedBroadcast, eventsTo] }
    unfold pushedBroadcast
    rw [pending_push]
    by_cases same : item.target = target
    · simp [batchesTo, successes, eventsTo, same]
    · simp [batchesTo, successes, eventsTo, same]
  rw [bufferBroadcast_run]
  split
  · exact routes.trans (flushAndBroadcast_delivers item.target _)
  · exact routes

theorem pushPoll_routes :
    Iterates outcomes [] [item] state
      ((pushEvent node EventWorkerState.pollPart item).run state).2 := by
  refine
    { broadcast := ⟨[], (List.append_nil _).symm, fun target => by
        simp [batchesTo, successes, eventsTo, pushEvent, time,
          EventWorkerState.pollPart, EventWorkerState.nodePart, Part.update,
          Effect.run_bind]⟩
      poll := fun target => ?_ }
  change (state.pollEventBuf.push item.target item.event
    (node.now state.node.clockReads)).pending target = _
  rw [pending_push]
  by_cases same : item.target = target
  · simp [eventsTo, same]
  · simp [eventsTo, same]

theorem within_validateContents (bundle : Bundle) :
    (EventWorkerState.nodePart.within
        (bundle.validateContents NodeProfile.modelValidate)).run state =
      (match NodeProfile.modelValidate bundle.contents with
        | some nodeProfile => .ok nodeProfile
        | none => .error .validationError,
        state) := by
  rw [Part.run_within, validateContents_run]
  cases NodeProfile.modelValidate bundle.contents <;> rfl

theorem bufferEvent_after
    {broadcastEvents : KoiNetNode → List Event → NodeM Unit} :
    ((bufferEvent broadcastEvents node item).run state).2 =
      match route node state.node item.target with
      | .broadcast =>
          ((bufferBroadcast broadcastEvents node item).run state).2
      | .poll =>
          ((pushEvent node EventWorkerState.pollPart item).run state).2
      | .nowhere => state := by
  unfold bufferEvent route
  rw [Effect.run_get_bind]
  cases cached : state.node.cache.read (.node item.target) with
  | none =>
      dsimp only
      by_cases first : some item.target = node.config.firstContact.rid
      · rw [if_pos first, if_pos first]
      · rw [if_neg first, if_neg first]
        rfl
  | some bundle =>
      dsimp only
      rw [Effect.run_bind, within_validateContents]
      cases valid : NodeProfile.modelValidate bundle.contents with
      | none => rfl
      | some nodeProfile =>
          obtain ⟨context, baseUrl, nodeType, provides, publicKey⟩ :=
            nodeProfile
          cases nodeType with
          | full => rfl
          | partialNode => rfl

/-- The items that a route takes to the broadcast buffer. -/
def toBroadcastBuf : Route → List QueuedEvent
  | .broadcast => [item]
  | _ => []

def toPollBuf : Route → List QueuedEvent
  | .poll => [item]
  | _ => []

theorem bufferEvent_routes :
    Iterates outcomes
      (toBroadcastBuf item (route node state.node item.target))
      (toPollBuf item (route node state.node item.target)) state
      ((bufferEvent (answering outcomes) node item).run state).2 := by
  rw [bufferEvent_after]
  cases routed : route node state.node item.target with
  | broadcast => exact bufferBroadcast_routes node item state
  | poll => exact pushPoll_routes node item state
  | nowhere => exact Iterates.refl state

end EventProcessingWorker

namespace Delivery

open EventProcessingWorker

variable {outcomes : Outcomes} {delivery : Delivery}

theorem eventsTo_append (target : KoiNetNode) (left right : List QueuedEvent) :
    eventsTo target (left ++ right) =
      eventsTo target left ++ eventsTo target right := by
  simp [eventsTo]

/-- An iteration that routes these events. -/
theorem Lossless.iterate (lossless : delivery.Lossless)
    {toBroadcast toPoll : List QueuedEvent} {after : EventWorkerState}
    (iterates : Iterates outcomes toBroadcast toPoll delivery.worker after) :
    Lossless
      { delivery.iterate outcomes after with
        toBroadcast := delivery.toBroadcast ++ toBroadcast
        toPoll := delivery.toPoll ++ toPoll } := by
  obtain ⟨tried, recorded, moved⟩ := iterates.broadcast
  refine
    { broadcast := fun target => ?_
      poll := fun target => ?_
      bounded := lossless.bounded }
  · change eventsTo target (delivery.toBroadcast ++ toBroadcast) =
      batchesTo target (delivery.delivered ++ successes outcomes
        (after.broadcasts.drop delivery.worker.broadcasts.length)) ++
      after.broadcastEventBuf.pending target
    rw [recorded, List.drop_left, batchesTo_append, eventsTo_append,
      lossless.broadcast, List.append_assoc, List.append_assoc, moved]
  · change eventsTo target (delivery.toPoll ++ toPoll) =
      answersTo target delivery.answers ++ after.pollEventBuf.pending target
    rw [eventsTo_append, lossless.poll, iterates.poll, List.append_assoc]

theorem Lossless.poll_step (lossless : delivery.Lossless) (node : Node)
    (target : KoiNetNode) (limit : Int) :
    (step node delivery (.poll target limit)).Lossless := by
  let buffer := delivery.worker.pollEventBuf
  have stepped : step node delivery (.poll target limit) =
      { delivery with
        worker := { delivery.worker with
          pollEventBuf := (buffer.flush target limit).2 }
        answers := delivery.answers ++
          [{ target, limit, events := (buffer.flush target limit).1 }] } := rfl
  rw [stepped]
  refine
    { broadcast := lossless.broadcast
      poll := fun other => ?_
      bounded := fun answer member => ?_ }
  · dsimp only
    rw [lossless.poll]
    unfold answersTo
    rw [List.filter_append, List.flatMap_append, List.append_assoc]
    by_cases same : target = other
    · subst same
      have moved := buffer.flush_append_pending target limit
      simp only [decide_true, List.filter_cons_of_pos, List.filter_nil,
        List.flatMap_cons, List.flatMap_nil, List.append_nil]
      rw [moved]
    · have kept := (buffer.flush_others limit (Ne.symm same)).1
      unfold EventBuffer.pending
      simp only [same, decide_false, Bool.false_eq_true, not_false_eq_true,
        List.filter_cons_of_neg, List.filter_nil, List.flatMap_nil,
        List.nil_append]
      rw [kept]
  · rcases List.mem_append.mp member with earlier | new
    · exact lossless.bounded answer earlier
    · rw [List.mem_singleton.mp new]
      exact buffer.flush_length_le target

theorem dequeue_queued_run (node : Node) (item : QueuedEvent)
    (worker : EventWorkerState) :
    ((EventProcessingWorker.dequeue (answering outcomes) node
        (.queued item)).run worker).2 =
      ((bufferEvent (answering outcomes) node item).run worker).2 := by
  unfold EventProcessingWorker.dequeue
  rw [Effect.run_bind]
  generalize (bufferEvent (answering outcomes) node item).run worker = ended
  obtain ⟨result, after⟩ := ended
  cases result with
  | ok value => rfl
  | error failure => rfl

theorem Lossless.step (lossless : delivery.Lossless) (node : Node)
    (action : DeliveryAction) :
    (Delivery.step node delivery action).Lossless := by
  cases action with
  | dequeue item outcomes =>
      have routes : Iterates outcomes _ _ delivery.worker _ :=
        bufferEvent_routes node item delivery.worker
      rw [← dequeue_queued_run] at routes
      have iterated := lossless.iterate routes
      dsimp only [Delivery.step]
      cases routed : route node delivery.worker.node item.target with
      | broadcast =>
          simp only [routed, toBroadcastBuf, toPollBuf, List.append_nil]
            at iterated
          exact iterated
      | poll =>
          simp only [routed, toBroadcastBuf, toPollBuf, List.append_nil]
            at iterated
          exact iterated
      | nowhere =>
          simp only [routed, toBroadcastBuf, toPollBuf, List.append_nil]
            at iterated
          exact iterated
  | timeout outcomes =>
      have iterates : Iterates outcomes [] [] delivery.worker _ :=
        handleEmpty_delivers node delivery.worker
      have iterated := lossless.iterate iterates
      rw [List.append_nil, List.append_nil] at iterated
      exact iterated
  | poll target limit => exact lossless.poll_step node target limit
  | change state =>
      exact
        { broadcast := lossless.broadcast
          poll := lossless.poll
          bounded := lossless.bounded }

theorem initial_lossless (state : NodeState) :
    (initial state).Lossless :=
  { broadcast := fun _ => rfl
    poll := fun _ => rfl
    bounded := fun _ member => absurd member List.not_mem_nil }

/-- However iterations, polls and changes are interleaved, no event is lost,
repeated, reordered or given to another node. -/
theorem lossless (node : Node) (state : NodeState)
    (actions : List DeliveryAction) :
    (actions.foldl (step node) (initial state)).Lossless := by
  have keeps : ∀ delivery : Delivery, delivery.Lossless →
      (actions.foldl (step node) delivery).Lossless := by
    induction actions with
    | nil => exact fun _ lossless => lossless
    | cons action later induction =>
        intro delivery lossless
        exact induction _ (lossless.step node action)
  exact keeps _ (initial_lossless state)

end Delivery

end KoiNet
