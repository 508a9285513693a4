import KoiNet.Components.EventWorker

/-!
# Stopping the event worker

When the worker is told to stop it flushes the broadcast buffer of each node
once.  The call passes `force_flush` where `safe_flush` expects its limit, so
each flush takes one event, and a batch whose request fails stays buffered.
-/

namespace KoiNet

open Foundation

namespace EventProcessingWorker

/-- A request handler that raises nothing but `RequestError`s. -/
def Recoverable (broadcastEvents : KoiNetNode → List Event → NodeM Unit) :
    Prop :=
  ∀ target events state failure,
    ((broadcastEvents target events).run state).1 = .error failure →
    failure.isRequestError = true

/-- A request handler whose broadcasts end as given. -/
def answering (answers : KoiNetNode → List Event → Except RequestError Unit)
    (target : KoiNetNode) (events : List Event) : NodeM Unit :=
  Effect.ofExcept ((answers target events).mapError .request)

/-- The buffer of a node, and the events passed to the request handler for
it. -/
structure Outbox where
  buffer : Option (List Event)
  passed : List Event

def outbox (state : EventWorkerState) (target : KoiNetNode) : Outbox :=
  { buffer := state.broadcastEventBuf.buffers.get? target
    passed := state.passedTo target }

/-- What a forced flush takes from a buffer. -/
def batch (events : List Event) : List Event :=
  if 1 < events.length then events.take 1 else events

/-- What a forced flush leaves in a buffer when the request succeeds. -/
def rest (events : List Event) : Option (List Event) :=
  if 1 < events.length then some (events.drop 1) else none

/-- A forced flush whose request ends with the answer. -/
def Outbox.flushed (answer : Except RequestError Unit) (box : Outbox) :
    Outbox :=
  match box.buffer with
  | none => box
  | some events =>
      { buffer :=
          match answer with
          | .ok _ => rest events
          | .error _ => some events
        passed := box.passed ++ batch events }

/-- `True` counts as the limit 1. -/
theorem exceeds_true (events : List Event) :
    EventBuffer.exceeds (boolAsInt true) events ↔ 1 < events.length := by
  change (1 : Int) ≠ 0 ∧ (1 : Int) < events.length ↔ _
  omega

theorem flushed_eq_batch (events : List Event) :
    EventBuffer.flushed (boolAsInt true) events = batch events := by
  unfold EventBuffer.flushed batch
  simp only [exceeds_true]
  rfl

theorem remaining_eq_rest (events : List Event) :
    EventBuffer.remaining (boolAsInt true) events = rest events := by
  unfold EventBuffer.remaining rest
  simp only [exceeds_true]
  rfl

/-- The state after a batch has been passed to the request handler. -/
def sent (state : EventWorkerState) (target : KoiNetNode)
    (events : List Event) (node : NodeState) : EventWorkerState :=
  { state with
    node := node
    broadcasts := state.broadcasts ++ [{ target, events }] }

theorem broadcast_run
    (broadcastEvents : KoiNetNode → List Event → NodeM Unit)
    (target : KoiNetNode) (events : List Event) (state : EventWorkerState) :
    (broadcast broadcastEvents target events).run state =
      (((broadcastEvents target events).run state.node).1,
        sent state target events
          ((broadcastEvents target events).run state.node).2) :=
  rfl

theorem outbox_sent_self (state : EventWorkerState) (target : KoiNetNode)
    (events : List Event) (node : NodeState) :
    outbox (sent state target events node) target =
      { buffer := (outbox state target).buffer
        passed := (outbox state target).passed ++ events } := by
  simp [outbox, sent, EventWorkerState.passedTo]

theorem outbox_sent_ne (state : EventWorkerState) {target other : KoiNetNode}
    (events : List Event) (node : NodeState) (different : other ≠ target) :
    outbox (sent state target events node) other = outbox state other := by
  simp [outbox, sent, EventWorkerState.passedTo, different.symm]

theorem outbox_commit_self (state : EventWorkerState) (target : KoiNetNode)
    (events : List Event) :
    outbox (EventWorkerState.broadcastPart.update
        (EventBuffer.commit target (boolAsInt true) events) state) target =
      { buffer := rest events
        passed := (outbox state target).passed } := by
  rw [← remaining_eq_rest, ← EventBuffer.commit_get?_self]
  rfl

theorem outbox_commit_ne (state : EventWorkerState)
    {target other : KoiNetNode} (events : List Event)
    (different : other ≠ target) :
    outbox (EventWorkerState.broadcastPart.update
        (EventBuffer.commit target (boolAsInt true) events) state) other =
      outbox state other := by
  have kept := state.broadcastEventBuf.commit_get?_ne (boolAsInt true) events
    different
  change Outbox.mk _ _ = Outbox.mk _ _
  exact congrArg (fun buffer => Outbox.mk buffer (state.passedTo other)) kept

/-- What flushing these buffers does to the outboxes, and how the requests for
them ended. -/
structure Flushes (broadcastEvents : KoiNetNode → List Event → NodeM Unit)
    (answers : KoiNetNode → Except RequestError Unit)
    (targets : List KoiNetNode) (before after : EventWorkerState) : Prop where
  flushed : ∀ target ∈ targets,
    outbox after target = (outbox before target).flushed (answers target)
  others : ∀ target, target ∉ targets →
    outbox after target = outbox before target
  answered : ∀ target ∈ targets, ∀ events,
    (outbox before target).buffer = some events →
    ∃ state, ((broadcastEvents target (batch events)).run state).1 =
      (answers target).mapError .request

theorem Flushes.cons
    {broadcastEvents : KoiNetNode → List Event → NodeM Unit}
    {answers : KoiNetNode → Except RequestError Unit}
    {answer : Except RequestError Unit} {target : KoiNetNode}
    {targets : List KoiNetNode} {before between after : EventWorkerState}
    (first : Flushes broadcastEvents (fun _ => answer) [target] before between)
    (later : Flushes broadcastEvents answers targets between after)
    (fresh : target ∉ targets) :
    Flushes broadcastEvents (Function.update answers target answer)
      (target :: targets) before after := by
  have kept : ∀ other ∈ targets, other ≠ target ∧
      outbox between other = outbox before other := by
    intro other member
    have different : other ≠ target := by
      rintro rfl
      exact fresh member
    exact ⟨different, first.others other (by simpa using different)⟩
  constructor
  · intro other member
    rcases List.mem_cons.mp member with rfl | inRest
    · rw [later.others _ fresh, first.flushed _ (by simp),
        Function.update_self]
    · obtain ⟨different, same⟩ := kept other inRest
      rw [later.flushed _ inRest, same, Function.update_of_ne different]
  · intro other absent
    rw [List.mem_cons, not_or] at absent
    rw [later.others _ absent.2, first.others _ (by simpa using absent.1)]
  · intro other member events present
    rcases List.mem_cons.mp member with rfl | inRest
    · rw [Function.update_self]
      exact first.answered _ (by simp) events present
    · obtain ⟨different, same⟩ := kept other inRest
      rw [Function.update_of_ne different]
      rw [← same] at present
      exact later.answered _ inRest events present

section Flush

variable {broadcastEvents : KoiNetNode → List Event → NodeM Unit}
  (recoverable : Recoverable broadcastEvents)

include recoverable

theorem flushAndBroadcast_run {target : KoiNetNode} {events : List Event}
    {state : EventWorkerState}
    (present : (outbox state target).buffer = some events) :
    ∃ answer after,
      (flushAndBroadcast broadcastEvents target true).run state =
        (.ok (), after) ∧
      Flushes broadcastEvents (fun _ => answer) [target] state after := by
  have buffered : (EventWorkerState.broadcastPart.get state).buffers.get?
      target = some events := present
  let started := EventWorkerState.broadcastPart.update
    (EventBuffer.stopTimer target) state
  have passes := broadcast_run broadcastEvents target
    (EventBuffer.flushed (boolAsInt true) events) started
  rw [flushed_eq_batch] at passes
  generalize ended : (broadcastEvents target (batch events)).run
    started.node = reply at passes
  obtain ⟨result, node⟩ := reply
  have answered : ∀ answer : Except RequestError Unit,
      result = answer.mapError .request →
      ∀ other ∈ [target], ∀ buffered,
        (outbox state other).buffer = some buffered →
        ∃ state, ((broadcastEvents other (batch buffered)).run state).1 =
          answer.mapError .request := by
    intro answer outcome other member buffered found
    rw [List.mem_singleton.mp member] at found ⊢
    cases present.symm.trans found
    exact ⟨started.node, by rw [ended, outcome]⟩
  unfold flushAndBroadcast Effect.tryExcept
  dsimp only
  cases result with
  | ok _ =>
      rw [EventBuffer.safeFlush_returns buffered
        (by rw [flushed_eq_batch]; exact passes)]
      refine ⟨.ok (), _, rfl, ?_, ?_, answered _ rfl⟩
      · intro other member
        rw [List.mem_singleton.mp member, outbox_commit_self,
          outbox_sent_self, Outbox.flushed, present]
        rfl
      · intro other absent
        have different : other ≠ target := by simpa using absent
        rw [outbox_commit_ne _ _ different, outbox_sent_ne _ _ _ different]
        rfl
  | error failure =>
      have caught : failure.isRequestError = true := by
        apply recoverable target (batch events) started.node
        rw [ended]
      rw [EventBuffer.safeFlush_raises buffered
        (by rw [flushed_eq_batch]; exact passes)]
      cases failure with
      | request error =>
          refine ⟨.error error, _, rfl, ?_, ?_, answered _ rfl⟩
          · intro other member
            rw [List.mem_singleton.mp member]
            change outbox (sent started target (batch events) node) target = _
            rw [outbox_sent_self, Outbox.flushed, present]
            change Outbox.mk (outbox state target).buffer _ = _
            rw [present]
            rfl
          · intro other absent
            have different : other ≠ target := by simpa using absent
            change outbox (sent started target (batch events) node) other = _
            rw [outbox_sent_ne _ _ _ different]
            rfl
      | _ => cases caught

theorem flushTargets_run {targets : List KoiNetNode}
    (nodup : targets.Nodup) {state : EventWorkerState}
    (present : ∀ target ∈ targets, ∃ events,
      (outbox state target).buffer = some events) :
    ∃ answers after,
      (Effect.forEach targets fun target =>
        flushAndBroadcast broadcastEvents target true).run state =
          (.ok (), after) ∧
      Flushes broadcastEvents answers targets state after := by
  induction targets generalizing state with
  | nil =>
      refine ⟨fun _ => .ok (), state, rfl, ?_, fun _ _ => rfl, ?_⟩
      · intro target member
        cases member
      · intro target member
        cases member
  | cons target rest induction =>
      obtain ⟨fresh, distinct⟩ := List.nodup_cons.mp nodup
      obtain ⟨events, buffered⟩ := present target (by simp)
      obtain ⟨answer, between, flushed, first⟩ :=
        flushAndBroadcast_run recoverable buffered
      have stillPresent : ∀ other ∈ rest, ∃ events,
          (outbox between other).buffer = some events := by
        intro other member
        have different : other ≠ target := by
          rintro rfl
          exact fresh member
        rw [first.others other (by simpa using different)]
        exact present other (by simp [member])
      obtain ⟨answers, after, ran, later⟩ :=
        induction distinct stillPresent
      refine ⟨_, after, ?_, first.cons later fresh⟩
      rw [Effect.forEach, Effect.run_bind_of_ok flushed, ran]

/-- When it is told to stop, the worker flushes every buffer once and
returns. -/
theorem run_stopWorker (node : Node) (later : List (Option EventQueueItem))
    (before : EventWorkerState) :
    ∃ answers after,
      (run broadcastEvents node (some .stopWorker :: later)).run before =
        (.ok (), after) ∧
      Flushes broadcastEvents answers before.broadcastEventBuf.buffers.keys
        before after := by
  let buffers := before.broadcastEventBuf.buffers
  have present : ∀ target ∈ buffers.keys, ∃ events,
      (outbox before target).buffer = some events :=
    fun _ member => buffers.mem_keys_iff.mp member
  obtain ⟨answers, after, ran, flushes⟩ :=
    flushTargets_run recoverable buffers.nodup present
  refine ⟨answers, after, ?_, flushes⟩
  have flushed : (flushAll broadcastEvents).run before = (.ok (), after) := ran
  unfold run dequeue
  rw [Effect.run_bind, Effect.run_bind_of_ok flushed]
  rfl

end Flush

/-- Stopping passes every buffered event to the request handler, in order, and
leaves no buffer. -/
def StopDrains (broadcastEvents : KoiNetNode → List Event → NodeM Unit)
    (node : Node) (later : List (Option EventQueueItem))
    (before : EventWorkerState) : Prop :=
  ∃ after,
    (run broadcastEvents node (some .stopWorker :: later)).run before =
      (.ok (), after) ∧
    ∀ target,
      after.passedTo target =
        before.passedTo target ++ before.broadcastEventBuf.pending target ∧
      after.broadcastEventBuf.buffers.get? target = none

theorem recoverable_answering
    (answers : KoiNetNode → List Event → Except RequestError Unit) :
    Recoverable (answering answers) := by
  intro target events state failure raised
  change (answers target events).mapError Exc.request = _ at raised
  cases answer : answers target events with
  | ok =>
      rw [answer] at raised
      cases raised
  | error error =>
      rw [answer] at raised
      cases raised
      rfl

theorem mapError_injective {left right : Except RequestError Unit}
    (same : left.mapError Exc.request = right.mapError Exc.request) :
    left = right := by
  cases left <;> cases right <;> cases same <;> rfl

/-- A flush drains an outbox exactly if it holds at most one event and the
request succeeds. -/
theorem flushed_drains_iff {answer : Except RequestError Unit} {box : Outbox}
    {events : List Event} (present : box.buffer = some events) :
    (box.flushed answer).passed = box.passed ++ events ∧
        (box.flushed answer).buffer = none ↔
      events.length ≤ 1 ∧ answer = .ok () := by
  unfold Outbox.flushed
  rw [present]
  dsimp only
  by_cases long : 1 < events.length
  · have partly : batch events ≠ events := by
      intro same
      have lengths := congrArg List.length same
      simp [batch, long] at lengths
      omega
    constructor
    · rintro ⟨passed, _⟩
      exact (partly (List.append_cancel_left passed)).elim
    · rintro ⟨short, _⟩
      omega
  · rw [batch, if_neg long]
    cases answer with
    | ok =>
        have short : events.length ≤ 1 := Nat.le_of_not_lt long
        simp [rest, long, short]
    | error => simp

/-- With the requests of a node, stopping does to the outboxes what it does
with some answers to them. -/
theorem run_stopWorker_answering
    {broadcastEvents : KoiNetNode → List Event → NodeM Unit}
    (recoverable : Recoverable broadcastEvents) (node : Node)
    (later : List (Option EventQueueItem)) (before : EventWorkerState) :
    ∃ answers after other,
      (run broadcastEvents node (some .stopWorker :: later)).run before =
        (.ok (), after) ∧
      (run (answering answers) node (some .stopWorker :: later)).run before =
        (.ok (), other) ∧
      ∀ target, outbox after target = outbox other target := by
  obtain ⟨answers, after, ran, flushes⟩ :=
    run_stopWorker recoverable node later before
  obtain ⟨ends, other, ranOther, otherFlushes⟩ :=
    run_stopWorker (recoverable_answering fun target _ => answers target) node
      later before
  refine ⟨_, after, other, ran, ranOther, fun target => ?_⟩
  by_cases member : target ∈ before.broadcastEventBuf.buffers.keys
  · obtain ⟨events, present⟩ := (Dict.mem_keys_iff _).mp member
    obtain ⟨_, ended⟩ := otherFlushes.answered target member events present
    have same : ends target = answers target :=
      (mapError_injective ended).symm
    rw [flushes.flushed target member, otherFlushes.flushed target member,
      same]
  · rw [flushes.others target member, otherFlushes.others target member]

/-- Stopping drains the buffers exactly if every buffer holds at most one event
and the request that sends it succeeds. -/
theorem stopDrains_iff
    (answers : KoiNetNode → List Event → Except RequestError Unit)
    (node : Node) (later : List (Option EventQueueItem))
    (before : EventWorkerState) :
    StopDrains (answering answers) node later before ↔
      ∀ target events,
        before.broadcastEventBuf.buffers.get? target = some events →
        events.length ≤ 1 ∧ answers target events = .ok () := by
  obtain ⟨ends, after, ran, flushes⟩ :=
    run_stopWorker (recoverable_answering answers) node later before
  have drains : ∀ target events,
      (outbox before target).buffer = some events →
      (((outbox after target).passed =
            (outbox before target).passed ++ events ∧
          (outbox after target).buffer = none) ↔
        events.length ≤ 1 ∧ answers target events = .ok ()) := by
    intro target events present
    have member : target ∈ before.broadcastEventBuf.buffers.keys :=
      (Dict.mem_keys_iff _).mpr ⟨events, present⟩
    obtain ⟨_, ended⟩ := flushes.answered target member events present
    have same : ends target = answers target (batch events) :=
      (mapError_injective ended).symm
    rw [flushes.flushed target member, flushed_drains_iff present, same]
    apply and_congr_right
    intro short
    rw [batch, if_neg (Nat.not_lt.mpr short)]
  constructor
  · rintro ⟨other, ranOther, drained⟩ target events present
    cases ran.symm.trans ranOther
    obtain ⟨passed, gone⟩ := drained target
    rw [EventBuffer.pending, present] at passed
    exact (drains target events present).mp ⟨passed, gone⟩
  · intro short
    refine ⟨after, ran, fun target => ?_⟩
    unfold EventBuffer.pending
    cases present : before.broadcastEventBuf.buffers.get? target with
    | some events =>
        exact (drains target events present).mpr (short target events present)
    | none =>
        have unlisted : target ∉ before.broadcastEventBuf.buffers.keys := by
          intro member
          obtain ⟨events, found⟩ := (Dict.mem_keys_iff _).mp member
          rw [present] at found
          cases found
        have kept := flushes.others target unlisted
        have passed : after.passedTo target = before.passedTo target :=
          congrArg Outbox.passed kept
        have buffer : after.broadcastEventBuf.buffers.get? target =
            before.broadcastEventBuf.buffers.get? target :=
          congrArg Outbox.buffer kept
        rw [passed, buffer, present]
        simp

/-- Two events for a node that answers: one is sent, and the other stays in
the buffer. -/
theorem stop_leaves_events :
    ¬∀ (answers : KoiNetNode → List Event → Except RequestError Unit)
      (node : Node) (later : List (Option EventQueueItem))
      (before : EventWorkerState),
      StopDrains (answering answers) node later before := by
  intro always
  let peer : KoiNetNode := { name := "peer", hash := "key" }
  let event : Event := .fromRid .forget (.other "orn:example" "document")
  let before : EventWorkerState :=
    { node := .fresh .empty
      pollEventBuf := .empty
      broadcastEventBuf := (EventBuffer.empty.push peer event 0).push peer
        event 1
      broadcasts := [] }
  obtain ⟨after, ran, drained⟩ := always (fun _ _ => .ok ()) .standalone []
    before
  cases ran
  cases (drained peer).2

end EventProcessingWorker

end KoiNet
