import KoiNet.Delivery.Losslessness

/-!
# What an iteration of the worker sends to one node

However requests end, an iteration passes at most one batch to the request
handler for each node: the beginning of what is buffered for the node.  The
batch is dropped from the buffer if the request returns, and stays in it if the
request raises.
-/

namespace KoiNet

open Foundation

namespace EventProcessingWorker

/-- What is buffered for a node, the batches passed to the request handler for
it, and the cache in which its URL is looked up. -/
structure Channel where
  pending : List Event
  batches : List (List Event)
  cache : Cache

def channel (state : EventWorkerState) (target : KoiNetNode) : Channel :=
  { pending := state.broadcastEventBuf.pending target
    batches := (state.broadcasts.filter fun broadcast =>
      broadcast.target = target).map Broadcast.events
    cache := state.node.cache }

/-- A request handler that leaves the cache alone. -/
def KeepsCache (broadcastEvents : KoiNetNode → List Event → NodeM Unit) :
    Prop :=
  ∀ target events,
    (Frame.unchanged NodeState.cache).Keeps (broadcastEvents target events)

variable (broadcastEvents : KoiNetNode → List Event → NodeM Unit)

/-- The channel after events have been buffered and at most one batch has been
tried. -/
inductive Attempts (target : KoiNetNode) (buffered : List Event) :
    Channel → Channel → Prop where
  | quiet (channel : Channel) :
      Attempts target buffered channel
        { channel with pending := channel.pending ++ buffered }
  | returned {channel : Channel} {batch rest : List Event}
      {before after : NodeState} :
      channel.pending ++ buffered = batch ++ rest →
      before.cache = channel.cache →
      (broadcastEvents target batch).run before = (.ok (), after) →
      Attempts target buffered channel
        { channel with
          pending := rest
          batches := channel.batches ++ [batch] }
  | raised {channel : Channel} {batch rest : List Event}
      {before after : NodeState} {failure : Exc} :
      channel.pending ++ buffered = batch ++ rest →
      before.cache = channel.cache →
      (broadcastEvents target batch).run before = (.error failure, after) →
      Attempts target buffered channel
        { channel with
          pending := batch ++ rest
          batches := channel.batches ++ [batch] }

variable {broadcastEvents} {target other : KoiNetNode}
  {state : EventWorkerState}

theorem Attempts.refl (channel : Channel) :
    Attempts broadcastEvents target [] channel channel := by
  have kept : Attempts broadcastEvents target [] channel
      { channel with pending := channel.pending ++ [] } := .quiet channel
  rwa [List.append_nil] at kept

theorem Attempts.buffered {events : List Event} {before after : Channel}
    (attempts : Attempts broadcastEvents target []
      { before with pending := before.pending ++ events } after) :
    Attempts broadcastEvents target events before after := by
  generalize pushed : ({ before with
    pending := before.pending ++ events } : Channel) = between at attempts
  cases attempts with
  | quiet =>
      rw [← pushed, List.append_nil]
      exact .quiet before
  | returned split cached ran =>
      rw [List.append_nil] at split
      subst pushed
      exact .returned split cached ran
  | raised split cached ran =>
      rw [List.append_nil] at split
      subst pushed
      exact .raised split cached ran

theorem channel_sent_self (events : List Event) {node : NodeState}
    (kept : node.cache = state.node.cache) :
    channel (sent state target events node) target =
      { channel state target with
        batches := (channel state target).batches ++ [events] } := by
  simp [channel, sent, kept]

theorem channel_sent_ne (events : List Event) {node : NodeState}
    (kept : node.cache = state.node.cache) (different : other ≠ target) :
    channel (sent state target events node) other = channel state other := by
  simp [channel, sent, kept, different.symm]

theorem channel_commit_self (limit : Int) (events : List Event) :
    channel (EventWorkerState.broadcastPart.update
        (EventBuffer.commit target limit events) state) target =
      { channel state target with
        pending := (EventBuffer.remaining limit events).getD [] } := by
  rw [← EventBuffer.commit_get?_self state.broadcastEventBuf target]
  rfl

theorem channel_commit_ne (limit : Int) (events : List Event)
    (different : other ≠ target) :
    channel (EventWorkerState.broadcastPart.update
        (EventBuffer.commit target limit events) state) other =
      channel state other := by
  have kept := state.broadcastEventBuf.commit_get?_ne limit events different
  exact congrArg (fun buffer : Option (List Event) =>
    { channel state other with pending := buffer.getD [] }) kept

theorem flushAndBroadcast_after (forceFlush : Bool) :
    ((flushAndBroadcast broadcastEvents target forceFlush).run state).2 =
      ((EventBuffer.safeFlush EventWorkerState.broadcastPart target
        (boolAsInt forceFlush) false (broadcast broadcastEvents target)).run
          state).2 := by
  unfold flushAndBroadcast Effect.tryExcept
  dsimp only
  generalize (EventBuffer.safeFlush EventWorkerState.broadcastPart target
    (boolAsInt forceFlush) false (broadcast broadcastEvents target)).run
      state = ended
  obtain ⟨result, after⟩ := ended
  cases result with
  | ok value => rfl
  | error failure =>
      dsimp only
      split <;> rfl

section Flush

variable (keeps : KeepsCache broadcastEvents)

include keeps

/-- A flush tries the beginning of what is buffered. -/
theorem flushAndBroadcast_attempts (forceFlush : Bool) :
    Attempts broadcastEvents target [] (channel state target)
      (channel ((flushAndBroadcast broadcastEvents target forceFlush).run
        state).2 target) := by
  let started := EventWorkerState.broadcastPart.update
    (EventBuffer.stopTimer target) state
  have same : channel started target = channel state target := rfl
  rw [flushAndBroadcast_after]
  cases buffered : state.broadcastEventBuf.buffers.get? target with
  | none =>
      have nothing : (channel state target).pending = [] := by
        simp [channel, EventBuffer.pending, buffered]
      have passes := broadcast_run broadcastEvents target [] started
      have kept := keeps target [] started.node
      generalize ended : (broadcastEvents target []).run started.node = reply
        at passes kept
      obtain ⟨result, node⟩ := reply
      rw [EventBuffer.safeFlush_absent buffered,
        show EventWorkerState.broadcastPart.update
          (EventBuffer.stopTimer target) state = started from rfl, passes]
      dsimp only
      rw [channel_sent_self _ kept, same]
      have unchanged : { channel state target with
            batches := (channel state target).batches ++ [[]] } =
          { channel state target with
            pending := []
            batches := (channel state target).batches ++ [[]] } := by
        dsimp only
        rw [nothing]
      rw [unchanged]
      cases result with
      | ok value => exact .returned (by rw [nothing]) rfl ended
      | error failure =>
          exact .raised (show _ = [] ++ [] by rw [nothing]) rfl ended
  | some events =>
      have pending : (channel state target).pending = events := by
        simp [channel, EventBuffer.pending, buffered]
      have split : (channel state target).pending ++ [] =
          EventBuffer.flushed (boolAsInt forceFlush) events ++
            (EventBuffer.remaining (boolAsInt forceFlush) events).getD [] := by
        rw [EventBuffer.flushed_append_remaining, pending, List.append_nil]
      have passes := broadcast_run broadcastEvents target
        (EventBuffer.flushed (boolAsInt forceFlush) events) started
      have kept := keeps target
        (EventBuffer.flushed (boolAsInt forceFlush) events) started.node
      generalize ended : (broadcastEvents target
        (EventBuffer.flushed (boolAsInt forceFlush) events)).run
          started.node = reply at passes kept
      obtain ⟨result, node⟩ := reply
      cases result with
      | ok value =>
          rw [EventBuffer.safeFlush_returns buffered passes,
            channel_commit_self, channel_sent_self _ kept]
          exact .returned split rfl ended
      | error failure =>
          rw [EventBuffer.safeFlush_raises buffered passes]
          have attempt := Attempts.raised split rfl ended
          rw [← split, List.append_nil] at attempt
          change Attempts _ _ _ _ (channel (sent started target _ _) target)
          rw [channel_sent_self _ kept]
          exact attempt

theorem flushAndBroadcast_others (forceFlush : Bool)
    (different : other ≠ target) :
    channel ((flushAndBroadcast broadcastEvents target forceFlush).run
      state).2 other = channel state other := by
  let started := EventWorkerState.broadcastPart.update
    (EventBuffer.stopTimer target) state
  have same : channel started other = channel state other := rfl
  rw [flushAndBroadcast_after]
  cases buffered : state.broadcastEventBuf.buffers.get? target with
  | none =>
      have kept := keeps target [] started.node
      rw [EventBuffer.safeFlush_absent buffered]
      exact (channel_sent_ne [] kept different).trans same
  | some events =>
      have passes := broadcast_run broadcastEvents target
        (EventBuffer.flushed (boolAsInt forceFlush) events) started
      have kept := keeps target
        (EventBuffer.flushed (boolAsInt forceFlush) events) started.node
      generalize (broadcastEvents target
        (EventBuffer.flushed (boolAsInt forceFlush) events)).run
          started.node = reply at passes kept
      obtain ⟨result, node⟩ := reply
      cases result with
      | ok value =>
          rw [EventBuffer.safeFlush_returns buffered passes,
            channel_commit_ne _ _ different, channel_sent_ne _ kept different,
            same]
      | error failure =>
          rw [EventBuffer.safeFlush_raises buffered passes]
          change channel (sent started target _ _) other = _
          rw [channel_sent_ne _ kept different, same]

end Flush

/-- The frame of what does not touch the channel of a node. -/
def silent (target : KoiNetNode) : Frame EventWorkerState :=
  Frame.unchanged fun state => channel state target

theorem flushAndBroadcast_silent (keeps : KeepsCache broadcastEvents)
    (forceFlush : Bool) (different : other ≠ target) :
    (silent other).Keeps
      (flushAndBroadcast broadcastEvents target forceFlush) :=
  fun _ => flushAndBroadcast_others keeps forceFlush different

variable (node : Node)

theorem time_silent : (silent target).Keeps (time node) :=
  Frame.keeps_bind Frame.keeps_get fun _ =>
    Frame.keeps_bind (Frame.keeps_modify fun _ => rfl)
      fun _ => Frame.keeps_pure _

theorem flushOverdue_silent (keeps : KeepsCache broadcastEvents)
    (different : other ≠ target) :
    (silent other).Keeps (flushOverdue broadcastEvents node target) := by
  unfold flushOverdue
  apply Frame.keeps_bind Frame.keeps_get
  intro state
  split
  · exact Frame.keeps_pure ()
  · split
    · exact Frame.keeps_pure ()
    · apply Frame.keeps_bind (time_silent node)
      intro now
      split
      · exact flushAndBroadcast_silent keeps false different
      · exact Frame.keeps_pure ()

theorem flushOverdue_attempts (keeps : KeepsCache broadcastEvents) :
    Attempts broadcastEvents target [] (channel state target)
      (channel ((flushOverdue broadcastEvents node target).run
        state).2 target) := by
  unfold flushOverdue
  rw [Effect.run_get_bind]
  split
  · exact .refl _
  · split
    · exact .refl _
    · rw [Effect.run_bind]
      have kept : channel ((time node).run state).2 target =
          channel state target := time_silent node state
      generalize (time node).run state = ended at kept
      obtain ⟨result, after⟩ := ended
      rw [← kept]
      cases result with
      | error failure => exact .refl _
      | ok now =>
          dsimp only
          split
          · exact flushAndBroadcast_attempts keeps false
          · exact .refl _

/-- A loop over distinct nodes tries at most one batch for each. -/
theorem forEach_attempts {body : KoiNetNode → EventM Unit}
    (own : ∀ state, Attempts broadcastEvents target [] (channel state target)
      (channel ((body target).run state).2 target))
    (others : ∀ key, target ≠ key → (silent target).Keeps (body key))
    {keys : List KoiNetNode} (nodup : keys.Nodup) (state : EventWorkerState) :
    Attempts broadcastEvents target [] (channel state target)
      (channel ((Effect.forEach keys body).run state).2 target) := by
  induction keys generalizing state with
  | nil => exact .refl _
  | cons key rest induction =>
      obtain ⟨fresh, distinct⟩ := List.nodup_cons.mp nodup
      unfold Effect.forEach
      rw [Effect.run_bind]
      by_cases isTarget : target = key
      · subst isTarget
        have attempt := own state
        have quiet : (silent target).Keeps (Effect.forEach rest body) := by
          apply Frame.keeps_forEach_mem
          intro other member
          apply others
          rintro rfl
          exact fresh member
        generalize (body target).run state = ended at attempt
        obtain ⟨result, after⟩ := ended
        cases result with
        | error failure => exact attempt
        | ok value =>
            dsimp only
            rw [show channel ((Effect.forEach rest body).run after).2 target =
              channel after target from quiet after]
            exact attempt
      · have quiet := others key isTarget state
        generalize (body key).run state = ended at quiet
        obtain ⟨result, after⟩ := ended
        have kept : channel after target = channel state target := quiet
        rw [← kept]
        cases result with
        | error failure => exact .refl _
        | ok value => exact induction distinct after

theorem handleEmpty_attempts (keeps : KeepsCache broadcastEvents)
    (target : KoiNetNode) (state : EventWorkerState) :
    Attempts broadcastEvents target [] (channel state target)
      (channel ((handleEmpty broadcastEvents node).run state).2 target) := by
  unfold handleEmpty
  rw [Effect.run_get_bind]
  exact forEach_attempts (fun _ => flushOverdue_attempts node keeps)
    (fun _ different => flushOverdue_silent node keeps different)
    state.broadcastEventBuf.buffers.nodup state

theorem flushAll_attempts (keeps : KeepsCache broadcastEvents)
    (target : KoiNetNode) (state : EventWorkerState) :
    Attempts broadcastEvents target [] (channel state target)
      (channel ((flushAll broadcastEvents).run state).2 target) := by
  unfold flushAll
  rw [Effect.run_get_bind]
  exact forEach_attempts (fun _ => flushAndBroadcast_attempts keeps true)
    (fun _ different => flushAndBroadcast_silent keeps true different)
    state.broadcastEventBuf.buffers.nodup state

/-- The events that buffering an item adds for a node. -/
def bufferedFor (target : KoiNetNode) (item : QueuedEvent)
    (state : NodeState) : List Event :=
  if item.target = target ∧ route node state item.target = .broadcast then
    [item.event]
  else
    []

theorem channel_pushedBroadcast (item : QueuedEvent) (target : KoiNetNode)
    (state : EventWorkerState) :
    channel (pushedBroadcast node item state) target =
      { channel state target with
        pending := (channel state target).pending ++
          if item.target = target then [item.event] else [] } := by
  unfold channel pushedBroadcast
  dsimp only
  rw [pending_push]

theorem bufferBroadcast_attempts (keeps : KeepsCache broadcastEvents)
    (item : QueuedEvent) (target : KoiNetNode) (state : EventWorkerState) :
    Attempts broadcastEvents target
      (if item.target = target then [item.event] else [])
      (channel state target)
      (channel ((bufferBroadcast broadcastEvents node item).run
        state).2 target) := by
  apply Attempts.buffered
  rw [bufferBroadcast_run, ← channel_pushedBroadcast]
  split
  · by_cases isTarget : target = item.target
    · rw [isTarget]
      exact flushAndBroadcast_attempts keeps false
    · rw [flushAndBroadcast_others keeps false isTarget]
      exact .refl _
  · exact .refl _

theorem bufferEvent_attempts (keeps : KeepsCache broadcastEvents)
    (item : QueuedEvent) (target : KoiNetNode) (state : EventWorkerState) :
    Attempts broadcastEvents target (bufferedFor node target item state.node)
      (channel state target)
      (channel ((bufferEvent broadcastEvents node item).run
        state).2 target) := by
  rw [bufferEvent_after]
  unfold bufferedFor
  cases routed : route node state.node item.target with
  | broadcast =>
      simp only [and_true]
      exact bufferBroadcast_attempts node keeps item target state
  | poll =>
      rw [if_neg (by simp)]
      exact .refl _
  | nowhere =>
      rw [if_neg (by simp)]
      exact .refl _

end EventProcessingWorker

end KoiNet
