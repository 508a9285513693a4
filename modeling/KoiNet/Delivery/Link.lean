import KoiNet.Delivery.Attempts
import KoiNet.Foundation.Execution
import KoiNet.Foundation.Redelivery
import KoiNet.Pipeline.Frames
import KoiNet.Security.RemoteCalls

/-!
# Broadcasts to a server over a network that loses messages

The event worker of one peer broadcasts to the server of another.  A request or
its reply may be lost, and both peers do whatever else they do in between.  The
server queues every event at least once and in order: those that have left the
worker's buffer are queued, and repetitions are of events that follow them.
-/

namespace KoiNet

open Foundation

namespace Medium

variable {medium : Medium} {client server : medium.Peer}
  {state : EventWorkerState} {fate : Fate}

theorem makeRequest_among {path : Path} {request : path.Request}
    (elsewhere : OtherAnswers) :
    RequestHandler.makeRequest (medium.among client server fate state elsewhere)
        server.node.rid path request =
      medium.makeRequest client server fate state path request := by
  unfold makeRequest RequestHandler.makeRequest among Node.over
  simp only [if_pos]
  rfl

/-- A legible broadcast is queued by the server, or does not return. -/
theorem served_broadcast {events : List Event} (cache : Cache)
    (legible : Legible (Path.broadcastEvents.requestEnvelope medium.leaves)
      client server { events }) :
    (medium.served client server fate cache state .broadcastEvents
        ({ events } : EventsPayload)).node.kobjQueue =
      state.node.kobjQueue ++ events.map (queuedFrom client) ∨
    (medium.served client server fate cache state .broadcastEvents
        ({ events } : EventsPayload)).node.kobjQueue = state.node.kobjQueue ∧
      ∀ clientState, clientState.cache = cache →
        ((medium.makeRequest client server fate state .broadcastEvents
          ({ events } : EventsPayload)).run clientState).1 ≠ .ok () := by
  rcases served_legible fate cache state legible with
    ⟨response, responded, _⟩ | ⟨unserved, unanswered⟩
  · rw [ResponseHandler.respond_broadcast] at responded
    exact .inl (congrArg (fun ended => ended.2.node.kobjQueue)
      responded).symm
  · rw [unserved]
    exact .inr ⟨rfl, fun clientState => unanswered clientState ()⟩

end Medium

/-- Two peers, with the events that the first has buffered for the second and
the objects that the second has queued from it. -/
structure Link where
  sender : EventWorkerState
  receiver : EventWorkerState
  buffered : List Event
  received : List KnowledgeObject

/-- An iteration of the sender's worker, in which the network decides the fate
of a request to the receiver, or a change of one of the peers made by another
component. -/
inductive LinkAction where
  | dequeue (item : QueuedEvent) (fate : Fate) (elsewhere : OtherAnswers)
  | timeout (fate : Fate) (elsewhere : OtherAnswers)
  | stopWorker (fate : Fate) (elsewhere : OtherAnswers)
  | senderChanges (state : NodeState) (pollEventBuf : EventBuffer)
  | receiverChanges (state : EventWorkerState)

namespace Link

open EventProcessingWorker

variable {medium : Medium} (client server : medium.Peer)

/-- No event is buffered yet. -/
def opened (sender receiver : EventWorkerState) : Link :=
  { sender := sender
    receiver := receiver
    buffered := []
    received := [] }

/-- `broadcast_events` of the sender. -/
def broadcastEvents (fate : Fate) (receiver : EventWorkerState)
    (elsewhere : OtherAnswers) : KoiNetNode → List Event → NodeM Unit :=
  RequestHandler.broadcastEvents
    (medium.among client server fate receiver elsewhere)

/-- The link after an iteration of the sender's worker. -/
def iterate (link : Link) (fate : Fate) (after : EventWorkerState)
    (buffered : List Event) : Link :=
  let batches := (channel after server.node.rid).batches.drop
    (channel link.sender server.node.rid).batches.length
  let receiver := batches.foldl
    (fun state events => medium.served client server fate
      link.sender.node.cache state .broadcastEvents
      ({ events } : EventsPayload))
    link.receiver
  { sender := after
    receiver := receiver
    buffered := link.buffered ++ buffered
    received := link.received ++
      receiver.node.kobjQueue.drop link.receiver.node.kobjQueue.length }

def act (link : Link) : LinkAction → Link
  | .dequeue item fate elsewhere =>
      iterate client server link fate
        ((dequeue (broadcastEvents client server fate link.receiver
          elsewhere) client.node (.queued item)).run link.sender).2
        (bufferedFor client.node server.node.rid item link.sender.node)
  | .timeout fate elsewhere =>
      iterate client server link fate
        ((handleEmpty (broadcastEvents client server fate link.receiver
          elsewhere) client.node).run link.sender).2
        []
  | .stopWorker fate elsewhere =>
      iterate client server link fate
        ((dequeue (broadcastEvents client server fate link.receiver
          elsewhere) client.node .stopWorker).run link.sender).2
        []
  | .senderChanges state pollEventBuf =>
      { link with
        sender := { link.sender with
          node := state
          pollEventBuf := pollEventBuf } }
  | .receiverChanges state => { link with receiver := state }

/-- Whatever is sent over the link is read as it was written. -/
structure Step (action : LinkAction) (before after : Link) : Prop where
  acts : after = before.act client server action
  legible : ∀ events ∈ (channel after.sender server.node.rid).batches,
    Medium.Legible (Path.broadcastEvents.requestEnvelope medium.leaves) client
      server { events }

/-- What has left the sender's buffer has been queued, and what has been queued
is redelivered in order. -/
def Redelivered (link : Link) : Prop :=
  ∃ acknowledged events,
    Redelivers acknowledged (channel link.sender server.node.rid).pending
      events ∧
    link.buffered =
      acknowledged ++ (channel link.sender server.node.rid).pending ∧
    link.received = events.map (Medium.queuedFrom client)

variable {client server} {link : Link} {fate : Fate}

theorem broadcastEvents_receiver (receiver : EventWorkerState)
    (elsewhere : OtherAnswers) (events : List Event) :
    broadcastEvents client server fate receiver elsewhere
        server.node.rid events =
      medium.makeRequest client server fate receiver .broadcastEvents
        ({ events } : EventsPayload) :=
  Medium.makeRequest_among elsewhere

theorem broadcastEvents_keepsCache (receiver : EventWorkerState)
    (elsewhere : OtherAnswers) :
    KeepsCache (broadcastEvents client server fate receiver elsewhere) := by
  intro target events
  apply makeRequest_keeps
  · intro _ _ _
    rfl
  · intro _ _ _ _
    apply Frame.keeps_bind Frame.keeps_get
    intro state
    refine Frame.keeps_bind (Frame.keeps_modify fun _ => rfl) fun _ => ?_
    split
    · exact Frame.keeps_modify fun _ => rfl
    · exact Frame.keeps_pure ()

theorem iterate_redelivered
    (elsewhere : OtherAnswers)
    {after : EventWorkerState} {buffered : List Event}
    (redelivered : Redelivered client server link)
    (attempts : Attempts (broadcastEvents client server fate
        link.receiver elsewhere) server.node.rid buffered
      (channel link.sender server.node.rid)
      (channel after server.node.rid))
    (legible : ∀ events ∈ (channel after server.node.rid).batches,
      Medium.Legible (Path.broadcastEvents.requestEnvelope medium.leaves)
        client server { events }) :
    Redelivered client server
      (iterate client server link fate after buffered) := by
  obtain ⟨acknowledged, events, redelivers, stream, received⟩ := redelivered
  unfold Redelivered iterate
  dsimp only
  have cached : link.sender.node.cache =
      (channel link.sender server.node.rid).cache := rfl
  rw [stream, received, cached]
  generalize channel link.sender server.node.rid = before at *
  generalize channel after server.node.rid = now at *
  cases attempts with
  | quiet =>
      refine ⟨acknowledged, events, redelivers.extended buffered, ?_, ?_⟩
      · exact List.append_assoc ..
      · simp
  | @returned batch rest state _ split kept ran =>
      have extended := redelivers.extended buffered
      rw [split] at extended
      rw [broadcastEvents_receiver] at ran
      have tried := legible batch (by simp)
      rw [List.drop_left, List.append_assoc, split, ← List.append_assoc]
      refine ⟨acknowledged ++ batch, events ++ batch, extended.acknowledged,
        rfl, ?_⟩
      rcases Medium.served_broadcast before.cache tried with
        queue | ⟨_, unanswered⟩
      · simp only [List.foldl_cons, List.foldl_nil]
        rw [queue, List.drop_left, List.map_append]
      · exact absurd (congrArg Prod.fst ran) (unanswered state kept)
  | @raised batch rest state _ failure split _ ran =>
      have extended := redelivers.extended buffered
      rw [split] at extended
      have tried := legible batch (by simp)
      rw [List.drop_left, List.append_assoc, split]
      simp only [List.foldl_cons, List.foldl_nil]
      rcases Medium.served_broadcast before.cache tried with
        queue | ⟨unqueued, _⟩
      · refine ⟨acknowledged, events ++ batch, extended.repeated, rfl, ?_⟩
        rw [queue, List.drop_left, List.map_append]
      · refine ⟨acknowledged, events, extended, rfl, ?_⟩
        rw [unqueued, List.drop_length, List.append_nil]

theorem step_redelivered {action : LinkAction} {before after : Link}
    (redelivered : Redelivered client server before)
    (step : Step client server action before after) :
    Redelivered client server after := by
  obtain ⟨rfl, legible⟩ := step
  cases action with
  | dequeue item fate elsewhere =>
      refine iterate_redelivered elsewhere redelivered ?_ legible
      unfold dequeue
      rw [Effect.run_then_pure]
      exact bufferEvent_attempts client.node
        (broadcastEvents_keepsCache before.receiver elsewhere) item
        server.node.rid before.sender
  | timeout fate elsewhere =>
      refine iterate_redelivered elsewhere redelivered ?_ legible
      exact handleEmpty_attempts client.node
        (broadcastEvents_keepsCache before.receiver elsewhere)
        server.node.rid before.sender
  | stopWorker fate elsewhere =>
      refine iterate_redelivered elsewhere redelivered ?_ legible
      unfold dequeue
      rw [Effect.run_then_pure]
      exact flushAll_attempts
        (broadcastEvents_keepsCache before.receiver elsewhere)
        server.node.rid before.sender
  | senderChanges state pollEventBuf => exact redelivered
  | receiverChanges state => exact redelivered

/-- In every run, the events that are no longer buffered have been queued by
the receiver, in order; it has queued nothing but what was buffered for it, and
the last object it has queued about an RID is the last of those events, or of
these and some that are still buffered. -/
theorem delivered_of_trace {actions : List LinkAction}
    {sender receiver : EventWorkerState}
    (empty : sender.broadcastEventBuf.pending server.node.rid = [])
    (trace : Trace (Step client server) actions (opened sender receiver)
      link) :
    ∃ acknowledged,
      link.buffered = acknowledged ++
        link.sender.broadcastEventBuf.pending server.node.rid ∧
      (acknowledged.map (Medium.queuedFrom client)).Sublist link.received ∧
      (∀ kobj ∈ link.received, ∃ event ∈ link.buffered,
        kobj = Medium.queuedFrom client event) ∧
      ∀ rid, ∃ early,
        early <+: link.sender.broadcastEventBuf.pending server.node.rid ∧
          latest (fun kobj => kobj.rid = rid) link.received =
            latest (fun kobj => kobj.rid = rid)
              ((acknowledged ++ early).map (Medium.queuedFrom client)) := by
  have initial : Redelivered client server (opened sender receiver) := by
    have nothing : (channel sender server.node.rid).pending = [] := empty
    refine ⟨[], [], ?_, ?_, rfl⟩
    · rw [show (channel (opened sender receiver).sender
        server.node.rid).pending = [] from nothing]
      exact .start
    · exact nothing.symm
  obtain ⟨acknowledged, events, redelivers, stream, received⟩ :
      Redelivered client server link :=
    trace.invariant (fun kept step => step_redelivered kept step) initial
  refine ⟨acknowledged, stream, ?_, ?_, ?_⟩
  · rw [received]
    exact redelivers.sublist.map _
  · intro kobj member
    rw [received] at member
    obtain ⟨event, inEvents, rfl⟩ := List.mem_map.mp member
    refine ⟨event, ?_, rfl⟩
    rw [stream]
    exact redelivers.subset inEvents
  · intro rid
    obtain ⟨early, isPrefix, same⟩ := redelivers.latest_received
      fun event => decide ((Medium.queuedFrom client event).rid = rid)
    refine ⟨early, isPrefix, ?_⟩
    rw [received, latest_map, latest_map]
    exact congrArg _ same

namespace Farewell

/-- The newcomer's worker before its farewell. -/
def sender : EventWorkerState :=
  { node := Acquaintance.newcomerState
    pollEventBuf := .empty
    broadcastEventBuf := .empty
    broadcasts := [] }

def receiver : EventWorkerState :=
  Acquaintance.withCache (Cache.empty.write Newcomer.bundle)

def buffers : LinkAction :=
  .dequeue { event := Acquaintance.farewell, target := Acquaintance.node.rid }
    .answered fun _ _ _ _ _ => .unreachable

/-- The reply to the broadcast is lost. -/
def broadcasts : LinkAction :=
  .stopWorker .replyLost fun _ _ _ _ _ => .unreachable

def waiting : Link :=
  (opened sender receiver).act Acquaintance.newcomer Acquaintance.acquaintance
    buffers

def unacknowledged : Link :=
  waiting.act Acquaintance.newcomer Acquaintance.acquaintance broadcasts

theorem trace :
    Trace (Step Acquaintance.newcomer Acquaintance.acquaintance)
      [buffers, broadcasts] (opened sender receiver) unacknowledged := by
  have unsent : (channel waiting.sender
      Acquaintance.acquaintance.node.rid).batches = [] := rfl
  have sent : (channel unacknowledged.sender
      Acquaintance.acquaintance.node.rid).batches =
        [[Acquaintance.farewell]] := rfl
  have first : Step Acquaintance.newcomer Acquaintance.acquaintance buffers
      (opened sender receiver) waiting := by
    refine ⟨rfl, fun events member => ?_⟩
    rw [unsent] at member
    cases member
  have second : Step Acquaintance.newcomer Acquaintance.acquaintance
      broadcasts waiting unacknowledged := by
    refine ⟨rfl, fun events member => ?_⟩
    rw [sent] at member
    cases List.mem_singleton.mp member
    exact Acquaintance.farewell_legible
  exact .cons first (.cons second (.nil _))

end Farewell

theorem delivered_of_trace_farewell :
    ∃ acknowledged,
      Farewell.unacknowledged.buffered = acknowledged ++
        Farewell.unacknowledged.sender.broadcastEventBuf.pending
          Acquaintance.acquaintance.node.rid ∧
      (acknowledged.map (Medium.queuedFrom Acquaintance.newcomer)).Sublist
        Farewell.unacknowledged.received ∧
      (∀ kobj ∈ Farewell.unacknowledged.received,
        ∃ event ∈ Farewell.unacknowledged.buffered,
          kobj = Medium.queuedFrom Acquaintance.newcomer event) ∧
      ∀ rid, ∃ early,
        early <+: Farewell.unacknowledged.sender.broadcastEventBuf.pending
            Acquaintance.acquaintance.node.rid ∧
          latest (fun kobj => kobj.rid = rid) Farewell.unacknowledged.received =
            latest (fun kobj => kobj.rid = rid)
              ((acknowledged ++ early).map
                (Medium.queuedFrom Acquaintance.newcomer)) :=
  delivered_of_trace rfl Farewell.trace

end Link

end KoiNet
