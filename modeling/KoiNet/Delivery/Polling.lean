import KoiNet.Delivery.Losslessness
import KoiNet.Delivery.Polls
import KoiNet.Foundation.Execution

/-!
# Polling a server over a network that loses messages

The event worker of a server buffers events for a client that polls them.  The
server answers whatever requests arrive in between, and both do whatever else
they do.  The client queues every event at most once and in order, and loses
one only with the reply to a poll or with a poll that is aborted.
-/

namespace KoiNet

open Foundation

namespace EventProcessingWorker

variable (broadcastEvents : KoiNetNode → List Event → NodeM Unit)
  (node : Node)

/-- The frame of what leaves the poll buffer alone. -/
def besidesPolls : Frame EventWorkerState :=
  Frame.unchanged EventWorkerState.pollEventBuf

theorem flushAndBroadcast_besides (target : KoiNetNode) (forceFlush : Bool) :
    besidesPolls.Keeps
      (flushAndBroadcast broadcastEvents target forceFlush) := by
  have tried (events : List Event) :
      besidesPolls.Keeps (broadcast broadcastEvents target events) :=
    Frame.keeps_bind (Frame.keeps_modify fun _ => rfl) fun _ _ => rfl
  apply Frame.keeps_tryExcept
  · apply Frame.keeps_bind (Frame.keeps_modify fun _ => rfl)
    intro _
    apply Frame.keeps_bind Frame.keeps_get
    intro state
    split
    · exact tried []
    · apply Frame.keeps_onRaise
      · exact Frame.keeps_bind (tried _) fun _ =>
          Frame.keeps_modify fun _ => rfl
      · exact Frame.keeps_pure ()
  · exact Frame.keeps_pure ()

theorem time_besides : besidesPolls.Keeps (time node) :=
  Frame.keeps_bind Frame.keeps_get fun _ =>
    Frame.keeps_bind (Frame.keeps_modify fun _ => rfl)
      fun _ => Frame.keeps_pure _

theorem flushOverdue_besides (target : KoiNetNode) :
    besidesPolls.Keeps (flushOverdue broadcastEvents node target) := by
  apply Frame.keeps_bind Frame.keeps_get
  intro state
  split
  · exact Frame.keeps_pure ()
  · split
    · exact Frame.keeps_pure ()
    · apply Frame.keeps_bind (time_besides node)
      intro now
      split
      · exact flushAndBroadcast_besides broadcastEvents target false
      · exact Frame.keeps_pure ()

/-- An iteration of the main loop; `none` is a timeout. -/
def iterated (item : Option EventQueueItem) (state : EventWorkerState) :
    EventWorkerState :=
  match item with
  | none => ((handleEmpty broadcastEvents node).run state).2
  | some item => ((dequeue broadcastEvents node item).run state).2

/-- The events that an iteration buffers for a node that polls. -/
def polledFor (target : KoiNetNode) (item : Option EventQueueItem)
    (state : NodeState) : List Event :=
  match item with
  | some (.queued item) =>
      eventsTo target (toPollBuf item (route node state item.target))
  | _ => []

theorem bufferEvent_polls (item : QueuedEvent) (target : KoiNetNode)
    (state : EventWorkerState) :
    ((bufferEvent broadcastEvents node item).run
        state).2.pollEventBuf.pending target =
      state.pollEventBuf.pending target ++
        eventsTo target (toPollBuf item (route node state.node item.target)) := by
  rw [bufferEvent_after]
  cases route node state.node item.target with
  | broadcast =>
      have kept : besidesPolls.Keeps
          (bufferBroadcast broadcastEvents node item) := by
        apply Frame.keeps_bind
        · exact Frame.keeps_bind (time_besides node) fun _ =>
            Frame.keeps_modify fun _ => rfl
        · intro _
          apply Frame.keeps_bind Frame.keeps_get
          intro state
          split
          · exact flushAndBroadcast_besides broadcastEvents item.target false
          · exact Frame.keeps_pure ()
      have same : ((bufferBroadcast broadcastEvents node item).run
          state).2.pollEventBuf = state.pollEventBuf := kept state
      simp [same, toPollBuf, eventsTo]
  | poll =>
      have routes : Iterates (fun _ _ => .ok ()) [] [item] state _ :=
        pushPoll_routes node item state
      exact routes.poll target
  | nowhere => simp [toPollBuf, eventsTo]

theorem iterated_polls (item : Option EventQueueItem) (target : KoiNetNode)
    (state : EventWorkerState) :
    (iterated broadcastEvents node item state).pollEventBuf.pending target =
      state.pollEventBuf.pending target ++
        polledFor node target item state.node := by
  unfold iterated polledFor
  cases item with
  | none =>
      have kept : besidesPolls.Keeps (handleEmpty broadcastEvents node) :=
        Frame.keeps_bind Frame.keeps_get fun _ =>
          Frame.keeps_forEach (flushOverdue_besides broadcastEvents node) _
      have same : ((handleEmpty broadcastEvents node).run
          state).2.pollEventBuf = state.pollEventBuf := kept state
      simp [same]
  | some item =>
      cases item with
      | stopWorker =>
          have kept : besidesPolls.Keeps (flushAll broadcastEvents) :=
            Frame.keeps_bind Frame.keeps_get fun _ =>
              Frame.keeps_forEach (fun target =>
                flushAndBroadcast_besides broadcastEvents target true) _
          have same : ((flushAll broadcastEvents).run
              state).2.pollEventBuf = state.pollEventBuf := kept state
          unfold dequeue
          dsimp only
          rw [Effect.run_then_pure, same, List.append_nil]
      | queued item =>
          unfold dequeue
          dsimp only
          rw [Effect.run_then_pure]
          exact bufferEvent_polls broadcastEvents node item target state

end EventProcessingWorker

namespace ResponseHandler

open EventProcessingWorker

theorem respond_besides (node : Node) {path : Path} (payload : path.Request)
    (source : KoiNetNode) (other : path ≠ .pollEvents) :
    besidesPolls.Keeps (respond node path payload source) := by
  intro state
  by_cases broadcasts : path = .broadcastEvents
  · subst broadcasts
    rw [respond_broadcast]
    rfl
  · obtain ⟨_, responded⟩ :=
      respond_reads node payload source state broadcasts other
    rw [responded]
    exact besidesPolls.refl state

/-- A poll takes events from the buffer of its source. -/
theorem respond_takes (node : Node) (path : Path) (payload : path.Request)
    (source target : KoiNetNode) (state : EventWorkerState) :
    ∃ taken,
      state.pollEventBuf.pending target = taken ++
        ((respond node path payload source).run
          state).2.pollEventBuf.pending target ∧
      (taken ≠ [] → path = .pollEvents ∧ source = target) := by
  by_cases polls : path = .pollEvents
  · subst polls
    by_cases isSource : source = target
    · subst isSource
      exact ⟨_, (state.pollEventBuf.flush_append_pending source
        payload.limit).symm, fun _ => ⟨rfl, rfl⟩⟩
    · refine ⟨[], ?_, by simp⟩
      have kept := (state.pollEventBuf.flush_others payload.limit
        (Ne.symm isSource)).1
      exact (congrArg (fun events => events.getD []) kept).symm
  · refine ⟨[], ?_, by simp⟩
    have kept : ((respond node path payload source).run
        state).2.pollEventBuf = state.pollEventBuf :=
      respond_besides node payload source polls state
    simp [kept]

end ResponseHandler

/-- A request of any kind takes events from the poll buffer of a node only if it
is a poll in the node's name. -/
theorem NodeServer.endpoint_takes {medium : Medium} (server : medium.Peer)
    (path : Path) (body : String) (state : EventWorkerState)
    (target : KoiNetNode) :
    ∃ taken,
      state.pollEventBuf.pending target = taken ++
        (endpoint medium server path body state).2.pollEventBuf.pending
          target ∧
      (taken ≠ [] → path = .pollEvents ∧
        ∃ req, (medium.requestText path).decode body = some req ∧
          req.sourceNode = target) := by
  rcases endpoint_cases server path body state with
    unchanged | ⟨req, _, _, read, _, responded⟩
  · rw [unchanged]
    exact ⟨[], rfl, by simp⟩
  · obtain ⟨taken, split, polls⟩ := ResponseHandler.respond_takes server.node
      path req.payload req.sourceNode target state
    rw [responded] at split
    refine ⟨taken, split, fun some => ?_⟩
    obtain ⟨isPoll, isSource⟩ := polls some
    exact ⟨isPoll, req, read, isSource⟩

/-- A client and a server that it polls, with the events that the server has
buffered for the client and the objects that the client has queued from it. -/
structure Polling where
  calls : CallState
  buffered : List Event
  received : List KnowledgeObject

/-- A poll, in which the network decides the fate of the request to the server,
an iteration of the server's event worker, a request to the server from anyone,
or a change of one of the two made by another component. -/
inductive PollingAction where
  | poll (fate : Fate) (elsewhere : OtherAnswers)
  | work (item : Option EventQueueItem)
      (broadcastEvents : KoiNetNode → List Event → NodeM Unit)
  | request (path : Path) (body : String)
  | clientChanges (state : NodeState)
  | serverChanges (state : NodeState)

namespace Polling

open Medium EventProcessingWorker

section Runs

variable {medium : Medium} (client server : medium.Peer)

/-- Nothing is buffered for the client yet. -/
def opened (calls : CallState) : Polling :=
  { calls := calls
    buffered := []
    received := [] }

def polled (fate : Fate) (elsewhere : OtherAnswers) (calls : CallState) :
    Except Exc Unit × CallState :=
  (NodePoller.poll CallState.clientPart client.node
    (pollEvents client server fate elsewhere)).run calls

def act (polling : Polling) : PollingAction → Polling
  | .poll fate elsewhere =>
      let calls := (polled client server fate elsewhere polling.calls).2
      { polling with
        calls := calls
        received := polling.received ++
          (mailbox client server calls).arrived.drop
            (mailbox client server polling.calls).arrived.length }
  | .work item broadcastEvents =>
      { polling with
        calls := { polling.calls with
          server := iterated broadcastEvents server.node item
            polling.calls.server }
        buffered := polling.buffered ++ polledFor server.node client.node.rid
          item polling.calls.server.node }
  | .request path body =>
      { polling with
        calls := { polling.calls with
          server := (NodeServer.endpoint medium server path body
            polling.calls.server).2 } }
  | .clientChanges state =>
      { polling with calls := { polling.calls with client := state } }
  | .serverChanges state =>
      { polling with
        calls := { polling.calls with
          server := { polling.calls.server with node := state } } }

/-- Whatever the client and the server send each other in a poll is read as it
was written. -/
structure Step (action : PollingAction) (before after : Polling) : Prop where
  acts : after = before.act client server action
  legible : ∀ fate elsewhere, action = .poll fate elsewhere →
    LegiblePoll client server (mailbox client server before.calls).waiting

/-- The reply to a poll is received and verified and the poll is not aborted,
and nobody else polls in the client's name. -/
def Intact (polling : Polling) : PollingAction → Prop
  | .poll fate elsewhere =>
      ¬Loses server fate (mailbox client server polling.calls) ∧
        (polled client server fate elsewhere polling.calls).1 = .ok ()
  | .request path body => path = .pollEvents →
      ∀ req, (medium.requestText path).decode body = some req →
        req.sourceNode ≠ client.node.rid
  | _ => True

/-- What has left the buffer has been queued at most once, in order. -/
def AtMostOnce (polling : Polling) : Prop :=
  ∃ taken,
    polling.buffered =
      taken ++ (mailbox client server polling.calls).waiting ∧
    polling.received.Sublist (taken.map (queuedFrom server))

/-- What has left the buffer has been queued, in order. -/
def Complete (polling : Polling) : Prop :=
  polling.buffered.map (queuedFrom server) =
    polling.received ++
      (mailbox client server polling.calls).waiting.map (queuedFrom server)

variable {client server} {before after : Polling} {action : PollingAction}

/-- What a step takes from the buffer is queued by the client in an intact
step, and in any other all of it is or nothing. -/
theorem step_hands (step : Step client server action before after) :
    ∃ fresh taken,
      after.buffered = before.buffered ++ fresh ∧
      (mailbox client server before.calls).waiting ++ fresh =
        taken ++ (mailbox client server after.calls).waiting ∧
      (after.received = before.received ++ taken.map (queuedFrom server) ∨
        ¬Intact client server before action ∧
          after.received = before.received) := by
  obtain ⟨rfl, legible⟩ := step
  cases action with
  | poll fate elsewhere =>
      have hands : Hands server _ _ (mailbox client server
          (polled client server fate elsewhere before.calls).2) :=
        poll_hands (legible fate elsewhere rfl)
      obtain ⟨taken, split, _, handed⟩ := hands
      refine ⟨[], taken, (List.append_nil _).symm, ?_, ?_⟩
      · rw [List.append_nil]
        exact split
      · unfold act
        dsimp only
        rcases handed with queued | ⟨loses, unqueued⟩
        · rw [queued, List.drop_left]
          exact .inl rfl
        · rw [unqueued, List.drop_length, List.append_nil]
          exact .inr ⟨fun intact => loses.elim intact.1 (· intact.2), rfl⟩
  | work item broadcastEvents =>
      refine ⟨_, [], rfl, ?_, .inl ?_⟩
      · exact (iterated_polls broadcastEvents server.node item client.node.rid
          before.calls.server).symm
      · exact (List.append_nil _).symm
  | request path body =>
      obtain ⟨taken, split, polls⟩ := NodeServer.endpoint_takes server path
        body before.calls.server client.node.rid
      refine ⟨[], taken, (List.append_nil _).symm, ?_, ?_⟩
      · rw [List.append_nil]
        exact split
      · by_cases nothing : taken = []
        · subst nothing
          exact .inl (List.append_nil _).symm
        · obtain ⟨isPoll, req, read, source⟩ := polls nothing
          exact .inr ⟨fun intact => intact isPoll req read source, rfl⟩
  | clientChanges state =>
      refine ⟨[], [], (List.append_nil _).symm, ?_, .inl ?_⟩
      · exact List.append_nil _
      · exact (List.append_nil _).symm
  | serverChanges state =>
      refine ⟨[], [], (List.append_nil _).symm, ?_, .inl ?_⟩
      · exact List.append_nil _
      · exact (List.append_nil _).symm

theorem step_atMostOnce (kept : AtMostOnce client server before)
    (step : Step client server action before after) :
    AtMostOnce client server after := by
  obtain ⟨taken, stream, received⟩ := kept
  obtain ⟨fresh, more, buffered, split, handed⟩ := step_hands step
  refine ⟨taken ++ more, ?_, ?_⟩
  · rw [buffered, stream, List.append_assoc, split, List.append_assoc]
  · rw [List.map_append]
    rcases handed with queued | ⟨_, unqueued⟩
    · rw [queued]
      exact received.append (List.Sublist.refl _)
    · rw [unqueued]
      exact received.trans (List.sublist_append_left _ _)

theorem step_complete (kept : Complete client server before)
    (step : Step client server action before after)
    (intact : Intact client server before action) :
    Complete client server after := by
  obtain ⟨fresh, more, buffered, split, handed⟩ := step_hands step
  have queued := handed.resolve_right fun lost => lost.1 intact
  unfold Complete at kept ⊢
  rw [buffered, queued, List.map_append, kept, List.append_assoc,
    ← List.map_append, split, List.map_append, List.append_assoc]

/-- In every run, what has left the buffer has been queued by the client at
most once, in order. -/
theorem received_of_trace {actions : List PollingAction} {calls : CallState}
    {polling : Polling}
    (empty : calls.server.pollEventBuf.pending client.node.rid = [])
    (trace : Trace (Step client server) actions (opened calls) polling) :
    ∃ taken,
      polling.buffered = taken ++
        polling.calls.server.pollEventBuf.pending client.node.rid ∧
      polling.received.Sublist (taken.map (queuedFrom server)) := by
  have initial : AtMostOnce client server (opened calls) :=
    ⟨[], empty.symm, .slnil⟩
  have kept : AtMostOnce client server polling :=
    trace.invariant (fun kept step => step_atMostOnce kept step) initial
  exact kept

/-- The runs without a lost reply, an aborted poll or a poll by another in the
client's name. -/
def IntactTrace (client server : medium.Peer) :
    List PollingAction → Polling → Polling → Prop :=
  Trace fun action before after =>
    Step client server action before after ∧
      Intact client server before action

theorem complete_of_trace {actions : List PollingAction} {calls : CallState}
    {polling : Polling}
    (empty : calls.server.pollEventBuf.pending client.node.rid = [])
    (trace : IntactTrace client server actions (opened calls) polling) :
    Complete client server polling := by
  have initial : Complete client server (opened calls) := by
    unfold Complete
    rw [show (mailbox client server (opened calls).calls).waiting = [] from
      empty]
    rfl
  exact trace.invariant (fun kept step => step_complete kept step.1 step.2)
    initial

/-- An intact poll that reaches a server that knows the client completes the
delivery. -/
theorem received_of_polled {actions : List PollingAction} {calls : CallState}
    {fate : Fate} {elsewhere : OtherAnswers} {targets : List KoiNetNode}
    (empty : calls.server.pollEventBuf.pending client.node.rid = [])
    (trace : IntactTrace client server actions (opened calls) before)
    (step : Step client server (.poll fate elsewhere) before after)
    (intact : Intact client server before (.poll fate elsewhere))
    (sent : fate ≠ .requestLost)
    (asks : CanPoll client server before.calls)
    (listed : ((NetworkResolver.pollTargets client.node).run
      before.calls.client).1 = .ok targets)
    (member : server.node.rid ∈ targets) :
    after.received = after.buffered.map (queuedFrom server) ∧
      after.calls.server.pollEventBuf.pending client.node.rid = [] := by
  have complete : Complete client server after :=
    step_complete (complete_of_trace empty trace) step intact
  have emptied : (mailbox client server after.calls).waiting = [] := by
    obtain ⟨rfl, legible⟩ := step
    exact poll_empties listed member asks sent
      (legible fate elsewhere rfl).request intact.2
  unfold Complete at complete
  rw [emptied, List.map_nil, List.append_nil] at complete
  exact ⟨complete.symm, emptied⟩

/-- A poll of the server alone ends with its answer. -/
theorem polled_single {fate : Fate} {elsewhere : OtherAnswers}
    {calls : CallState} {payload : EventsPayload}
    (listed : ((NetworkResolver.pollTargets client.node).run
      calls.client).1 = .ok [server.node.rid])
    (answered : ((medium.call client server fate .pollEvents
      ({} : PollEvents)).run calls).1 = .ok payload) :
    (polled client server fate elsewhere calls).1 = .ok () := by
  unfold polled NodePoller.poll NetworkResolver.pollNeighbors
  rw [Effect.run_bind, Effect.run_bind, pollTargets_within, listed]
  have called : pollEvents client server fate elsewhere server.node.rid =
      medium.call client server fate .pollEvents ({} : PollEvents) :=
    if_pos rfl
  unfold NetworkResolver.pollEach NetworkResolver.pollEach
    NetworkResolver.pollNode Effect.tryExcept
  simp only [called, Effect.run_bind]
  generalize (medium.call client server fate .pollEvents
    ({} : PollEvents)).run calls = ended at answered
  obtain ⟨result, after⟩ := ended
  cases answered
  refine Effect.forEach_returns (fun polled state => ?_)
    (Dict.empty.set server.node.rid payload.events).items after
  exact congrArg Prod.fst (KobjQueue.pushEach_run _ polled.2 state.client)

end Runs

namespace Visit

/-- The newcomer, which visits the acquaintance. -/
def node : Node :=
  { Newcomer.node with
    config :=
      { Newcomer.node.config with
        firstContact :=
          { rid := some Acquaintance.node.rid
            url := some "url" } } }

def event : Event :=
  .fromRid .update (.node Acquaintance.node.rid)

def pollModel : EnvelopeModel PollEvents :=
  Path.pollEvents.requestEnvelope Acquaintance.leaves

def answerModel : EnvelopeModel EventsPayload :=
  { payload := EventsPayload.json Acquaintance.leaves
    leavesFaithful := EventsPayload.LeavesFaithful Acquaintance.leaves
    events := Path.pollEvents.responseEvents }

def messages : List Json :=
  [Acquaintance.sealed pollModel node [0, 0, 0] {} Acquaintance.node.rid,
    Acquaintance.sealed answerModel Acquaintance.node [4, 16, 65]
      { events := [event] } Newcomer.rid]

theorem messages_labels : (messages.map Acquaintance.label).Nodup := by
  unfold messages
  simp only [List.map_cons, List.map_nil]
  rw [Acquaintance.label_sealed _ _ _ _ _ (by decide),
    Acquaintance.label_sealed _ _ _ _ _ (by decide)]
  decide

def medium : Medium :=
  { Acquaintance.medium with text := Acquaintance.script messages }

def visitor : medium.Peer :=
  Medium.Peer.rewritten { Acquaintance.newcomer with node := node }
    (Acquaintance.script messages)

def host : medium.Peer :=
  Acquaintance.acquaintance.rewritten (Acquaintance.script messages)

theorem legible : LegiblePoll visitor host [event] :=
  { request :=
      { decodes := trivial
        source := rfl
        target := rfl
        parses := Acquaintance.parses messages_labels List.mem_cons_self }
    answer := fun model listed => by
      cases listed
      exact
        { decodes := fun other member => by
            cases List.mem_singleton.mp member
            exact
              { rid := rfl
                manifest := fun _ member => by cases member
                contents := fun _ member => by cases member }
          source := rfl
          target := rfl
          parses := Acquaintance.parses messages_labels
            (List.mem_cons_of_mem _ List.mem_cons_self) } }

/-- Each knows the other. -/
def calls : CallState :=
  { client := Acquaintance.newcomerState
    server := Acquaintance.withCache (Cache.empty.write Newcomer.bundle) }

def work : PollingAction :=
  .work (some (.queued { event := event, target := Newcomer.rid }))
    fun _ _ => pure ()

def poll : PollingAction :=
  .poll .answered fun _ _ _ _ _ => .unreachable

def waiting : Polling :=
  (opened calls).act visitor host work

theorem worked : Step visitor host work (opened calls) waiting :=
  { acts := rfl
    legible := fun _ _ impossible => by cases impossible }

theorem polls : Step visitor host poll waiting
    (waiting.act visitor host poll) :=
  { acts := rfl
    legible := fun _ _ _ => legible }

theorem asks : CanPoll visitor host waiting.calls :=
  { reaches :=
      { other := by decide
        resolved := ⟨"url", rfl, rfl⟩ }
    known := .cached rfl rfl }

theorem kept : ¬Loses host .answered (mailbox visitor host waiting.calls) := by
  rintro (impossible | unknown)
  · cases impossible
  · exact unknown (.cached rfl rfl)

theorem listed : ((NetworkResolver.pollTargets visitor.node).run
    waiting.calls.client).1 = .ok [host.node.rid] :=
  rfl

theorem waits : (mailbox visitor host waiting.calls).waiting = [event] :=
  rfl

theorem intact : Intact visitor host waiting poll := by
  have read : LegiblePoll visitor host
      (mailbox visitor host waiting.calls).waiting := by
    rw [waits]
    exact legible
  exact ⟨kept, polled_single listed (call_returns asks (by decide) read kept)⟩

end Visit

theorem received_of_trace_visit :
    ∃ taken,
      (Visit.waiting.act Visit.visitor Visit.host Visit.poll).buffered =
        taken ++ (Visit.waiting.act Visit.visitor Visit.host
          Visit.poll).calls.server.pollEventBuf.pending
            Visit.visitor.node.rid ∧
      (Visit.waiting.act Visit.visitor Visit.host
        Visit.poll).received.Sublist (taken.map (queuedFrom Visit.host)) :=
  received_of_trace rfl (.cons Visit.worked (.cons Visit.polls (.nil _)))

theorem received_of_polled_visit :
    (Visit.waiting.act Visit.visitor Visit.host Visit.poll).received =
        (Visit.waiting.act Visit.visitor Visit.host
          Visit.poll).buffered.map (queuedFrom Visit.host) ∧
      (Visit.waiting.act Visit.visitor Visit.host
        Visit.poll).calls.server.pollEventBuf.pending
          Visit.visitor.node.rid = [] :=
  received_of_polled rfl (.cons ⟨Visit.worked, trivial⟩ (.nil _)) Visit.polls
    Visit.intact (by decide) Visit.asks Visit.listed List.mem_cons_self

end Polling

end KoiNet
