import KoiNet.Components.Poller
import KoiNet.Pipeline.Frames
import KoiNet.Pipeline.Neighbors
import KoiNet.Security.RemoteCalls

/-!
# What a poll does to the buffer that is polled

A poll asks every neighbor once.  A server that is asked hands over everything
it has buffered for the client, and the client queues all of it or, if the
reply does not get through or the poll is aborted by another neighbor, nothing.
-/

namespace KoiNet

open Foundation

namespace NetworkResolver

variable {node : Node} {frame : Frame NodeState} {state after : NodeState}

theorem collectFull_keeps (found neighbors : List KoiNetNode) :
    frame.Keeps (collectFull found neighbors) := by
  induction found generalizing neighbors with
  | nil => exact Frame.keeps_pure _
  | cons nodeRid rest induction =>
      apply Frame.keeps_bind Frame.keeps_get
      intro state
      split
      · exact induction neighbors
      · apply Frame.keeps_bind (keeps_validateContents _ _)
        intro nodeProfile
        split
        · exact induction neighbors
        · exact induction _

theorem pollTargets_keeps : frame.Keeps (pollTargets node) := by
  apply Frame.keeps_bind (getNeighbors_keeps none none none)
  intro found
  apply Frame.keeps_bind (collectFull_keeps found [])
  intro neighbors
  split
  · exact Frame.keeps_pure _
  · exact Frame.keeps_pure _

theorem collectFull_sublist {found neighbors collected : List KoiNetNode}
    (returned : (collectFull found neighbors).run state =
      (.ok collected, after)) :
    collected.Sublist (neighbors ++ found) := by
  induction found generalizing neighbors with
  | nil =>
      cases returned
      simp
  | cons nodeRid rest induction =>
      have skipped : (neighbors ++ rest).Sublist
          (neighbors ++ nodeRid :: rest) :=
        (List.Sublist.refl neighbors).append (List.sublist_cons_self _ _)
      unfold collectFull at returned
      rw [Effect.run_get_bind] at returned
      split at returned
      · exact (induction returned).trans skipped
      · obtain ⟨profile, between, validated, returned⟩ :=
          Effect.run_bind_eq_ok_iff.mp returned
        rw [validateContents_run] at validated
        split at validated
        · cases validated
          split at returned
          · exact (induction returned).trans skipped
          · have collected := induction returned
            rwa [List.append_assoc] at collected
        · cases validated

theorem pollTargets_nodup {targets : List KoiNetNode}
    (returned : (pollTargets node).run state = (.ok targets, after)) :
    targets.Nodup := by
  obtain ⟨found, between, listed, returned⟩ :=
    Effect.run_bind_eq_ok_iff.mp returned
  obtain ⟨neighbors, read, collected, returned⟩ :=
    Effect.run_bind_eq_ok_iff.mp returned
  split at returned
  · cases returned
    cases node.config.firstContact.rid <;> simp
  · cases returned
    exact (getNeighbors_nodup listed).sublist (collectFull_sublist collected)

theorem pollNode_run {σ : Type}
    (pollEvents : KoiNetNode → Effect Exc σ EventsPayload)
    (nodeRid : KoiNetNode) (state : σ) :
    ((pollNode pollEvents nodeRid).run state).2 =
        ((pollEvents nodeRid).run state).2 ∧
      ∀ result, ((pollNode pollEvents nodeRid).run state).1 = .ok result →
        result = ((pollEvents nodeRid).run state).1.toOption.map
          EventsPayload.events := by
  unfold pollNode Effect.tryExcept
  simp only [Effect.run_bind]
  generalize (pollEvents nodeRid).run state = ended
  obtain ⟨answered, after⟩ := ended
  cases answered with
  | ok payload => simp [Except.toOption, eq_comm]
  | error failure =>
      dsimp only
      split
      · simp [Except.toOption, eq_comm]
      · simp

end NetworkResolver

/-- What waits for a client in the poll buffer of a server, what the client has
queued from the server, and its cache. -/
structure Mailbox where
  waiting : List Event
  arrived : List KnowledgeObject
  cache : Cache

/-- Nothing waits any more. -/
def Mailbox.emptied (mailbox : Mailbox) : Mailbox :=
  { mailbox with waiting := [] }

namespace Medium

variable {medium : Medium} (client server : medium.Peer) (fate : Fate)
  (elsewhere : OtherAnswers)

def mailbox (state : CallState) : Mailbox :=
  { waiting := state.server.pollEventBuf.pending client.node.rid
    arrived := state.client.kobjQueue.filter fun kobj =>
      kobj.source = some server.node.rid
    cache := state.client.cache }

/-- `poll_events` of the client in a network of this server and others. -/
def pollEvents (peer : KoiNetNode) : Effect Exc CallState EventsPayload :=
  if peer = server.node.rid then
    medium.call client server fate .pollEvents ({} : PollEvents)
  else
    CallState.clientPart.within
      (RequestHandler.pollEvents { client.node with answer := elsewhere } peer)

/-- The reply to a poll is lost, or the client cannot verify it. -/
def Loses (mailbox : Mailbox) : Prop :=
  fate = .replyLost ∨
    ¬Introduced server.node mailbox.cache
      (some { events := mailbox.waiting })

/-- Everything that waits is taken or nothing, and what is taken is handed to
the client or, under a condition, lost. -/
inductive Takes (loses : Prop) (before : Mailbox) :
    Mailbox → Option (List Event) → Prop where
  | nothing : Takes loses before before none
  | everything : Takes loses before before.emptied (some before.waiting)
  | lost : loses → Takes loses before before.emptied none

/-- What is read as it was written when the server is polled. -/
structure LegiblePoll (waiting : List Event) : Prop where
  request : Legible (Path.pollEvents.requestEnvelope medium.leaves) client
    server {}
  answer : ∀ model, Path.pollEvents.responseEnvelope medium.leaves =
    some model → Legible model server client { events := waiting }

variable {client server fate elsewhere} {state : CallState}

theorem Takes.mono {weaker loses : Prop} {before after : Mailbox}
    {got : Option (List Event)} (takes : Takes loses before after got)
    (included : loses → weaker) : Takes weaker before after got := by
  cases takes with
  | nothing => exact .nothing
  | everything => exact .everything
  | lost holds => exact .lost (included holds)

/-- The frame of what has nothing to do with the server. -/
def quiet (client server : medium.Peer) : Frame CallState :=
  Frame.unchanged fun state => (mailbox client server state, state.server)

theorem request_arrived (server : medium.Peer) (node : Node)
    (peer : KoiNetNode) (path : Path) (request : path.Request)
    (state : NodeState) :
    (((RequestHandler.makeRequest node peer path request).run
        state).2.kobjQueue.filter fun kobj =>
          kobj.source = some server.node.rid) =
      (state.kobjQueue.filter fun kobj =>
        kobj.source = some server.node.rid) ∧
      ((RequestHandler.makeRequest node peer path request).run
        state).2.cache = state.cache := by
  have kept : (Frame.unchanged fun state : NodeState =>
      (state.kobjQueue.filter fun kobj => kobj.source = some server.node.rid,
        state.cache)).Keeps
      (RequestHandler.makeRequest node peer path request) := by
    apply makeRequest_keeps
    · intro _ _ _
      rfl
    · intro _ _ _ _
      apply Frame.keeps_bind Frame.keeps_get
      intro state
      refine Frame.keeps_bind (Frame.keeps_modify fun _ => rfl) fun _ => ?_
      split
      · apply Frame.keeps_modify
        intro state
        simp [Frame.unchanged, KnowledgeObject.fromRid]
      · exact Frame.keeps_pure ()
  exact Prod.mk.inj (kept state)

theorem within_quiet {α : Type} {body : NodeM α}
    (kept : ∀ state : NodeState,
      ((body.run state).2.kobjQueue.filter fun kobj =>
          kobj.source = some server.node.rid) =
        (state.kobjQueue.filter fun kobj =>
          kobj.source = some server.node.rid) ∧
        (body.run state).2.cache = state.cache) :
    (quiet client server).Keeps (CallState.clientPart.within body) := by
  intro state
  obtain ⟨arrived, cache⟩ := kept state.client
  change (mailbox client server
    { state with client := (body.run state.client).2 }, state.server) = _
  simp only [mailbox, arrived, cache]

theorem pollEvents_quiet {peer : KoiNetNode} (other : peer ≠ server.node.rid) :
    (quiet client server).Keeps
      (pollEvents client server fate elsewhere peer) := by
  unfold pollEvents
  rw [if_neg other]
  exact within_quiet (request_arrived server _ _ _ _)

theorem respond_poll (node : Node) (source : KoiNetNode)
    (state : EventWorkerState) :
    ∃ after,
      (ResponseHandler.respond node .pollEvents ({} : PollEvents) source).run
        state =
          (.ok (some { events := state.pollEventBuf.pending source }),
            after) ∧
      after.pollEventBuf.pending source = [] := by
  obtain ⟨all, nothing⟩ := state.pollEventBuf.flush_unlimited source
  refine ⟨EventWorkerState.pollPart.update
    (fun _ => (state.pollEventBuf.flush source).2) state, ?_, nothing⟩
  rw [← all]
  rfl

/-- The mailbox after a poll, of which only the server's side changes. -/
theorem mailbox_call (state : CallState) :
    mailbox client server ((medium.call client server fate .pollEvents
        ({} : PollEvents)).run state).2 =
      { mailbox client server state with
        waiting := (medium.served client server fate state.client.cache
          state.server .pollEvents
          ({} : PollEvents)).pollEventBuf.pending client.node.rid } := by
  obtain ⟨arrived, cache⟩ := request_arrived server (client.node.over
    medium.library.toCryptography (medium.wire client server fate
      state.server)) server.node.rid .pollEvents ({} : PollEvents) state.client
  exact Mailbox.mk.injEq .. |>.mpr ⟨rfl, arrived, cache⟩

/-- A poll that is served returns what was waiting, unless it is lost. -/
theorem makeRequest_served
    (legible : LegiblePoll client server
      (mailbox client server state).waiting)
    (arrives : fate ≠ .requestLost)
    (posts : medium.Posts client server state.client.cache .pollEvents)
    (sent : (medium.deliver client server state.server server.node.rid
      .pollEvents ({} : PollEvents)).1 =
        NodeServer.reply medium .pollEvents (some <$>
          SecureManager.createEnvelope server.node medium.library
            server.privKey (medium.dumpResponse .pollEvents)
            { events := (mailbox client server state).waiting }
            client.node.rid))
    (kept : ¬Loses server fate (mailbox client server state)) :
    ((medium.makeRequest client server fate state.server .pollEvents
      ({} : PollEvents)).run state.client).1 =
        .ok { events := (mailbox client server state).waiting } := by
  obtain ⟨notLost, introduced⟩ := not_or.mp kept
  have answered : fate = .answered := by
    cases fate with
    | answered => rfl
    | requestLost => exact absurd rfl arrives
    | replyLost => exact absurd rfl notLost
  subst answered
  obtain ⟨text, replied, unwrapped⟩ := unwrap_arrived .answered state.server
    rfl rfl rfl ⟨legible.answer _ rfl, not_not.mp introduced⟩
  rw [makeRequest_unwrapped posts.reaches (sent.trans replied) unwrapped]

/-- The server answers a poll with everything that waits, or not at all. -/
theorem call_takes
    (legible : LegiblePoll client server
      (mailbox client server state).waiting) :
    Takes (Loses server fate (mailbox client server state))
      (mailbox client server state)
      (mailbox client server ((medium.call client server fate .pollEvents
        ({} : PollEvents)).run state).2)
      ((((medium.call client server fate .pollEvents
        ({} : PollEvents)).run state).1.toOption).map
          EventsPayload.events) := by
  rw [mailbox_call]
  change Takes _ _ _ (Option.map EventsPayload.events
    (((medium.makeRequest client server fate state.server .pollEvents
      ({} : PollEvents)).run state.client).1.toOption))
  rcases served_legible fate state.client.cache state.server
    legible.request with
      ⟨response, responded, arrives, posts, sent⟩ | ⟨unserved, unanswered⟩
  · obtain ⟨after, ran, emptied⟩ :=
      respond_poll server.node client.node.rid state.server
    rw [ran] at responded
    obtain ⟨answer, served⟩ := Prod.mk.inj responded
    cases answer
    rw [← served, emptied]
    cases returned : ((medium.makeRequest client server fate state.server
        .pollEvents ({} : PollEvents)).run state.client).1 with
    | ok payload =>
        have same := returned_answer rfl rfl (legible.answer _ rfl) sent
          returned
        rw [same]
        exact .everything
    | error failure =>
        apply Takes.lost
        by_contra kept
        rw [makeRequest_served legible arrives posts sent kept] at returned
        cases returned
  · rw [unserved]
    cases returned : ((medium.makeRequest client server fate state.server
        .pollEvents ({} : PollEvents)).run state.client).1 with
    | ok payload =>
        exact absurd returned (unanswered state.client payload rfl)
    | error failure => exact .nothing

open NetworkResolver

/-- What has become of the mailbox, and what of it the result of the poll says;
an aborted poll loses what it has taken. -/
def Polled (server : medium.Peer) (loses : Prop) (before after : Mailbox)
    (earlier : Option (List Event)) :
    Except Exc (Dict KoiNetNode (List Event)) → Prop
  | .error _ => ∃ got, Takes True before after got
  | .ok eventDict => ∃ got, Takes loses before after got ∧
      eventDict.get? server.node.rid = got.or earlier

theorem pollEach_quiet {targets : List KoiNetNode}
    (absent : server.node.rid ∉ targets)
    (eventDict : Dict KoiNetNode (List Event)) (state : CallState) :
    (quiet client server).rel state
        ((pollEach (pollEvents client server fate elsewhere) targets
          eventDict).run state).2 ∧
      ∀ result, ((pollEach (pollEvents client server fate elsewhere) targets
          eventDict).run state).1 = .ok result →
        result.get? server.node.rid = eventDict.get? server.node.rid := by
  induction targets generalizing eventDict state with
  | nil =>
      refine ⟨rfl, fun result returned => ?_⟩
      cases returned
      rfl
  | cons nodeRid rest induction =>
      obtain ⟨different, absent⟩ := not_or.mp (List.mem_cons.not.mp absent)
      have kept : (quiet client server).rel state ((pollEvents client server
          fate elsewhere nodeRid).run state).2 :=
        pollEvents_quiet (Ne.symm different) state
      obtain ⟨asked, _⟩ := pollNode_run
        (pollEvents client server fate elsewhere) nodeRid state
      rw [← asked] at kept
      unfold pollEach
      rw [Effect.run_bind]
      generalize (pollNode (pollEvents client server fate elsewhere)
        nodeRid).run state = ended at kept
      obtain ⟨answered, after⟩ := ended
      cases answered with
      | error failure => exact ⟨kept, by simp⟩
      | ok got =>
          cases got with
          | none =>
              obtain ⟨later, named⟩ := induction absent eventDict after
              exact ⟨(quiet client server).trans kept later, named⟩
          | some events =>
              obtain ⟨later, named⟩ :=
                induction absent (eventDict.set nodeRid events) after
              rw [Dict.get?_set_ne _ _ different] at named
              exact ⟨(quiet client server).trans kept later, named⟩

theorem pollEach_later {loses : Prop} {before : Mailbox}
    {got earlier : Option (List Event)} {targets : List KoiNetNode}
    {eventDict : Dict KoiNetNode (List Event)}
    (absent : server.node.rid ∉ targets)
    (takes : Takes loses before (mailbox client server state) got)
    (named : eventDict.get? server.node.rid = got.or earlier) :
    Polled server loses before
      (mailbox client server ((pollEach (pollEvents client server fate
        elsewhere) targets eventDict).run state).2) earlier
      ((pollEach (pollEvents client server fate elsewhere) targets
        eventDict).run state).1 := by
  have later : (quiet client server).rel state ((pollEach (pollEvents client
      server fate elsewhere) targets eventDict).run state).2 ∧ _ :=
    pollEach_quiet absent eventDict state
  obtain ⟨kept, same⟩ := later
  rw [(Prod.mk.inj kept).1]
  cases ended : ((pollEach (pollEvents client server fate elsewhere) targets
      eventDict).run state).1 with
  | error failure => exact ⟨got, takes.mono fun _ => trivial⟩
  | ok result => exact ⟨got, takes, (same result ended).trans named⟩

theorem pollEach_polled {targets : List KoiNetNode} (nodup : targets.Nodup)
    (eventDict : Dict KoiNetNode (List Event))
    (legible : LegiblePoll client server
      (mailbox client server state).waiting) :
    Polled server (Loses server fate (mailbox client server state))
      (mailbox client server state)
      (mailbox client server ((pollEach (pollEvents client server fate
        elsewhere) targets eventDict).run state).2)
      (eventDict.get? server.node.rid)
      ((pollEach (pollEvents client server fate elsewhere) targets
        eventDict).run state).1 := by
  induction targets generalizing eventDict state with
  | nil => exact ⟨none, .nothing, rfl⟩
  | cons nodeRid rest induction =>
      obtain ⟨fresh, distinct⟩ := List.nodup_cons.mp nodup
      obtain ⟨asked, got⟩ := pollNode_run
        (pollEvents client server fate elsewhere) nodeRid state
      unfold pollEach
      rw [Effect.run_bind]
      by_cases isServer : nodeRid = server.node.rid
      · subst isServer
        have takes : Takes (Loses server fate (mailbox client server state))
            (mailbox client server state)
            (mailbox client server ((pollEvents client server fate elsewhere
              server.node.rid).run state).2)
            (((pollEvents client server fate elsewhere
              server.node.rid).run state).1.toOption.map
                EventsPayload.events) := by
          unfold pollEvents
          rw [if_pos rfl]
          exact call_takes legible
        rw [← asked] at takes
        generalize (pollNode (pollEvents client server fate elsewhere)
          server.node.rid).run state = ended at takes got
        obtain ⟨answered, after⟩ := ended
        cases answered with
        | error failure => exact ⟨_, takes.mono fun _ => trivial⟩
        | ok result =>
            rw [← got result rfl] at takes
            cases result with
            | none => exact pollEach_later fresh takes rfl
            | some events =>
                exact pollEach_later fresh takes (Dict.get?_set_self ..)
      · have kept : (quiet client server).rel state ((pollEvents client server
            fate elsewhere nodeRid).run state).2 :=
          pollEvents_quiet isServer state
        rw [← asked] at kept
        generalize (pollNode (pollEvents client server fate elsewhere)
          nodeRid).run state = ended at kept
        obtain ⟨answered, after⟩ := ended
        rw [← (Prod.mk.inj kept).1] at legible ⊢
        cases answered with
        | error failure => exact ⟨none, .nothing⟩
        | ok result =>
            cases result with
            | none => exact induction distinct eventDict legible
            | some events =>
                have later := induction distinct
                  (eventDict.set nodeRid events) legible
                rwa [Dict.get?_set_ne _ _ (Ne.symm isServer)] at later

theorem pushEach_run (items : List (KoiNetNode × List Event))
    (state : NodeState) :
    (Effect.forEach items NodePoller.pushAll).run state =
      (.ok (), state.withQueue (state.kobjQueue ++ items.flatMap fun polled =>
        polled.2.map fun event => .fromEvent event (some polled.1))) := by
  induction items generalizing state with
  | nil => simp [NodeState.withQueue]
  | cons polled rest induction =>
      have pushed : (NodePoller.pushAll polled).run state = _ :=
        KobjQueue.pushEach_run _ polled.2 state
      rw [Effect.forEach, Effect.run_bind_of_ok pushed, induction]
      simp [NodeState.withQueue]

theorem filter_answers (server : medium.Peer)
    {items : List (KoiNetNode × List Event)}
    (nodup : (items.map Prod.fst).Nodup) :
    ((items.flatMap fun polled => polled.2.map fun event =>
        KnowledgeObject.fromEvent event (some polled.1)).filter fun kobj =>
          kobj.source = some server.node.rid) =
      ((Dict.findItem server.node.rid items).getD []).map (queuedFrom server) := by
  have own (events : List Event) : (events.map fun event =>
      KnowledgeObject.fromEvent event (some server.node.rid)).filter
        (fun kobj => kobj.source = some server.node.rid) =
      events.map (queuedFrom server) := by
    apply List.filter_eq_self.mpr
    intro kobj member
    obtain ⟨event, _, rfl⟩ := List.mem_map.mp member
    simp [KnowledgeObject.fromEvent]
  have others {peer : KoiNetNode} (different : peer ≠ server.node.rid)
      (events : List Event) : (events.map fun event =>
        KnowledgeObject.fromEvent event (some peer)).filter
          (fun kobj => kobj.source = some server.node.rid) = [] := by
    apply List.filter_eq_nil_iff.mpr
    intro kobj member
    obtain ⟨event, _, rfl⟩ := List.mem_map.mp member
    simp [KnowledgeObject.fromEvent, different]
  induction items with
  | nil => rfl
  | cons polled rest induction =>
      obtain ⟨peer, events⟩ := polled
      obtain ⟨fresh, distinct⟩ := List.nodup_cons.mp nodup
      rw [List.flatMap_cons, List.filter_append, induction distinct]
      by_cases isServer : peer = server.node.rid
      · subst isServer
        have absent : Dict.findItem server.node.rid rest = none := by
          rw [Option.eq_none_iff_forall_ne_some]
          intro events found
          have member := (Dict.findItem_eq_some_iff distinct).mp found
          exact fresh (List.mem_map.mpr ⟨_, member, rfl⟩)
        simp [own, absent, Dict.findItem]
      · simp [others isServer, Dict.findItem, isServer]

/-- What has been taken is handed to the client or, under a condition, lost. -/
def Hands (server : medium.Peer) (loses : Prop) (before after : Mailbox) :
    Prop :=
  ∃ taken,
    before.waiting = taken ++ after.waiting ∧
    after.cache = before.cache ∧
    (after.arrived = before.arrived ++ taken.map (queuedFrom server) ∨
      loses ∧ after.arrived = before.arrived)

theorem Takes.hands {loses : Prop} {before after : Mailbox}
    {got : Option (List Event)} (takes : Takes loses before after got) :
    Hands server loses before
      { after with
        arrived := after.arrived ++ (got.getD []).map (queuedFrom server) } := by
  cases takes with
  | nothing => exact ⟨[], rfl, rfl, .inl rfl⟩
  | everything =>
      exact ⟨before.waiting, (List.append_nil _).symm, rfl, .inl rfl⟩
  | lost holds =>
      exact ⟨before.waiting, (List.append_nil _).symm, rfl,
        .inr ⟨holds, List.append_nil _⟩⟩

theorem Hands.mono {loses weaker : Prop} {before after : Mailbox}
    (hands : Hands server loses before after) (included : loses → weaker) :
    Hands server weaker before after := by
  obtain ⟨taken, split, cache, handed⟩ := hands
  exact ⟨taken, split, cache, handed.imp id (And.imp_left included)⟩

theorem Takes.dropped {loses : Prop} {before after : Mailbox}
    {got : Option (List Event)} (takes : Takes loses before after got) :
    Hands server True before after := by
  cases takes with
  | nothing => exact ⟨[], rfl, rfl, .inr ⟨trivial, rfl⟩⟩
  | everything =>
      exact ⟨before.waiting, (List.append_nil _).symm, rfl,
        .inr ⟨trivial, rfl⟩⟩
  | lost =>
      exact ⟨before.waiting, (List.append_nil _).symm, rfl,
        .inr ⟨trivial, rfl⟩⟩

/-- Queueing the answers delivers that of the server. -/
theorem mailbox_pushEach (eventDict : Dict KoiNetNode (List Event))
    (state : CallState) :
    mailbox client server ((Effect.forEach eventDict.items fun polled =>
        CallState.clientPart.within (NodePoller.pushAll polled)).run state).2 =
      { mailbox client server state with
        arrived := (mailbox client server state).arrived ++
          ((eventDict.get? server.node.rid).getD []).map
            (queuedFrom server) } := by
  have answers := filter_answers server eventDict.nodup
  rw [show Dict.findItem server.node.rid eventDict.items =
    eventDict.get? server.node.rid from rfl] at answers
  rw [Part.run_forEach_within, Part.run_within, pushEach_run, ← answers,
    mailbox, mailbox, ← List.filter_append]
  rfl

theorem pollTargets_within (node : Node) (state : CallState) :
    (CallState.clientPart.within (pollTargets node)).run state =
      (((pollTargets node).run state.client).1, state) := by
  have unchanged : (Frame.unchanged id).Keeps (pollTargets node) :=
    pollTargets_keeps
  have kept : ((pollTargets node).run state.client).2 = state.client :=
    unchanged state.client
  rw [Part.run_within, show CallState.clientPart.get state = state.client
    from rfl, kept]
  rfl

/-- A poll that ends without an exception queues what it has taken. -/
theorem poll_hands
    (legible : LegiblePoll client server
      (mailbox client server state).waiting) :
    Hands server
      (Loses server fate (mailbox client server state) ∨
        ((NodePoller.poll CallState.clientPart client.node
          (pollEvents client server fate elsewhere)).run state).1 ≠ .ok ())
      (mailbox client server state)
      (mailbox client server ((NodePoller.poll CallState.clientPart client.node
        (pollEvents client server fate elsewhere)).run state).2) := by
  unfold NodePoller.poll pollNeighbors
  rw [Effect.run_bind, Effect.run_bind, pollTargets_within]
  cases listed : ((pollTargets client.node).run state.client).1 with
  | error failure => exact ⟨[], rfl, rfl, .inl (List.append_nil _).symm⟩
  | ok targets =>
      have nodup := pollTargets_nodup (Prod.ext listed rfl)
      have polled : Polled server _ _ _ _ ((pollEach (pollEvents client server
          fate elsewhere) targets Dict.empty).run state).1 :=
        pollEach_polled nodup Dict.empty legible
      dsimp only
      generalize (pollEach (pollEvents client server fate elsewhere) targets
        Dict.empty).run state = ended at polled
      obtain ⟨result, after⟩ := ended
      cases result with
      | error failure =>
          obtain ⟨got, takes⟩ := polled
          apply takes.dropped.mono
          simp
      | ok eventDict =>
          obtain ⟨got, takes, named⟩ := polled
          dsimp only
          rw [mailbox_pushEach, named, Dict.get?_empty, Option.or_none]
          exact takes.hands.mono Or.inl

/-- The client can reach the server, and the server knows it. -/
structure CanPoll (client server : medium.Peer) (state : CallState) : Prop where
  reaches : Reaches client server state.client.cache
  known : Introduced client.node state.server.node.cache none

/-- A request that reaches the server returns what was waiting, unless that is
lost. -/
theorem call_returns (asks : CanPoll client server state)
    (sent : fate ≠ .requestLost)
    (legible : LegiblePoll client server
      (mailbox client server state).waiting)
    (kept : ¬Loses server fate (mailbox client server state)) :
    ((medium.call client server fate .pollEvents ({} : PollEvents)).run
      state).1 = .ok { events := (mailbox client server state).waiting } := by
  obtain ⟨after, ran, _⟩ :=
    respond_poll server.node client.node.rid state.server
  have arrives : Arrives (Path.pollEvents.requestEnvelope medium.leaves)
      client server state.server.node.cache {} := ⟨legible.request, asks.known⟩
  exact makeRequest_served legible sent (asks.reaches.posts .pollEvents)
    (congrArg Prod.fst (deliver_arrived arrives ran)) kept

theorem call_empties (asks : CanPoll client server state)
    (sent : fate ≠ .requestLost)
    (legible : Legible (Path.pollEvents.requestEnvelope medium.leaves) client
      server {}) :
    (mailbox client server ((medium.call client server fate .pollEvents
      ({} : PollEvents)).run state).2).waiting = [] := by
  obtain ⟨after, ran, emptied⟩ :=
    respond_poll server.node client.node.rid state.server
  have arrives : Arrives (Path.pollEvents.requestEnvelope medium.leaves)
      client server state.server.node.cache {} := ⟨legible, asks.known⟩
  rw [mailbox_call]
  unfold served
  rw [if_pos ⟨sent, asks.reaches.posts .pollEvents⟩,
    deliver_arrived arrives ran]
  exact emptied

theorem pollEach_empties {targets : List KoiNetNode} (nodup : targets.Nodup)
    (member : server.node.rid ∈ targets)
    {eventDict polled : Dict KoiNetNode (List Event)}
    (asks : CanPoll client server state) (sent : fate ≠ .requestLost)
    (legible : Legible (Path.pollEvents.requestEnvelope medium.leaves) client
      server {})
    (returned : ((pollEach (pollEvents client server fate elsewhere) targets
      eventDict).run state).1 = .ok polled) :
    (mailbox client server ((pollEach (pollEvents client server fate
      elsewhere) targets eventDict).run state).2).waiting = [] := by
  induction targets generalizing eventDict state with
  | nil => cases member
  | cons nodeRid rest induction =>
      obtain ⟨fresh, distinct⟩ := List.nodup_cons.mp nodup
      obtain ⟨asked, _⟩ := pollNode_run
        (pollEvents client server fate elsewhere) nodeRid state
      unfold pollEach at returned ⊢
      rw [Effect.run_bind] at returned ⊢
      by_cases isServer : nodeRid = server.node.rid
      · subst isServer
        have emptied : (mailbox client server ((pollEvents client server fate
            elsewhere server.node.rid).run state).2).waiting = [] := by
          unfold pollEvents
          rw [if_pos rfl]
          exact call_empties asks sent legible
        rw [← asked] at emptied
        generalize (pollNode (pollEvents client server fate elsewhere)
          server.node.rid).run state = ended at emptied returned
        obtain ⟨answered, after⟩ := ended
        cases answered with
        | error failure => cases returned
        | ok result =>
            have later (eventDict : Dict KoiNetNode (List Event)) :
                (quiet client server).rel after ((pollEach (pollEvents client
                  server fate elsewhere) rest eventDict).run after).2 :=
              (pollEach_quiet fresh eventDict after).1
            cases result with
            | none =>
                have same := (Prod.mk.inj (later eventDict)).1
                rw [← same] at emptied
                exact emptied
            | some events =>
                have same := (Prod.mk.inj (later
                  (eventDict.set server.node.rid events))).1
                rw [← same] at emptied
                exact emptied
      · have later : server.node.rid ∈ rest :=
          (List.mem_cons.mp member).resolve_left (Ne.symm isServer)
        have kept : (quiet client server).rel state ((pollEvents client server
            fate elsewhere nodeRid).run state).2 :=
          pollEvents_quiet isServer state
        rw [← asked] at kept
        generalize (pollNode (pollEvents client server fate elsewhere)
          nodeRid).run state = ended at kept returned
        obtain ⟨answered, after⟩ := ended
        obtain ⟨sameBox, sameServer⟩ := Prod.mk.inj kept
        have still : CanPoll client server after := by
          refine ⟨?_, ?_⟩
          · rw [show after.client.cache = state.client.cache from
              congrArg Mailbox.cache sameBox]
            exact asks.reaches
          · rw [show after.server = state.server from sameServer]
            exact asks.known
        cases answered with
        | error failure => cases returned
        | ok result =>
            cases result with
            | none => exact induction distinct later still returned
            | some events => exact induction distinct later still returned

/-- A poll of a server that knows the client leaves nothing waiting. -/
theorem poll_empties {targets : List KoiNetNode}
    (listed : ((pollTargets client.node).run state.client).1 = .ok targets)
    (member : server.node.rid ∈ targets) (asks : CanPoll client server state)
    (sent : fate ≠ .requestLost)
    (legible : Legible (Path.pollEvents.requestEnvelope medium.leaves) client
      server {})
    (returned : ((NodePoller.poll CallState.clientPart client.node
      (pollEvents client server fate elsewhere)).run state).1 = .ok ()) :
    (mailbox client server ((NodePoller.poll CallState.clientPart client.node
      (pollEvents client server fate elsewhere)).run state).2).waiting =
        [] := by
  have ran : (CallState.clientPart.within (pollTargets client.node)).run
      state = (.ok targets, state) := by
    rw [pollTargets_within, listed]
  have nodup := pollTargets_nodup (Prod.ext listed rfl)
  unfold NodePoller.poll pollNeighbors at returned ⊢
  rw [Effect.run_bind, Effect.run_bind_of_ok ran] at returned ⊢
  have emptied {polled : Dict KoiNetNode (List Event)}
      (answered : ((pollEach (pollEvents client server fate elsewhere) targets
        Dict.empty).run state).1 = .ok polled) :=
    pollEach_empties nodup member asks sent legible answered
  generalize (pollEach (pollEvents client server fate elsewhere) targets
    Dict.empty).run state = ended at emptied returned
  obtain ⟨result, after⟩ := ended
  cases result with
  | error failure => cases returned
  | ok eventDict =>
      dsimp only
      rw [mailbox_pushEach]
      exact emptied rfl

end Medium

end KoiNet
