import KoiNet.Components.ResponseHandler
import KoiNet.Security.Validation

/-!
# What a request can change

A request only reaches the queue of knowledge objects and the poll buffers if
its source has signed it for this node.  It then queues objects of its source,
and takes events from the poll buffer of its source alone.
-/

namespace KoiNet

open Foundation

/-- The key by which a request is checked: that of the cached profile of its
source, or for want of one that of a profile its source announces in it. -/
inductive StatedKey (cache : Cache) (path : Path)
    (req : SignedEnvelope path.Request) (publicKey : String) : Prop where
  | cached {bundle : Bundle} {nodeProfile : NodeProfile} :
      cache.read (.node req.sourceNode) = some bundle →
      NodeProfile.modelValidate bundle.contents = some nodeProfile →
      nodeProfile.publicKey = some publicKey →
      StatedKey cache path req publicKey
  | announced {payload : EventsPayload} {event : Event} {bundle : Bundle}
      {nodeProfile : NodeProfile} :
      cache.read (.node req.sourceNode) = none →
      path.requestEvents req.payload = some payload →
      event ∈ payload.events →
      event.rid = .node req.sourceNode →
      event.eventType = .new →
      event.bundle = some bundle →
      NodeProfile.modelValidate bundle.contents = some nodeProfile →
      nodeProfile.publicKey = some publicKey →
      StatedKey cache path req publicKey

/-- The request is addressed to this node and signed with the stated key,
which belongs to its source. -/
structure Credential (node : Node) (sealing : Sealing) (cache : Cache)
    (path : Path) (req : SignedEnvelope path.Request) (publicKey : String) :
    Prop where
  addressed : req.targetNode = node.rid
  signed : SignedBy node sealing.library.toCryptography
    (sealing.dumpRequest path) req publicKey req.sourceNode
  stated : StatedKey cache path req publicKey

/-- What handling a request may do to the queue and the poll buffers. -/
structure HandledAuthentically (node : Node) (sealing : Sealing)
    (path : Path) (req : SignedEnvelope path.Request)
    (before after : EventWorkerState)
    (result : Except Exc (Option (SignedEnvelope path.Response))) : Prop where
  authentic :
    after.node.kobjQueue ≠ before.node.kobjQueue ∨
        after.pollEventBuf ≠ before.pollEventBuf →
      ∃ publicKey, Credential node sealing before.node.cache path req publicKey
  queued : ∃ kobjs, after.node.kobjQueue = before.node.kobjQueue ++ kobjs ∧
    ∀ kobj ∈ kobjs, kobj.source = some req.sourceNode
  others : ∀ other, other ≠ req.sourceNode →
    after.pollEventBuf.buffers.get? other =
        before.pollEventBuf.buffers.get? other ∧
      after.pollEventBuf.startTime.get? other =
        before.pollEventBuf.startTime.get? other
  returned : ∀ envelope payload, result = .ok (some envelope) →
    path.responseEvents envelope.payload = some payload →
    payload.events ++ after.pollEventBuf.pending req.sourceNode =
      before.pollEventBuf.pending req.sourceNode

namespace ResponseHandler

variable {node : Node} {sealing : Sealing}

theorem credential_of_vouched {cache : Cache} {path : Path}
    {req : SignedEnvelope path.Request} {publicKey : String}
    (vouched : Vouched node sealing.library.toCryptography path.requestEvents
      (sealing.dumpRequest path) cache req publicKey) :
    Credential node sealing cache path req publicKey := by
  refine
    { addressed := vouched.addressed
      signed := vouched.signed
      stated := ?_ }
  obtain ⟨bundle, nodeProfile, known, valid, key⟩ := vouched.known
  unfold SecureManager.nodeBundle at known
  cases cached : cache.read (.node req.sourceNode) with
  | some found =>
      rw [cached] at known
      cases known
      exact .cached cached valid key
  | none =>
      rw [cached] at known
      dsimp only at known
      unfold SecureManager.handleUnknownNode at known
      cases carries : path.requestEvents req.payload with
      | none =>
          rw [carries] at known
          cases known
      | some payload =>
          rw [carries] at known
          dsimp only at known
          cases found : payload.events.find? fun event =>
              event.rid = .node req.sourceNode ∧ event.eventType = .new with
          | none =>
              rw [found] at known
              cases known
          | some event =>
              rw [found] at known
              have matched := List.find?_some found
              rw [decide_eq_true_eq] at matched
              exact .announced cached carries (List.mem_of_find?_eq_some found)
                matched.1 matched.2 known valid key

theorem validateEnvelope_keeps {T : Type} {crypto : Cryptography}
    {eventsPayload : T → Option EventsPayload}
    {modelDumpJson : UnsignedEnvelope T → String}
    (envelope : SignedEnvelope T) :
    (Frame.unchanged fun state : NodeState => state).Keeps
      (SecureManager.validateEnvelope node crypto eventsPayload modelDumpJson
        envelope) := by
  unfold SecureManager.validateEnvelope
  apply Frame.keeps_bind Frame.keeps_get
  intro state
  split
  · exact Frame.keeps_raise _
  · rename_i bundle _
    apply Frame.keeps_bind
    · unfold Bundle.validateContents
      split
      · exact Frame.keeps_pure _
      · exact Frame.keeps_raise _
    · intro nodeProfile
      split
      · exact Frame.keeps_raise _
      · apply Frame.keeps_bind
        · unfold SecureManager.checkSignature
          split
          · exact Frame.keeps_raise _
          · apply Frame.keeps_bind (Frame.keeps_ofExcept _)
            intro pubKey
            exact Frame.keeps_tryExcept (Frame.keeps_ofExcept _)
              (Frame.keeps_raise _)
        · intro _
          unfold SecureManager.checkTarget
          split
          · exact Frame.keeps_raise _
          · exact Frame.keeps_pure _

theorem createEnvelope_payload {T : Type}
    {library : SigningLibrary} {privKey : library.PrivateKey}
    {modelDumpJson : UnsignedEnvelope T → String} {payload : T}
    {target : KoiNetNode} {envelope : SignedEnvelope T}
    (created : SecureManager.createEnvelope node library privKey modelDumpJson
      payload target = .ok envelope) :
    envelope.payload = payload := by
  unfold SecureManager.createEnvelope UnsignedEnvelope.signWith at created
  cases signed : PrivateKey.sign library privKey
      (modelDumpJson { payload, sourceNode := node.rid, targetNode := target
        }).toUTF8.data.toList with
  | error failure =>
      rw [signed] at created
      cases created
  | ok signature =>
      rw [signed] at created
      cases created
      rfl

/-- What a handler of this path may do for this source. -/
structure Responds (path : Path) (source : KoiNetNode)
    (before after : EventWorkerState) (response : Option path.Response) :
    Prop where
  queued : ∃ kobjs, after.node.kobjQueue = before.node.kobjQueue ++ kobjs ∧
    ∀ kobj ∈ kobjs, kobj.source = some source
  others : ∀ other, other ≠ source →
    after.pollEventBuf.buffers.get? other =
        before.pollEventBuf.buffers.get? other ∧
      after.pollEventBuf.startTime.get? other =
        before.pollEventBuf.startTime.get? other
  returned : ∀ answer payload, response = some answer →
    path.responseEvents answer = some payload →
    payload.events ++ after.pollEventBuf.pending source =
      before.pollEventBuf.pending source

theorem Responds.refl {path : Path} {source : KoiNetNode}
    {state : EventWorkerState} {response : Option path.Response}
    (eventless : ∀ answer, path.responseEvents answer = none) :
    Responds path source state state response := by
  refine ⟨⟨[], by simp, by simp⟩, fun _ _ => ⟨rfl, rfl⟩, ?_⟩
  intro answer payload _ carries
  cases (eventless answer).symm.trans carries

theorem requestedRids_run (node : Node) (req : FetchManifests)
    (state : EventWorkerState) :
    ∃ rids, (EventWorkerState.nodePart.within (requestedRids node req)).run
      state = (.ok rids, state) := by
  unfold requestedRids
  split
  · exact ⟨_, rfl⟩
  · exact ⟨_, rfl⟩

theorem respond_broadcast (node : Node) (payload : EventsPayload)
    (source : KoiNetNode) (state : EventWorkerState) :
    (respond node .broadcastEvents payload source).run state =
      (.ok none, { state with
        node := state.node.withQueue (state.node.kobjQueue ++
          payload.events.map fun event =>
            .fromEvent event (some source)) }) := by
  unfold respond broadcastEventsHandler
  rw [Effect.run_bind, Part.run_within, KobjQueue.pushEach_run]
  rfl

theorem respond_reads (node : Node) {path : Path} (payload : path.Request)
    (source : KoiNetNode) (state : EventWorkerState)
    (broadcasts : path ≠ .broadcastEvents) (polls : path ≠ .pollEvents) :
    ∃ response,
      (respond node path payload source).run state = (.ok response, state) := by
  cases path with
  | broadcastEvents => exact absurd rfl broadcasts
  | pollEvents => exact absurd rfl polls
  | fetchRids => exact ⟨_, rfl⟩
  | fetchManifests =>
      obtain ⟨rids, requested⟩ := requestedRids_run node payload state
      have run : (fetchManifestsHandler node payload).run state = _ :=
        Effect.run_bind_of_ok requested _
      exact ⟨_, Effect.run_bind_of_ok run _⟩
  | fetchBundles => exact ⟨_, rfl⟩

theorem respond_run (node : Node) (path : Path) (payload : path.Request)
    (source : KoiNetNode) (state : EventWorkerState) :
    ∃ response after,
      (respond node path payload source).run state = (.ok response, after) ∧
        Responds path source state after response := by
  cases path with
  | broadcastEvents =>
      refine ⟨none, _, respond_broadcast node payload source state, ?_⟩
      refine
        { queued := ⟨_, rfl, ?_⟩
          others := fun _ _ => ⟨rfl, rfl⟩
          returned := ?_ }
      · intro kobj member
        obtain ⟨event, _, rfl⟩ := List.mem_map.mp member
        rfl
      · intro answer _ impossible
        cases impossible
  | pollEvents =>
      refine ⟨some { events := (state.pollEventBuf.flush source
        payload.limit).1 }, _, rfl, ?_⟩
      refine
        { queued := ⟨[], by simp [EventWorkerState.pollPart, Part.update],
            by simp⟩
          others := fun other different =>
            state.pollEventBuf.flush_others payload.limit different
          returned := ?_ }
      intro answer events same carries
      cases same
      cases carries
      exact state.pollEventBuf.flush_append_pending source payload.limit
  | fetchRids => exact ⟨_, _, rfl, Responds.refl fun _ => rfl⟩
  | fetchManifests =>
      obtain ⟨response, responded⟩ := respond_reads node payload source state
        (by decide) (by decide)
      exact ⟨response, state, responded, Responds.refl fun _ => rfl⟩
  | fetchBundles => exact ⟨_, _, rfl, Responds.refl fun _ => rfl⟩

variable (node sealing) (path : Path) (req : SignedEnvelope path.Request)
  (state : EventWorkerState)

/-- `validate_envelope(req)`. -/
def validateRequest : NodeM Unit :=
  SecureManager.validateEnvelope node sealing.library.toCryptography
    path.requestEvents (sealing.dumpRequest path) req

variable {node sealing path req state}

theorem validateRequest_within (state : EventWorkerState) :
    (EventWorkerState.nodePart.within
        (validateRequest node sealing path req)).run state =
      (((validateRequest node sealing path req).run state.node).1, state) := by
  have kept : ((validateRequest node sealing path req).run state.node).2 =
      state.node := validateEnvelope_keeps req state.node
  rw [Part.run_within]
  change (_, EventWorkerState.nodePart.set state
    ((validateRequest node sealing path req).run state.node).2) = _
  rw [kept]
  rfl

theorem handleResponse_rejected {failure : Exc}
    (rejected : ((validateRequest node sealing path req).run state.node).1 =
      .error failure) :
    (handleResponse node sealing path req).run state =
      (.error failure, state) := by
  have validated : (EventWorkerState.nodePart.within
      (validateRequest node sealing path req)).run state =
        (.error failure, state) := by
    rw [validateRequest_within, rejected]
  unfold handleResponse
  rw [Effect.run_bind]
  unfold validateRequest at validated
  rw [validated]

/-- After a valid request the handler runs, and its answer is sent in an
envelope. -/
theorem handleResponse_valid (sealing : Sealing) {path : Path}
    {req : SignedEnvelope path.Request} {state after : EventWorkerState}
    {response : Option path.Response}
    (valid : ((validateRequest node sealing path req).run state.node).1 =
      .ok ())
    (responded : (respond node path req.payload req.sourceNode).run state =
      (.ok response, after)) :
    (handleResponse node sealing path req).run state =
      (response.elim (pure none) fun answer => some <$>
        SecureManager.createEnvelope node sealing.library sealing.privKey
          (sealing.dumpResponse path) answer req.sourceNode, after) := by
  have validated : (EventWorkerState.nodePart.within
      (validateRequest node sealing path req)).run state =
        (.ok (), state) := by
    rw [validateRequest_within, valid]
  unfold handleResponse
  unfold validateRequest at validated
  rw [Effect.run_bind_of_ok validated, Effect.run_bind_of_ok responded]
  cases response with
  | none => rfl
  | some answer =>
      dsimp only [Option.elim]
      rw [Effect.run_bind, Effect.run_ofExcept]
      cases SecureManager.createEnvelope node sealing.library sealing.privKey
        (sealing.dumpResponse path) answer req.sourceNode with
      | ok envelope => rfl
      | error failure => rfl

/-- A request is rejected, which leaves the node alone, or it has been vouched
for and is handled. -/
theorem handleResponse_cases (node : Node) (sealing : Sealing) (path : Path)
    (req : SignedEnvelope path.Request) (state : EventWorkerState) :
    (∃ failure,
      ((validateRequest node sealing path req).run state.node).1 =
        .error failure ∧
      (handleResponse node sealing path req).run state =
        (.error failure, state)) ∨
    ∃ publicKey response after,
      Vouched node sealing.library.toCryptography path.requestEvents
        (sealing.dumpRequest path) state.node.cache req publicKey ∧
      (respond node path req.payload req.sourceNode).run state =
        (.ok response, after) ∧
      Responds path req.sourceNode state after response ∧
      (handleResponse node sealing path req).run state =
        (response.elim (pure none) fun answer => some <$>
          SecureManager.createEnvelope node sealing.library sealing.privKey
            (sealing.dumpResponse path) answer req.sourceNode, after) := by
  cases validated :
      ((validateRequest node sealing path req).run state.node).1 with
  | error failure =>
      exact .inl ⟨failure, rfl, handleResponse_rejected validated⟩
  | ok =>
      obtain ⟨publicKey, vouched⟩ :=
        SecureManager.validateEnvelope_returns_iff.mp validated
      obtain ⟨response, after, responded, responds⟩ :=
        respond_run node path req.payload req.sourceNode state
      exact .inr ⟨publicKey, response, after, vouched, responded, responds,
        handleResponse_valid sealing validated responded⟩

theorem response_of_sent {path : Path} {response : Option path.Response}
    {target : KoiNetNode} {envelope : SignedEnvelope path.Response}
    (sent : (response.elim (pure none) fun answer => some <$>
      SecureManager.createEnvelope node sealing.library sealing.privKey
        (sealing.dumpResponse path) answer target) = .ok (some envelope)) :
    response = some envelope.payload := by
  cases response with
  | none => cases sent
  | some answer =>
      dsimp only [Option.elim] at sent
      cases created : SecureManager.createEnvelope node sealing.library
          sealing.privKey (sealing.dumpResponse path) answer target with
      | error failure =>
          rw [created] at sent
          cases sent
      | ok other =>
          rw [created] at sent
          cases sent
          rw [createEnvelope_payload created]

/-- Whatever arrives on whichever path, it is handled authentically. -/
theorem handleResponse_authentic (node : Node) (sealing : Sealing)
    (path : Path) (req : SignedEnvelope path.Request)
    (state : EventWorkerState) :
    HandledAuthentically node sealing path req state
      ((handleResponse node sealing path req).run state).2
      ((handleResponse node sealing path req).run state).1 := by
  rcases handleResponse_cases node sealing path req state with
    ⟨failure, _, rejected⟩ |
    ⟨publicKey, response, after, vouched, _, responds, handled⟩
  · rw [rejected]
    refine
      { authentic := fun changed => ?_
        queued := ⟨[], by simp, by simp⟩
        others := fun _ _ => ⟨rfl, rfl⟩
        returned := ?_ }
    · rcases changed with changed | changed
      · exact absurd rfl changed
      · exact absurd rfl changed
    · intro envelope payload impossible
      cases impossible
  · rw [handled]
    refine
      { authentic := fun _ => ⟨publicKey, credential_of_vouched vouched⟩
        queued := responds.queued
        others := responds.others
        returned := ?_ }
    intro envelope payload sent carries
    exact responds.returned envelope.payload payload (response_of_sent sent)
      carries

end ResponseHandler

end KoiNet
