import KoiNet.Security.RemoteCalls

/-!
# Refused requests

A request whose envelope is not valid leaves the server as it was, and raises
at the client the error that stands for what the server has raised.  A client
is told that it is unknown exactly if the server has no profile of it.
-/

namespace KoiNet

open Foundation

/-- The state after a request that was refused. -/
def NodeState.refused (state : NodeState) : NodeState :=
  { state with requests := state.requests + 1 }

/-- What `except KoiNetError` catches. -/
def Exc.isKoiNetError : Exc → Bool
  | .request _ | .protocol _ => true
  | _ => false

/-- What can be raised about a source whose profile has been found. -/
def Exc.OfKnown (failure : Exc) : Prop :=
  failure ≠ .protocol .unknownNode ∧ ∀ error, failure ≠ .request error

theorem Exc.ofKnown_of_foreign {failure : Exc}
    (foreign : failure.isKoiNetError = false) : failure.OfKnown := by
  constructor
  · rintro rfl
    cases foreign
  · rintro error rfl
    cases foreign

/-- The library raises no exceptions of this program. -/
structure Cryptography.External (crypto : Cryptography) : Prop where
  loads : ∀ data failure, crypto.loadDerPublicKey data = .error failure →
    failure.isKoiNetError = false
  verifies : ∀ pubKey signature data failure,
    crypto.verify pubKey signature data = .error failure →
    failure.isKoiNetError = false

theorem Wire.lengthSigning_external :
    Wire.lengthSigning.toCryptography.External := by
  constructor
  · intro data failure raised
    cases raised
  · intro pubKey signature data failure raised
    dsimp only [Wire.lengthSigning, Wire.lengthSignatures] at raised
    split at raised <;> cases raised
    rfl

theorem RequestHandler.makeRequest_rejected {node : Node} {state : NodeState}
    {peer : KoiNetNode} {path : Path} {request : path.Request} {url : String}
    {error : RequestError} (other : peer ≠ node.rid)
    (resolved : resolve node state.cache peer = .ok (some url))
    (rejected : node.answer state (url ++ path.str) peer path request =
      .rejected error) :
    (makeRequest node peer path request).run state =
      (.error (.request error), state.refused) := by
  unfold makeRequest
  rw [if_neg other, Effect.run_bind, getBaseUrl_run, resolved]
  dsimp only
  rw [Effect.run_get_bind, Effect.run_modify_bind, rejected]
  rfl

namespace SecureManager

variable {T : Type} {node : Node} {crypto : Cryptography}
  {eventsPayload : T → Option EventsPayload}
  {modelDumpJson : UnsignedEnvelope T → String} {envelope : SignedEnvelope T}

theorem b64decode_raises {text : String} {failure : Exc}
    (raised : b64decode text = .error failure) :
    failure.isKoiNetError = false := by
  unfold b64decode at raised
  cases decoded : Base64.decode text with
  | none =>
      rw [decoded] at raised
      cases raised
      rfl
  | some bytes =>
      rw [decoded] at raised
      cases raised

theorem fromDer_raises (external : crypto.External) {publicKey : String}
    {failure : Exc}
    (raised : PublicKey.fromDer crypto publicKey = .error failure) :
    failure.isKoiNetError = false := by
  unfold PublicKey.fromDer at raised
  cases decoded : b64decode publicKey with
  | error other =>
      rw [decoded] at raised
      cases raised
      exact b64decode_raises decoded
  | ok data =>
      rw [decoded] at raised
      exact external.loads data failure raised

theorem verifyWith_raises (external : crypto.External) {pubKey : crypto.Key}
    {failure : Exc}
    (raised : envelope.verifyWith crypto modelDumpJson pubKey =
      .error failure) :
    failure.isKoiNetError = false := by
  unfold SignedEnvelope.verifyWith PublicKey.verify at raised
  cases decoded : b64decode envelope.signature with
  | error other =>
      rw [decoded] at raised
      cases raised
      exact b64decode_raises decoded
  | ok rawSignature =>
      rw [decoded] at raised
      change (rawToDerSignature crypto rawSignature >>= _) = _ at raised
      unfold rawToDerSignature at raised
      split at raised
      · cases raised
        rfl
      · exact external.verifies _ _ _ failure raised

theorem validateEnvelope_ofKnown (external : crypto.External)
    {state : NodeState} {bundle : Bundle} {failure : Exc}
    (known : nodeBundle eventsPayload state.cache envelope = some bundle)
    (raised : ((validateEnvelope node crypto eventsPayload modelDumpJson
      envelope).run state).1 = .error failure) :
    failure.OfKnown := by
  unfold validateEnvelope at raised
  rw [Effect.run_get_bind, known] at raised
  refine RaisesOnly.bind ?_ ?_ state failure raised
  · unfold Bundle.validateContents
    split
    · exact RaisesOnly.pure _
    · exact RaisesOnly.raise (Exc.ofKnown_of_foreign rfl)
  · intro nodeProfile
    split
    · exact RaisesOnly.raise (Exc.ofKnown_of_foreign rfl)
    · apply RaisesOnly.bind
      · unfold checkSignature
        split
        · exact RaisesOnly.raise ⟨by decide, by simp⟩
        · apply RaisesOnly.bind
          · apply RaisesOnly.ofExcept
            intro other loadRaised
            exact Exc.ofKnown_of_foreign (fromDer_raises external loadRaised)
          · intro pubKey
            apply RaisesOnly.tryExcept
            · apply RaisesOnly.ofExcept
              intro other verifyRaised _
              exact Exc.ofKnown_of_foreign
                (verifyWith_raises external verifyRaised)
            · exact RaisesOnly.raise ⟨by decide, by simp⟩
      · intro _
        unfold checkTarget
        split
        · exact RaisesOnly.raise ⟨by decide, by simp⟩
        · exact RaisesOnly.pure _

theorem validateEnvelope_unknown {state : NodeState}
    (unknown : nodeBundle eventsPayload state.cache envelope = none) :
    ((validateEnvelope node crypto eventsPayload modelDumpJson envelope).run
      state).1 = .error (.protocol .unknownNode) := by
  unfold validateEnvelope
  rw [Effect.run_get_bind, unknown]
  rfl

theorem nodeBundle_eq_none_iff {cache : Cache} :
    nodeBundle eventsPayload cache envelope = none ↔
      cache.read (.node envelope.sourceNode) = none ∧
        ∀ payload event, eventsPayload envelope.payload = some payload →
          payload.events.find? (fun event =>
            event.rid = .node envelope.sourceNode ∧ event.eventType = .new) =
              some event →
          event.bundle = none := by
  unfold nodeBundle handleUnknownNode
  cases cache.read (.node envelope.sourceNode) with
  | some bundle => simp
  | none =>
      cases eventsPayload envelope.payload with
      | none => simp
      | some payload =>
          cases found : payload.events.find? (fun event =>
              event.rid = .node envelope.sourceNode ∧
                event.eventType = .new) with
          | none =>
              dsimp only
              rw [found]
              refine ⟨fun _ => ⟨rfl, ?_⟩, fun _ => rfl⟩
              intro other event same located
              cases same
              cases found.symm.trans located
          | some event =>
              dsimp only
              rw [found]
              constructor
              · intro unbundled
                refine ⟨rfl, ?_⟩
                intro other located same first
                cases same
                cases found.symm.trans first
                exact unbundled
              · rintro ⟨_, unannounced⟩
                exact unannounced payload event rfl found

theorem validateEnvelope_ne_request (external : crypto.External)
    {state : NodeState} (error : RequestError) :
    ((validateEnvelope node crypto eventsPayload modelDumpJson envelope).run
      state).1 ≠ .error (.request error) := by
  intro raised
  cases known : nodeBundle eventsPayload state.cache envelope with
  | none =>
      rw [validateEnvelope_unknown known] at raised
      cases raised
  | some bundle =>
      exact (validateEnvelope_ofKnown external known raised).2 error rfl

end SecureManager

namespace Medium

variable {medium : Medium} {client server : medium.Peer}

/-- The error responses are read as they were written, and the text of an
internal error is no JSON. -/
structure ReportsErrors (medium : Medium) : Prop where
  reported : ∀ error,
    medium.text.Faithful (ErrorResponse.json.encode error)
  unprocessable : medium.text.Faithful NodeServer.unprocessableEntity
  internal : medium.text.decode "Internal Server Error" = none

end Medium

namespace Acquaintance

theorem unread {text : String}
    (unlisted : text.toList.take 43 ∉ messages.map label) :
    medium.text.decode text = none := by
  apply List.find?_eq_none.mpr
  intro json member same
  apply unlisted
  rw [decide_eq_true_eq] at same
  rw [← same, dumps, String.toList_ofList]
  exact List.mem_map_of_mem member

theorem reportsErrors : medium.ReportsErrors := by
  refine ⟨?_, ?_, ?_⟩
  · intro error
    apply script_faithful messages_labels
    cases error <;> simp [messages]
  · apply script_faithful messages_labels
    simp [messages]
  · apply unread
    unfold messages
    simp only [List.map_cons, List.map_nil]
    rw [label_sealed _ _ _ _ _ (by decide), label_sealed _ _ _ _ _ (by decide),
      label_sealed _ _ _ _ _ (by decide)]
    decide

end Acquaintance

namespace Medium

variable {medium : Medium} {client server : medium.Peer}

/-- The error that a failure of the server raises at the client. -/
def remoteError (failure : Exc) : RequestError :=
  match exceptionToErrorType failure with
  | some error => error.raised
  | none => .server

theorem remoteError_ofKnown {failure : Exc} (ofKnown : failure.OfKnown) :
    remoteError failure ≠ .remoteUnknownNode := by
  unfold remoteError
  cases failure with
  | protocol error =>
      cases error with
      | unknownNode => exact absurd rfl ofKnown.1
      | _ => simp [exceptionToErrorType, ErrorType.raised]
  | _ => simp [exceptionToErrorType]

section Refusals

variable {clientState : NodeState} {state : EventWorkerState} {path : Path}
  {request : path.Request} {fate : Fate}

/-- The client reads from an error reply what the server has raised. -/
theorem ended_errorReply (reports : medium.ReportsErrors) (failure : Exc) :
    (medium.wire client server fate state).ended medium.library.toCryptography
        client.node clientState path (NodeServer.errorReply medium failure) =
      .rejected (remoteError failure) := by
  have read : ∀ error, medium.errorText.decode
      (medium.errorText.encode error) = some error := fun error =>
    Codec.Faithful.comp (reports.reported error)
      (ErrorResponse.json_faithful error)
  have unread : medium.errorText.decode "Internal Server Error" = none := by
    change medium.text.decode "Internal Server Error" >>= _ = none
    rw [reports.internal]
    rfl
  unfold NodeServer.errorReply remoteError
  cases exceptionToErrorType failure with
  | none =>
      change (match medium.errorText.decode "Internal Server Error" with
        | some error => Outcome.rejected error.raised
        | none => .rejected .server) = _
      rw [unread]
  | some error =>
      change (match medium.errorText.decode
          (medium.errorText.encode error) with
        | some error => Outcome.rejected error.raised
        | none => .rejected .server) = _
      rw [read]

/-- A request whose envelope the server finds invalid leaves the server as it
was, and raises at the client the error that stands for what was raised. -/
theorem makeRequest_refused {envelope : SignedEnvelope path.Request}
    {failure : Exc} (reports : medium.ReportsErrors)
    (reaches : Reaches client server clientState.cache)
    (legible : Legible (path.requestEnvelope medium.leaves) client server
      request)
    (created : SecureManager.createEnvelope client.node medium.library
      client.privKey (medium.dumpRequest path) request server.node.rid =
        .ok envelope)
    (invalid : ((SecureManager.validateEnvelope server.node
      medium.library.toCryptography path.requestEvents
      (medium.dumpRequest path) envelope).run state.node).1 =
        .error failure) :
    medium.served client server .answered clientState.cache state path
        request = state ∧
      (medium.makeRequest client server .answered state path request).run
          clientState =
        (.error (.request (remoteError failure)), clientState.refused) := by
  obtain ⟨posted, same, _, _, delivered⟩ := deliver_legible state legible
  cases created.symm.trans same
  have invalid : ((ResponseHandler.validateRequest server.node
      (medium.sealing server.privKey) path envelope).run state.node).1 =
        .error failure := invalid
  rw [ResponseHandler.handleResponse_rejected invalid] at delivered
  have unserved : medium.served client server .answered clientState.cache
      state path request = state := by
    unfold Medium.served
    rw [if_pos ⟨by decide, reaches.posts path⟩, delivered]
  refine ⟨unserved, ?_⟩
  obtain ⟨url, found, answer⟩ :=
    answer_reached .answered state request reaches
  refine RequestHandler.makeRequest_rejected ?_ found ?_
  · exact reaches.other
  rw [answer, if_pos rfl, delivered]
  exact ended_errorReply reports failure

/-- A server that does not know the newcomer refuses it. -/
theorem makeRequest_refused_newcomer :
    ∃ envelope,
      SecureManager.createEnvelope Newcomer.node Acquaintance.medium.library
        ([0, 0, 0] : Bytes) (Acquaintance.medium.dumpRequest .fetchRids)
        ({} : FetchRids) Acquaintance.node.rid = .ok envelope ∧
      ((SecureManager.validateEnvelope Acquaintance.node
        Acquaintance.medium.library.toCryptography Path.fetchRids.requestEvents
        (Acquaintance.medium.dumpRequest .fetchRids) envelope).run
          (.fresh Cache.empty)).1 = .error (.protocol .unknownNode) ∧
      Acquaintance.medium.served Acquaintance.newcomer
          Acquaintance.acquaintance .answered Acquaintance.newcomerState.cache
          (Acquaintance.withCache Cache.empty) .fetchRids ({} : FetchRids) =
        Acquaintance.withCache Cache.empty ∧
      (Acquaintance.medium.makeRequest Acquaintance.newcomer
        Acquaintance.acquaintance .answered
        (Acquaintance.withCache Cache.empty) .fetchRids ({} : FetchRids)).run
          Acquaintance.newcomerState =
        (.error (.request .remoteUnknownNode),
          Acquaintance.newcomerState.refused) := by
  obtain ⟨envelope, created⟩ := Acquaintance.newcomer.creates
    (Acquaintance.medium.dumpRequest .fetchRids) ({} : FetchRids)
    Acquaintance.node.rid
  have invalid : ((SecureManager.validateEnvelope Acquaintance.node
      Acquaintance.medium.library.toCryptography Path.fetchRids.requestEvents
      (Acquaintance.medium.dumpRequest .fetchRids) envelope).run
        (Acquaintance.withCache Cache.empty).node).1 =
          .error (.protocol .unknownNode) :=
    SecureManager.validateEnvelope_unknown rfl
  exact ⟨envelope, created, invalid,
    makeRequest_refused Acquaintance.reportsErrors Acquaintance.reaches
      Acquaintance.request_legible created invalid⟩

/-- Nothing that the server has or is sent tells it the client's profile. -/
structure Stranger (client : medium.Peer) (cache : Cache)
    (events : Option EventsPayload) : Prop where
  uncached : cache.read (.node client.node.rid) = none
  unannounced : ∀ payload event, events = some payload →
    payload.events.find? (fun event =>
      event.rid = .node client.node.rid ∧ event.eventType = .new) =
        some event →
    event.bundle = none

/-- A response that cannot be read or is not valid raises no error that the
server reports. -/
theorem unwrap_unreported
    (external : medium.library.toCryptography.External) (text : String) :
    (medium.wire client server fate state).unwrap
        medium.library.toCryptography client.node clientState path text ≠
      .error (.request .remoteUnknownNode) := by
  intro raised
  unfold Wire.unwrap at raised
  cases noResponse : path.noResponse with
  | some payload =>
      rw [noResponse] at raised
      cases raised
  | none =>
      rw [noResponse] at raised
      dsimp only at raised
      cases loaded : (medium.wire client server fate state).loadSigned path
          text with
      | none =>
          rw [loaded] at raised
          cases raised
      | some envelope =>
          rw [loaded] at raised
          dsimp only at raised
          split at raised
          · cases raised
          · rename_i failure invalid
            rw [Except.error.inj raised] at invalid
            exact SecureManager.validateEnvelope_ne_request external _ invalid

theorem handleResponse_raises {envelope : SignedEnvelope path.Request}
    {failure : Exc}
    (raised : ((ResponseHandler.handleResponse server.node
      (medium.sealing server.privKey) path envelope).run state).1 =
        .error failure) :
    ((SecureManager.validateEnvelope server.node medium.library.toCryptography
      path.requestEvents (medium.dumpRequest path) envelope).run
        state.node).1 = .error failure := by
  rcases ResponseHandler.handleResponse_cases server.node
      (medium.sealing server.privKey) path envelope state with
    ⟨other, invalid, rejected⟩ | ⟨_, response, _, _, _, _, handled⟩
  · rw [rejected] at raised
    cases raised
    exact invalid
  · rw [handled] at raised
    cases response with
    | none => cases raised
    | some answer =>
        obtain ⟨signed, created⟩ := server.creates
          (medium.dumpResponse path) answer envelope.sourceNode
        change some <$> SecureManager.createEnvelope server.node
          medium.library server.privKey (medium.dumpResponse path) answer
          envelope.sourceNode = _ at raised
        rw [created] at raised
        cases raised

/-- A client is told that it is unknown exactly if the server has not cached
its profile and the request does not announce it. -/
theorem makeRequest_unknown_iff (reports : medium.ReportsErrors)
    (external : medium.library.toCryptography.External)
    (reaches : Reaches client server clientState.cache)
    (legible : Legible (path.requestEnvelope medium.leaves) client server
      request) :
    ((medium.makeRequest client server .answered state path request).run
        clientState).1 = .error (.request .remoteUnknownNode) ↔
      Stranger client state.node.cache (path.requestEvents request) := by
  obtain ⟨envelope, created, contents, _, delivered⟩ :=
    deliver_legible state legible
  have source : envelope.sourceNode = client.node.rid :=
    congrArg UnsignedEnvelope.sourceNode contents
  have payload : envelope.payload = request :=
    congrArg UnsignedEnvelope.payload contents
  have stranger_iff : SecureManager.nodeBundle path.requestEvents
      state.node.cache envelope = none ↔
        Stranger client state.node.cache (path.requestEvents request) := by
    rw [SecureManager.nodeBundle_eq_none_iff, source, payload]
    exact ⟨fun ⟨uncached, unannounced⟩ => ⟨uncached, unannounced⟩,
      fun stranger => ⟨stranger.uncached, stranger.unannounced⟩⟩
  rw [← stranger_iff]
  constructor
  · intro told
    by_contra found
    obtain ⟨bundle, known⟩ := Option.ne_none_iff_exists'.mp found
    obtain ⟨_, ran, _⟩ := RequestHandler.makeRequest_run
      (client.node.over medium.library.toCryptography
        (medium.wire client server .answered state)) clientState
      server.node.rid path request
    have told : _ = Except.error (Exc.request .remoteUnknownNode) :=
      (congrArg Prod.fst ran).symm.trans told
    rw [outcome_reached reaches, if_pos rfl, delivered] at told
    dsimp only at told
    cases ended : ((ResponseHandler.handleResponse server.node
        (medium.sealing server.privKey) path envelope).run state).1 with
    | ok response =>
        rw [ended] at told
        exact unwrap_unreported external _ told
    | error failure =>
        rw [ended] at told
        unfold NodeServer.reply at told
        rw [ended_errorReply reports] at told
        have ofKnown := SecureManager.validateEnvelope_ofKnown external known
          (handleResponse_raises ended)
        exact remoteError_ofKnown ofKnown (Exc.request.inj
          (Except.error.inj told))
  · intro unknown
    obtain ⟨_, ran⟩ := makeRequest_refused reports reaches legible created
      (SecureManager.validateEnvelope_unknown unknown)
    rw [ran]
    rfl

theorem makeRequest_unknown_iff_newcomer :
    ((Acquaintance.medium.makeRequest Acquaintance.newcomer
        Acquaintance.acquaintance .answered
        (Acquaintance.withCache Cache.empty) .fetchRids ({} : FetchRids)).run
          Acquaintance.newcomerState).1 =
        .error (.request .remoteUnknownNode) ↔
      Stranger Acquaintance.newcomer
        (Acquaintance.withCache Cache.empty).node.cache
        (Path.fetchRids.requestEvents ({} : FetchRids)) :=
  makeRequest_unknown_iff Acquaintance.reportsErrors
    Wire.lengthSigning_external Acquaintance.reaches
    Acquaintance.request_legible

end Refusals

end Medium

end KoiNet
