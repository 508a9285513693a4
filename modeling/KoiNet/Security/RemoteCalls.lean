import KoiNet.Components.NodeServer
import KoiNet.Security.RequestAuthenticity

/-!
# Requests between peers

A request that a peer posts to another is a call of the handler of its path:
the caller returns what the handler returns and the other is left in the state
in which the handler leaves it.  A request that is refused leaves the other as
it was, and the caller raises the error that the other has reported.
-/

namespace KoiNet

open Foundation

theorem Path.requestEnvelope_events (leaves : Leaves) (path : Path) :
    (path.requestEnvelope leaves).events = path.requestEvents := by
  cases path <;> rfl

namespace Medium

variable {medium : Medium}

theorem Peer.creates (peer : medium.Peer) {T : Type}
    (modelDumpJson : UnsignedEnvelope T → String) (payload : T)
    (target : KoiNetNode) :
    ∃ envelope, SecureManager.createEnvelope peer.node medium.library
      peer.privKey modelDumpJson payload target = .ok envelope := by
  obtain ⟨envelope, created, _⟩ :=
    createEnvelope_signed modelDumpJson payload target (peer.signs _)
  exact ⟨envelope, created⟩

/-- What a peer has signed for another is read as it was written. -/
structure Legible {T : Type} (model : EnvelopeModel T)
    (sender receiver : medium.Peer) (payload : T) : Prop where
  decodes : model.leavesFaithful payload
  source : medium.leaves.rid.Faithful (.node sender.node.rid)
  target : medium.leaves.rid.Faithful (.node receiver.node.rid)
  parses : ∀ envelope, SecureManager.createEnvelope sender.node medium.library
      sender.privKey (model.dumpUnsigned medium.leaves medium.text) payload
      receiver.node.rid = .ok envelope →
    medium.text.Faithful ((model.signedJson medium.leaves).encode envelope)

/-- A legible payload arrives if the receiver comes by the sender's profile. -/
structure Arrives {T : Type} (model : EnvelopeModel T)
    (sender receiver : medium.Peer) (cache : Cache) (payload : T) : Prop where
  legible : Legible model sender receiver payload
  introduced : Introduced sender.node cache (model.events payload)

section Envelopes

variable {T : Type} {model : EnvelopeModel T} {sender receiver : medium.Peer}
  {state : NodeState} {payload : T}

theorem Legible.envelope (mapped : Mapped medium.leaves model)
    (legible : Legible model sender receiver payload) :
    ∃ envelope,
      SecureManager.createEnvelope sender.node medium.library sender.privKey
        (model.dumpUnsigned medium.leaves medium.text) payload
        receiver.node.rid = .ok envelope ∧
      envelope.unsigned =
        { payload := payload
          sourceNode := sender.node.rid
          targetNode := receiver.node.rid } ∧
      envelope.verifyWith medium.library.toCryptography
        (model.dumpUnsigned medium.leaves medium.text)
        (medium.library.publicKey sender.privKey) = .ok () ∧
      (model.transmit medium.leaves medium.text).Faithful envelope := by
  obtain ⟨envelope, created, contents, verified⟩ := createEnvelope_signed
    (model.dumpUnsigned medium.leaves medium.text) payload receiver.node.rid
    (sender.signs _)
  refine ⟨envelope, created, contents, verified, ?_⟩
  apply Codec.Faithful.comp (legible.parses envelope created)
  apply EnvelopeModel.signedJson_faithful
  · rw [show envelope.payload = payload from
      congrArg UnsignedEnvelope.payload contents]
    exact mapped.payload_faithful legible.decodes
  · rw [show envelope.sourceNode = sender.node.rid from
      congrArg UnsignedEnvelope.sourceNode contents]
    exact legible.source
  · rw [show envelope.targetNode = receiver.node.rid from
      congrArg UnsignedEnvelope.targetNode contents]
    exact legible.target

theorem Arrives.valid {envelope : SignedEnvelope T}
    (arrives : Arrives model sender receiver state.cache payload)
    (contents : envelope.unsigned =
      { payload := payload
        sourceNode := sender.node.rid
        targetNode := receiver.node.rid })
    (verified : envelope.verifyWith medium.library.toCryptography
      (model.dumpUnsigned medium.leaves medium.text)
      (medium.library.publicKey sender.privKey) = .ok ()) :
    ((SecureManager.validateEnvelope receiver.node
      medium.library.toCryptography model.events
      (model.dumpUnsigned medium.leaves medium.text) envelope).run
        state).1 = .ok () := by
  have source : envelope.sourceNode = sender.node.rid :=
    congrArg UnsignedEnvelope.sourceNode contents
  have introduced := arrives.introduced
  rw [← show envelope.payload = payload from
    congrArg UnsignedEnvelope.payload contents] at introduced
  obtain ⟨bundle, known, own⟩ := introduced.nodeBundle source
  rw [SecureManager.validateEnvelope_returns_iff]
  refine ⟨PublicKey.toDer medium.library
    (medium.library.publicKey sender.privKey),
    ⟨bundle, sender.node.profile, known, own, sender.publishes⟩,
    ⟨?_, medium.library.publicKey sender.privKey,
      fromDer_toDer (sender.signs []), verified⟩,
    congrArg UnsignedEnvelope.targetNode contents⟩
  rw [source, receiver.hashes]
  exact sender.named.symm

end Envelopes

end Medium

namespace ResponseHandler

end ResponseHandler

namespace NodeServer

/-- A body leaves the server alone, or it is an envelope that has been vouched
for and is handled. -/
theorem endpoint_cases {medium : Medium} (server : medium.Peer)
    (path : Path) (body : String) (state : EventWorkerState) :
    (endpoint medium server path body state).2 = state ∨
      ∃ req publicKey response,
        (medium.requestText path).decode body = some req ∧
        Vouched server.node medium.library.toCryptography path.requestEvents
          (medium.dumpRequest path) state.node.cache req publicKey ∧
        (ResponseHandler.respond server.node path req.payload
          req.sourceNode).run state =
            (.ok response, (endpoint medium server path body state).2) := by
  unfold endpoint
  cases read : (medium.requestText path).decode body with
  | none => exact .inl rfl
  | some req =>
      dsimp only
      rcases ResponseHandler.handleResponse_cases server.node
          (medium.sealing server.privKey) path req state with
        ⟨_, _, rejected⟩ |
        ⟨publicKey, response, _, vouched, responded, _, handled⟩
      · rw [rejected]
        exact .inl rfl
      · rw [handled]
        exact .inr ⟨req, publicKey, response, rfl, vouched, responded⟩

end NodeServer

/-- What the client makes of a reply. -/
def Wire.ended (wire : Wire) (crypto : Cryptography) (node : Node)
    (state : NodeState) (path : Path) : HttpReply → Outcome path.Response
  | .noConnection => .unreachable
  | .response false text =>
      match wire.loadError text with
      | some error => .rejected error.raised
      | none => .rejected .server
  | .response true text => .received (wire.unwrap crypto node state path text)

theorem Wire.exchange_eq (wire : Wire) (crypto : Cryptography) (node : Node)
    (state : NodeState) (url : String) (peer : KoiNetNode) (path : Path)
    (request : path.Request) :
    wire.exchange crypto node state url peer path request =
      wire.ended crypto node state path
        (wire.post state url peer path request) := by
  unfold Wire.exchange Wire.ended
  rcases wire.post state url peer path request with _ | ⟨_ | _, text⟩ <;> rfl

theorem Wire.success_of_returned {wire : Wire} {crypto : Cryptography}
    {node : Node} {state : NodeState} {path : Path} {reply : HttpReply}
    {payload : path.Response}
    (returned : RequestHandler.received
      (wire.ended crypto node state path reply) = .ok payload) :
    ∃ text, reply = .response true text := by
  cases reply with
  | noConnection => cases returned
  | response isSuccess text =>
      cases isSuccess with
      | true => exact ⟨text, rfl⟩
      | false =>
          cases decoded : wire.loadError text <;>
            simp [Wire.ended, RequestHandler.received, decoded] at returned

namespace Medium

variable {medium : Medium} {client server : medium.Peer}

/-- What a peer makes of an event from another. -/
def queuedFrom (sender : medium.Peer) (event : Event) : KnowledgeObject :=
  .fromEvent event (some sender.node.rid)

/-- The client has the URL at which another peer listens. -/
structure Reaches (client server : medium.Peer) (cache : Cache) : Prop where
  other : server.node.rid ≠ client.node.rid
  resolved : ∃ url, RequestHandler.resolve client.node cache server.node.rid =
      .ok (some url) ∧ server.node.profile.baseUrl = some url

theorem Reaches.posts {cache : Cache} (reaches : Reaches client server cache)
    (path : Path) : medium.Posts client server cache path := by
  obtain ⟨url, found, listens⟩ := reaches.resolved
  refine ⟨reaches.other, url, ?_, ?_⟩
  · rw [found]
    rfl
  · rw [listens]
    rfl

theorem Posts.reaches {cache : Cache} {path : Path}
    (posts : medium.Posts client server cache path) :
    Reaches client server cache := by
  obtain ⟨other, url, found, listens⟩ := posts
  cases resolved : RequestHandler.resolve client.node cache
      server.node.rid with
  | error failure =>
      rw [resolved] at found
      cases found
  | ok result =>
      rw [resolved] at found
      cases result with
      | none => cases found
      | some address =>
          cases found
          cases based : server.node.profile.baseUrl with
          | none =>
              rw [based] at listens
              cases listens
          | some base =>
              rw [based] at listens
              have same : url = base :=
                (String.append_left_inj _).mp (Option.some.inj listens)
              refine ⟨other, url, resolved, ?_⟩
              rw [based, same]

section Outcome

variable {clientState : NodeState} {state : EventWorkerState} {path : Path}
  {request : path.Request} {fate : Fate}

theorem answer_reached (fate : Fate) (state : EventWorkerState)
    (request : path.Request)
    (reaches : Reaches client server clientState.cache) :
    ∃ url, RequestHandler.resolve (client.node.over
        medium.library.toCryptography (medium.wire client server fate state))
          clientState.cache server.node.rid = .ok (some url) ∧
      (client.node.over medium.library.toCryptography
        (medium.wire client server fate state)).answer clientState
          (url ++ path.str) server.node.rid path request =
        (medium.wire client server fate state).ended
          medium.library.toCryptography client.node clientState path
          (if fate = .answered then
            (medium.deliver client server state server.node.rid path request).1
          else .noConnection) := by
  obtain ⟨url, found, listens⟩ := reaches.resolved
  refine ⟨url, found, ?_⟩
  change (medium.wire client server fate state).exchange _ _ _ _ _ _ _ = _
  rw [Wire.exchange_eq]
  simp [wire, listens]

theorem outcome_reached (reaches : Reaches client server clientState.cache) :
    RequestHandler.outcome (client.node.over medium.library.toCryptography
        (medium.wire client server fate state)) clientState server.node.rid
        path request =
      RequestHandler.received ((medium.wire client server fate state).ended
        medium.library.toCryptography client.node clientState path
        (if fate = .answered then
          (medium.deliver client server state server.node.rid path request).1
        else .noConnection)) := by
  obtain ⟨url, found, answer⟩ := answer_reached fate state request reaches
  have other : server.node.rid ≠ (client.node.over
      medium.library.toCryptography
        (medium.wire client server fate state)).rid := reaches.other
  unfold RequestHandler.outcome
  rw [if_neg other, found]
  dsimp only
  rw [answer]

/-- A legible request reaches the endpoint in the envelope that the client has
created. -/
theorem deliver_legible (state : EventWorkerState)
    (legible : Legible (path.requestEnvelope medium.leaves) client server
      request) :
    ∃ envelope,
      SecureManager.createEnvelope client.node medium.library client.privKey
        (medium.dumpRequest path) request server.node.rid = .ok envelope ∧
      envelope.unsigned =
        { payload := request
          sourceNode := client.node.rid
          targetNode := server.node.rid } ∧
      envelope.verifyWith medium.library.toCryptography
        (medium.dumpRequest path)
        (medium.library.publicKey client.privKey) = .ok () ∧
      medium.deliver client server state server.node.rid path request =
        let ended := (ResponseHandler.handleResponse server.node
          (medium.sealing server.privKey) path envelope).run state
        (NodeServer.reply medium path ended.1, ended.2) := by
  obtain ⟨envelope, created, contents, verified, read⟩ :=
    legible.envelope (.request path)
  refine ⟨envelope, created, contents, verified, ?_⟩
  have created : SecureManager.createEnvelope client.node medium.library
      client.privKey (medium.dumpRequest path) request server.node.rid =
        .ok envelope := created
  have posted : medium.posted client server.node.rid path request =
      .ok ((medium.requestText path).encode envelope) := by
    unfold Medium.posted
    rw [created]
    rfl
  have read : (medium.requestText path).decode
      ((medium.requestText path).encode envelope) = some envelope := read
  unfold deliver
  rw [posted]
  dsimp only
  unfold NodeServer.endpoint
  rw [read]

/-- A request only returns if a success came back. -/
theorem deliver_of_returned {payload : path.Response}
    (returned : ((medium.makeRequest client server fate state path
      request).run clientState).1 = .ok payload) :
    fate = .answered ∧ medium.Posts client server clientState.cache path ∧
      ∃ text,
        (medium.deliver client server state server.node.rid path request).1 =
          .response true text := by
  obtain ⟨_, ran, _⟩ := RequestHandler.makeRequest_run
    (client.node.over medium.library.toCryptography
      (medium.wire client server fate state)) clientState server.node.rid path
    request
  have returned : _ = Except.ok payload :=
    (congrArg Prod.fst ran).symm.trans returned
  rw [Wire.outcome_over] at returned
  split at returned
  · cases returned
  · rename_i other
    split at returned
    · cases returned
    · cases returned
    · rename_i url found
      rw [Wire.exchange_eq] at returned
      obtain ⟨text, success⟩ := Wire.success_of_returned returned
      by_cases posts : some (url ++ path.str) =
          server.node.profile.baseUrl.map (· ++ path.str) ∧ fate = .answered
      · refine ⟨posts.2, ⟨other, url, ?_, posts.1⟩, text,
          (if_pos posts).symm.trans success⟩
        rw [found]
        rfl
      · cases (if_neg posts).symm.trans success

/-- A legible request is handled, or it leaves the server alone and does not
return. -/
theorem served_legible (fate : Fate) (cache : Cache)
    (state : EventWorkerState)
    (legible : Legible (path.requestEnvelope medium.leaves) client server
      request) :
    (∃ response,
      (ResponseHandler.respond server.node path request client.node.rid).run
        state = (.ok response,
          medium.served client server fate cache state path request) ∧
      fate ≠ .requestLost ∧ medium.Posts client server cache path ∧
      (medium.deliver client server state server.node.rid path request).1 =
        NodeServer.reply medium path
          (response.elim (pure none) fun answer => some <$>
            SecureManager.createEnvelope server.node medium.library
              server.privKey (medium.dumpResponse path) answer
              client.node.rid)) ∨
    medium.served client server fate cache state path request = state ∧
      ∀ clientState payload, clientState.cache = cache →
        ((medium.makeRequest client server fate state path request).run
          clientState).1 ≠ .ok payload := by
  obtain ⟨envelope, _, contents, _, delivered⟩ := deliver_legible state legible
  unfold served
  by_cases arrives : fate ≠ .requestLost ∧
      medium.Posts client server cache path
  · rw [if_pos arrives]
    rcases ResponseHandler.handleResponse_cases server.node
        (medium.sealing server.privKey) path envelope state with
      ⟨failure, _, rejected⟩ | ⟨_, response, after, _, responded, _, handled⟩
    · rw [rejected] at delivered
      rw [delivered]
      refine .inr ⟨rfl, fun clientState payload _ returned => ?_⟩
      obtain ⟨_, _, text, replied⟩ := deliver_of_returned returned
      have failed := (congrArg Prod.fst delivered).symm.trans replied
      change NodeServer.errorReply medium failure = _ at failed
      unfold NodeServer.errorReply at failed
      split at failed <;> cases failed
    · have same : envelope.payload = request :=
        congrArg UnsignedEnvelope.payload contents
      have source : envelope.sourceNode = client.node.rid :=
        congrArg UnsignedEnvelope.sourceNode contents
      rw [same, source] at responded
      rw [handled, source] at delivered
      rw [delivered]
      exact .inl ⟨response, responded, arrives.1, arrives.2, rfl⟩
  · rw [if_neg arrives]
    refine .inr ⟨rfl, fun clientState payload cached returned => ?_⟩
    obtain ⟨answered, posts, _⟩ := deliver_of_returned returned
    rw [cached] at posts
    exact arrives ⟨by rw [answered]; decide, posts⟩

/-- A payload that arrives is handled, and its answer is sent back. -/
theorem deliver_arrived {response : Option path.Response}
    {after : EventWorkerState}
    (sent : Arrives (path.requestEnvelope medium.leaves) client server
      state.node.cache request)
    (responded : (ResponseHandler.respond server.node path request
      client.node.rid).run state = (.ok response, after)) :
    medium.deliver client server state server.node.rid path request =
      (NodeServer.reply medium path
        (response.elim (pure none) fun answer => some <$>
          SecureManager.createEnvelope server.node medium.library
            server.privKey (medium.dumpResponse path) answer
            client.node.rid), after) := by
  obtain ⟨envelope, _, contents, verified, delivered⟩ :=
    deliver_legible state sent.legible
  have valid := sent.valid contents verified
  have source : envelope.sourceNode = client.node.rid :=
    congrArg UnsignedEnvelope.sourceNode contents
  rw [path.requestEnvelope_events] at valid
  rw [← show envelope.payload = request from
    congrArg UnsignedEnvelope.payload contents, ← source] at responded
  rw [delivered, ResponseHandler.handleResponse_valid
    (medium.sealing server.privKey) valid responded, ← source]
  rfl

theorem Legible.replied (fate : Fate) (state : EventWorkerState)
    {model : EnvelopeModel path.Response} {answer : path.Response}
    (listed : path.responseEnvelope medium.leaves = some model)
    (legible : Legible model server client answer) :
    ∃ text envelope,
      NodeServer.reply medium path (some <$>
        SecureManager.createEnvelope server.node medium.library server.privKey
          (medium.dumpResponse path) answer client.node.rid) =
        .response true text ∧
      (medium.wire client server fate state).loadSigned path text =
        some envelope ∧
      envelope.unsigned =
        { payload := answer
          sourceNode := server.node.rid
          targetNode := client.node.rid } ∧
      envelope.verifyWith medium.library.toCryptography
        (medium.dumpResponse path)
        (medium.library.publicKey server.privKey) = .ok () := by
  have dumps : medium.dumpResponse path =
      model.dumpUnsigned medium.leaves medium.text := by
    unfold dumpResponse
    rw [listed]
  obtain ⟨envelope, created, contents, verified, read⟩ :=
    legible.envelope (.response listed)
  rw [dumps]
  refine ⟨(model.transmit medium.leaves medium.text).encode envelope, envelope,
    ?_, ?_, contents, verified⟩
  · rw [created]
    change HttpReply.response true
      (medium.responseBody path (some envelope)) = _
    unfold responseBody
    rw [listed]
  · change medium.loadResponse path _ = _
    unfold loadResponse
    rw [listed]
    exact read

theorem unwrap_arrived (fate : Fate) (state : EventWorkerState)
    {model : EnvelopeModel path.Response} {answer : path.Response}
    (noResponse : path.noResponse = none)
    (listed : path.responseEnvelope medium.leaves = some model)
    (events : model.events = path.responseEvents)
    (arrives : Arrives model server client clientState.cache answer) :
    ∃ text,
      NodeServer.reply medium path (some <$>
        SecureManager.createEnvelope server.node medium.library server.privKey
          (medium.dumpResponse path) answer client.node.rid) =
        .response true text ∧
      (medium.wire client server fate state).unwrap
        medium.library.toCryptography client.node clientState path text =
          .ok answer := by
  have dumps : medium.dumpResponse path =
      model.dumpUnsigned medium.leaves medium.text := by
    unfold dumpResponse
    rw [listed]
  obtain ⟨text, envelope, replied, loaded, contents, verified⟩ :=
    arrives.legible.replied fate state listed
  rw [dumps] at verified
  have valid := arrives.valid contents verified
  have validated : (((medium.wire client server fate state).validateResponse
      medium.library.toCryptography client.node path envelope).run
        clientState).1 = .ok () := by
    unfold Wire.validateResponse
    rw [← events, show (medium.wire client server fate state).dumpUnsigned
      path = _ from dumps]
    exact valid
  refine ⟨text, replied, ?_⟩
  unfold Wire.unwrap
  rw [noResponse]
  dsimp only
  rw [loaded]
  dsimp only
  rw [validated, show envelope.payload = answer from
    congrArg UnsignedEnvelope.payload contents]

theorem returned_answer {model : EnvelopeModel path.Response}
    {answer payload : path.Response} (noResponse : path.noResponse = none)
    (listed : path.responseEnvelope medium.leaves = some model)
    (legible : Legible model server client answer)
    (sent : (medium.deliver client server state server.node.rid path
      request).1 = NodeServer.reply medium path (some <$>
        SecureManager.createEnvelope server.node medium.library server.privKey
          (medium.dumpResponse path) answer client.node.rid))
    (returned : ((medium.makeRequest client server fate state path
      request).run clientState).1 = .ok payload) :
    payload = answer := by
  obtain ⟨answered, posts, _⟩ := deliver_of_returned returned
  obtain ⟨text, envelope, replied, loaded, contents, _⟩ :=
    legible.replied fate state listed
  obtain ⟨_, ran, _⟩ := RequestHandler.makeRequest_run
    (client.node.over medium.library.toCryptography
      (medium.wire client server fate state)) clientState server.node.rid path
    request
  have returned : _ = Except.ok payload :=
    (congrArg Prod.fst ran).symm.trans returned
  rw [outcome_reached posts.reaches, if_pos answered, sent, replied]
    at returned
  change Wire.unwrap _ _ _ _ _ _ = _ at returned
  unfold Wire.unwrap at returned
  rw [noResponse] at returned
  dsimp only at returned
  rw [loaded] at returned
  dsimp only at returned
  split at returned
  · cases returned
    exact congrArg UnsignedEnvelope.payload contents
  · cases returned

theorem makeRequest_unwrapped {payload : path.Response} {text : String}
    (reaches : Reaches client server clientState.cache)
    (replied : (medium.deliver client server state server.node.rid path
      request).1 = .response true text)
    (unwrapped : (medium.wire client server .answered state).unwrap
      medium.library.toCryptography client.node clientState path text =
        .ok payload) :
    (medium.makeRequest client server .answered state path request).run
      clientState = (.ok payload, clientState.answered server.node.rid) := by
  apply RequestHandler.makeRequest_returns
  unfold Answers
  rw [outcome_reached reaches, if_pos rfl, replied]
  exact unwrapped

end Outcome

end Medium

/-- A peer whose messages are written in another way. -/
def Medium.Peer.rewritten {medium : Medium} (peer : medium.Peer)
    (text : Codec Json String) : Medium.Peer { medium with text := text } :=
  { node := peer.node
    privKey := peer.privKey
    hashes := peer.hashes
    signs := peer.signs
    publishes := peer.publishes
    named := peer.named }

namespace Acquaintance

mutual

/-- The characters of a JSON text without blanks or escapes. -/
def chars : Json → List Char
  | .null => "null".toList
  | .bool value => (toString value).toList
  | .num value => (toString value).toList
  | .str value => '"' :: value.toList ++ ['"']
  | .arr items => '[' :: charsOfItems items ++ [']']
  | .obj fields => '\x7b' :: charsOfFields fields ++ ['\x7d']

def charsOfItems : List Json → List Char
  | [] => []
  | [item] => chars item
  | item :: items => chars item ++ ',' :: charsOfItems items

def charsOfFields : List (String × Json) → List Char
  | [] => []
  | [(name, value)] => '"' :: name.toList ++ '"' :: ':' :: chars value
  | (name, value) :: fields =>
      '"' :: name.toList ++ '"' :: ':' :: chars value ++
        ',' :: charsOfFields fields

end

/-- The beginning of a text, by which messages are told apart. -/
def label (json : Json) : List Char :=
  (chars json).take 43

def dumps (json : Json) : String :=
  String.ofList (chars json)

/-- A text codec that reads back certain messages. -/
def script (messages : List Json) : Codec Json String :=
  { encode := dumps
    decode := fun received =>
      messages.find? fun json => decide (dumps json = received) }

theorem script_faithful {messages : List Json} {json : Json}
    (labels : (messages.map label).Nodup) (member : json ∈ messages) :
    (script messages).Faithful json := by
  change messages.find? (fun other => decide (dumps other = dumps json)) = _
  cases found : messages.find? (fun other =>
      decide (dumps other = dumps json)) with
  | none =>
      have differs := List.find?_eq_none.mp found json member
      simp at differs
  | some other =>
      have same := List.find?_some found
      rw [decide_eq_true_eq] at same
      have sameLabel : label other = label json := by
        unfold label
        rw [String.ofList_injective same]
      rw [List.inj_on_of_nodup_map labels (List.mem_of_find?_eq_some found)
        member sameLabel]

/-- A full node whose public key is `BBBB`. -/
def node : Node :=
  Node.isolated
    { nodeRid := { name := "acquaintance", hash := "BBBB" }
      nodeProfile :=
        { context := NodeProfile.defaultContext
          baseUrl := some "url"
          nodeType := .full
          provides := { event := [], state := [] }
          publicKey := some "BBBB" } }
    id fun _ => ""

def bundle : Bundle :=
  { manifest := { rid := .node node.rid, timestamp := 7, sha256Hash := "" }
    contents := [("base_url", .str "url"), ("node_type", .str "FULL"),
      ("public_key", .str "BBBB")] }

def leaves : Leaves :=
  { Newcomer.leaves with
    rid :=
      { encode := Newcomer.leaves.rid.encode
        decode := fun text =>
          if text = Newcomer.rid.toString then some (.node Newcomer.rid)
          else if text = node.rid.toString then some (.node node.rid)
          else none } }

/-- The JSON of the envelope that a node creates. -/
def sealed {T : Type} (model : EnvelopeModel T) (sender : Node)
    (privKey : Bytes) (payload : T) (target : KoiNetNode) : Json :=
  match SecureManager.createEnvelope sender Wire.lengthSigning privKey
      (fun envelope => dumps (model.unsignedJson leaves envelope)) payload
      target with
  | .ok envelope => (model.signedJson leaves).encode envelope
  | .error _ => .null

def requestModel : EnvelopeModel FetchRids :=
  Path.fetchRids.requestEnvelope leaves

def responseModel : EnvelopeModel RidsPayload :=
  { payload := RidsPayload.json leaves
    leavesFaithful := RidsPayload.LeavesFaithful leaves
    events := Path.fetchRids.responseEvents }

def answer : RidsPayload :=
  { rids := [.node Newcomer.rid] }

def broadcastModel : EnvelopeModel EventsPayload :=
  Path.broadcastEvents.requestEnvelope leaves

/-- The newcomer leaves. -/
def farewell : Event :=
  .fromRid .forget (.node Newcomer.rid)

theorem label_sealed {T : Type} (model : EnvelopeModel T) (sender : Node)
    (privKey : Bytes) (payload : T) (target : KoiNetNode)
    (long : (('\x7b' :: charsOfFields
      [("payload", model.payload.encode payload)]).drop 42).isEmpty =
        false) :
    label (sealed model sender privKey payload target) =
      ('\x7b' :: charsOfFields
        [("payload", model.payload.encode payload)]).take 43 := by
  obtain ⟨signature, signed, _⟩ := verify_sign
    (Wire.lengthSigning_consistent privKey (dumps (model.unsignedJson leaves
      { payload, sourceNode := sender.rid, targetNode := target
        })).toUTF8.data.toList)
  have sealed_eq : sealed model sender privKey payload target =
      (model.signedJson leaves).encode
        { payload := payload
          sourceNode := sender.rid
          targetNode := target
          signature := signature } := by
    unfold sealed SecureManager.createEnvelope UnsignedEnvelope.signWith
    rw [signed]
    rfl
  have whole : ∃ rest, chars (sealed model sender privKey payload target) =
      ('\x7b' :: charsOfFields
        [("payload", model.payload.encode payload)]) ++ rest := by
    refine ⟨',' :: charsOfFields
      [("source_node", leaves.nodeJson.encode sender.rid),
        ("target_node", leaves.nodeJson.encode target),
        ("signature", Json.string.encode signature)] ++ ['\x7d'], ?_⟩
    rw [sealed_eq]
    simp [EnvelopeModel.signedJson, Json.model, chars, charsOfFields]
  obtain ⟨rest, whole⟩ := whole
  have length : 43 ≤ ('\x7b' :: charsOfFields
      [("payload", model.payload.encode payload)]).length := by
    rw [List.isEmpty_eq_false_iff, ← List.length_pos_iff, List.length_drop]
      at long
    omega
  unfold label
  rw [whole, List.take_append_of_le_length length]

/-- What the two send each other. -/
def messages : List Json :=
  [sealed requestModel Newcomer.node [0, 0, 0] {} node.rid,
    sealed responseModel node [4, 16, 65] answer Newcomer.rid,
    sealed broadcastModel Newcomer.node [0, 0, 0] { events := [farewell] }
      node.rid,
    ErrorResponse.json.encode .unknownNode,
    ErrorResponse.json.encode .invalidKey,
    ErrorResponse.json.encode .invalidSignature,
    ErrorResponse.json.encode .invalidTarget,
    NodeServer.unprocessableEntity]

theorem messages_labels : (messages.map label).Nodup := by
  unfold messages
  simp only [List.map_cons, List.map_nil]
  rw [label_sealed _ _ _ _ _ (by decide), label_sealed _ _ _ _ _ (by decide),
    label_sealed _ _ _ _ _ (by decide)]
  decide

def medium : Medium :=
  { library := Wire.lengthSigning
    sha256Hash := id
    leaves := leaves
    text := script messages }

def newcomer : medium.Peer :=
  { node := Newcomer.node
    privKey := ([0, 0, 0] : Bytes)
    hashes := rfl
    signs := Wire.lengthSigning_consistent _
    publishes := rfl
    named := rfl }

def acquaintance : medium.Peer :=
  { node := node
    privKey := ([4, 16, 65] : Bytes)
    hashes := rfl
    signs := Wire.lengthSigning_consistent _
    publishes := rfl
    named := rfl }

theorem parses {messages : List Json} (labels : (messages.map label).Nodup)
    {T : Type} {model : EnvelopeModel T} {sender : Node} {privKey : Bytes}
    {payload : T} {target : KoiNetNode}
    (listed : sealed model sender privKey payload target ∈ messages) :
    ∀ envelope, SecureManager.createEnvelope sender Wire.lengthSigning privKey
        (model.dumpUnsigned leaves (script messages)) payload target =
          .ok envelope →
      (script messages).Faithful
        ((model.signedJson leaves).encode envelope) := by
  intro envelope created
  have same : sealed model sender privKey payload target =
      (model.signedJson leaves).encode envelope := by
    unfold sealed
    rw [show SecureManager.createEnvelope sender Wire.lengthSigning privKey
      (fun envelope => dumps (model.unsignedJson leaves envelope)) payload
      target = .ok envelope from created]
  rw [← same]
  exact script_faithful labels listed

theorem request_legible :
    Medium.Legible requestModel newcomer acquaintance {} :=
  { decodes := fun _ member => by cases member
    source := rfl
    target := rfl
    parses := parses messages_labels (List.mem_cons_self) }

theorem farewell_legible :
    Medium.Legible broadcastModel newcomer acquaintance
      { events := [farewell] } :=
  { decodes := fun event member => by
      cases List.mem_singleton.mp member
      exact
        { rid := rfl
          manifest := fun _ member => by cases member
          contents := fun _ member => by cases member }
    source := rfl
    target := rfl
    parses := parses messages_labels (List.mem_cons_of_mem _
      (List.mem_cons_of_mem _ List.mem_cons_self)) }

/-- The newcomer has the profile of the full node. -/
def newcomerState : NodeState :=
  .fresh (Cache.empty.write bundle)

/-- A full node with some cache. -/
def withCache (cache : Cache) : EventWorkerState :=
  { node := .fresh cache
    pollEventBuf := .empty
    broadcastEventBuf := .empty
    broadcasts := [] }

theorem reaches :
    Medium.Reaches newcomer acquaintance newcomerState.cache :=
  { other := by decide
    resolved := ⟨"url", rfl, rfl⟩ }

end Acquaintance

end KoiNet
