import KoiNet.Components.Exchange
import KoiNet.Security.EnvelopeRoundTrip
import KoiNet.Security.ErrorCoverage

/-!
# The server and its clients

The server reads the body of a request as the envelope model of the path and
hands it to the response handler.  A body that it cannot read and an exception
are turned into error responses; only those to protocol errors say what went
wrong.
-/

namespace KoiNet

open Foundation

/-- `ErrorType`. -/
def ErrorType.json : Codec ErrorType Json :=
  { encode := fun
      | .unknownNode => .str "unknown_node"
      | .invalidKey => .str "invalid_key"
      | .invalidSignature => .str "invalid_signature"
      | .invalidTarget => .str "invalid_target"
    decode := fun
      | .str "unknown_node" => some .unknownNode
      | .str "invalid_key" => some .invalidKey
      | .str "invalid_signature" => some .invalidSignature
      | .str "invalid_target" => some .invalidTarget
      | _ => none }

/-- `ErrorResponse`, of which only the error is kept. -/
def ErrorResponse.json : Codec ErrorType Json :=
  { encode := fun error => .model
      [("type", some (.str "error_response")),
        ("error", some (ErrorType.json.encode error))]
    decode := fun json => do
      json.literal "type" "error_response"
      json.required "error" ErrorType.json }

theorem ErrorResponse.json_faithful (error : ErrorType) :
    ErrorResponse.json.Faithful error := by
  cases error <;> rfl

/-- What nodes that talk to each other have in common: the cryptographic
library, the hash function, and how messages are written and read. -/
structure Medium where
  library : SigningLibrary
  sha256Hash : String → String
  leaves : Leaves
  text : Codec Json String

/-- A node with its private key, from which its RID and the public key in its
profile were made. -/
structure Medium.Peer (medium : Medium) where
  node : Node
  privKey : medium.library.PrivateKey
  hashes : node.sha256Hash = medium.sha256Hash
  signs : ∀ message, medium.library.Consistent privKey message
  publishes : node.profile.publicKey =
    some (PublicKey.toDer medium.library (medium.library.publicKey privKey))
  named : node.rid.hash = medium.sha256Hash
    (PublicKey.toDer medium.library (medium.library.publicKey privKey))

namespace Medium

variable (medium : Medium)

/-- What a request is signed as. -/
def dumpRequest (path : Path) : UnsignedEnvelope path.Request → String :=
  (path.requestEnvelope medium.leaves).dumpUnsigned medium.leaves medium.text

/-- What a response is signed as; no response without a model is signed. -/
def dumpResponse (path : Path) : UnsignedEnvelope path.Response → String :=
  match path.responseEnvelope medium.leaves with
  | some model => model.dumpUnsigned medium.leaves medium.text
  | none => fun _ => ""

def sealing (privKey : medium.library.PrivateKey) : Sealing :=
  { library := medium.library
    privKey := privKey
    dumpRequest := medium.dumpRequest
    dumpResponse := medium.dumpResponse }

def requestText (path : Path) : Codec (SignedEnvelope path.Request) String :=
  (path.requestEnvelope medium.leaves).transmit medium.leaves medium.text

/-- The body of a successful response. -/
def responseBody (path : Path) :
    Option (SignedEnvelope path.Response) → String
  | none => medium.text.encode .null
  | some envelope =>
      match path.responseEnvelope medium.leaves with
      | some model => (model.transmit medium.leaves medium.text).encode envelope
      -- the handler of such a path returns nothing
      | none => medium.text.encode .null

def loadResponse (path : Path) (body : String) :
    Option (SignedEnvelope path.Response) :=
  match path.responseEnvelope medium.leaves with
  | some model => (model.transmit medium.leaves medium.text).decode body
  | none => none

def errorText : Codec ErrorType String :=
  ErrorResponse.json.comp medium.text

end Medium

namespace NodeServer

variable (medium : Medium) (server : medium.Peer)

/-- The body of the response to a request that does not fit the model. -/
def unprocessableEntity : Json :=
  .model [("detail", some (.arr []))]

/-- `protocol_error_handler`, and what becomes of all other exceptions. -/
def errorReply (failure : Exc) : HttpReply :=
  match exceptionToErrorType failure with
  | some error => .response false (medium.errorText.encode error)
  | none => .response false "Internal Server Error"

/-- The response for what the endpoint of the path has returned or raised. -/
def reply (path : Path) :
    Except Exc (Option (SignedEnvelope path.Response)) → HttpReply
  | .ok response => .response true (medium.responseBody path response)
  | .error failure => errorReply medium failure

/-- The request model is validated before the endpoint is called. -/
def endpoint (path : Path) (body : String) (state : EventWorkerState) :
    HttpReply × EventWorkerState :=
  match (medium.requestText path).decode body with
  | none => (.response false (medium.text.encode unprocessableEntity), state)
  | some req =>
      let ended := (ResponseHandler.handleResponse server.node
        (medium.sealing server.privKey) path req).run state
      (reply medium path ended.1, ended.2)

end NodeServer

/-- What the network does to a request and its reply. -/
inductive Fate where
  | answered
  | requestLost
  | replyLost
  deriving DecidableEq, Repr

/-- How other nodes answer requests. -/
abbrev OtherAnswers : Type :=
  NodeState → String → KoiNetNode → (path : Path) → path.Request →
    Outcome path.Response

namespace Medium

variable (medium : Medium) (client server : medium.Peer)

/-- The body that a client posts. -/
def posted (target : KoiNetNode) (path : Path) (request : path.Request) :
    Except Exc String := do
  let envelope ← SecureManager.createEnvelope client.node medium.library
    client.privKey (medium.dumpRequest path) request target
  return (medium.requestText path).encode envelope

/-- The server's reply to a request, and the state it is left in. -/
def deliver (state : EventWorkerState) (target : KoiNetNode) (path : Path)
    (request : path.Request) : HttpReply × EventWorkerState :=
  match medium.posted client target path request with
  | .ok body => NodeServer.endpoint medium server path body state
  -- a peer's envelopes can all be signed
  | .error _ => (.noConnection, state)

/-- A wire at whose end is a server in some state. -/
def wire (fate : Fate) (state : EventWorkerState) : Wire :=
  { post := fun _ url target path request =>
      if some url = server.node.profile.baseUrl.map (· ++ path.str) ∧
          fate = .answered then
        (medium.deliver client server state target path request).1
      else
        .noConnection
    dumpUnsigned := medium.dumpResponse
    loadSigned := medium.loadResponse
    loadError := medium.errorText.decode }

/-- The client in a network of this server and of other nodes, which answer in
any way. -/
def among (fate : Fate) (state : EventWorkerState)
    (elsewhere : OtherAnswers) : Node :=
  { client.node with
    answer := fun clientState url peer path request =>
      if peer = server.node.rid then
        (medium.wire client server fate state).exchange
          medium.library.toCryptography client.node clientState url peer path
          request
      else
        elsewhere clientState url peer path request }

/-- `make_request` to the server. -/
def makeRequest (fate : Fate) (state : EventWorkerState) (path : Path)
    (request : path.Request) : NodeM path.Response :=
  RequestHandler.makeRequest
    (client.node.over medium.library.toCryptography
      (medium.wire client server fate state))
    server.node.rid path request

/-- A request to the server is posted to the URL at which it listens. -/
def Posts (cache : Cache) (path : Path) : Prop :=
  server.node.rid ≠ client.node.rid ∧
    ∃ url ∈ (RequestHandler.resolve client.node cache
        server.node.rid).toOption.join,
      some (url ++ path.str) =
        server.node.profile.baseUrl.map (· ++ path.str)

instance (cache : Cache) (path : Path) :
    Decidable (medium.Posts client server cache path) :=
  inferInstanceAs (Decidable (_ ∧ _))

/-- The state of the server after the request of a client with this cache. -/
def served (fate : Fate) (cache : Cache) (state : EventWorkerState)
    (path : Path) (request : path.Request) : EventWorkerState :=
  if fate ≠ .requestLost ∧ medium.Posts client server cache path then
    (medium.deliver client server state server.node.rid path request).2
  else
    state

end Medium

/-- The state of a client and that of a server it calls. -/
structure CallState where
  client : NodeState
  server : EventWorkerState

def CallState.clientPart : Part CallState NodeState :=
  { get := fun state => state.client
    set := fun state client => { state with client := client }
    get_set := fun _ _ => rfl
    set_get := fun _ => rfl
    set_set := fun _ _ _ => rfl }

/-- `make_request` to the server, which is left as the request leaves it. -/
def Medium.call (medium : Medium) (client server : medium.Peer) (fate : Fate)
    (path : Path) (request : path.Request) :
    Effect Exc CallState path.Response :=
  { run := fun state =>
      let ended := (medium.makeRequest client server fate state.server path
        request).run state.client
      (ended.1,
        { client := ended.2
          server := medium.served client server fate state.client.cache
            state.server path request }) }

end KoiNet
