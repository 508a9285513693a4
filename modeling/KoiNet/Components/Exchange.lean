import KoiNet.Components.SecureManager

/-!
# The exchange of one message

What `make_request` makes of the reply to the message it posts.  The request
handler takes how an exchange ends from the node; here that is computed from
the text of the reply.
-/

namespace KoiNet

open Foundation

/-- The reply to a posted message: none, or a status that is a success or an
error, with a body. -/
inductive HttpReply where
  | noConnection
  | response (isSuccess : Bool) (text : String)

/-- The HTTP client, and the JSON encoding and decoding of the models.  What
answers at a URL may depend on everything. -/
structure Wire where
  post : NodeState → String → KoiNetNode → (path : Path) → path.Request →
    HttpReply
  dumpUnsigned : (path : Path) → UnsignedEnvelope path.Response → String
  loadSigned : (path : Path) → String → Option (SignedEnvelope path.Response)
  loadError : String → Option ErrorType

namespace Wire

variable (wire : Wire) (crypto : Cryptography) (node : Node)

/-- `secure_manager.validate_envelope(resp_envelope)`. -/
def validateResponse (path : Path) (envelope : SignedEnvelope path.Response) :
    NodeM Unit :=
  SecureManager.validateEnvelope node crypto path.responseEvents
    (wire.dumpUnsigned path) envelope

/-- The payload of a successful response. -/
def unwrap (state : NodeState) (path : Path) (text : String) :
    Except Exc path.Response :=
  match path.noResponse with
  | some response => .ok response
  | none =>
      match wire.loadSigned path text with
      | none => .error (.request .server)
      | some envelope =>
          match ((wire.validateResponse crypto node path envelope).run
              state).1 with
          | .ok _ => .ok envelope.payload
          | .error failure => .error failure

def exchange (state : NodeState) (url : String) (peer : KoiNetNode)
    (path : Path) (request : path.Request) : Outcome path.Response :=
  match wire.post state url peer path request with
  | .noConnection => .unreachable
  | .response false text =>
      match wire.loadError text with
      | some error => .rejected error.raised
      | none => .rejected .server
  | .response true text => .received (wire.unwrap crypto node state path text)

end Wire

/-- The node whose peers are reached over the wire. -/
def Node.over (node : Node) (crypto : Cryptography) (wire : Wire) : Node :=
  { node with answer := wire.exchange crypto node }

end KoiNet
