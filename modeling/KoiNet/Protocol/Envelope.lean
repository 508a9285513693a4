import KoiNet.Protocol.Api
import KoiNet.Protocol.Secure

/-!
# Envelopes

Every message travels in an envelope that names its sender and its recipient
and is signed by the sender.  The signature is over the JSON text of the
envelope without it.
-/

namespace KoiNet

structure UnsignedEnvelope (T : Type) where
  payload : T
  sourceNode : KoiNetNode
  targetNode : KoiNetNode

structure SignedEnvelope (T : Type) where
  payload : T
  sourceNode : KoiNetNode
  targetNode : KoiNetNode
  signature : String

namespace SignedEnvelope

variable {T : Type}

def unsigned (envelope : SignedEnvelope T) : UnsignedEnvelope T :=
  { payload := envelope.payload
    sourceNode := envelope.sourceNode
    targetNode := envelope.targetNode }

/-- Verify the signature over what `modelDumpJson` makes of an envelope that it
can serialise. -/
def verifyWith (crypto : Cryptography)
    (modelDumpJson : UnsignedEnvelope T → String) (envelope : SignedEnvelope T)
    (pubKey : crypto.Key) : Except Exc Unit :=
  PublicKey.verify crypto pubKey envelope.signature
    (modelDumpJson envelope.unsigned).toUTF8.data.toList

/-- As `verifyWith`, where serialising the envelope may raise. -/
def verifySerialized (crypto : Cryptography)
    (modelDumpJson : UnsignedEnvelope T → Except Exc String)
    (envelope : SignedEnvelope T) (pubKey : crypto.Key) : Except Exc Unit := do
  let serialized ← modelDumpJson envelope.unsigned
  PublicKey.verify crypto pubKey envelope.signature
    serialized.toUTF8.data.toList

end SignedEnvelope

/-- Protocol errors as a peer reports them. -/
inductive ErrorType where
  | unknownNode
  | invalidKey
  | invalidSignature
  | invalidTarget
  deriving DecidableEq, Repr

/-- The exception a reported protocol error raises. -/
def ErrorType.raised : ErrorType → RequestError
  | .unknownNode => .remoteUnknownNode
  | .invalidKey => .remoteInvalidKey
  | .invalidSignature => .remoteInvalidSignature
  | .invalidTarget => .remoteInvalidTarget

/-- The payload of a response, if it is an `EventsPayload`. -/
def Path.responseEvents : (path : Path) → path.Response →
    Option EventsPayload
  | .pollEvents, payload => some payload
  | _, _ => none

/-- What is returned when the path has no response model. -/
def Path.noResponse : (path : Path) → Option path.Response
  | .broadcastEvents => some ()
  | _ => none

end KoiNet
