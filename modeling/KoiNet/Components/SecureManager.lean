import KoiNet.Components.Storage
import KoiNet.Protocol.Envelope

/-!
# Validation of envelopes

An envelope is checked with the public key in the profile of its source: the
cached one, or for an unknown source the one it announces in the envelope
itself.
-/

namespace KoiNet

open Foundation

namespace SecureManager

variable {T : Type}

/-- The profile that the source of an envelope announces in it. -/
def handleUnknownNode (eventsPayload : T → Option EventsPayload)
    (envelope : SignedEnvelope T) : Option Bundle :=
  match eventsPayload envelope.payload with
  | none => none
  | some payload =>
      match payload.events.find? fun event =>
          event.rid = .node envelope.sourceNode ∧ event.eventType = .new with
      | none => none
      | some event => event.bundle

/-- `cache.read(source_node) or handle_unknown_node(envelope)`. -/
def nodeBundle (eventsPayload : T → Option EventsPayload) (cache : Cache)
    (envelope : SignedEnvelope T) : Option Bundle :=
  match cache.read (.node envelope.sourceNode) with
  | some bundle => some bundle
  | none => handleUnknownNode eventsPayload envelope

variable (node : Node) (crypto : Cryptography)
  (eventsPayload : T → Option EventsPayload)
  (modelDumpJson : UnsignedEnvelope T → String)

def checkTarget (envelope : SignedEnvelope T) : NodeM Unit :=
  if envelope.targetNode ≠ node.rid then
    Effect.raise (.protocol .invalidTarget)
  else
    pure ()

/-- Check the signature with the public key of the source's profile. -/
def checkSignature (envelope : SignedEnvelope T) (publicKey : String) :
    NodeM Unit := do
  if envelope.sourceNode.hash ≠ node.sha256Hash publicKey then
    Effect.raise (.protocol .invalidKey)
  else
    let pubKey ← Effect.ofExcept (PublicKey.fromDer crypto publicKey)
    Effect.tryExcept
      (Effect.ofExcept (envelope.verifyWith crypto modelDumpJson pubKey))
      Exc.isInvalidSignature
      (Effect.raise (.protocol .invalidSignature))

def validateEnvelope (envelope : SignedEnvelope T) : NodeM Unit := do
  let state ← Effect.get
  match nodeBundle eventsPayload state.cache envelope with
  | none => Effect.raise (.protocol .unknownNode)
  | some bundle =>
      let nodeProfile ← bundle.validateContents NodeProfile.modelValidate
      match nodeProfile.publicKey with
      -- `sha256_hash(None)`
      | none => Effect.raise .attributeError
      | some publicKey =>
          checkSignature node crypto modelDumpJson envelope publicKey
          checkTarget node envelope

end SecureManager

namespace Storage

open SecureManager

variable {T : Type} (storage : Storage) (node : Node)
  (crypto : Cryptography) (eventsPayload : T → Option EventsPayload)
  (modelDumpJson : UnsignedEnvelope T → Except Exc String)

def checkSignature (envelope : SignedEnvelope T) (publicKey : String) :
    NodeM Unit := do
  if envelope.sourceNode.hash ≠ node.sha256Hash publicKey then
    Effect.raise (.protocol .invalidKey)
  else
    let pubKey ← Effect.ofExcept (PublicKey.fromDer crypto publicKey)
    Effect.tryExcept
      (Effect.ofExcept
        (envelope.verifySerialized crypto modelDumpJson pubKey))
      Exc.isInvalidSignature
      (Effect.raise (.protocol .invalidSignature))

def validateEnvelope (envelope : SignedEnvelope T) : NodeM Unit := do
  storage.openFile (.node envelope.sourceNode)
  let state ← Effect.get
  match nodeBundle eventsPayload state.cache envelope with
  | none => Effect.raise (.protocol .unknownNode)
  | some bundle =>
      let nodeProfile ← bundle.validateContents NodeProfile.modelValidate
      match nodeProfile.publicKey with
      -- `sha256_hash(None)`
      | none => Effect.raise .attributeError
      | some publicKey =>
          checkSignature node crypto modelDumpJson envelope publicKey
          checkTarget node envelope

end Storage

end KoiNet
