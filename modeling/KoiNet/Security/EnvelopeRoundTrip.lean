import KoiNet.Components.ResponseHandler
import KoiNet.Protocol.ApiJson
import KoiNet.Security.ResponseAuthenticity
import KoiNet.Security.Validation

/-!
# The round trip of an envelope

An envelope that one node creates for another is parsed as the envelope that
was created, and passes the other's validation, whether the other has the
sender's profile in its cache or finds it in the envelope itself.
-/

namespace KoiNet

open Foundation

/-- What an envelope of the model map needs of its payload: how it is written,
which values have leaves that decode again, and whether it carries events. -/
structure EnvelopeModel (T : Type) where
  payload : Codec T Json
  leavesFaithful : T → Prop
  events : T → Option EventsPayload

section ModelMap

variable (leaves : Leaves)

/-- The column `request_envelope` of `API_MODEL_MAP`. -/
def Path.requestEnvelope : (path : Path) → EnvelopeModel path.Request
  | .broadcastEvents =>
      { payload := EventsPayload.json leaves
        leavesFaithful := EventsPayload.LeavesFaithful leaves
        events := Path.broadcastEvents.requestEvents }
  | .pollEvents =>
      { payload := PollEvents.json
        leavesFaithful := fun _ => True
        events := Path.pollEvents.requestEvents }
  | .fetchRids =>
      { payload := FetchRids.json leaves
        leavesFaithful := FetchRids.LeavesFaithful leaves
        events := Path.fetchRids.requestEvents }
  | .fetchManifests =>
      { payload := FetchManifests.json leaves
        leavesFaithful := FetchManifests.LeavesFaithful leaves
        events := Path.fetchManifests.requestEvents }
  | .fetchBundles =>
      { payload := FetchBundles.json leaves
        leavesFaithful := FetchBundles.LeavesFaithful leaves
        events := Path.fetchBundles.requestEvents }

/-- The column `response_envelope` of `API_MODEL_MAP`. -/
def Path.responseEnvelope : (path : Path) →
    Option (EnvelopeModel path.Response)
  | .broadcastEvents => none
  | .pollEvents => some
      { payload := EventsPayload.json leaves
        leavesFaithful := EventsPayload.LeavesFaithful leaves
        events := Path.pollEvents.responseEvents }
  | .fetchRids => some
      { payload := RidsPayload.json leaves
        leavesFaithful := RidsPayload.LeavesFaithful leaves
        events := Path.fetchRids.responseEvents }
  | .fetchManifests => some
      { payload := ManifestsPayload.json leaves
        leavesFaithful := ManifestsPayload.LeavesFaithful leaves
        events := Path.fetchManifests.responseEvents }
  | .fetchBundles => some
      { payload := BundlesPayload.json leaves
        leavesFaithful := BundlesPayload.LeavesFaithful leaves
        events := Path.fetchBundles.responseEvents }

/-- The models of the map. -/
inductive Mapped : {T : Type} → EnvelopeModel T → Prop
  | request (path : Path) : Mapped (path.requestEnvelope leaves)
  | response {path : Path} {model : EnvelopeModel path.Response}
      (listed : path.responseEnvelope leaves = some model) : Mapped model

variable {leaves}

theorem Mapped.payload_faithful {T : Type} {model : EnvelopeModel T}
    (mapped : Mapped leaves model) {payload : T}
    (faithful : model.leavesFaithful payload) :
    model.payload.Faithful payload := by
  cases mapped with
  | request path =>
      cases path with
      | broadcastEvents => exact EventsPayload.json_faithful faithful
      | pollEvents => exact PollEvents.json_faithful payload
      | fetchRids => exact FetchRids.json_faithful faithful
      | fetchManifests => exact FetchManifests.json_faithful faithful
      | fetchBundles => exact FetchBundles.json_faithful faithful
  | @response path model listed =>
      cases path with
      | broadcastEvents => cases listed
      | pollEvents =>
          cases listed
          exact EventsPayload.json_faithful faithful
      | fetchRids =>
          cases listed
          exact RidsPayload.json_faithful faithful
      | fetchManifests =>
          cases listed
          exact ManifestsPayload.json_faithful faithful
      | fetchBundles =>
          cases listed
          exact BundlesPayload.json_faithful faithful

end ModelMap

namespace EnvelopeModel

variable {T : Type} (model : EnvelopeModel T) (leaves : Leaves)

def unsignedJson (envelope : UnsignedEnvelope T) : Json :=
  .model
    [("payload", some (model.payload.encode envelope.payload)),
      ("source_node", some (leaves.nodeJson.encode envelope.sourceNode)),
      ("target_node", some (leaves.nodeJson.encode envelope.targetNode))]

def signedJson : Codec (SignedEnvelope T) Json :=
  { encode := fun envelope => .model
      [("payload", some (model.payload.encode envelope.payload)),
        ("source_node", some (leaves.nodeJson.encode envelope.sourceNode)),
        ("target_node", some (leaves.nodeJson.encode envelope.targetNode)),
        ("signature", some (Json.string.encode envelope.signature))]
    decode := fun json => do
      let payload ← json.required "payload" model.payload
      let sourceNode ← json.required "source_node" leaves.nodeJson
      let targetNode ← json.required "target_node" leaves.nodeJson
      let signature ← json.required "signature" Json.string
      return { payload, sourceNode, targetNode, signature } }

/-- What is signed. -/
def dumpUnsigned (text : Codec Json String) (envelope : UnsignedEnvelope T) :
    String :=
  text.encode (model.unsignedJson leaves envelope)

/-- What is sent and parsed. -/
def transmit (text : Codec Json String) : Codec (SignedEnvelope T) String :=
  (model.signedJson leaves).comp text

variable {model leaves}

theorem signedJson_faithful {envelope : SignedEnvelope T}
    (payload : model.payload.Faithful envelope.payload)
    (source : leaves.rid.Faithful (.node envelope.sourceNode))
    (target : leaves.rid.Faithful (.node envelope.targetNode)) :
    (model.signedJson leaves).Faithful envelope := by
  have sourceNode := Leaves.nodeJson_faithful source
  have targetNode := Leaves.nodeJson_faithful target
  have signature := Json.string_faithful envelope.signature
  unfold Codec.Faithful at payload sourceNode targetNode signature ⊢
  simp [signedJson, Json.model, Json.required, Json.field, Json.lookup,
    payload, sourceNode, targetNode, signature]

end EnvelopeModel

/-- The library works as documented for this key and this message: the numbers
of its signature fit in 32 bytes and are written in DER as it wrote them, it
verifies what it signed, and it loads the public key it has written. -/
structure SigningLibrary.Consistent (library : SigningLibrary)
    (privKey : library.PrivateKey) (message : Bytes) : Prop where
  rFits : (library.decodeDssSignature (library.sign privKey message)).1 <
    256 ^ byteLength
  sFits : (library.decodeDssSignature (library.sign privKey message)).2 <
    256 ^ byteLength
  reencodes : library.encodeDssSignature
      (library.decodeDssSignature (library.sign privKey message)).1
      (library.decodeDssSignature (library.sign privKey message)).2 =
    library.sign privKey message
  verifies : library.verify (library.publicKey privKey)
    (library.sign privKey message) message = .ok ()
  loads : library.loadDerPublicKey
      (library.publicBytes (library.publicKey privKey)) =
    .ok (library.publicKey privKey)

section Signing

variable {library : SigningLibrary} {privKey : library.PrivateKey}
  {message : Bytes}

theorem b64decode_encode (bytes : Bytes) :
    b64decode (Base64.encode bytes) = .ok bytes := by
  unfold b64decode
  rw [Base64.decode_encode]

theorem fromDer_toDer (consistent : library.Consistent privKey message) :
    PublicKey.fromDer library.toCryptography
        (PublicKey.toDer library (library.publicKey privKey)) =
      .ok (library.publicKey privKey) := by
  unfold PublicKey.fromDer PublicKey.toDer
  rw [b64decode_encode]
  exact consistent.loads

theorem verify_sign (consistent : library.Consistent privKey message) :
    ∃ signature, PrivateKey.sign library privKey message = .ok signature ∧
      PublicKey.verify library.toCryptography (library.publicKey privKey)
        signature message = .ok () := by
  obtain ⟨raw, signed, decoded⟩ := rawToDerSignature_derToRawSignature
    consistent.rFits consistent.sFits
  rw [consistent.reencodes] at decoded
  refine ⟨Base64.encode raw, ?_, ?_⟩
  · unfold PrivateKey.sign
    rw [signed]
    rfl
  · unfold PublicKey.verify
    rw [b64decode_encode]
    change (do
      let derSignature ← rawToDerSignature library.toCryptography raw
      library.verify (library.publicKey privKey) derSignature message) = _
    rw [decoded]
    exact consistent.verifies

end Signing

/-- How the receiver comes by the profile of the sender: it is cached, or the
first event in the payload that announces the sender carries it. -/
inductive Introduced (sender : Node) (cache : Cache)
    (events : Option EventsPayload) : Prop
  | cached {bundle : Bundle}
      (read : cache.read (.node sender.rid) = some bundle)
      (own : NodeProfile.modelValidate bundle.contents = some sender.profile)
  | announced {payload : EventsPayload} {event : Event} {bundle : Bundle}
      (unknown : cache.read (.node sender.rid) = none)
      (carried : events = some payload)
      (first : payload.events.find? (fun event =>
        event.rid = .node sender.rid ∧ event.eventType = .new) = some event)
      (bundled : event.bundle = some bundle)
      (own : NodeProfile.modelValidate bundle.contents = some sender.profile)

section RoundTrip

variable {T : Type} {leaves : Leaves} {model : EnvelopeModel T}
  {library : SigningLibrary} {privKey : library.PrivateKey}
  {sender receiver : Node} {state : NodeState} {envelope : SignedEnvelope T}

theorem Introduced.nodeBundle
    (introduced : Introduced sender state.cache (model.events envelope.payload))
    (source : envelope.sourceNode = sender.rid) :
    ∃ bundle,
      SecureManager.nodeBundle model.events state.cache envelope =
        some bundle ∧
      NodeProfile.modelValidate bundle.contents = some sender.profile := by
  unfold SecureManager.nodeBundle
  rw [source]
  cases introduced with
  | cached read own =>
      rw [read]
      exact ⟨_, rfl, own⟩
  | announced unknown carried first bundled own =>
      rw [unknown]
      unfold SecureManager.handleUnknownNode
      rw [carried, source]
      dsimp only
      rw [first]
      exact ⟨_, bundled, own⟩

theorem createEnvelope_signed (modelDumpJson : UnsignedEnvelope T → String)
    (payload : T) (target : KoiNetNode)
    (consistent : library.Consistent privKey
      (modelDumpJson { payload, sourceNode := sender.rid, targetNode := target
        }).toUTF8.data.toList) :
    ∃ envelope, SecureManager.createEnvelope sender library privKey
        modelDumpJson payload target = .ok envelope ∧
      envelope.unsigned =
        { payload, sourceNode := sender.rid, targetNode := target } ∧
      envelope.verifyWith library.toCryptography modelDumpJson
        (library.publicKey privKey) = .ok () := by
  obtain ⟨signature, signed, verified⟩ := verify_sign consistent
  refine ⟨
    { payload := payload
      sourceNode := sender.rid
      targetNode := target
      signature := signature }, ?_, rfl, verified⟩
  unfold SecureManager.createEnvelope UnsignedEnvelope.signWith
  rw [signed]
  rfl

/-- An envelope that was created for the receiver is parsed with the payload
that was signed, and is valid. -/
theorem envelope_roundTrip (mapped : Mapped leaves model)
    (text : Codec Json String) (payload : T)
    (decodes : model.leavesFaithful payload)
    (sourceDecodes : leaves.rid.Faithful (.node sender.rid))
    (targetDecodes : leaves.rid.Faithful (.node receiver.rid))
    (consistent : library.Consistent privKey
      (model.dumpUnsigned leaves text
        { payload, sourceNode := sender.rid, targetNode := receiver.rid
          }).toUTF8.data.toList)
    (parses : ∀ envelope, SecureManager.createEnvelope sender library privKey
        (model.dumpUnsigned leaves text) payload receiver.rid = .ok envelope →
      text.Faithful ((model.signedJson leaves).encode envelope))
    (publishes : sender.profile.publicKey =
      some (PublicKey.toDer library (library.publicKey privKey)))
    (named : sender.rid.hash = receiver.sha256Hash
      (PublicKey.toDer library (library.publicKey privKey)))
    (introduced : Introduced sender state.cache (model.events payload)) :
    ∃ envelope parsed,
      SecureManager.createEnvelope sender library privKey
        (model.dumpUnsigned leaves text) payload receiver.rid = .ok envelope ∧
      (model.transmit leaves text).decode
        ((model.transmit leaves text).encode envelope) = some parsed ∧
      parsed.payload = payload ∧
      ((SecureManager.validateEnvelope receiver library.toCryptography
        model.events (model.dumpUnsigned leaves text) parsed).run state).1 =
          .ok () := by
  obtain ⟨envelope, created, contents, verified⟩ := createEnvelope_signed
    (model.dumpUnsigned leaves text) payload receiver.rid consistent
  have same : envelope.payload = payload :=
    congrArg UnsignedEnvelope.payload contents
  have source : envelope.sourceNode = sender.rid :=
    congrArg UnsignedEnvelope.sourceNode contents
  have target : envelope.targetNode = receiver.rid :=
    congrArg UnsignedEnvelope.targetNode contents
  refine ⟨envelope, envelope, created, ?_, same, ?_⟩
  · have json : (model.signedJson leaves).Faithful envelope := by
      apply EnvelopeModel.signedJson_faithful
      · rw [same]
        exact mapped.payload_faithful decodes
      · rw [source]
        exact sourceDecodes
      · rw [target]
        exact targetDecodes
    exact Codec.Faithful.comp (parses envelope created) json
  · rw [SecureManager.validateEnvelope_returns_iff]
    rw [← same] at introduced
    obtain ⟨bundle, found, own⟩ := introduced.nodeBundle source
    refine ⟨_, ⟨bundle, sender.profile, found, own, publishes⟩, ?_, target⟩
    refine ⟨?_, library.publicKey privKey, fromDer_toDer consistent, verified⟩
    rw [source, named]

end RoundTrip

/-- The library of `lengthSignatures` with its signing part; a private key is
its public key. -/
def Wire.lengthSigning : SigningLibrary :=
  { Wire.lengthSignatures with
    PrivateKey := Bytes
    publicKey := id
    publicBytes := id
    sign := fun key data =>
      [UInt8.ofNat (List.length key), UInt8.ofNat data.length]
    decodeDssSignature := fun
      | [r, s] => (r.toNat, s.toNat)
      | _ => (0, 0) }

theorem Wire.lengthSigning_consistent (privKey message : Bytes) :
    Wire.lengthSigning.Consistent privKey message := by
  have small (byte : UInt8) : byte.toNat < 256 ^ byteLength :=
    Nat.lt_of_lt_of_le byte.toNat_lt (by decide)
  exact
    { rFits := small _
      sFits := small _
      reencodes := by
        change [UInt8.ofNat (UInt8.ofNat _).toNat,
          UInt8.ofNat (UInt8.ofNat _).toNat] = _
        rw [UInt8.ofNat_toNat, UInt8.ofNat_toNat]
        rfl
      verifies := by
        simp [Wire.lengthSigning, Wire.lengthSignatures]
      loads := rfl }

namespace Newcomer

mutual

/-- The JSON text of a value, without blanks. -/
def dumps : Json → String
  | .null => "null"
  | .bool value => toString value
  | .num value => toString value
  | .str value => value.quote
  | .arr items => "[" ++ ",".intercalate (dumpsItems items) ++ "]"
  | .obj fields =>
      "\x7b" ++ ",".intercalate (dumpsFields fields) ++ "\x7d"

def dumpsItems : List Json → List String
  | [] => []
  | item :: items => dumps item :: dumpsItems items

def dumpsFields : List (String × Json) → List String
  | [] => []
  | (name, value) :: fields =>
      (name.quote ++ ":" ++ dumps value) :: dumpsFields fields

end

def rid : KoiNetNode :=
  { name := "newcomer", hash := "AAAA" }

/-- A partial node whose public key is `AAAA`. -/
def node : Node :=
  Node.isolated
    { nodeRid := rid
      nodeProfile :=
        { context := NodeProfile.defaultContext
          baseUrl := none
          nodeType := .partialNode
          provides := { event := [], state := [] }
          publicKey := some "AAAA" } }
    id fun _ => ""

def bundle : Bundle :=
  { manifest := { rid := .node rid, timestamp := 7, sha256Hash := "" }
    contents := [("node_type", .str "PARTIAL"), ("public_key", .str "AAAA")] }

/-- The newcomer introduces itself. -/
def introduction : EventsPayload :=
  { events := [Event.fromRid .forget (.node rid),
      Event.fromBundle .new bundle] }

/-- The RIDs of the two nodes, one instant and dictionaries of texts. -/
def leaves : Leaves :=
  { rid :=
      { encode := fun
          | .node rid => rid.toString
          | .edge rid => "orn:koi-net.edge:" ++ rid.id
          | .other context reference => context ++ ":" ++ reference
        decode := fun text =>
          if text = rid.toString then some (.node rid)
          else if text = Node.standalone.rid.toString then
            some (.node Node.standalone.rid)
          else none }
    ridType :=
      { encode := fun
          | .koiNetNode => "orn:koi-net.node"
          | .koiNetEdge => "orn:koi-net.edge"
          | .other context => context
        decode := fun
          | "orn:koi-net.node" => some .koiNetNode
          | "orn:koi-net.edge" => some .koiNetEdge
          | context => some (.other context) }
    datetime :=
      { encode := fun _ => "1970-01-01T00:00:07Z"
        decode := fun text =>
          if text = "1970-01-01T00:00:07Z" then some 7 else none }
    contents :=
      { encode := List.filterMap fun
          | (name, .str text) => some (name, .str text)
          | _ => none
        decode := List.mapM fun
          | (name, .str text) => some (name, .str text)
          | _ => none } }

def model : EnvelopeModel EventsPayload :=
  Path.broadcastEvents.requestEnvelope leaves

/-- A text codec that reads back what the newcomer sends. -/
def text : Codec Json String :=
  { encode := dumps
    decode := fun received =>
      match SecureManager.createEnvelope node Wire.lengthSigning [0, 0, 0]
        (fun envelope => dumps (model.unsignedJson leaves envelope))
        introduction Node.standalone.rid with
      | .error _ => none
      | .ok envelope =>
          let json := (model.signedJson leaves).encode envelope
          if received = dumps json then some json else none }

end Newcomer

/-- A newcomer is understood by a node that has never heard of it. -/
theorem envelope_roundTrip_newcomer :
    ∃ envelope parsed,
      SecureManager.createEnvelope Newcomer.node Wire.lengthSigning [0, 0, 0]
        (Newcomer.model.dumpUnsigned Newcomer.leaves Newcomer.text)
        Newcomer.introduction Node.standalone.rid = .ok envelope ∧
      (Newcomer.model.transmit Newcomer.leaves Newcomer.text).decode
        ((Newcomer.model.transmit Newcomer.leaves Newcomer.text).encode
          envelope) = some parsed ∧
      parsed.payload = Newcomer.introduction ∧
      ((SecureManager.validateEnvelope Node.standalone
        Wire.lengthSigning.toCryptography Newcomer.model.events
        (Newcomer.model.dumpUnsigned Newcomer.leaves Newcomer.text)
        parsed).run (NodeState.fresh Cache.empty)).1 = .ok () := by
  have rid : Newcomer.leaves.rid.Faithful (.node Newcomer.rid) := rfl
  refine envelope_roundTrip (.request .broadcastEvents) Newcomer.text
    Newcomer.introduction ?_ rid rfl
    (Wire.lengthSigning_consistent [0, 0, 0] _) ?_ rfl rfl ?_
  · intro event member
    simp only [Newcomer.introduction, List.mem_cons, List.not_mem_nil,
      or_false] at member
    rcases member with rfl | rfl
    · exact
        { rid := rid
          manifest := fun _ member => by cases member
          contents := fun _ member => by cases member }
    · exact
        { rid := rid
          manifest := fun manifest member => by
            cases member
            exact ⟨rid, rfl⟩
          contents := fun contents member => by
            cases member
            rfl }
  · intro envelope created
    change Newcomer.text.decode _ = _
    unfold Newcomer.text
    dsimp only
    change SecureManager.createEnvelope Newcomer.node Wire.lengthSigning
      [0, 0, 0] (fun envelope =>
        Newcomer.dumps (Newcomer.model.unsignedJson Newcomer.leaves envelope))
      Newcomer.introduction Node.standalone.rid = .ok envelope at created
    rw [created]
    exact if_pos rfl
  · exact .announced rfl rfl rfl rfl rfl

end KoiNet
