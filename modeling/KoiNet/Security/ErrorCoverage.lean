import KoiNet.Security.ResponseAuthenticity

/-!
# Which exceptions escape validation

The server turns protocol errors into error responses.  `validate_envelope`
raises them for what it tests itself, and lets everything else pass that its
parts raise about a file they cannot open, a profile, a key or a signature
they cannot read, or a payload they cannot serialise.
-/

namespace KoiNet

open Foundation

/-- `EXCEPTION_TO_ERROR_TYPE`. -/
def exceptionToErrorType : Exc → Option ErrorType
  | .protocol .unknownNode => some .unknownNode
  | .protocol .invalidKey => some .invalidKey
  | .protocol .invalidSignature => some .invalidSignature
  | .protocol .invalidTarget => some .invalidTarget
  | _ => none

/-- Nothing is raised but what is mapped to an error response. -/
def Covered {α : Type} (result : Except Exc α) : Prop :=
  ∀ failure, result = .error failure →
    ∃ errorType, exceptionToErrorType failure = some errorType

section Covered

variable {α : Type}

theorem covered_ok (value : α) : Covered (.ok value : Except Exc α) := by
  intro failure raised
  cases raised

theorem covered_protocol (error : ProtocolError) :
    Covered (.error (.protocol error) : Except Exc α) := by
  intro failure raised
  cases raised
  cases error <;> exact ⟨_, rfl⟩

theorem covered_error_iff {failure : Exc} :
    Covered (.error failure : Except Exc α) ↔
      ∃ error, failure = .protocol error := by
  constructor
  · intro covered
    obtain ⟨errorType, mapped⟩ := covered failure rfl
    cases failure with
    | protocol error => exact ⟨error, rfl⟩
    | _ => cases mapped
  · rintro ⟨error, rfl⟩
    exact covered_protocol error

end Covered

/-- The library raises exceptions of its own and of Python, none of this
program's. -/
structure Cryptography.Foreign (crypto : Cryptography) : Prop where
  loads : ∀ data error,
    crypto.loadDerPublicKey data ≠ .error (.protocol error)
  verifies : ∀ pubKey signature data error,
    crypto.verify pubKey signature data ≠ .error (.protocol error)

/-- Serialising raises an exception of its own. -/
def ForeignDump {T : Type}
    (modelDumpJson : UnsignedEnvelope T → Except Exc String) : Prop :=
  ∀ envelope failure, modelDumpJson envelope = .error failure →
    failure.isInvalidSignature = false ∧ ∀ error, failure ≠ .protocol error

section Condition

variable {T : Type} (crypto : Cryptography)
  (modelDumpJson : UnsignedEnvelope T → Except Exc String)
  (envelope : SignedEnvelope T)

/-- The signature is the base64 text of two numbers of 32 bytes each, and the
library accepts them or rejects them as a signature of the text. -/
def ReadableSignature (pubKey : crypto.Key) (text : String) : Prop :=
  ∃ rawSignature, Base64.decode envelope.signature = some rawSignature ∧
    rawSignature.length = 2 * byteLength ∧
    (crypto.verify pubKey
        (crypto.encodeDssSignature
          (intFromBytes (rawSignature.take byteLength))
          (intFromBytes (rawSignature.drop byteLength)))
        text.toUTF8.data.toList = .ok () ∨
      crypto.verify pubKey
        (crypto.encodeDssSignature
          (intFromBytes (rawSignature.take byteLength))
          (intFromBytes (rawSignature.drop byteLength)))
        text.toUTF8.data.toList = .error .invalidSignature)

/-- The public key is the base64 text of a key that the library loads, the
envelope serialises, and the signature can be read with the key. -/
def ReadableKey (publicKey : String) : Prop :=
  ∃ data pubKey text, Base64.decode publicKey = some data ∧
    crypto.loadDerPublicKey data = .ok pubKey ∧
    modelDumpJson envelope.unsigned = .ok text ∧
    ReadableSignature crypto envelope pubKey text

/-- The profile of the source, if there is one, is valid and names a key that
is not the source's or that can be read. -/
def ReadableCredential (node : Node) (eventsPayload : T → Option EventsPayload)
    (cache : Cache) : Prop :=
  ∀ bundle, SecureManager.nodeBundle eventsPayload cache envelope =
      some bundle →
    ∃ nodeProfile publicKey,
      NodeProfile.modelValidate bundle.contents = some nodeProfile ∧
      nodeProfile.publicKey = some publicKey ∧
      (envelope.sourceNode.hash = node.sha256Hash publicKey →
        ReadableKey crypto modelDumpJson envelope publicKey)

end Condition

namespace SecureManager

variable {T : Type} {node : Node} {crypto : Cryptography}
  {eventsPayload : T → Option EventsPayload}
  {modelDumpJson : UnsignedEnvelope T → Except Exc String}
  {envelope : SignedEnvelope T} {state : NodeState}

/-- A rejected signature is the one exception that is translated. -/
theorem translated_covered_iff {verified : Except Exc Unit} :
    Covered ((Effect.tryExcept (Effect.ofExcept verified)
        Exc.isInvalidSignature
        (Effect.raise (.protocol .invalidSignature) : NodeM Unit)).run
          state).1 ↔
      verified = .ok () ∨ verified = .error .invalidSignature ∨
        ∃ error, verified = .error (.protocol error) := by
  cases verified with
  | ok value => simp [Effect.tryExcept, covered_ok]
  | error failure =>
      cases failure with
      | invalidSignature =>
          simp [Effect.tryExcept, Exc.isInvalidSignature, covered_protocol]
      | _ =>
          simp [Effect.tryExcept, Exc.isInvalidSignature, covered_error_iff]

theorem verifySerialized_cases (foreign : crypto.Foreign)
    (foreignDump : ForeignDump modelDumpJson) (pubKey : crypto.Key) :
    envelope.verifySerialized crypto modelDumpJson pubKey = .ok () ∨
        envelope.verifySerialized crypto modelDumpJson pubKey =
          .error .invalidSignature ∨
        (∃ error, envelope.verifySerialized crypto modelDumpJson pubKey =
          .error (.protocol error)) ↔
      ∃ text, modelDumpJson envelope.unsigned = .ok text ∧
        ReadableSignature crypto envelope pubKey text := by
  unfold SignedEnvelope.verifySerialized
  cases dumped : modelDumpJson envelope.unsigned with
  | error failure =>
      obtain ⟨untranslated, unmapped⟩ := foreignDump _ failure dumped
      have other : failure ≠ .invalidSignature := by
        rintro rfl
        cases untranslated
      simp [bind, Except.bind, other, unmapped]
  | ok text =>
      simp only [Except.ok.injEq, exists_eq_left']
      unfold PublicKey.verify ReadableSignature b64decode
      cases Base64.decode envelope.signature with
      | none => simp [bind, Except.bind]
      | some rawSignature =>
          by_cases fits : rawSignature.length = 2 * byteLength
          · simp [bind, Except.bind, rawToDerSignature, fits, foreign.verifies]
          · simp [bind, Except.bind, rawToDerSignature, fits]

theorem fromDer_eq_ok_iff {publicKey : String} {pubKey : crypto.Key} :
    PublicKey.fromDer crypto publicKey = .ok pubKey ↔
      ∃ data, Base64.decode publicKey = some data ∧
        crypto.loadDerPublicKey data = .ok pubKey := by
  unfold PublicKey.fromDer b64decode
  cases Base64.decode publicKey with
  | none => simp [bind, Except.bind]
  | some data => simp [bind, Except.bind]

theorem fromDer_foreign (foreign : crypto.Foreign) (publicKey : String)
    (error : ProtocolError) :
    PublicKey.fromDer crypto publicKey ≠ .error (.protocol error) := by
  unfold PublicKey.fromDer b64decode
  cases Base64.decode publicKey with
  | none => simp [bind, Except.bind]
  | some data => exact foreign.loads data error

theorem checkSignature_covered_iff (foreign : crypto.Foreign)
    (foreignDump : ForeignDump modelDumpJson) {publicKey : String} :
    Covered ((Storage.checkSignature node crypto modelDumpJson envelope
        publicKey).run state).1 ↔
      (envelope.sourceNode.hash = node.sha256Hash publicKey →
        ReadableKey crypto modelDumpJson envelope publicKey) := by
  unfold Storage.checkSignature
  by_cases fits : envelope.sourceNode.hash = node.sha256Hash publicKey
  · rw [if_neg (not_not.mpr fits)]
    cases loaded : PublicKey.fromDer crypto publicKey with
    | error failure =>
        have unread : ¬ReadableKey crypto modelDumpJson envelope publicKey := by
          rintro ⟨data, pubKey, text, decoded, loads, _⟩
          have loads := fromDer_eq_ok_iff.mpr ⟨data, decoded, loads⟩
          cases loaded.symm.trans loads
        have foreignFailure : ∀ error, failure ≠ .protocol error := by
          rintro error rfl
          exact fromDer_foreign foreign publicKey error loaded
        simp [Effect.run_bind, covered_error_iff, fits, unread, foreignFailure]
    | ok pubKey =>
        change Covered ((Effect.tryExcept (Effect.ofExcept _) _ _).run
          state).1 ↔ _
        rw [translated_covered_iff, verifySerialized_cases foreign foreignDump]
        constructor
        · intro readable _
          obtain ⟨text, dumped, signature⟩ := readable
          obtain ⟨data, decoded, loads⟩ := fromDer_eq_ok_iff.mp loaded
          exact ⟨data, pubKey, text, decoded, loads, dumped, signature⟩
        · intro readable
          obtain ⟨data, other, text, decoded, loads, dumped, signature⟩ :=
            readable fits
          have loads := fromDer_eq_ok_iff.mpr ⟨data, decoded, loads⟩
          cases loaded.symm.trans loads
          exact ⟨text, dumped, signature⟩
  · rw [if_pos fits]
    simp [covered_protocol, fits]

theorem checkTarget_covered :
    Covered ((checkTarget node envelope).run state).1 := by
  unfold checkTarget
  split
  · exact covered_protocol .invalidTarget
  · exact covered_ok ()

theorem checks_covered_iff {publicKey : String} :
    Covered ((Storage.checkSignature node crypto modelDumpJson envelope
          publicKey >>= fun _ => checkTarget node envelope).run state).1 ↔
      Covered ((Storage.checkSignature node crypto modelDumpJson envelope
        publicKey).run state).1 := by
  rw [Effect.run_bind]
  generalize (Storage.checkSignature node crypto modelDumpJson envelope
    publicKey).run state = ended
  obtain ⟨result, after⟩ := ended
  cases result with
  | ok value => simp [checkTarget_covered, covered_ok]
  | error failure => simp [covered_error_iff]

/-- Where the file opens and the envelope serialises, these are the checks of
`SecureManager`. -/
theorem storage_validateEnvelope {storage : Storage}
    {serialized : UnsignedEnvelope T → String}
    (opened : storage.opens (.node envelope.sourceNode) = true) :
    (storage.validateEnvelope node crypto eventsPayload
        (fun unsigned => .ok (serialized unsigned)) envelope).run state =
      (validateEnvelope node crypto eventsPayload serialized envelope).run
        state := by
  unfold Storage.validateEnvelope Storage.openFile
  rw [if_pos opened]
  rfl

/-- Validation returns or raises a protocol error exactly if the file of the
source can be opened and its credential can be read. -/
theorem validateEnvelope_covered_iff (storage : Storage)
    (foreign : crypto.Foreign) (foreignDump : ForeignDump modelDumpJson) :
    Covered ((storage.validateEnvelope node crypto eventsPayload modelDumpJson
        envelope).run state).1 ↔
      storage.opens (.node envelope.sourceNode) = true ∧
        ReadableCredential crypto modelDumpJson envelope node eventsPayload
          state.cache := by
  unfold Storage.validateEnvelope ReadableCredential Storage.openFile
  cases storage.opens (.node envelope.sourceNode) with
  | false => simp [covered_error_iff]
  | true =>
      rw [if_pos rfl, Effect.run_pure_bind, Effect.run_get_bind]
      cases nodeBundle eventsPayload state.cache envelope with
      | none => simp [covered_protocol]
      | some bundle =>
          simp only [Option.some.injEq, forall_eq', true_and]
          rw [Effect.run_bind, validateContents_run]
          cases NodeProfile.modelValidate bundle.contents with
          | none => simp [covered_error_iff]
          | some nodeProfile =>
              simp only [Option.some.injEq, exists_and_left, exists_eq_left']
              cases nodeProfile.publicKey with
              | none => simp [covered_error_iff]
              | some publicKey =>
                  dsimp only
                  rw [checks_covered_iff,
                    checkSignature_covered_iff foreign foreignDump]
                  simp

theorem lengthSignatures_foreign : Wire.lengthSignatures.Foreign := by
  constructor
  · intro data error raised
    cases raised
  · intro pubKey signature data error raised
    dsimp only [Wire.lengthSignatures] at raised
    split at raised <;> cases raised

/-- A node that knows the profile of the signer. -/
def acquaintance (signer : KoiNetNode) : NodeState :=
  .fresh (Cache.empty.write
    { manifest := { rid := .node signer, timestamp := 0, sha256Hash := "" }
      contents := [("base_url", .str "url"), ("node_type", .str "FULL"),
        ("public_key", .str signer.hash)] })

def signer : KoiNetNode :=
  { name := "third", hash := "AAAA" }

theorem validateEnvelope_covered_iff_signed :
    Covered ((Storage.ideal.validateEnvelope Node.standalone
        Wire.lengthSignatures (fun _ => none) (fun _ => .ok "text")
        (Wire.signedAnswer signer Node.standalone.rid)).run
          (acquaintance signer)).1 ↔
      Storage.ideal.opens (.node signer) = true ∧
        ReadableCredential Wire.lengthSignatures (fun _ => .ok "text")
          (Wire.signedAnswer signer Node.standalone.rid) Node.standalone
          (fun _ => none) (acquaintance signer).cache := by
  refine validateEnvelope_covered_iff Storage.ideal lengthSignatures_foreign ?_
  intro envelope failure raised
  cases raised

/-- An envelope of a known node whose signature is empty. -/
theorem shortSignature_not_covered :
    ¬∀ (crypto : Cryptography), crypto.Foreign →
      ∀ (T : Type) (storage : Storage) (node : Node)
        (eventsPayload : T → Option EventsPayload)
        (modelDumpJson : UnsignedEnvelope T → Except Exc String),
        ForeignDump modelDumpJson →
        ∀ (envelope : SignedEnvelope T) (state : NodeState),
          Covered ((storage.validateEnvelope node crypto eventsPayload
            modelDumpJson envelope).run state).1 := by
  intro always
  have foreignDump : ForeignDump fun _ : UnsignedEnvelope RidsPayload =>
      .ok "text" := by
    intro envelope failure raised
    cases raised
  have covered := always Wire.lengthSignatures lengthSignatures_foreign
    RidsPayload Storage.ideal Node.standalone (fun _ => none) _ foreignDump
    { Wire.signedAnswer signer Node.standalone.rid with signature := "" }
    (acquaintance signer)
  obtain ⟨errorType, mapped⟩ := covered .valueError rfl
  cases mapped

end SecureManager

end KoiNet
