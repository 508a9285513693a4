import KoiNet.Components.SecureManager

/-!
# What a validated envelope guarantees

`validateEnvelope` returns for exactly the envelopes that are vouched for:
addressed to this node, and signed with the key that belongs to their source.
-/

namespace KoiNet

open Foundation

/-- The signature of the envelope verifies under a public key that belongs to
this node's RID. -/
def SignedBy {T : Type} (node : Node) (crypto : Cryptography)
    (modelDumpJson : UnsignedEnvelope T → String) (envelope : SignedEnvelope T)
    (publicKey : String) (signer : KoiNetNode) : Prop :=
  node.sha256Hash publicKey = signer.hash ∧
    ∃ pubKey, PublicKey.fromDer crypto publicKey = .ok pubKey ∧
      envelope.verifyWith crypto modelDumpJson pubKey = .ok ()

/-- The envelope is addressed to this node and signed with the key in the
profile of its source. -/
structure Vouched {T : Type} (node : Node) (crypto : Cryptography)
    (eventsPayload : T → Option EventsPayload)
    (modelDumpJson : UnsignedEnvelope T → String) (cache : Cache)
    (envelope : SignedEnvelope T) (publicKey : String) : Prop where
  known : ∃ bundle nodeProfile,
    SecureManager.nodeBundle eventsPayload cache envelope = some bundle ∧
      NodeProfile.modelValidate bundle.contents = some nodeProfile ∧
      nodeProfile.publicKey = some publicKey
  signed : SignedBy node crypto modelDumpJson envelope publicKey
    envelope.sourceNode
  addressed : envelope.targetNode = node.rid

namespace SecureManager

variable {T : Type} {node : Node} {crypto : Cryptography}
  {eventsPayload : T → Option EventsPayload}
  {modelDumpJson : UnsignedEnvelope T → String} {envelope : SignedEnvelope T}
  {state : NodeState}

theorem checkTarget_returns_iff :
    ((checkTarget node envelope).run state).1 = .ok () ↔
      envelope.targetNode = node.rid := by
  unfold checkTarget
  by_cases addressed : envelope.targetNode = node.rid
  · simp [addressed]
  · simp [addressed]

theorem checkSignature_returns_iff {publicKey : String} :
    ((checkSignature node crypto modelDumpJson envelope publicKey).run
        state).1 = .ok () ↔
      SignedBy node crypto modelDumpJson envelope publicKey
        envelope.sourceNode := by
  unfold checkSignature SignedBy
  by_cases fits : envelope.sourceNode.hash = node.sha256Hash publicKey
  · rw [if_neg (not_not.mpr fits)]
    cases PublicKey.fromDer crypto publicKey with
    | error failure => simp [Effect.run_bind, fits]
    | ok pubKey =>
        cases verified : envelope.verifyWith crypto modelDumpJson pubKey with
        | ok => simp [Effect.run_bind, Effect.tryExcept, fits, verified]
        | error failure =>
            have rejected : ((Effect.tryExcept
                (Effect.ofExcept (.error failure) : NodeM Unit)
                Exc.isInvalidSignature
                (Effect.raise (.protocol .invalidSignature))).run
                  state).1 ≠ .ok () := by
              cases failure <;> simp [Effect.tryExcept, Exc.isInvalidSignature]
            simp [Effect.run_bind, fits, verified, rejected]
  · rw [if_pos fits]
    simp [Ne.symm fits]

theorem checks_return_iff {publicKey : String} :
    ((checkSignature node crypto modelDumpJson envelope publicKey >>=
        fun _ => checkTarget node envelope).run state).1 = .ok () ↔
      SignedBy node crypto modelDumpJson envelope publicKey
        envelope.sourceNode ∧ envelope.targetNode = node.rid := by
  rw [← checkSignature_returns_iff, Effect.run_bind]
  generalize (checkSignature node crypto modelDumpJson envelope publicKey).run
    state = ended
  obtain ⟨result, after⟩ := ended
  cases result with
  | ok => simp [checkTarget_returns_iff]
  | error => simp

/-- An envelope is validated exactly if it is vouched for. -/
theorem validateEnvelope_returns_iff :
    ((validateEnvelope node crypto eventsPayload modelDumpJson envelope).run
        state).1 = .ok () ↔
      ∃ publicKey, Vouched node crypto eventsPayload modelDumpJson state.cache
        envelope publicKey := by
  unfold validateEnvelope
  rw [Effect.run_get_bind]
  cases known : nodeBundle eventsPayload state.cache envelope with
  | none =>
      constructor
      · intro returned
        cases returned
      · rintro ⟨publicKey, vouched⟩
        obtain ⟨bundle, _, same, _⟩ := vouched.known
        cases known.symm.trans same
  | some bundle =>
      dsimp only
      rw [Effect.run_bind, validateContents_run]
      cases validated : NodeProfile.modelValidate bundle.contents with
      | none =>
          constructor
          · intro returned
            cases returned
          · rintro ⟨publicKey, vouched⟩
            obtain ⟨_, nodeProfile, same, valid, _⟩ := vouched.known
            cases known.symm.trans same
            cases validated.symm.trans valid
      | some nodeProfile =>
          dsimp only
          cases stated : nodeProfile.publicKey with
          | none =>
              constructor
              · intro returned
                cases returned
              · rintro ⟨publicKey, vouched⟩
                obtain ⟨_, _, same, valid, key⟩ := vouched.known
                cases known.symm.trans same
                cases validated.symm.trans valid
                cases stated.symm.trans key
          | some publicKey =>
              dsimp only
              rw [checks_return_iff]
              constructor
              · rintro ⟨signed, addressed⟩
                exact ⟨publicKey, ⟨bundle, nodeProfile, known, validated,
                  stated⟩, signed, addressed⟩
              · rintro ⟨other, vouched⟩
                obtain ⟨_, _, same, valid, key⟩ := vouched.known
                cases known.symm.trans same
                cases validated.symm.trans valid
                cases stated.symm.trans key
                exact ⟨vouched.signed, vouched.addressed⟩

end SecureManager

end KoiNet
