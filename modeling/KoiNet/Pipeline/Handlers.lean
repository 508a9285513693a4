import KoiNet.Components.KnowledgeHandler

/-!
# What the default handlers do

One inversion lemma per handler: every result a run of the handler can give,
with the conditions under which it gives it and the state it leaves.
-/

namespace KoiNet

open Foundation

theorem BasicManifestHandler.isNewer_iff {manifest previous : Manifest} :
    isNewer manifest previous = true ↔
      manifest.sha256Hash ≠ previous.sha256Hash ∧
        previous.timestamp < manifest.timestamp := by
  simp [isNewer]

/-- What `SecureProfileHandler` lets pass: a profile with a public key that
hashes to the RID, and not another node's profile under this node's URL. -/
def SecureProfileHandler.Admits (node : Node) (nodeRid : KoiNetNode)
    (contents : Contents) : Prop :=
  ∃ nodeProfile key,
    NodeProfile.modelValidate contents = some nodeProfile ∧
    nodeProfile.publicKey = some key ∧
    node.sha256Hash key = nodeRid.hash ∧
    ¬(nodeRid ≠ node.rid ∧ nodeProfile.baseUrl = node.profile.baseUrl)

/-- What `EdgeNegotiationHandler` lets pass: any edge profile, unless it is
proposed to this node by a peer that is unknown or has to be refused. -/
def EdgeNegotiationHandler.Admits (node : Node) (cache : Cache)
    (contents : Contents) : Prop :=
  ∃ edgeProfile, EdgeProfile.modelValidate contents = some edgeProfile ∧
    (edgeProfile.source = node.rid → edgeProfile.status = .proposed →
      ∃ peerBundle peerProfile,
        cache.read (.node edgeProfile.target) = some peerBundle ∧
        NodeProfile.modelValidate peerBundle.contents = some peerProfile ∧
        abort node edgeProfile peerProfile = false)

/-- The event types the two Bundle handlers are limited to. -/
def KnowledgeObject.isTyped (kobj : KnowledgeObject) : Prop :=
  kobj.eventType = some .new ∨ kobj.eventType = some .update

/-- The objects the Bundle chain lets pass. -/
def BundleAdmits (node : Node) (cache : Cache) (kobj : KnowledgeObject)
    (contents : Contents) : Prop :=
  match kobj.rid with
  | .node nodeRid =>
      kobj.isTyped → SecureProfileHandler.Admits node nodeRid contents
  | .edge _ =>
      kobj.isTyped → kobj.source ≠ none →
        EdgeNegotiationHandler.Admits node cache contents
  | .other _ _ => True

theorem secureProfileHandler_accepts_iff {node : Node}
    {kobj : KnowledgeObject} :
    (secureProfileHandler node).accepts kobj = true ↔
      kobj.rid.type = .koiNetNode ∧ kobj.isTyped := by
  simp [KnowledgeHandler.accepts, secureProfileHandler,
    KnowledgeObject.isTyped]

theorem edgeNegotiationHandler_accepts_iff {node : Node}
    {kobj : KnowledgeObject} :
    (edgeNegotiationHandler node).accepts kobj = true ↔
      kobj.rid.type = .koiNetEdge ∧ kobj.isTyped := by
  simp [KnowledgeHandler.accepts, edgeNegotiationHandler,
    KnowledgeObject.isTyped]

/-- The verdict of `SecureProfileHandler` on the contents of a node object. -/
def SecureProfileHandler.verdict (node : Node) (nodeRid : KoiNetNode)
    (contents : Contents) : Except Exc HandlerResponse :=
  match NodeProfile.modelValidate contents with
  | none => .error .validationError
  | some nodeProfile =>
      match nodeProfile.publicKey with
      | none => .error .attributeError
      | some key =>
          if node.sha256Hash key ≠ nodeRid.hash then
            .ok .stopChain
          else if nodeRid ≠ node.rid ∧
              nodeProfile.baseUrl = node.profile.baseUrl then
            .ok .stopChain
          else
            .ok .unmodified

theorem SecureProfileHandler.handle_run (node : Node)
    {kobj : KnowledgeObject} {nodeRid : KoiNetNode} {manifest : Manifest}
    {contents : Contents} (isNode : kobj.rid = .node nodeRid)
    (hasManifest : kobj.manifest = some manifest)
    (hasContents : kobj.contents = some contents) (state : NodeState) :
    (SecureProfileHandler.handle node kobj).run state =
      (verdict node nodeRid contents, state) := by
  have bundled := KnowledgeObject.bundle_of_fields hasManifest hasContents
  unfold SecureProfileHandler.handle verdict
  rw [bundled, isNode, Effect.run_bind_of_ok (Effect.run_ofExcept _ state)]
  cases validated : NodeProfile.modelValidate contents with
  | none => rw [Effect.run_bind, validateContents_run, validated]
  | some nodeProfile =>
      rw [Effect.run_bind_of_ok (validateContents_some validated)]
      dsimp only
      cases nodeProfile.publicKey with
      | none => simp [hashPublicKey]
      | some key =>
          simp only [hashPublicKey, Effect.run_pure_bind]
          split
          · rfl
          · split <;> rfl

theorem SecureProfileHandler.verdict_eq_unmodified_iff {node : Node}
    {nodeRid : KoiNetNode} {contents : Contents} :
    verdict node nodeRid contents = .ok .unmodified ↔
      Admits node nodeRid contents := by
  constructor
  · intro passed
    unfold verdict at passed
    split at passed
    · cases passed
    · rename_i nodeProfile validated
      split at passed
      · cases passed
      · rename_i key stated
        split at passed
        · cases passed
        · rename_i hashed
          split at passed
          · cases passed
          · rename_i otherUrl
            exact ⟨nodeProfile, key, validated, stated,
              not_not.mp hashed, otherUrl⟩
  · rintro ⟨nodeProfile, key, validated, stated, hashed, otherUrl⟩
    simp only [verdict, validated, stated, hashed, ne_eq, not_true_eq_false,
      if_false]
    rw [if_neg otherUrl]

theorem SecureProfileHandler.verdict_ne_modified {node : Node}
    {nodeRid : KoiNetNode} {contents : Contents} {kobj : KnowledgeObject} :
    verdict node nodeRid contents ≠ .ok (.modified kobj) := by
  unfold verdict
  intro changed
  split at changed
  · cases changed
  · split at changed
    · cases changed
    · split at changed
      · cases changed
      · split at changed <;> cases changed

theorem EdgeNegotiationHandler.abort_eq_false_iff {node : Node}
    {edgeProfile : EdgeProfile} {peerProfile : NodeProfile} :
    abort node edgeProfile peerProfile = false ↔
      (∀ ridType ∈ edgeProfile.ridTypes, ridType ∈ providedEvents node) ∧
        ¬(edgeProfile.edgeType = .webhook ∧
          peerProfile.nodeType = .partialNode) := by
  unfold abort
  rw [Bool.or_eq_false_iff, Bool.not_eq_false', List.all_eq_true, and_comm]
  simp

/-- The bundle `EdgeNegotiationHandler` queues for an edge it approves. -/
def EdgeNegotiationHandler.approval (node : Node) (rid : RID)
    (edgeProfile : EdgeProfile) (clockReads : Nat) : Bundle :=
  let contents := { edgeProfile with status := .approved }.modelDump
  { manifest :=
      { rid := rid
        timestamp := node.now clockReads
        sha256Hash := node.sha256HashJson contents }
    contents := contents }

/-- The runs of `EdgeNegotiationHandler` on an object with these contents. -/
inductive EdgeNegotiationHandler.Step (node : Node) (kobj : KnowledgeObject)
    (contents : Contents) (state : NodeState) :
    Except Exc HandlerResponse → NodeState → Prop where
  | internal :
      kobj.source = none →
      Step node kobj contents state (.ok .unmodified) state
  | malformed :
      kobj.source ≠ none →
      EdgeProfile.modelValidate contents = none →
      Step node kobj contents state (.error .validationError) state
  | notProposed (edgeProfile : EdgeProfile) :
      kobj.source ≠ none →
      EdgeProfile.modelValidate contents = some edgeProfile →
      ¬(edgeProfile.source = node.rid ∧ edgeProfile.status = .proposed) →
      Step node kobj contents state (.ok .unmodified) state
  | unknownPeer (edgeProfile : EdgeProfile) :
      kobj.source ≠ none →
      EdgeProfile.modelValidate contents = some edgeProfile →
      edgeProfile.source = node.rid → edgeProfile.status = .proposed →
      state.cache.read (.node edgeProfile.target) = none →
      Step node kobj contents state (.ok .stopChain) state
  | malformedPeer (edgeProfile : EdgeProfile) (peerBundle : Bundle) :
      kobj.source ≠ none →
      EdgeProfile.modelValidate contents = some edgeProfile →
      edgeProfile.source = node.rid → edgeProfile.status = .proposed →
      state.cache.read (.node edgeProfile.target) = some peerBundle →
      NodeProfile.modelValidate peerBundle.contents = none →
      Step node kobj contents state (.error .validationError) state
  | refused (edgeProfile : EdgeProfile) (peerBundle : Bundle)
      (peerProfile : NodeProfile) :
      kobj.source ≠ none →
      EdgeProfile.modelValidate contents = some edgeProfile →
      edgeProfile.source = node.rid → edgeProfile.status = .proposed →
      state.cache.read (.node edgeProfile.target) = some peerBundle →
      NodeProfile.modelValidate peerBundle.contents = some peerProfile →
      abort node edgeProfile peerProfile = true →
      Step node kobj contents state (.ok .stopChain)
        { state with
          eventQueue := state.eventQueue ++
            [{ event := Event.fromRid .forget kobj.rid
               target := edgeProfile.target }] }
  | approved (edgeProfile : EdgeProfile) (peerBundle : Bundle)
      (peerProfile : NodeProfile) :
      kobj.source ≠ none →
      EdgeProfile.modelValidate contents = some edgeProfile →
      edgeProfile.source = node.rid → edgeProfile.status = .proposed →
      state.cache.read (.node edgeProfile.target) = some peerBundle →
      NodeProfile.modelValidate peerBundle.contents = some peerProfile →
      abort node edgeProfile peerProfile = false →
      Step node kobj contents state (.ok .unmodified)
        { state with
          clockReads := state.clockReads + 1
          kobjQueue := state.kobjQueue ++
            [KnowledgeObject.fromBundle
              (approval node kobj.rid edgeProfile state.clockReads)
              (some .update) none] }

theorem EdgeNegotiationHandler.handle_step (node : Node)
    {kobj : KnowledgeObject} {manifest : Manifest} {contents : Contents}
    (hasManifest : kobj.manifest = some manifest)
    (hasContents : kobj.contents = some contents) (state : NodeState) :
    Step node kobj contents state ((handle node kobj).run state).1
      ((handle node kobj).run state).2 := by
  have bundled := KnowledgeObject.bundle_of_fields hasManifest hasContents
  unfold EdgeNegotiationHandler.handle
  by_cases internal : kobj.source = none
  · rw [if_pos internal]
    exact .internal internal
  · rw [if_neg internal, bundled,
      Effect.run_bind_of_ok (Effect.run_ofExcept _ state)]
    cases validated : EdgeProfile.modelValidate contents with
    | none =>
        rw [Effect.run_bind, validateContents_run, validated]
        exact .malformed internal validated
    | some edgeProfile =>
        rw [Effect.run_bind_of_ok (validateContents_some validated)]
        by_cases outgoing : edgeProfile.source = node.rid
        · by_cases proposed : edgeProfile.status = .proposed
          · rw [if_pos outgoing, if_neg (not_not.mpr proposed)]
            simp only [Effect.run_get_bind]
            cases known : state.cache.read (.node edgeProfile.target) with
            | none =>
                exact .unknownPeer edgeProfile internal validated outgoing
                  proposed known
            | some peerBundle =>
                dsimp only
                cases peer : NodeProfile.modelValidate peerBundle.contents with
                | none =>
                    rw [Effect.run_bind, validateContents_run, peer]
                    exact .malformedPeer edgeProfile peerBundle internal
                      validated outgoing proposed known peer
                | some peerProfile =>
                    rw [Effect.run_bind_of_ok (validateContents_some peer)]
                    cases refused : abort node edgeProfile peerProfile with
                    | true =>
                        exact .refused edgeProfile peerBundle peerProfile
                          internal validated outgoing proposed known peer
                          refused
                    | false =>
                        exact .approved edgeProfile peerBundle peerProfile
                          internal validated outgoing proposed known peer
                          refused
          · rw [if_pos outgoing, if_pos proposed]
            exact .notProposed edgeProfile internal validated
              fun asked => proposed asked.2
        · rw [if_neg outgoing]
          exact .notProposed edgeProfile internal validated
            fun asked => outgoing asked.1

namespace EdgeNegotiationHandler.Step

variable {node : Node} {kobj : KnowledgeObject} {contents : Contents}
  {state after : NodeState} {result : Except Exc HandlerResponse}

theorem ne_modified {changed : KnowledgeObject}
    (step : Step node kobj contents state result after) :
    result ≠ .ok (.modified changed) := by
  cases step <;> intro modified <;> cases modified

/-- The handler lets an object pass exactly if it is internal or admitted. -/
theorem unmodified_iff (step : Step node kobj contents state result after) :
    result = .ok .unmodified ↔
      (kobj.source ≠ none → Admits node state.cache contents) := by
  cases step with
  | internal internal =>
      exact iff_of_true rfl fun external => (external internal).elim
  | malformed external malformed =>
      apply iff_of_false (by simp)
      intro admitted
      obtain ⟨edgeProfile, validated, _⟩ := admitted external
      rw [malformed] at validated
      cases validated
  | notProposed edgeProfile external validated notAsked =>
      refine iff_of_true rfl fun _ => ⟨edgeProfile, validated, ?_⟩
      intro outgoing proposed
      exact (notAsked ⟨outgoing, proposed⟩).elim
  | unknownPeer edgeProfile external validated outgoing proposed unknown =>
      apply iff_of_false (by simp)
      intro admitted
      obtain ⟨other, otherValidated, peer⟩ := admitted external
      cases validated.symm.trans otherValidated
      obtain ⟨peerBundle, _, known, _⟩ := peer outgoing proposed
      rw [unknown] at known
      cases known
  | malformedPeer edgeProfile peerBundle external validated outgoing proposed
      known malformed =>
      apply iff_of_false (by simp)
      intro admitted
      obtain ⟨other, otherValidated, peer⟩ := admitted external
      cases validated.symm.trans otherValidated
      obtain ⟨otherBundle, peerProfile, otherKnown, valid, _⟩ :=
        peer outgoing proposed
      cases known.symm.trans otherKnown
      rw [malformed] at valid
      cases valid
  | refused edgeProfile peerBundle peerProfile external validated outgoing
      proposed known peerValid refused =>
      apply iff_of_false (by simp)
      intro admitted
      obtain ⟨other, otherValidated, peer⟩ := admitted external
      cases validated.symm.trans otherValidated
      obtain ⟨otherBundle, otherProfile, otherKnown, valid, agreed⟩ :=
        peer outgoing proposed
      cases known.symm.trans otherKnown
      cases peerValid.symm.trans valid
      rw [refused] at agreed
      cases agreed
  | approved edgeProfile peerBundle peerProfile external validated outgoing
      proposed known peerValid agreed =>
      refine iff_of_true rfl fun _ => ⟨edgeProfile, validated, ?_⟩
      intro _ _
      exact ⟨peerBundle, peerProfile, known, peerValid, agreed⟩

end EdgeNegotiationHandler.Step

end KoiNet
