import KoiNet.Components.Exchange
import KoiNet.Pipeline.Requests
import KoiNet.Security.Validation

/-!
# Whose answer a response is

A response is returned once its envelope is vouched for, by whichever node.
Nothing compares its source with the node that was asked.
-/

namespace KoiNet

open Foundation

namespace Wire

variable (wire : Wire) (crypto : Cryptography) (node : Node)

/-- The request is posted, and answered with this successful response. -/
structure Replies (state : NodeState) (peer : KoiNetNode) (path : Path)
    (request : path.Request) (text : String) : Prop where
  other : peer ≠ node.rid
  posted : ∃ url, RequestHandler.resolve node state.cache peer =
      .ok (some url) ∧
    wire.post state (url ++ path.str) peer path request = .response true text

/-- The body is an envelope that is vouched for. -/
structure Accepts (state : NodeState) (path : Path) (text : String)
    (envelope : SignedEnvelope path.Response) : Prop where
  loaded : wire.loadSigned path text = some envelope
  vouched : ∃ publicKey, Vouched node crypto path.responseEvents
    (wire.dumpUnsigned path) state.cache envelope publicKey

/-- The payload came from this node, addressed to the node that asked. -/
def Authentic (peer : KoiNetNode) (path : Path) (text : String)
    (payload : path.Response) : Prop :=
  ∃ envelope, wire.loadSigned path text = some envelope ∧
    envelope.payload = payload ∧ envelope.sourceNode = peer ∧
    envelope.targetNode = node.rid ∧
    ∃ publicKey, SignedBy node crypto (wire.dumpUnsigned path) envelope
      publicKey peer

/-- Whatever payload the request returns came from the node that was asked. -/
def AnsweredByPeer (state : NodeState) (peer : KoiNetNode) (path : Path)
    (request : path.Request) : Prop :=
  path ≠ .broadcastEvents → ∀ payload after,
    (RequestHandler.makeRequest (node.over crypto wire) peer path request).run
        state = (.ok payload, after) →
    ∃ text, wire.Replies node state peer path request text ∧
      wire.Authentic crypto node peer path text payload

variable {wire crypto node} {state : NodeState} {path : Path}

theorem unwrap_returns_iff {text : String} {payload : path.Response}
    (hasModel : path ≠ .broadcastEvents) :
    wire.unwrap crypto node state path text = .ok payload ↔
      ∃ envelope, wire.Accepts crypto node state path text envelope ∧
        envelope.payload = payload := by
  have noResponse : path.noResponse = none := by
    cases path with
    | broadcastEvents => exact (hasModel rfl).elim
    | _ => rfl
  unfold unwrap
  rw [noResponse]
  dsimp only
  cases loaded : wire.loadSigned path text with
  | none =>
      constructor
      · intro returned
        cases returned
      · rintro ⟨envelope, accepts, _⟩
        cases loaded.symm.trans accepts.loaded
  | some envelope =>
      have validated : ((wire.validateResponse crypto node path envelope).run
          state).1 = .ok () ↔ _ := SecureManager.validateEnvelope_returns_iff
      dsimp only
      cases result :
          ((wire.validateResponse crypto node path envelope).run state).1 with
      | ok _ =>
          constructor
          · intro returned
            cases returned
            exact ⟨envelope, ⟨loaded, validated.mp result⟩, rfl⟩
          · rintro ⟨other, accepts, rfl⟩
            cases loaded.symm.trans accepts.loaded
            rfl
      | error failure =>
          constructor
          · intro returned
            cases returned
          · rintro ⟨other, accepts, _⟩
            cases loaded.symm.trans accepts.loaded
            cases result.symm.trans (validated.mpr accepts.vouched)

theorem outcome_over (peer : KoiNetNode) (request : path.Request) :
    RequestHandler.outcome (node.over crypto wire) state peer path request =
      if peer = node.rid then
        .error (.request .selfRequest)
      else
        match RequestHandler.resolve node state.cache peer with
        | .error failure => .error failure
        | .ok none => .error .typeError
        | .ok (some url) =>
            RequestHandler.received
              (wire.exchange crypto node state (url ++ path.str) peer path
                request) :=
  rfl

theorem outcome_returns_iff {peer : KoiNetNode} {request : path.Request}
    {payload : path.Response} (hasModel : path ≠ .broadcastEvents) :
    RequestHandler.outcome (node.over crypto wire) state peer path request =
        .ok payload ↔
      ∃ text envelope, wire.Replies node state peer path request text ∧
        wire.Accepts crypto node state path text envelope ∧
        envelope.payload = payload := by
  rw [outcome_over]
  constructor
  · intro returned
    split at returned
    · cases returned
    · rename_i other
      cases resolved : RequestHandler.resolve node state.cache peer with
      | error failure =>
          rw [resolved] at returned
          cases returned
      | ok found =>
          rw [resolved] at returned
          cases found with
          | none => cases returned
          | some url =>
              unfold exchange at returned
              dsimp only at returned
              cases posted : wire.post state (url ++ path.str) peer path
                  request with
              | noConnection =>
                  rw [posted] at returned
                  cases returned
              | response isSuccess text =>
                  rw [posted] at returned
                  cases isSuccess with
                  | false =>
                      dsimp only at returned
                      split at returned <;> cases returned
                  | true =>
                      obtain ⟨envelope, accepts, carried⟩ :=
                        (unwrap_returns_iff hasModel).mp returned
                      exact ⟨text, envelope, ⟨other, url, resolved, posted⟩,
                        accepts, carried⟩
  · rintro ⟨text, envelope, replies, accepts, carried⟩
    obtain ⟨url, resolved, posted⟩ := replies.posted
    rw [if_neg replies.other, resolved]
    unfold exchange
    dsimp only
    rw [posted]
    exact (unwrap_returns_iff hasModel).mpr ⟨envelope, accepts, carried⟩

theorem Replies.functional {peer : KoiNetNode} {request : path.Request}
    {left right : String}
    (leftReplies : wire.Replies node state peer path request left)
    (rightReplies : wire.Replies node state peer path request right) :
    right = left := by
  obtain ⟨url, resolved, posted⟩ := leftReplies.posted
  obtain ⟨other, otherResolved, otherPosted⟩ := rightReplies.posted
  cases resolved.symm.trans otherResolved
  cases posted.symm.trans otherPosted
  rfl

/-- A request only returns payloads of the node that was asked exactly if no
other node's envelope is accepted in the reply to it. -/
theorem answeredByPeer_iff (wire : Wire) (crypto : Cryptography) (node : Node)
    (state : NodeState) (peer : KoiNetNode) (path : Path)
    (request : path.Request) :
    wire.AnsweredByPeer crypto node state peer path request ↔
      (path ≠ .broadcastEvents → ∀ text envelope,
        wire.Replies node state peer path request text →
        wire.Accepts crypto node state path text envelope →
        envelope.sourceNode = peer) := by
  apply imp_congr_right
  intro hasModel
  constructor
  · intro authentic text envelope replies accepts
    have answers := (outcome_returns_iff hasModel).mpr
      ⟨text, envelope, replies, accepts, rfl⟩
    obtain ⟨other, otherReplies, came⟩ := authentic envelope.payload _
      (RequestHandler.makeRequest_returns answers)
    cases replies.functional otherReplies
    obtain ⟨found, loaded, _, source, _⟩ := came
    cases accepts.loaded.symm.trans loaded
    exact source
  · intro source payload after returned
    obtain ⟨answers, _⟩ := RequestHandler.makeRequest_returned returned
    obtain ⟨text, envelope, replies, accepts, carried⟩ :=
      (outcome_returns_iff hasModel).mp answers
    obtain ⟨publicKey, vouched⟩ := accepts.vouched
    have same := source text envelope replies accepts
    refine ⟨text, replies, envelope, accepts.loaded, carried, same,
      vouched.addressed, publicKey, ?_⟩
    rw [← same]
    exact vouched.signed

/-- A library whose signatures consist of the lengths of the key and of the
message. -/
def lengthSignatures : Cryptography :=
  { Key := Bytes
    loadDerPublicKey := .ok
    encodeDssSignature := fun r s => [UInt8.ofNat r, UInt8.ofNat s]
    verify := fun key signature data =>
      if signature = [UInt8.ofNat key.length, UInt8.ofNat data.length] then
        .ok ()
      else .error .invalidSignature }

/-- An envelope a node with the key `AAAA` has signed. -/
def signedAnswer (signer target : KoiNetNode) : SignedEnvelope RidsPayload :=
  { payload := { rids := [.other "orn:example" "forged"] }
    sourceNode := signer
    targetNode := target
    signature :=
      "AAAAAAAAAAAAAAAAAAAAAAAAAAAAAAAAAAAAAAAAAAMAAAAAAAAAAAAAAAAAAAAAAAAAAAAAAAAAAAAAAAAABA==" }

theorem signedAnswer_signedBy :
    SignedBy Node.standalone lengthSignatures (fun _ => "text")
      (signedAnswer { name := "third", hash := "AAAA" } Node.standalone.rid)
      "AAAA" { name := "third", hash := "AAAA" } :=
  ⟨rfl, [0, 0, 0], rfl, rfl⟩

/-- A third node known to this one signs the answer to a request made to
another node. -/
theorem answers_not_authentic :
    ¬∀ (wire : Wire) (crypto : Cryptography) (node : Node) (state : NodeState)
      (peer : KoiNetNode) (path : Path) (request : path.Request),
      wire.AnsweredByPeer crypto node state peer path request := by
  intro always
  let peer : KoiNetNode := { name := "peer", hash := "BBBBBBBB" }
  let third : KoiNetNode := { name := "third", hash := "AAAA" }
  let answer := signedAnswer third Node.standalone.rid
  let wire : Wire :=
    { post := fun _ _ _ _ _ => .response true "body"
      dumpUnsigned := fun _ _ => "text"
      loadSigned := fun path _ =>
        match path with
        | .fetchRids => some answer
        | _ => none
      loadError := fun _ => none }
  let profile (nodeRid : KoiNetNode) : Bundle :=
    { manifest := { rid := .node nodeRid, timestamp := 0, sha256Hash := "" }
      contents := [("base_url", .str "url"), ("node_type", .str "FULL"),
        ("public_key", .str nodeRid.hash)] }
  let state : NodeState :=
    .fresh ((Cache.empty.write (profile peer)).write (profile third))
  have vouched : Vouched Node.standalone lengthSignatures
      Path.fetchRids.responseEvents (wire.dumpUnsigned .fetchRids) state.cache
      answer "AAAA" :=
    ⟨⟨profile third, _, rfl, rfl, rfl⟩, signedAnswer_signedBy, rfl⟩
  have replies : wire.Replies Node.standalone state peer .fetchRids
      ({} : FetchRids) "body" := ⟨by decide, "url", rfl, rfl⟩
  have accepts : wire.Accepts lengthSignatures Node.standalone state
      .fetchRids "body" answer := ⟨rfl, _, vouched⟩
  have answers := (outcome_returns_iff (by decide)).mpr
    ⟨"body", _, replies, accepts, rfl⟩
  obtain ⟨_, _, envelope, loaded, _, source, _⟩ :=
    always wire lengthSignatures Node.standalone state peer .fetchRids
      ({} : FetchRids) (by decide) answer.payload _
      (RequestHandler.makeRequest_returns answers)
  cases loaded
  revert source
  decide

end Wire

end KoiNet
