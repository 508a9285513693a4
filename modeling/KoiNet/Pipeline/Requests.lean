import KoiNet.Components.RequestHandler

/-!
# How a request ends

The result of a request is a function of the state it is made in, and a
request that returns changes nothing but the request count and the peer's
timeout counter.
-/

namespace KoiNet

open Foundation

namespace RequestHandler

/-- What `get_base_url` returns or raises. -/
def resolve (node : Node) (cache : Cache) (peer : KoiNetNode) :
    Except Exc (Option String) :=
  match cache.read (.node peer) with
  | some nodeBundle =>
      match NodeProfile.modelValidate nodeBundle.contents with
      | none => .error .validationError
      | some nodeProfile =>
          if nodeProfile.nodeType ≠ .full then
            .error (.request .partialNodeQuery)
          else
            .ok nodeProfile.baseUrl
  | none =>
      if some peer = node.config.firstContact.rid then
        .ok node.config.firstContact.url
      else
        .error (.request .nodeNotFound)

theorem getBaseUrl_run (node : Node) (peer : KoiNetNode) (state : NodeState) :
    (getBaseUrl node peer).run state =
      (resolve node state.cache peer, state) := by
  unfold getBaseUrl resolve
  rw [Effect.run_get_bind]
  cases state.cache.read (.node peer) with
  | none =>
      dsimp only
      by_cases first : some peer = node.config.firstContact.rid
      · simp only [if_pos first, Effect.run_pure]
      · simp only [if_neg first, Effect.run_raise]
  | some nodeBundle =>
      dsimp only
      rw [Effect.run_bind, validateContents_run]
      cases NodeProfile.modelValidate nodeBundle.contents with
      | none => rfl
      | some nodeProfile =>
          dsimp only
          by_cases full : nodeProfile.nodeType ≠ .full
          · simp only [if_pos full, Effect.run_raise]
          · simp only [if_neg full, Effect.run_pure]

/-- What a successful or failed exchange contributes to the result. -/
def received {α : Type} : Outcome α → Except Exc α
  | .unreachable => .error (.request .transport)
  | .rejected error => .error (.request error)
  | .received result => result

/-- What `make_request` returns or raises. -/
def outcome (node : Node) (state : NodeState) (peer : KoiNetNode)
    (path : Path) (request : path.Request) : Except Exc path.Response :=
  if peer = node.rid then
    .error (.request .selfRequest)
  else
    match resolve node state.cache peer with
    | .error failure => .error failure
    | .ok none => .error .typeError
    | .ok (some url) =>
        received (node.answer state (url ++ path.str) peer path request)

end RequestHandler

/-- The state after a request that the peer answered. -/
def NodeState.answered (state : NodeState) (peer : KoiNetNode) : NodeState :=
  { state with
    requests := state.requests + 1
    timeoutCounter := state.timeoutCounter.set peer 0 }

/-- The peer answers the request with this payload. -/
def Answers (node : Node) (state : NodeState) (peer : KoiNetNode)
    (path : Path) (request : path.Request) (payload : path.Response) : Prop :=
  RequestHandler.outcome node state peer path request = .ok payload

theorem Answers.functional {node : Node} {state : NodeState}
    {source : Option KoiNetNode} {peer otherPeer : KoiNetNode} {path : Path}
    {request : path.Request} {payload otherPayload : path.Response}
    (sender : source = some peer) (otherSender : source = some otherPeer)
    (answers : Answers node state peer path request payload)
    (otherAnswers : Answers node state otherPeer path request otherPayload) :
    otherPeer = peer ∧ otherPayload = payload := by
  rw [sender] at otherSender
  cases otherSender
  exact ⟨rfl, Except.ok.inj (otherAnswers.symm.trans answers)⟩

/-- No request is answered. -/
def Unanswered (node : Node) : Prop :=
  ∀ state peer path request payload,
    ¬Answers node state peer path request payload

theorem unanswered_isolated (config : KoiNetConfig)
    (sha256Hash : String → String) (sha256HashJson : Contents → String) :
    Unanswered (.isolated config sha256Hash sha256HashJson) := by
  intro state peer path request payload answers
  unfold Answers RequestHandler.outcome at answers
  split at answers
  · cases answers
  · split at answers <;> cases answers

@[simp] theorem NodeState.answered_cache (state : NodeState)
    (peer : KoiNetNode) : (state.answered peer).cache = state.cache :=
  rfl

namespace RequestHandler

variable {node : Node} {state : NodeState} {peer : KoiNetNode}

private theorem handleConnectionError_ok (peer : KoiNetNode)
    (state : NodeState) :
    ∃ after, (ErrorHandler.handleConnectionError peer).run state =
      (.ok (), after) := by
  unfold ErrorHandler.handleConnectionError
  simp only [Effect.run_get_bind, Effect.run_modify_bind]
  by_cases often : 3 < (state.timeoutCounter.get? peer).getD 0 + 1
  · rw [if_pos often]
    exact ⟨_, rfl⟩
  · rw [if_neg often]
    exact ⟨_, rfl⟩

/-- A request ends as `outcome` says, and one that returns leaves the state
of an answered request. -/
theorem makeRequest_run (node : Node) (state : NodeState)
    (peer : KoiNetNode) (path : Path) (request : path.Request) :
    ∃ after, (makeRequest node peer path request).run state =
        (outcome node state peer path request, after) ∧
      ∀ payload, Answers node state peer path request payload →
        after = state.answered peer := by
  unfold makeRequest Answers outcome
  by_cases self : peer = node.rid
  · rw [if_pos self, if_pos self]
    refine ⟨state, rfl, ?_⟩
    intro payload returned
    cases returned
  · rw [if_neg self, if_neg self, Effect.run_bind, getBaseUrl_run]
    cases resolve node state.cache peer with
    | error failure =>
        refine ⟨state, rfl, ?_⟩
        intro payload returned
        cases returned
    | ok url =>
        cases url with
        | none =>
            refine ⟨state, rfl, ?_⟩
            intro payload returned
            cases returned
        | some url =>
            dsimp only
            rw [Effect.run_get_bind, Effect.run_modify_bind]
            cases node.answer state (url ++ path.str) peer path request with
            | unreachable =>
                obtain ⟨after, handled⟩ := handleConnectionError_ok peer
                  { state with requests := state.requests + 1 }
                refine ⟨after, ?_, ?_⟩
                · dsimp only
                  rw [Effect.run_bind_of_ok handled]
                  rfl
                · intro payload returned
                  cases returned
            | rejected error =>
                refine ⟨_, rfl, ?_⟩
                intro payload returned
                cases returned
            | received result =>
                refine ⟨state.answered peer, rfl, ?_⟩
                intro payload _
                rfl

theorem makeRequest_returns {path : Path} {request : path.Request}
    {payload : path.Response}
    (answers : Answers node state peer path request payload) :
    (makeRequest node peer path request).run state =
      (.ok payload, state.answered peer) := by
  obtain ⟨after, ran, left⟩ :=
    makeRequest_run node state peer path request
  rw [ran, left payload answers]
  rw [show outcome node state peer path request = .ok payload from answers]

theorem makeRequest_returned {path : Path} {request : path.Request}
    {payload : path.Response} {after : NodeState}
    (returned : (makeRequest node peer path request).run state =
      (.ok payload, after)) :
    Answers node state peer path request payload ∧
      after = state.answered peer := by
  obtain ⟨left, ran, answered⟩ :=
    makeRequest_run node state peer path request
  rw [ran] at returned
  have answers : Answers node state peer path request payload :=
    congrArg Prod.fst returned
  refine ⟨answers, ?_⟩
  rw [← answered payload answers]
  exact (congrArg Prod.snd returned).symm

end RequestHandler

end KoiNet
