import KoiNet.Foundation.Execution
import KoiNet.Pipeline.Requests
import Mathlib.Data.List.Induction

/-!
# When an unreachable node is forgotten

Along any run of requests the timeout counter of a node is the number of its
connection errors since it last responded.  The node is queued to be forgotten
from the fourth of these on.
-/

namespace KoiNet

open Foundation

/-- A request to a peer, and what it queued. -/
structure Call where
  peer : KoiNetNode
  exchange : Option Exchange
  queued : List KnowledgeObject

/-- Other components work, and then a request is made.  Only requests touch
the timeout counter. -/
def CallStep (node : Node) (call : Call) (before after : NodeState) : Prop :=
  ∃ (state : NodeState) (path : Path) (request : path.Request),
    state.timeoutCounter = before.timeoutCounter ∧
    call.exchange =
      RequestHandler.exchange node state call.peer path request ∧
    after =
      ((RequestHandler.makeRequest node call.peer path request).run
        state).2 ∧
    after.kobjQueue = state.kobjQueue ++ call.queued

namespace Call

def succeeds (peer : KoiNetNode) (call : Call) : Bool :=
  peer = call.peer ∧ call.exchange = some .responded

def fails (peer : KoiNetNode) (call : Call) : Bool :=
  peer = call.peer ∧ call.exchange = some .connectionError

end Call

/-- The connection errors of a peer since it last responded. -/
def connectionErrors (peer : KoiNetNode) (calls : List Call) : Nat :=
  (calls.reverse.takeWhile fun call => !call.succeeds peer).countP
    (Call.fails peer)

/-- The object that forgets a node. -/
def forgetting (peer : KoiNetNode) : KnowledgeObject :=
  .fromRid (.node peer) (some .forget) none

/-- Nodes are forgotten at those of their connection errors that are at least
the `count`-th since they last responded, and only there. -/
def ForgetsFrom (count : Nat) (calls : List Call) : Prop :=
  ∀ before call after, calls = before ++ call :: after →
    ∀ peer, forgetting peer ∈ call.queued ↔
      call.fails peer ∧ count ≤ connectionErrors peer (before ++ [call])

@[simp] theorem connectionErrors_nil (peer : KoiNetNode) :
    connectionErrors peer [] = 0 :=
  rfl

theorem connectionErrors_append (peer : KoiNetNode) (calls : List Call)
    (call : Call) :
    connectionErrors peer (calls ++ [call]) =
      if call.succeeds peer then 0
      else if call.fails peer then connectionErrors peer calls + 1
      else connectionErrors peer calls := by
  unfold connectionErrors
  rw [List.reverse_append, List.reverse_singleton, List.singleton_append,
    List.takeWhile_cons]
  cases call.succeeds peer with
  | true => rfl
  | false =>
      rw [Bool.not_false, if_pos rfl, List.countP_cons]
      cases call.fails peer with
      | true => rfl
      | false => rfl

theorem Call.fails_iff {peer : KoiNetNode} {call : Call} :
    call.fails peer = true ↔
      peer = call.peer ∧ call.exchange = some .connectionError := by
  simp [Call.fails]

theorem connectionErrors_of_fails {peer : KoiNetNode} {calls : List Call}
    {call : Call} (fails : call.fails peer = true) :
    connectionErrors peer (calls ++ [call]) =
      connectionErrors peer calls + 1 := by
  have notSucceeds : call.succeeds peer = false := by
    simp [Call.succeeds, (Call.fails_iff.mp fails).2]
  rw [connectionErrors_append, notSucceeds, fails]
  rfl

theorem forgetting_injective {peer other : KoiNetNode}
    (same : forgetting peer = forgetting other) : peer = other :=
  RID.node.inj (congrArg KnowledgeObject.rid same)

/-- The timeout counter of a peer. -/
def NodeState.timeouts (state : NodeState) (peer : KoiNetNode) : Nat :=
  (state.timeoutCounter.get? peer).getD 0

/-- A count of connection errors after one more exchange. -/
def Exchange.count : Option Exchange → Nat → Nat
  | some .responded, _ => 0
  | some .connectionError, count => count + 1
  | _, count => count

/-- What a request does to the timeout counter and the queue. -/
structure Counts (state : NodeState) (peer : KoiNetNode)
    (exchange : Option Exchange) (after : NodeState) : Prop where
  timeouts : ∀ other, after.timeouts other =
    if other = peer then Exchange.count exchange (state.timeouts peer)
    else state.timeouts other
  kobjQueue : after.kobjQueue = state.kobjQueue ++
    if exchange = some .connectionError ∧ 3 < state.timeouts peer + 1 then
      [forgetting peer]
    else []

theorem Counts.unchanged {state after : NodeState} {peer : KoiNetNode}
    {exchange : Option Exchange} (idle : exchange ≠ some .responded)
    (silent : exchange ≠ some .connectionError)
    (sameCounter : after.timeoutCounter = state.timeoutCounter)
    (sameQueue : after.kobjQueue = state.kobjQueue) :
    Counts state peer exchange after := by
  constructor
  · intro other
    unfold NodeState.timeouts
    rw [sameCounter]
    split
    · rename_i isPeer
      rw [isPeer]
      unfold Exchange.count
      split
      · exact absurd rfl idle
      · exact absurd rfl silent
      · rfl
    · rfl
  · simp [silent, sameQueue]

theorem Counts.of_set {state after : NodeState} {peer : KoiNetNode}
    {exchange : Option Exchange}
    (counted : after.timeoutCounter = state.timeoutCounter.set peer
      (Exchange.count exchange (state.timeouts peer)))
    (queued : after.kobjQueue = state.kobjQueue ++
      if exchange = some .connectionError ∧ 3 < state.timeouts peer + 1 then
        [forgetting peer]
      else []) :
    Counts state peer exchange after := by
  refine { timeouts := ?_, kobjQueue := queued }
  intro other
  unfold NodeState.timeouts at counted ⊢
  rw [counted, Dict.get?_set]
  split
  · rfl
  · rfl

theorem handleConnectionError_counts (peer : KoiNetNode) (state : NodeState) :
    ∃ after, (ErrorHandler.handleConnectionError peer).run state =
        (.ok (), after) ∧
      Counts state peer (some .connectionError) after := by
  unfold ErrorHandler.handleConnectionError
  simp only [Effect.run_get_bind, Effect.run_modify_bind]
  by_cases often : 3 < (state.timeoutCounter.get? peer).getD 0 + 1
  · rw [if_pos often]
    refine ⟨_, rfl, .of_set rfl ?_⟩
    rw [if_pos ⟨rfl, often⟩]
    rfl
  · rw [if_neg often]
    refine ⟨_, rfl, .of_set rfl ?_⟩
    rw [if_neg fun counted => often counted.2, List.append_nil]

theorem makeRequest_counts (node : Node) (state : NodeState)
    (peer : KoiNetNode) (path : Path) (request : path.Request) :
    Counts state peer (RequestHandler.exchange node state peer path request)
      ((RequestHandler.makeRequest node peer path request).run state).2 := by
  unfold RequestHandler.exchange RequestHandler.makeRequest
  by_cases self : peer = node.rid
  · rw [if_pos self, if_pos self]
    exact .unchanged (by simp) (by simp) rfl rfl
  · rw [if_neg self, if_neg self, Effect.run_bind,
      RequestHandler.getBaseUrl_run]
    cases RequestHandler.resolve node state.cache peer with
    | error failure => exact .unchanged (by simp) (by simp) rfl rfl
    | ok url =>
        cases url with
        | none => exact .unchanged (by simp) (by simp) rfl rfl
        | some url =>
            dsimp only
            rw [Effect.run_get_bind, Effect.run_modify_bind]
            cases node.answer state (url ++ path.str) peer path request with
            | unreachable =>
                obtain ⟨after, handled, counts⟩ :=
                  handleConnectionError_counts peer
                    { state with requests := state.requests + 1 }
                dsimp only
                rw [Effect.run_bind_of_ok handled]
                exact ⟨counts.timeouts, counts.kobjQueue⟩
            | rejected error => exact .unchanged (by simp) (by simp) rfl rfl
            | received result =>
                exact .of_set rfl (by simp; rfl)

theorem count_eq (peer : KoiNetNode) (call : Call) (count : Nat) :
    (if peer = call.peer then Exchange.count call.exchange count else count) =
      if call.succeeds peer then 0
      else if call.fails peer then count + 1
      else count := by
  unfold Call.succeeds Call.fails Exchange.count
  by_cases isPeer : peer = call.peer
  · subst isPeer
    rcases call.exchange with _ | _ | _ | _ <;> simp
  · simp [isPeer]

section Runs

variable {node : Node} {calls : List Call} {first last : NodeState}

theorem CallStep.counts {call : Call} {before after : NodeState}
    (step : CallStep node call before after) :
    (∀ peer, after.timeouts peer =
      if peer = call.peer then
        Exchange.count call.exchange (before.timeouts peer)
      else before.timeouts peer) ∧
    call.queued =
      if call.exchange = some .connectionError ∧
          3 < before.timeouts call.peer + 1 then
        [forgetting call.peer]
      else [] := by
  obtain ⟨state, path, request, sameCounter, exchanged, rfl, queued⟩ := step
  have counts := makeRequest_counts node state call.peer path request
  have same : ∀ peer, state.timeouts peer = before.timeouts peer := by
    intro peer
    unfold NodeState.timeouts
    rw [sameCounter]
  rw [← exchanged] at counts
  simp only [← same]
  refine ⟨fun peer => ?_, ?_⟩
  · rw [counts.timeouts]
    split
    · rename_i isPeer
      rw [isPeer]
    · rfl
  · rw [counts.kobjQueue] at queued
    exact (List.append_cancel_left queued).symm

/-- The counter of a peer after a run is the number of its connection errors
since it last responded. -/
theorem timeouts_of_trace (trace : Trace (CallStep node) calls first last)
    (fresh : ∀ peer, first.timeouts peer = 0) (peer : KoiNetNode) :
    last.timeouts peer = connectionErrors peer calls := by
  induction calls using List.reverseRecOn generalizing last with
  | nil =>
      cases trace with
      | nil => exact fresh peer
  | append_singleton calls call induction =>
      obtain ⟨before, earlier, rest⟩ := Trace.append_iff.mp trace
      cases rest with
      | cons step ended =>
          cases ended with
          | nil =>
              rw [connectionErrors_append, step.counts.1, induction earlier]
              exact count_eq peer call _

/-- Along a run nodes are forgotten from the fourth connection error on. -/
theorem forgetsFrom_four (trace : Trace (CallStep node) calls first last)
    (fresh : ∀ peer, first.timeouts peer = 0) : ForgetsFrom 4 calls := by
  rintro before call after rfl peer
  obtain ⟨earlier, later, prior, step⟩ := trace.step_of_mem
  have counted := timeouts_of_trace prior fresh
  rw [step.counts.2, counted]
  constructor
  · intro member
    split at member
    · rename_i often
      have isPeer : peer = call.peer :=
        forgetting_injective (List.mem_singleton.mp member)
      have fails : call.fails peer := Call.fails_iff.mpr ⟨isPeer, often.1⟩
      rw [connectionErrors_of_fails fails, isPeer]
      exact ⟨isPeer ▸ fails, by omega⟩
    · cases member
  · intro failed
    obtain ⟨fails, often⟩ := failed
    obtain ⟨rfl, exchanged⟩ := Call.fails_iff.mp fails
    rw [connectionErrors_of_fails fails] at often
    rw [if_pos ⟨exchanged, by omega⟩]
    exact List.mem_singleton_self _

/-- Nodes are forgotten from their third connection error on exactly in the
runs in which no connection error is the third. -/
theorem forgetsFrom_three_iff
    (trace : Trace (CallStep node) calls first last)
    (fresh : first.timeoutCounter = Dict.empty) :
    ForgetsFrom 3 calls ↔
      ∀ before call after, calls = before ++ call :: after →
        ∀ peer, call.fails peer →
          connectionErrors peer (before ++ [call]) ≠ 3 := by
  have four := forgetsFrom_four trace fun peer => by
    unfold NodeState.timeouts
    rw [fresh]
    rfl
  constructor
  · intro three before call after split peer fails exactly
    have forgets := (three before call after split peer).mpr
      ⟨fails, Nat.le_of_eq exactly.symm⟩
    have often := ((four before call after split peer).mp forgets).2
    omega
  · intro never before call after split peer
    rw [four before call after split peer]
    have notThird := never before call after split peer
    constructor
    · intro failed
      obtain ⟨fails, often⟩ := failed
      exact ⟨fails, by omega⟩
    · intro failed
      obtain ⟨fails, often⟩ := failed
      have different := notThird fails
      exact ⟨fails, by omega⟩

end Runs

def unreachedPeer : KoiNetNode :=
  { name := "peer", hash := "key" }

/-- A node whose first contact is at a URL where nothing answers. -/
def unreachingNode : Node :=
  { Node.standalone with
    config :=
      { Node.standalone.config with
        firstContact := { rid := some unreachedPeer, url := some "url" } } }

def failedCall : Call :=
  { peer := unreachedPeer
    exchange := some .connectionError
    queued := [] }

theorem unreachingNode_trace :
    (∃ last, Trace (CallStep unreachingNode) [failedCall, failedCall]
      (.fresh .empty) last) ∧
    ∃ last, Trace (CallStep unreachingNode)
      [failedCall, failedCall, failedCall] (.fresh .empty) last :=
  ⟨⟨_, .cons ⟨_, .fetchRids, { ridTypes := [] }, rfl, rfl, rfl, rfl⟩
      (.cons ⟨_, .fetchRids, { ridTypes := [] }, rfl, rfl, rfl, rfl⟩
        (.nil _))⟩,
    ⟨_, .cons ⟨_, .fetchRids, { ridTypes := [] }, rfl, rfl, rfl, rfl⟩
      (.cons ⟨_, .fetchRids, { ridTypes := [] }, rfl, rfl, rfl, rfl⟩
        (.cons ⟨_, .fetchRids, { ridTypes := [] }, rfl, rfl, rfl, rfl⟩
          (.nil _)))⟩⟩

theorem connectionErrors_le (peer : KoiNetNode) (calls : List Call) :
    connectionErrors peer calls ≤ calls.length := by
  unfold connectionErrors
  calc List.countP _ _
      ≤ (calls.reverse.takeWhile fun call => !call.succeeds peer).length :=
        List.countP_le_length
    _ ≤ calls.reverse.length := (List.takeWhile_sublist _).length_le
    _ = calls.length := List.length_reverse

theorem forgetsFrom_three_iff_twice :
    ForgetsFrom 3 [failedCall, failedCall] := by
  obtain ⟨⟨_, trace⟩, _⟩ := unreachingNode_trace
  refine (forgetsFrom_three_iff trace rfl).mpr ?_
  intro before call after split peer _ third
  have few := connectionErrors_le peer (before ++ [call])
  have total := congrArg List.length split
  simp only [List.length_append, List.length_cons, List.length_nil] at few total
  omega

/-- The third connection error does not forget the node. -/
theorem unreachingNode_not_forgetsFrom_three :
    ∃ last, Trace (CallStep unreachingNode)
        [failedCall, failedCall, failedCall] (.fresh .empty) last ∧
      ¬ForgetsFrom 3 [failedCall, failedCall, failedCall] := by
  obtain ⟨_, last, trace⟩ := unreachingNode_trace
  refine ⟨last, trace, fun three => ?_⟩
  have forgets := (three [failedCall, failedCall] failedCall [] rfl
    unreachedPeer).mpr ⟨rfl, by decide⟩
  cases forgets

end KoiNet
