import KoiNet.Pipeline.Recording

/-!
# The record of the pipeline accounts for the cache and the event queue

Where the handlers leave the cache and the event queue alone, replaying the
recorded actions gives the cache and the events that a run of the pipeline
leaves.
-/

namespace KoiNet

open Foundation Recorded

/-- The cache and the event queue stay as they were. -/
def storesFrame : Frame NodeState :=
  Frame.unchanged fun state => (state.cache, state.eventQueue)

/-- The handler has no side effects on the cache or the event queue. -/
def KnowledgeHandler.LeavesStores (handler : KnowledgeHandler) : Prop :=
  ∀ kobj, storesFrame.Keeps (handler.handle kobj)

namespace KnowledgePipeline

/-- The actions account for what happened to the cache and the event queue. -/
structure Accounts (before : NodeState) (actions : List PipelineAction)
    (after : NodeState) : Prop where
  cache : after.cache = actions.foldl PipelineAction.replay before.cache
  eventQueue : after.eventQueue =
    before.eventQueue ++ actions.flatMap PipelineAction.queued

def accountsLedger : Ledger NodeState PipelineAction :=
  { rel := Accounts
    refl := fun _ =>
      { cache := rfl
        eventQueue := by simp }
    trans := by
      intro first second third early late firstAccounts lateAccounts
      refine { cache := ?_, eventQueue := ?_ }
      · rw [List.foldl_append, ← firstAccounts.cache, lateAccounts.cache]
      · rw [List.flatMap_append, ← List.append_assoc,
          ← firstAccounts.eventQueue, lateAccounts.eventQueue] }

variable {node : Node} {handlers : List KnowledgeHandler}

theorem Accounts.of_chain {before after : NodeState}
    {actions : List PipelineAction}
    (kinds : ∀ action ∈ actions, action.kind = .chain)
    (kept : storesFrame.rel before after) : Accounts before actions after := by
  have stores : (after.cache, after.eventQueue) =
      (before.cache, before.eventQueue) := kept
  rw [Prod.mk.injEq] at stores
  have cache : actions.foldl PipelineAction.replay before.cache =
      before.cache := by
    clear kept stores
    induction actions with
    | nil => rfl
    | cons action rest induction =>
        have first := kinds action (by simp)
        have later := induction fun other member => kinds other (by simp [member])
        cases action <;> first | exact later | cases first
  have queued : actions.flatMap PipelineAction.queued = [] := by
    rw [List.flatMap_eq_nil_iff]
    intro action member
    have chain := kinds action member
    cases action <;> first | rfl | cases chain
  exact
    { cache := stores.1.trans cache.symm
      eventQueue := by rw [queued, stores.2, List.append_nil] }

theorem unrecorded_accounts {α : Type} {body : NodeM α}
    (leaves : storesFrame.Keeps body) :
    accountsLedger.Keeps (unrecorded body) body :=
  Ledger.keeps_unrecorded fun state => .of_chain (by simp) (leaves state)

theorem callHandlerChain_accounts
    (leave : ∀ handler ∈ handlers, handler.LeavesStores)
    (handlerType : HandlerType) (kobj : KnowledgeObject) :
    accountsLedger.Keeps (Recording.callHandlerChain handlerType handlers kobj)
      (callHandlerChain handlerType handlers kobj) := by
  have keeps : storesFrame.Keeps
      (callHandlerChain handlerType handlers kobj) :=
    callHandlerChain_keeps (fun handler member _ kobj _ =>
      leave handler member kobj) kobj
  apply (callHandlerChain_records handlerType handlers kobj).mono
  intro state actions chain
  exact .of_chain chain.kinds (keeps state)

theorem stores_of_quiet {α : Type} {body : NodeM α}
    (quiet : (quietFrame node).Keeps body) : storesFrame.Keeps body := by
  apply quiet.mono
  intro before after kept
  show (after.cache, after.eventQueue) = (before.cache, before.eventQueue)
  rw [kept.cache, kept.eventQueue]

theorem accounts_balances
    (leave : ∀ handler ∈ handlers, handler.LeavesStores) :
    Balances accountsLedger node handlers :=
  { chain := callHandlerChain_accounts leave
    manifest := fun kobj =>
      unrecorded_accounts (stores_of_quiet
        (obtainManifest_keeps guardedRequest_quiet kobj))
    contents := fun kobj =>
      unrecorded_accounts (stores_of_quiet
        (obtainContents_keeps guardedRequest_quiet kobj))
    write := fun bundle state =>
      { cache := rfl
        eventQueue := by simp [PipelineAction.queued] }
    delete := fun rid state =>
      { cache := rfl
        eventQueue := by simp [PipelineAction.queued] } }

theorem broadcast_accounts (kobj : KnowledgeObject) :
    accountsLedger.Keeps (Recording.broadcast kobj) (broadcast kobj) := by
  apply Ledger.keeps_forEach
  intro target
  apply Ledger.keeps_bind (Ledger.keeps_unrecorded accountsLedger.refl)
  intro event
  apply Balances.modify
  intro state
  exact
    { cache := rfl
      eventQueue := by simp [PipelineAction.queued] }

/-- What a run records accounts for what it did to the cache and the event
queue. -/
theorem process_accounts
    (leave : ∀ handler ∈ handlers, handler.LeavesStores)
    (kobj : KnowledgeObject) :
    accountsLedger.Keeps (Recording.process node handlers kobj)
      (process node handlers kobj) := by
  have balances : Balances accountsLedger node handlers :=
    accounts_balances leave
  have regenerates : ∀ kobj, accountsLedger.Keeps
      (unrecorded (regenerate node kobj)) (regenerate node kobj) := fun kobj =>
    unrecorded_accounts (regenerate_keeps (fun _ _ => rfl) kobj)
  unfold Recording.process process
  apply Ledger.keeps_bind (balances.settle kobj)
  intro settled
  cases settled with
  | none => exact Ledger.keeps_pure ()
  | some kobj =>
      apply Ledger.keeps_bind (balances.applyToCache kobj)
      intro applied
      cases applied with
      | none => exact Ledger.keeps_pure ()
      | some kobj =>
          exact balances.publish regenerates broadcast_accounts kobj

end KnowledgePipeline

end KoiNet
