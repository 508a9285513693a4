import KoiNet.Components.Pipeline
import Mathlib.Data.List.Permutation

/-!
# The handler chains of a node with the default handlers

The handlers register in the order in which the components of an assembly
happen to be built.  A chain only sees the handlers of its own type, so every
chain but the Network chain is the same for every registration order, and the
Network chain is one of two.
-/

namespace KoiNet

open Foundation

namespace KnowledgePipeline

theorem callHandlerChain_filter (handlerType : HandlerType)
    (handlers : List KnowledgeHandler) (kobj : KnowledgeObject) :
    callHandlerChain handlerType handlers kobj =
      callHandlerChain handlerType
        (handlers.filter fun handler => handler.handlerType = handlerType)
        kobj := by
  induction handlers generalizing kobj with
  | nil => rfl
  | cons handler rest induction =>
      by_cases called : handler.handlerType = handlerType
      · have same : (fun kobj => callHandlerChain handlerType rest kobj) =
            fun kobj => callHandlerChain handlerType
              (rest.filter fun handler => handler.handlerType = handlerType)
              kobj := funext induction
        simp only [List.filter_cons, called, decide_true, if_true,
          callHandlerChain, ne_eq, not_true_eq_false, if_false]
        simp only [congrFun same]
      · have skipped : ¬handlerType = handler.handlerType := Ne.symm called
        simp only [List.filter_cons, called, decide_false,
          Bool.false_eq_true, if_false, callHandlerChain, ne_eq, skipped,
          not_false_eq_true, if_true]
        exact induction kobj

theorem callHandlerChain_skip {handlerType : HandlerType}
    {handler : KnowledgeHandler} {rest : List KnowledgeHandler}
    {kobj : KnowledgeObject} (rejected : handler.accepts kobj = false) :
    callHandlerChain handlerType (handler :: rest) kobj =
      callHandlerChain handlerType rest kobj := by
  by_cases called : handlerType = handler.handlerType
  · simp [callHandlerChain, called, rejected]
  · simp [callHandlerChain, called]

theorem callHandlerChain_other {handlerType : HandlerType}
    {handler : KnowledgeHandler} {rest : List KnowledgeHandler}
    {kobj : KnowledgeObject} (other : handler.handlerType ≠ handlerType) :
    callHandlerChain handlerType (handler :: rest) kobj =
      callHandlerChain handlerType rest kobj := by
  simp [callHandlerChain, Ne.symm other]

theorem callHandlerChain_call {handlerType : HandlerType}
    {handler : KnowledgeHandler} {rest : List KnowledgeHandler}
    {kobj : KnowledgeObject} (called : handler.handlerType = handlerType)
    (accepted : handler.accepts kobj = true) :
    callHandlerChain handlerType (handler :: rest) kobj =
      (handler.handle kobj >>= fun response =>
        match response with
        | .stopChain => pure none
        | .unmodified => callHandlerChain handlerType rest kobj
        | .modified kobj => callHandlerChain handlerType rest kobj) := by
  have notRefused : ¬(!handler.accepts kobj) = true := by simp [accepted]
  rw [callHandlerChain]
  exact (if_neg (not_not.mpr called.symm)).trans (if_neg notRefused)

/-- What every handler of a chain may do to the state, the chain may do. -/
theorem callHandlerChain_keeps {frame : Frame NodeState}
    {handlerType : HandlerType} {handlers : List KnowledgeHandler}
    (handlersKeep : ∀ handler ∈ handlers,
      handler.handlerType = handlerType → ∀ kobj,
        handler.accepts kobj = true → frame.Keeps (handler.handle kobj))
    (kobj : KnowledgeObject) :
    frame.Keeps (callHandlerChain handlerType handlers kobj) := by
  induction handlers generalizing kobj with
  | nil => exact Frame.keeps_pure _
  | cons handler rest induction =>
      have restKeeps : ∀ kobj,
          frame.Keeps (callHandlerChain handlerType rest kobj) :=
        induction fun later member => handlersKeep later (by simp [member])
      by_cases accepted : handler.accepts kobj = true
      · by_cases called : handler.handlerType = handlerType
        · rw [callHandlerChain_call called accepted]
          apply Frame.keeps_bind
          · exact handlersKeep handler (by simp) called kobj accepted
          · intro response
            cases response with
            | stopChain => exact Frame.keeps_pure _
            | unmodified => exact restKeeps kobj
            | modified kobj => exact restKeeps kobj
        · rw [callHandlerChain_other called]
          exact restKeeps kobj
      · rw [callHandlerChain_skip (by simpa using accepted)]
        exact restKeeps kobj

/-- A chain returns if its handlers do, on the objects they are given. -/
theorem callHandlerChain_completes {pre : NodeState → Prop}
    (good : KnowledgeObject → Prop) {handlerType : HandlerType}
    {handlers : List KnowledgeHandler}
    (handlersComplete : ∀ handler ∈ handlers,
      handler.handlerType = handlerType → ∀ kobj, good kobj →
        handler.accepts kobj = true →
        Completes pre (handler.handle kobj) fun response state =>
          pre state ∧ ∀ changed, response = .modified changed → good changed)
    (kobj : KnowledgeObject) (isGood : good kobj) :
    Completes pre (callHandlerChain handlerType handlers kobj)
      fun result state => pre state ∧ ∀ final, result = some final →
        good final := by
  induction handlers generalizing kobj with
  | nil =>
      refine .pure fun _ given => ⟨given, ?_⟩
      rintro _ ⟨⟩
      exact isGood
  | cons handler rest induction =>
      have restComplete : ∀ kobj, good kobj →
          Completes pre (callHandlerChain handlerType rest kobj)
            fun result state => pre state ∧ ∀ final, result = some final →
              good final :=
        induction fun later member => handlersComplete later (by simp [member])
      by_cases accepted : handler.accepts kobj = true
      · by_cases called : handler.handlerType = handlerType
        · rw [callHandlerChain_call called accepted]
          refine .bind_good (handlersComplete handler (by simp) called kobj
            isGood accepted) fun response changes => ?_
          cases response with
          | stopChain =>
              refine .pure fun _ given => ⟨given, ?_⟩
              rintro _ ⟨⟩
          | unmodified => exact restComplete kobj isGood
          | modified changed => exact restComplete changed (changes changed rfl)
        · rw [callHandlerChain_other called]
          exact restComplete kobj isGood
      · rw [callHandlerChain_skip (by simpa using accepted)]
        exact restComplete kobj isGood

end KnowledgePipeline

/-- The default handlers in the order in which they registered. -/
structure Registry (node : Node) where
  handlers : List KnowledgeHandler
  registered : handlers.Perm (defaultHandlers node)

namespace Registry

open KnowledgePipeline

/-- The handlers in the order in which this development lists them. -/
def listed (node : Node) : Registry node :=
  { handlers := defaultHandlers node
    registered := .refl _ }

variable {node : Node} (registry : Registry node)

def ofType (handlerType : HandlerType) : List KnowledgeHandler :=
  registry.handlers.filter fun handler => handler.handlerType = handlerType

private theorem ofType_perm (handlerType : HandlerType) :
    (registry.ofType handlerType).Perm
      ((defaultHandlers node).filter fun handler =>
        handler.handlerType = handlerType) :=
  registry.registered.filter _

theorem ofType_rid : registry.ofType .rid = [basicRidHandler node] :=
  List.perm_singleton.mp (registry.ofType_perm .rid)

theorem ofType_manifest : registry.ofType .manifest = [basicManifestHandler] :=
  List.perm_singleton.mp (registry.ofType_perm .manifest)

theorem ofType_final : registry.ofType .final = [forgetNodeHandler node] :=
  List.perm_singleton.mp (registry.ofType_perm .final)

theorem ofType_bundle :
    registry.ofType .bundle =
        [edgeNegotiationHandler node, secureProfileHandler node] ∨
      registry.ofType .bundle =
        [secureProfileHandler node, edgeNegotiationHandler node] :=
  List.perm_pair.mp (registry.ofType_perm .bundle)

theorem ofType_network :
    registry.ofType .network =
        [basicNetworkOutputFilter node, nodeContactHandler node] ∨
      registry.ofType .network =
        [nodeContactHandler node, basicNetworkOutputFilter node] :=
  List.perm_pair.mp (registry.ofType_perm .network)

theorem callHandlerChain_ofType (handlerType : HandlerType)
    (kobj : KnowledgeObject) :
    callHandlerChain handlerType registry.handlers kobj =
      callHandlerChain handlerType (registry.ofType handlerType) kobj :=
  callHandlerChain_filter handlerType registry.handlers kobj

/-- The outcome of the RID chain. -/
def ridResult (node : Node) (kobj : KnowledgeObject) :
    Option KnowledgeObject :=
  if kobj.rid = .node node.rid ∧ kobj.source ≠ none then none
  else if kobj.eventType = some .forget then
    some { kobj with normalizedEventType := some .forget }
  else some kobj

theorem ridChain_run (kobj : KnowledgeObject) (state : NodeState) :
    (callHandlerChain .rid registry.handlers kobj |>.run state) =
      (.ok (ridResult node kobj), state) := by
  have accepted : (basicRidHandler node).accepts kobj = true := rfl
  rw [callHandlerChain_ofType, ofType_rid,
    callHandlerChain_call (by rfl) accepted]
  unfold ridResult
  simp only [basicRidHandler, BasicRidHandler.handle]
  by_cases self : kobj.rid = .node node.rid ∧ kobj.source ≠ none
  · simp only [if_pos self, Effect.run_pure_bind, Effect.run_pure]
  · by_cases forget : kobj.eventType = some .forget
    · simp only [if_neg self, if_pos forget, Effect.run_pure_bind,
        callHandlerChain, Effect.run_pure]
    · simp only [if_neg self, if_neg forget, Effect.run_pure_bind,
        callHandlerChain, Effect.run_pure]

/-- The outcome of the Manifest chain for an object with this manifest. -/
def manifestResult (cache : Cache) (kobj : KnowledgeObject)
    (manifest : Manifest) : Option KnowledgeObject :=
  match cache.read kobj.rid with
  | none => some { kobj with normalizedEventType := some .new }
  | some previous =>
      if BasicManifestHandler.isNewer manifest previous.manifest then
        some { kobj with normalizedEventType := some .update }
      else none

theorem manifestChain_run {kobj : KnowledgeObject} {manifest : Manifest}
    (hasManifest : kobj.manifest = some manifest) (state : NodeState) :
    (callHandlerChain .manifest registry.handlers kobj |>.run state) =
      (.ok (manifestResult state.cache kobj manifest), state) := by
  have accepted : basicManifestHandler.accepts kobj = true := rfl
  rw [callHandlerChain_ofType, ofType_manifest,
    callHandlerChain_call (by rfl) accepted]
  rw [Effect.run_bind]
  unfold manifestResult
  simp only [basicManifestHandler, BasicManifestHandler.handle,
    Effect.run_get_bind, hasManifest]
  cases cached : state.cache.read kobj.rid with
  | none => simp [callHandlerChain]
  | some previous =>
      by_cases newer :
          BasicManifestHandler.isNewer manifest previous.manifest = true
      · simp [newer, callHandlerChain]
      · simp [newer]

end Registry

namespace KnowledgePipeline

/-- A chain whose second handler does not apply is its first handler, as long
as that one does not replace the object. -/
theorem callHandlerChain_pair
    {handlerType : HandlerType} {first second : KnowledgeHandler}
    {kobj : KnowledgeObject} {state : NodeState}
    (rejected : second.accepts kobj = false)
    (neverModifies : first.accepts kobj = true → ∀ changed,
      ((first.handle kobj).run state).1 ≠ .ok (.modified changed)) :
    (callHandlerChain handlerType [first, second] kobj).run state =
      (callHandlerChain handlerType [first] kobj).run state := by
  by_cases accepted : first.accepts kobj = true
  · by_cases called : first.handlerType = handlerType
    · rw [callHandlerChain_call called accepted,
        callHandlerChain_call called accepted, Effect.run_bind,
        Effect.run_bind]
      have kept := neverModifies accepted
      cases handled : (first.handle kobj).run state with
      | mk response after =>
          rw [handled] at kept
          cases response with
          | error failure => rfl
          | ok response =>
              cases response with
              | stopChain => rfl
              | unmodified => simp only [callHandlerChain_skip rejected]
              | modified changed => exact (kept changed rfl).elim
    · rw [callHandlerChain_other called, callHandlerChain_other called,
        callHandlerChain_skip rejected]
  · have firstRejected : first.accepts kobj = false := by
      simpa using accepted
    rw [callHandlerChain_skip firstRejected,
      callHandlerChain_skip firstRejected, callHandlerChain_skip rejected]

end KnowledgePipeline

end KoiNet
