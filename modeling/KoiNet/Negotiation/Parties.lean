import KoiNet.Foundation.Execution
import KoiNet.Negotiation.EdgeViews

/-!
# Two nodes and an edge between them

The subscriber is the target of the edge and the provider its source.  Each
works on the objects in its own queue, and the events the two send each other
arrive in the order in which they were sent.  Between these steps the other
components of either node may do anything that does not concern the edge.
-/

namespace KoiNet

open Foundation

/-- Activity of a node that does not concern an edge to the peer. -/
structure Elsewhere (node : Node) (peer : KoiNetNode) (edgeRid : KoiNetEdge)
    (before after : NodeState) : Prop
    extends Retains node peer before after where
  view : after.edgeView peer edgeRid = before.edgeView peer edgeRid

/-- The object is about the edge, or processing it does not concern the
edge. -/
def Undisturbed {node : Node} (registry : Registry node) (peer : KoiNetNode)
    (edgeRid : KoiNetEdge) (state : NodeState) (kobj : KnowledgeObject) :
    Prop :=
  kobj.rid ≠ .edge edgeRid →
    Elsewhere node peer edgeRid state (registry.worked kobj state)

/-- What a node does on its own: the worker processes an object that is
allowed in the state it is processed in, or some other component works. -/
inductive LocalStep {node : Node} (registry : Registry node)
    (peer : KoiNetNode) (edgeRid : KoiNetEdge)
    (allowed : NodeState → KnowledgeObject → Prop) :
    NodeState → NodeState → Prop where
  | work (state : NodeState) (kobj : KnowledgeObject)
      (rest : List KnowledgeObject) :
      state.kobjQueue = kobj :: rest →
      allowed (state.withQueue rest) kobj →
      LocalStep registry peer edgeRid allowed state
        (registry.worked kobj (state.withQueue rest))
  | elsewhere (before after : NodeState) :
      Elsewhere node peer edgeRid before after →
      LocalStep registry peer edgeRid allowed before after

/-- The first of the events for the peer leaves the node. -/
inductive Sends (peer : KoiNetNode) (event : Event) :
    NodeState → NodeState → Prop where
  | first (state : NodeState) (earlier later : List QueuedEvent) :
      state.eventQueue = earlier ++ { event, target := peer } :: later →
      (∀ queued ∈ earlier, queued.target ≠ peer) →
      Sends peer event state { state with eventQueue := earlier ++ later }

/-- A peer's event is queued for processing. -/
def NodeState.receiving (state : NodeState) (event : Event)
    (source : KoiNetNode) : NodeState :=
  state.withQueue (state.kobjQueue ++ [.fromEvent event (some source)])

theorem NodeState.edgeView_receiving (state : NodeState) (event : Event)
    (source peer : KoiNetNode) (edgeRid : KoiNetEdge) :
    (state.receiving event source).edgeView peer edgeRid =
      { state.edgeView peer edgeRid with
        queued := (state.edgeView peer edgeRid).queued ++
          if event.rid = .edge edgeRid then [.fromEvent event (some source)]
          else [] } :=
  NodeState.edgeView_push _

theorem Sends.view {peer : KoiNetNode} {event : Event}
    {before after : NodeState} (sends : Sends peer event before after)
    (edgeRid : KoiNetEdge) :
    before.edgeView peer edgeRid =
      { after.edgeView peer edgeRid with
        sent := (if event.rid = .edge edgeRid then [event] else []) ++
          (after.edgeView peer edgeRid).sent } := by
  cases sends with
  | first earlier later queue others =>
      have skipped : (earlier.filter fun queued =>
          queued.target = peer ∧ queued.event.rid = .edge edgeRid) = [] := by
        rw [List.filter_eq_nil_iff]
        intro queued member
        simp [others queued member]
      simp only [NodeState.edgeView, queue, List.filter_append, skipped,
        List.nil_append, List.filter_cons]
      split <;> simp_all

theorem Sends.retains {peer : KoiNetNode} {event : Event}
    {before after : NodeState} (sends : Sends peer event before after)
    (node : Node) : Retains node peer before after := by
  cases sends with
  | first => exact .of_same rfl (Nat.le_refl _)

/-- Two nodes with the default handlers and the edge they negotiate. -/
structure Negotiation where
  subscriber : Node
  provider : Node
  subscriberHandlers : Registry subscriber
  providerHandlers : Registry provider
  different : subscriber.rid ≠ provider.rid
  edgeRid : KoiNetEdge

structure Parties where
  subscriber : NodeState
  provider : NodeState

namespace Negotiation

variable (negotiation : Negotiation)

/-- The edge as the subscriber sees it. -/
def subscriberView (parties : Parties) : EdgeView :=
  parties.subscriber.edgeView negotiation.provider.rid negotiation.edgeRid

/-- The edge as the provider sees it. -/
def providerView (parties : Parties) : EdgeView :=
  parties.provider.edgeView negotiation.subscriber.rid negotiation.edgeRid

/-- The steps of the two nodes, whose workers only process what is
allowed. -/
inductive Step
    (subscriberAllowed providerAllowed : NodeState → KnowledgeObject → Prop) :
    Parties → Parties → Prop where
  | subscriber (before after provider : NodeState) :
      LocalStep negotiation.subscriberHandlers negotiation.provider.rid
        negotiation.edgeRid subscriberAllowed before after →
      Step subscriberAllowed providerAllowed
        { subscriber := before, provider := provider }
        { subscriber := after, provider := provider }
  | provider (before after subscriber : NodeState) :
      LocalStep negotiation.providerHandlers negotiation.subscriber.rid
        negotiation.edgeRid providerAllowed before after →
      Step subscriberAllowed providerAllowed
        { subscriber := subscriber, provider := before }
        { subscriber := subscriber, provider := after }
  | toProvider (event : Event) (before after provider : NodeState) :
      Sends negotiation.provider.rid event before after →
      Step subscriberAllowed providerAllowed
        { subscriber := before, provider := provider }
        { subscriber := after
          provider := provider.receiving event negotiation.subscriber.rid }
  | toSubscriber (event : Event) (before after subscriber : NodeState) :
      Sends negotiation.subscriber.rid event before after →
      Step subscriberAllowed providerAllowed
        { subscriber := subscriber, provider := before }
        { subscriber :=
            subscriber.receiving event negotiation.provider.rid
          provider := after }

/-- Steps that concern the edge only through objects about it. -/
def UndisturbedStep : Parties → Parties → Prop :=
  negotiation.Step
    (Undisturbed negotiation.subscriberHandlers negotiation.provider.rid
      negotiation.edgeRid)
    (Undisturbed negotiation.providerHandlers negotiation.subscriber.rid
      negotiation.edgeRid)

/-- Arbitrary steps of the two workers. -/
def AnyStep : Parties → Parties → Prop :=
  negotiation.Step (fun _ _ => True) fun _ _ => True

/-- Nothing about the edge is queued or on its way. -/
def Drained (parties : Parties) : Prop :=
  (negotiation.subscriberView parties).queued = [] ∧
    (negotiation.subscriberView parties).sent = [] ∧
    (negotiation.providerView parties).queued = [] ∧
    (negotiation.providerView parties).sent = []

instance (parties : Parties) : Decidable (negotiation.Drained parties) :=
  inferInstanceAs (Decidable (_ ∧ _ ∧ _ ∧ _))

/-- The provider knows what type of node the subscriber is. -/
def Acquainted (parties : Parties) : Prop :=
  KnowsType parties.provider.cache negotiation.subscriber.rid
    negotiation.subscriber.profile.nodeType

/-- The caches of both nodes are sound. -/
structure Sound (parties : Parties) : Prop where
  subscriber : SoundCache negotiation.subscriber parties.subscriber.cache
  provider : SoundCache negotiation.provider parties.provider.cache

/-- The steps that take the first object or the first event of a queue. -/
inductive Move where
  | subscriberWorks
  | providerWorks
  | toProvider
  | toSubscriber
  deriving DecidableEq, Repr

/-- The worker processes the first object of the queue, if it is one it may
process. -/
def workNext {node : Node} (registry : Registry node)
    (guard : KnowledgeObject → Bool) (state : NodeState) : Option NodeState :=
  match state.kobjQueue with
  | [] => none
  | kobj :: rest =>
      if guard kobj then some (registry.worked kobj (state.withQueue rest))
      else none

/-- The first event leaves the node, if it is for the peer. -/
def sendNext (peer : KoiNetNode) (state : NodeState) :
    Option (Event × NodeState) :=
  match state.eventQueue with
  | [] => none
  | queued :: rest =>
      if queued.target = peer then
        some (queued.event, { state with eventQueue := rest })
      else
        none

def play (guard : KnowledgeObject → Bool) (parties : Parties) :
    Move → Option Parties
  | .subscriberWorks => do
      let after ← workNext negotiation.subscriberHandlers guard
        parties.subscriber
      return { parties with subscriber := after }
  | .providerWorks => do
      let after ← workNext negotiation.providerHandlers guard parties.provider
      return { parties with provider := after }
  | .toProvider => do
      let (event, after) ← sendNext negotiation.provider.rid
        parties.subscriber
      let received :=
        parties.provider.receiving event negotiation.subscriber.rid
      return { subscriber := after, provider := received }
  | .toSubscriber => do
      let (event, after) ← sendNext negotiation.subscriber.rid
        parties.provider
      let received :=
        parties.subscriber.receiving event negotiation.provider.rid
      return { subscriber := received, provider := after }

variable {negotiation : Negotiation} {guard : KnowledgeObject → Bool}
  {subscriberAllowed providerAllowed : NodeState → KnowledgeObject → Prop}

private theorem workNext_step {node : Node} {registry : Registry node}
    {peer : KoiNetNode} {edgeRid : KoiNetEdge}
    {allowed : NodeState → KnowledgeObject → Prop}
    (guarded : ∀ state kobj, guard kobj = true → allowed state kobj)
    {before after : NodeState}
    (worked : workNext registry guard before = some after) :
    LocalStep registry peer edgeRid allowed before after := by
  unfold workNext at worked
  split at worked
  · cases worked
  · rename_i kobj rest queue
    split at worked
    · rename_i passed
      cases worked
      exact .work before kobj rest queue (guarded _ kobj passed)
    · cases worked

private theorem sendNext_sends {peer : KoiNetNode} {event : Event}
    {before after : NodeState}
    (sent : sendNext peer before = some (event, after)) :
    Sends peer event before after := by
  unfold sendNext at sent
  split at sent
  · cases sent
  · rename_i queued rest queue
    split at sent
    · rename_i addressed
      cases sent
      refine .first before [] rest ?_ (by simp)
      rw [queue, ← addressed]
      rfl
    · cases sent

theorem step_of_play
    (subscriberGuarded : ∀ state kobj, guard kobj = true →
      subscriberAllowed state kobj)
    (providerGuarded : ∀ state kobj, guard kobj = true →
      providerAllowed state kobj)
    {move : Move} {before after : Parties}
    (played : negotiation.play guard before move = some after) :
    negotiation.Step subscriberAllowed providerAllowed before after := by
  unfold play at played
  cases move with
  | subscriberWorks =>
      obtain ⟨worked, ran, made⟩ := Option.bind_eq_some_iff.mp played
      cases made
      exact .subscriber _ _ _ (workNext_step subscriberGuarded ran)
  | providerWorks =>
      obtain ⟨worked, ran, made⟩ := Option.bind_eq_some_iff.mp played
      cases made
      exact .provider _ _ _ (workNext_step providerGuarded ran)
  | toProvider =>
      obtain ⟨⟨event, left⟩, sent, made⟩ := Option.bind_eq_some_iff.mp played
      cases made
      exact .toProvider event _ _ _ (sendNext_sends sent)
  | toSubscriber =>
      obtain ⟨⟨event, left⟩, sent, made⟩ := Option.bind_eq_some_iff.mp played
      cases made
      exact .toSubscriber event _ _ _ (sendNext_sends sent)

theorem run_of_plays
    (subscriberGuarded : ∀ state kobj, guard kobj = true →
      subscriberAllowed state kobj)
    (providerGuarded : ∀ state kobj, guard kobj = true →
      providerAllowed state kobj)
    {moves : List Move} {first last : Parties}
    (played : moves.foldlM (negotiation.play guard) first = some last) :
    Run (negotiation.Step subscriberAllowed providerAllowed) first last := by
  induction moves generalizing first with
  | nil =>
      cases played
      exact .refl _
  | cons move rest induction =>
      rw [List.foldlM_cons] at played
      obtain ⟨next, moved, later⟩ := Option.bind_eq_some_iff.mp played
      have step := step_of_play subscriberGuarded providerGuarded moved
      exact (Run.tail (.refl first) step).trans (induction later)

end Negotiation

end KoiNet
