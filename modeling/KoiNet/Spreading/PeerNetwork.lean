import KoiNet.Negotiation.Phases
import KoiNet.Spreading.DocumentWork

/-!
# A network of nodes that spread documents

The nodes publish versions of documents that their files keep, work on what is
queued, and send events to each other.  An event may arrive late, out of turn
or twice, but between members of the network none is lost.  Every run is a run
of the spreading protocol, whose links are the subscriptions.
-/

namespace KoiNet

open Foundation KnowledgePipeline

/-- The nodes of a network, with their files and handlers, and to whom each of
them sends objects of a type. -/
structure PeerNetwork where
  members : Finset KoiNetNode
  node : KoiNetNode → Node
  storage : KoiNetNode → Storage
  registration : KoiNetNode → Registration
  named : ∀ rid, (node rid).rid = rid
  subscribers : KoiNetNode → RIDType → List KoiNetNode

abbrev NetworkState : Type := KoiNetNode → NodeState

/-- The cached version of a document. -/
def NodeState.document (state : NodeState) : RID → Option Bundle
  | .other context reference => state.cache.read (.other context reference)
  | _ => none

/-- The versions that a node caches, has yet to work on and has sent. -/
def NodeState.versions (state : NodeState) :
    Gossip.Place KoiNetNode RID Bundle :=
  { stored := state.document
    waiting := state.kobjQueue.filterMap KnowledgeObject.version
    sent := state.eventQueue.filterMap QueuedEvent.version }

def NetworkState.versions (state : NetworkState) :
    Gossip.State KoiNetNode RID Bundle :=
  fun rid => (state rid).versions

/-- The bundle is cached, has yet to be worked on, or has been sent. -/
def NodeState.Has (state : NodeState) (bundle : Bundle) : Prop :=
  (∃ rid, state.document rid = some bundle) ∨
    (∃ kobj ∈ state.kobjQueue, ∃ source,
      kobj.version = some { source, version := bundle }) ∨
    ∃ queued ∈ state.eventQueue, ∃ target,
      queued.version = some { target, version := bundle }

/-- Activity that concerns neither documents nor subscriptions. -/
structure Aside (node : Node) (before after : NodeState) : Prop where
  versions : after.versions = before.versions
  audience : ∀ ridType, audience node after ridType =
    audience node before ridType

inductive NetworkAction where
  | publish (rid : KoiNetNode) (bundle : Bundle)
  | work (rid : KoiNetNode)
  | deliver (rid : KoiNetNode)
  | again (rid : KoiNetNode)
  | leave (rid : KoiNetNode)
  | aside (rid : KoiNetNode)

/-- What an action is in the spreading protocol. -/
def NetworkAction.spreads :
    NetworkAction → Option (Gossip.Action KoiNetNode Bundle)
  | .publish rid bundle => some (.publish rid bundle)
  | .work _ => some .progress
  | .deliver _ => some .progress
  | .again _ => some .repetition
  | .leave _ => some .progress
  | .aside _ => none

namespace PeerNetwork

variable (network : PeerNetwork)

/-- The subscriptions as a protocol for versions. -/
def protocol : Gossip.Protocol KoiNetNode RID Bundle Timestamp String :=
  { key := Bundle.rid
    stamp := Bundle.timestamp
    digest := Bundle.hash
    members := network.members
    links := fun rid document => network.subscribers rid document.type }

/-- What the graphs of the members give for the subscribers of a type. -/
def Serves (state : NetworkState) : Prop :=
  ∀ rid ∈ network.members, ∀ ridType,
    audience (network.node rid) (state rid) ridType =
      .ok (network.subscribers rid ridType)

/-- The files of every member keep the bundle. -/
def Preserves (bundle : Bundle) : Prop :=
  ∀ rid ∈ network.members, (network.storage rid).Preserves bundle

/-- The graphs give the subscribers, and all files keep what any member has. -/
structure Operates (state : NetworkState) : Prop where
  serves : network.Serves state
  preserves : ∀ rid ∈ network.members, ∀ bundle, (state rid).Has bundle →
    network.Preserves bundle

/-- What the worker of a node does with an object. -/
def process (rid : KoiNetNode) (kobj : KnowledgeObject) : NodeM Unit :=
  (network.storage rid).process (network.node rid)
    ((network.registration rid).stored (network.storage rid)
      (network.node rid)) kobj

/-- What happens in the network.  An event for a node that is no member, or
for the node itself, leaves it without effect. -/
inductive Step : NetworkAction → NetworkState → NetworkState → Prop where
  | publish (state : NetworkState) (rid : KoiNetNode) (bundle : Bundle)
      (eventType : Option EventType) :
      rid ∈ network.members → bundle.IsDocument → network.Preserves bundle →
      eventType ≠ some .forget →
      Step (.publish rid bundle) state
        (Function.update state rid ((state rid).withQueue
          ((state rid).kobjQueue ++ [.fromBundle bundle eventType none])))
  | work (state : NetworkState) (rid : KoiNetNode) (kobj : KnowledgeObject)
      (rest : List KnowledgeObject) (after : NodeState) :
      rid ∈ network.members → (state rid).kobjQueue = kobj :: rest →
      kobj.version ≠ none →
      (network.process rid kobj).run ((state rid).withQueue rest) =
        (.ok (), after) →
      Step (.work rid) state (Function.update state rid after)
  | deliver (state : NetworkState) (rid : KoiNetNode) (queued : QueuedEvent)
      (earlier later : List QueuedEvent) :
      rid ∈ network.members → queued.target ∈ network.members →
      queued.target ≠ rid → queued.version ≠ none →
      (state rid).eventQueue = earlier ++ queued :: later →
      Step (.deliver rid) state (Function.update
        (Function.update state rid
          { state rid with eventQueue := earlier ++ later })
        queued.target ((state queued.target).receiving queued.event rid))
  | again (state : NetworkState) (rid : KoiNetNode) (queued : QueuedEvent)
      (earlier later : List QueuedEvent) :
      rid ∈ network.members → queued.target ∈ network.members →
      queued.target ≠ rid → queued.version ≠ none →
      (state rid).eventQueue = earlier ++ queued :: later →
      Step (.again rid) state (Function.update state queued.target
        ((state queued.target).receiving queued.event rid))
  | leave (state : NetworkState) (rid : KoiNetNode) (queued : QueuedEvent)
      (earlier later : List QueuedEvent) :
      rid ∈ network.members →
      ¬(queued.target ∈ network.members ∧ queued.target ≠ rid) →
      queued.version ≠ none →
      (state rid).eventQueue = earlier ++ queued :: later →
      Step (.leave rid) state (Function.update state rid
        { state rid with eventQueue := earlier ++ later })
  | aside (state : NetworkState) (rid : KoiNetNode) (after : NodeState) :
      rid ∈ network.members →
      Aside (network.node rid) (state rid) after →
      Step (.aside rid) state (Function.update state rid after)

end PeerNetwork

section Node

variable {network : PeerNetwork} {rid : KoiNetNode} {state after : NodeState}
  {kobj : KnowledgeObject} {rest : List KnowledgeObject}
  {waiting : WaitingVersion} {registry : Registry (network.node rid)}

theorem document_write {bundle : Bundle} (document : bundle.IsDocument)
    (state : NodeState) :
    ({ state with cache := state.cache.write bundle } : NodeState).document =
      Function.update state.document bundle.rid (some bundle) := by
  obtain ⟨context, reference, isVersion⟩ := document
  have named : bundle.manifest.rid = .other context reference := isVersion.rid
  funext rid
  by_cases same : rid = bundle.rid
  · subst same
    rw [Function.update_self]
    unfold NodeState.document Bundle.rid
    rw [named]
    dsimp only
    rw [← named, Cache.read_write_self]
  · rw [Function.update_of_ne same]
    cases rid with
    | node nodeRid => rfl
    | edge edgeRid => rfl
    | other context reference =>
        exact Cache.read_write_ne state.cache bundle same

theorem document_eq_read {bundle : Bundle} (document : bundle.IsDocument)
    (state : NodeState) :
    state.document bundle.rid = state.cache.read bundle.manifest.rid := by
  obtain ⟨context, reference, isVersion⟩ := document
  unfold NodeState.document Bundle.rid
  rw [isVersion.rid]

/-- The manifest test decides whether the register takes a version. -/
theorem accepts_iff_fresh (document : waiting.version.IsDocument) :
    state.versions.Accepts network.protocol waiting.version ↔
      Fresh state.cache waiting.version.manifest.rid
        waiting.version.manifest := by
  have stored := document_eq_read document state
  constructor
  · intro accepts old cached
    exact BasicManifestHandler.isNewer_iff.mpr
      (accepts old (stored.trans cached))
  · intro fresh old cached
    exact BasicManifestHandler.isNewer_iff.mp
      (fresh old (stored.symm.trans cached))

theorem filterMap_sending {bundle : Bundle} (document : bundle.IsDocument)
    {eventType : EventType} (notForget : eventType ≠ .forget)
    (targets : List KoiNetNode) :
    (targets.map fun target =>
        ({ event := .fromBundle eventType bundle, target } :
          QueuedEvent)).filterMap QueuedEvent.version =
      targets.map fun target => { target, version := bundle } := by
  induction targets with
  | nil => rfl
  | cons target rest induction =>
      rw [List.map_cons, List.filterMap_cons_some
        (version_of_written document notForget target), induction]
      rfl

theorem withoutSource_eq_filter (source : Option KoiNetNode)
    (targets : List KoiNetNode) :
    BasicNetworkOutputFilter.withoutSource source targets =
      targets.filter fun target => source ≠ some target := by
  unfold BasicNetworkOutputFilter.withoutSource
  cases source with
  | none => simp
  | some source => simp [ne_comm]

theorem audience_withQueue {node : Node} (queue : List KnowledgeObject)
    (ridType : RIDType) :
    audience node (state.withQueue queue) ridType =
      audience node state ridType :=
  audience_congr rfl fun _ => rfl

/-- What the worker leaves when it has worked on a version. -/
theorem worked_version (brings : kobj.version = some waiting)
    (subscribed : audience (network.node rid) state
      waiting.version.manifest.rid.type =
        .ok (network.subscribers rid waiting.version.manifest.rid.type))
    (worked : (KnowledgePipeline.process (network.node rid)
      registry.handlers kobj).run (state.withQueue rest) = (.ok (), after)) :
    (Fresh state.cache waiting.version.manifest.rid
          waiting.version.manifest ∧
        after = NodeState.sending
          { state.withQueue rest with
            cache := state.cache.write waiting.version }
          (.fromBundle (state.cache.writeType waiting.version.manifest.rid)
            waiting.version)
          (BasicNetworkOutputFilter.withoutSource waiting.source
            (network.subscribers rid
              waiting.version.manifest.rid.type))) ∨
      ¬Fresh state.cache waiting.version.manifest.rid
          waiting.version.manifest ∧
        after = state.withQueue rest := by
  rw [← audience_withQueue rest] at subscribed
  by_cases fresh : Fresh (state.withQueue rest).cache
      waiting.version.manifest.rid waiting.version.manifest
  · have ran := process_version_fresh registry brings fresh
      subscribed
    cases worked.symm.trans ran
    exact .inl ⟨fresh, rfl⟩
  · have ran := process_version_stale registry brings fresh
    cases worked.symm.trans ran
    exact .inr ⟨fresh, rfl⟩

/-- Working on a version is one step of its register. -/
theorem versions_of_worked (brings : kobj.version = some waiting)
    (subscribed : audience (network.node rid) state
      waiting.version.manifest.rid.type =
        .ok (network.subscribers rid waiting.version.manifest.rid.type))
    (worked : (KnowledgePipeline.process (network.node rid)
      registry.handlers kobj).run (state.withQueue rest) = (.ok (), after)) :
    (state.versions.Accepts network.protocol waiting.version ∧
        after.versions = network.protocol.taken rid waiting.source
          waiting.version (rest.filterMap KnowledgeObject.version)
          state.versions) ∨
      ¬state.versions.Accepts network.protocol waiting.version ∧
        after = state.withQueue rest := by
  have document := (KnowledgeObject.version_eq_some_iff.mp brings).1
  rw [accepts_iff_fresh document]
  rcases worked_version brings subscribed worked with
    ⟨fresh, rfl⟩ | ⟨stale, same⟩
  · left
    refine ⟨fresh, ?_⟩
    apply Gossip.Place.ext
    · exact document_write document state
    · rfl
    · change (state.eventQueue ++ _).filterMap QueuedEvent.version = _
      rw [List.filterMap_append, filterMap_sending document
        (Cache.writeType_ne_forget _ _), withoutSource_eq_filter]
      rfl
  · exact .inr ⟨stale, same⟩

theorem audience_of_worked (brings : kobj.version = some waiting)
    (subscribed : audience (network.node rid) state
      waiting.version.manifest.rid.type =
        .ok (network.subscribers rid waiting.version.manifest.rid.type))
    (worked : (KnowledgePipeline.process (network.node rid)
      registry.handlers kobj).run (state.withQueue rest) = (.ok (), after))
    (ridType : RIDType) :
    audience (network.node rid) after ridType =
      audience (network.node rid) state ridType := by
  have document := (KnowledgeObject.version_eq_some_iff.mp brings).1
  rcases worked_version brings subscribed worked with
    ⟨fresh, rfl⟩ | ⟨stale, rfl⟩
  · let written : NodeState :=
      { state with cache := state.cache.write waiting.version }
    have same : audience (network.node rid) written ridType =
        audience (network.node rid) state ridType :=
      audience_write document
    rw [← same]
    exact audience_congr rfl fun _ => rfl
  · exact audience_withQueue rest ridType

theorem versions_withQueue (state : NodeState) (queue : List KnowledgeObject) :
    (state.withQueue queue).versions =
      { state.versions with
        waiting := queue.filterMap KnowledgeObject.version } :=
  rfl

theorem versions_enqueue (brings : kobj.version = some waiting)
    (state : NodeState) :
    (state.withQueue (state.kobjQueue ++ [kobj])).versions =
      state.versions.enqueue waiting.source waiting.version := by
  rw [versions_withQueue, List.filterMap_append,
    List.filterMap_cons_some brings]
  rfl

theorem versions_receiving {queued : QueuedEvent} {message : SentVersion}
    (brings : queued.version = some message) (state : NodeState)
    (source : KoiNetNode) :
    message.target = queued.target ∧
      (state.receiving queued.event source).versions =
        state.versions.enqueue (some source) message.version := by
  obtain ⟨waiting, brought, isMessage⟩ := Option.map_eq_some_iff.mp brings
  subst isMessage
  have received : (KnowledgeObject.fromEvent queued.event
      (some source)).version =
        some { source := some source, version := waiting.version } := by
    rw [version_fromEvent, brought]
    rfl
  exact ⟨rfl, versions_enqueue received state⟩

end Node

namespace PeerNetwork

variable {network : PeerNetwork} {state next : NetworkState}
  {action : NetworkAction}

theorem versions_update (state : NetworkState) (rid : KoiNetNode)
    (after : NodeState) :
    NetworkState.versions (Function.update state rid after) =
      Function.update state.versions rid after.versions := by
  funext other
  by_cases same : other = rid
  · subst same
    unfold NetworkState.versions
    rw [Function.update_self, Function.update_self]
  · unfold NetworkState.versions
    rw [Function.update_of_ne same, Function.update_of_ne same]

theorem Serves.update (serves : network.Serves state) {rid : KoiNetNode}
    {after : NodeState}
    (kept : rid ∈ network.members → ∀ ridType,
      audience (network.node rid) after ridType =
        audience (network.node rid) (state rid) ridType) :
    network.Serves (Function.update state rid after) := by
  intro other member ridType
  by_cases same : other = rid
  · subst same
    rw [Function.update_self, kept member]
    exact serves other member ridType
  · rw [Function.update_of_ne same]
    exact serves other member ridType

theorem Serves.update_same (serves : network.Serves state) {rid : KoiNetNode}
    {after : NodeState} (sameGraph : after.dg = (state rid).dg)
    (sameCache : after.cache = (state rid).cache) :
    network.Serves (Function.update state rid after) := by
  apply serves.update
  intro _ ridType
  apply audience_congr sameGraph
  intro edgeRid
  rw [sameCache]

theorem carries_iff {known : Bundle → Prop} :
    network.protocol.Carries known state.versions ↔
      ∀ rid ∈ network.members, ∀ bundle, (state rid).Has bundle →
        known bundle := by
  constructor
  · intro carries rid member bundle has
    rcases has with ⟨document, cached⟩ | ⟨kobj, among, source, brings⟩ |
      ⟨queued, among, target, brings⟩
    · exact carries.stored rid member document bundle cached
    · exact carries.waiting rid member _
        (List.mem_filterMap.mpr ⟨kobj, among, brings⟩)
    · exact carries.sent rid member _
        (List.mem_filterMap.mpr ⟨queued, among, brings⟩)
  · intro known
    refine ⟨⟨?_, ?_⟩, ?_⟩
    · intro rid member waiting waits
      obtain ⟨kobj, among, brings⟩ := List.mem_filterMap.mp waits
      exact known rid member _ (.inr (.inl ⟨kobj, among, _, brings⟩))
    · intro rid member message sent
      obtain ⟨queued, among, brings⟩ := List.mem_filterMap.mp sent
      exact known rid member _ (.inr (.inr ⟨queued, among, _, brings⟩))
    · intro rid member document bundle cached
      exact known rid member bundle (.inl ⟨document, cached⟩)

/-- Working on a version over the files of a member is working on it over
ideal ones. -/
theorem Operates.process_eq (operates : network.Operates state)
    {rid : KoiNetNode} (member : rid ∈ network.members)
    {kobj : KnowledgeObject} {rest : List KnowledgeObject}
    (queue : (state rid).kobjQueue = kobj :: rest) {waiting : WaitingVersion}
    (brings : kobj.version = some waiting) :
    (network.process rid kobj).run ((state rid).withQueue rest) =
      (KnowledgePipeline.process (network.node rid)
        ((network.registration rid).registry (network.node rid)).handlers
        kobj).run ((state rid).withQueue rest) := by
  have document := (KnowledgeObject.version_eq_some_iff.mp brings).1
  have waits : (state rid).Has waiting.version :=
    .inr (.inl ⟨kobj, by simp [queue], waiting.source, brings⟩)
  apply process_version_eq (network.registration rid) brings
  · exact operates.preserves rid member _ waits rid member
  · intro previous cached
    have stored : (state rid).Has previous :=
      .inl ⟨_, (document_eq_read document (state rid)).trans cached⟩
    exact operates.preserves rid member _ stored rid member

/-- No step changes who subscribes to what. -/
theorem Step.serves (step : network.Step action state next)
    (operates : network.Operates state) : network.Serves next := by
  have serves := operates.serves
  cases step with
  | publish _ rid bundle eventType member document preserved notForget =>
      exact serves.update_same rfl rfl
  | work _ rid kobj rest after member queue brings worked =>
      obtain ⟨waiting, brings⟩ := Option.ne_none_iff_exists'.mp brings
      rw [operates.process_eq member queue brings] at worked
      apply serves.update
      intro _ ridType
      exact audience_of_worked brings (serves rid member _) worked ridType
  | deliver _ rid queued earlier later member listed apart brings sent =>
      let dispatched : NodeState :=
        { state rid with eventQueue := earlier ++ later }
      have sender : network.Serves (Function.update state rid dispatched) :=
        serves.update_same rfl rfl
      apply sender.update_same
      · rw [Function.update_of_ne apart]
        rfl
      · rw [Function.update_of_ne apart]
        rfl
  | again _ rid queued earlier later member listed apart brings sent =>
      exact serves.update_same rfl rfl
  | leave _ rid queued earlier later member outside brings sent =>
      exact serves.update_same rfl rfl
  | aside _ rid after member aside =>
      exact serves.update fun _ => aside.audience

theorem Step.stutters (step : network.Step action state next)
    (stutters : action.spreads = none) :
    next.versions = state.versions := by
  cases step with
  | publish => cases stutters
  | work => cases stutters
  | deliver => cases stutters
  | again => cases stutters
  | leave => cases stutters
  | aside _ rid after member aside =>
      rw [versions_update, aside.versions]
      exact Function.update_eq_self rid _

theorem sent_split {queued : QueuedEvent} {message : SentVersion}
    {earlier later : List QueuedEvent} {state : NodeState}
    (brings : queued.version = some message)
    (sent : state.eventQueue = earlier ++ queued :: later) :
    state.versions.sent = earlier.filterMap QueuedEvent.version ++
      message :: later.filterMap QueuedEvent.version := by
  change state.eventQueue.filterMap QueuedEvent.version = _
  rw [sent, List.filterMap_append, List.filterMap_cons_some brings]

theorem versions_dispatch (state : NodeState)
    (earlier later : List QueuedEvent) :
    ({ state with eventQueue := earlier ++ later } : NodeState).versions =
      { state.versions with
        sent := earlier.filterMap QueuedEvent.version ++
          later.filterMap QueuedEvent.version } := by
  unfold NodeState.versions
  rw [List.filterMap_append]
  rfl

/-- Every step but those aside is one of the spreading protocol. -/
theorem Step.spreads (step : network.Step action state next)
    (operates : network.Operates state)
    {image : Gossip.Action KoiNetNode Bundle}
    (isImage : action.spreads = some image) :
    network.protocol.Step image state.versions
      next.versions := by
  cases step with
  | aside => cases isImage
  | publish _ rid bundle eventType member document preserved notForget =>
      cases isImage
      rw [versions_update, versions_enqueue
        (version_fromBundle document notForget none)]
      exact .publish state.versions rid bundle member
  | work _ rid kobj rest after member queue brings worked =>
      cases isImage
      obtain ⟨waiting, brings⟩ := Option.ne_none_iff_exists'.mp brings
      have waits : (state.versions rid).waiting =
          waiting :: rest.filterMap KnowledgeObject.version := by
        change (state rid).kobjQueue.filterMap KnowledgeObject.version = _
        rw [queue, List.filterMap_cons_some brings]
      rw [operates.process_eq member queue brings] at worked
      rw [versions_update]
      rcases versions_of_worked brings (operates.serves rid member _) worked with
        ⟨accepts, taken⟩ | ⟨refuses, same⟩
      · rw [taken]
        exact .take state.versions rid waiting.source
          waiting.version _ member waits accepts
      · rw [same]
        exact .skip state.versions rid waiting.source
          waiting.version _ member waits refuses
  | deliver _ rid queued earlier later member listed apart brings sent =>
      cases isImage
      obtain ⟨message, brings⟩ := Option.ne_none_iff_exists'.mp brings
      obtain ⟨sameTarget, received⟩ :=
        versions_receiving brings (state queued.target) rid
      rw [versions_update, versions_update, received, versions_dispatch,
        ← sameTarget]
      exact .deliver state.versions rid message.target
        message.version _ _ member (sameTarget ▸ listed) (sameTarget ▸ apart)
        (sent_split brings sent)
  | again _ rid queued earlier later member listed apart brings sent =>
      cases isImage
      obtain ⟨message, brings⟩ := Option.ne_none_iff_exists'.mp brings
      obtain ⟨sameTarget, received⟩ :=
        versions_receiving brings (state queued.target) rid
      rw [versions_update, received, ← sameTarget]
      exact .again state.versions rid message.target
        message.version _ _ member (sameTarget ▸ listed) (sameTarget ▸ apart)
        (sent_split brings sent)
  | leave _ rid queued earlier later member outside brings sent =>
      cases isImage
      obtain ⟨message, brings⟩ := Option.ne_none_iff_exists'.mp brings
      obtain ⟨sameTarget, _⟩ :=
        versions_receiving brings (state queued.target) rid
      rw [versions_update, versions_dispatch]
      exact .leave state.versions rid message.target
        message.version _ _ member (sameTarget ▸ outside)
        (sent_split brings sent)

theorem Step.published (step : network.Step action state next)
    {rid : KoiNetNode} {bundle : Bundle}
    (published : action.spreads = some (.publish rid bundle)) :
    network.Preserves bundle := by
  cases step with
  | publish _ _ _ _ _ _ preserved _ =>
      cases published
      exact preserved
  | work => cases published
  | deliver => cases published
  | again => cases published
  | leave => cases published
  | aside => cases published

theorem Step.operates (step : network.Step action state next)
    (operates : network.Operates state) : network.Operates next := by
  have carries : network.protocol.Carries network.Preserves state.versions :=
    carries_iff.mpr operates.preserves
  refine ⟨step.serves operates, carries_iff.mp ?_⟩
  cases spread : action.spreads with
  | none =>
      rw [step.stutters spread]
      exact carries
  | some image =>
      apply (step.spreads operates spread).carries carries
      rintro rid bundle rfl
      exact step.published spread

/-- Between sound nodes there are subscriptions for a network to go by. -/
theorem exists_serves (state : NetworkState)
    (valid : ∀ rid, ValidCache (network.node rid) (state rid).cache)
    (graph : ∀ rid, SoundGraph (network.node rid) (state rid).cache
      (state rid).dg) :
    ∃ subscribers, ({ network with subscribers } : PeerNetwork).Serves
      state := by
  choose subscribers found using fun rid ridType =>
    exists_audience (valid rid) (graph rid) ridType
  exact ⟨subscribers, fun rid _ => found rid⟩

theorem operates_trace {actions : List NetworkAction}
    {first last : NetworkState} (operates : network.Operates first)
    (trace : Trace network.Step actions first last) :
    network.Operates last := by
  apply trace.invariant ?_ operates
  intro action state next operates step
  exact step.operates operates

/-- Every run of the network is one of the spreading protocol. -/
theorem spreads_trace {actions : List NetworkAction}
    {first last : NetworkState} (operates : network.Operates first)
    (trace : Trace network.Step actions first last) :
    Trace network.protocol.Step (actions.filterMap NetworkAction.spreads)
      first.versions last.versions :=
  trace.simulates (fun operates step => step.operates operates)
    (fun _ step => step.stutters)
    (fun operates step => step.spreads operates) operates

end PeerNetwork

end KoiNet
