import KoiNet.Pipeline.Runs

/-!
# Approved edges of this node

This node approves an edge it provides by queueing the approved edge for
itself.  `EdgeNegotiationHandler` judges proposed edges only, so a cached
approved edge stems from such an approval as long as no other node's object
brings an approved edge of this node along.
-/

namespace KoiNet

open Foundation

/-- The edge is one this node provides and has approved. -/
structure EdgeProfile.IsOwnApproved (node : Node) (edgeProfile : EdgeProfile) :
    Prop where
  outgoing : edgeProfile.source = node.rid
  approved : edgeProfile.status = .approved

/-- The terms on which this node approves an edge, given the node types of
its peers. -/
structure EdgeProfile.OnTerms (node : Node) (nodeTypes : KoiNetNode → NodeType)
    (edgeProfile : EdgeProfile) : Prop where
  provided : ∀ ridType ∈ edgeProfile.ridTypes,
    ridType ∈ EdgeNegotiationHandler.providedEvents node
  reachable : ¬(edgeProfile.edgeType = .webhook ∧
    nodeTypes edgeProfile.target = .partialNode)

/-- Every approved edge of this node in the cache lists provided types only,
and is no webhook to a node whose cached profile is partial. -/
def OwnEdgesApproved (node : Node) (cache : Cache) : Prop :=
  ∀ edgeRid bundle edgeProfile, cache.read (.edge edgeRid) = some bundle →
    EdgeProfile.modelValidate bundle.contents = some edgeProfile →
    edgeProfile.IsOwnApproved node →
    (∀ ridType ∈ edgeProfile.ridTypes,
      ridType ∈ EdgeNegotiationHandler.providedEvents node) ∧
    ∀ peerBundle peerProfile,
      cache.read (.node edgeProfile.target) = some peerBundle →
      NodeProfile.modelValidate peerBundle.contents = some peerProfile →
      ¬(edgeProfile.edgeType = .webhook ∧
        peerProfile.nodeType = .partialNode)

/-- The cached profiles state these node types. -/
def TypesFixed (nodeTypes : KoiNetNode → NodeType) (cache : Cache) : Prop :=
  ∀ nodeRid bundle nodeProfile, cache.read (.node nodeRid) = some bundle →
    NodeProfile.modelValidate bundle.contents = some nodeProfile →
    nodeProfile.nodeType = nodeTypes nodeRid

/-- The approved edges of this node in the cache are on its terms. -/
def EdgesOnTerms (node : Node) (nodeTypes : KoiNetNode → NodeType)
    (cache : Cache) : Prop :=
  ∀ edgeRid bundle edgeProfile, cache.read (.edge edgeRid) = some bundle →
    EdgeProfile.modelValidate bundle.contents = some edgeProfile →
    edgeProfile.IsOwnApproved node → edgeProfile.OnTerms node nodeTypes

/-- An approved edge that this node has queued for itself is on its terms. -/
def QueuedOnTerms (node : Node) (nodeTypes : KoiNetNode → NodeType)
    (kobj : KnowledgeObject) : Prop :=
  kobj.source = none →
    ∀ contents edgeProfile, kobj.contents = some contents →
      EdgeProfile.modelValidate contents = some edgeProfile →
      edgeProfile.IsOwnApproved node → edgeProfile.OnTerms node nodeTypes

/-- The invariant of a run in which every node keeps its type. -/
structure Negotiated (node : Node) (nodeTypes : KoiNetNode → NodeType)
    (state : NodeState) : Prop where
  types : TypesFixed nodeTypes state.cache
  edges : EdgesOnTerms node nodeTypes state.cache
  queue : ∀ kobj ∈ state.kobjQueue, QueuedOnTerms node nodeTypes kobj

/-- A profile the object writes states the node's type. -/
def KeepsType (node : Node) (nodeTypes : KoiNetNode → NodeType)
    (state : NodeState) (kobj : KnowledgeObject) : Prop :=
  ∀ manifest bundle, Arrives node state kobj manifest bundle →
    ∀ nodeRid nodeProfile, bundle.manifest.rid = .node nodeRid →
      NodeProfile.modelValidate bundle.contents = some nodeProfile →
      nodeProfile.nodeType = nodeTypes nodeRid

/-- Another node's object does not write an approved edge of this node. -/
def BringsNoApproval (node : Node) (state : NodeState)
    (kobj : KnowledgeObject) : Prop :=
  kobj.source ≠ none →
    ∀ manifest bundle, Arrives node state kobj manifest bundle →
      ∀ edgeRid edgeProfile, bundle.manifest.rid = .edge edgeRid →
        EdgeProfile.modelValidate bundle.contents = some edgeProfile →
        ¬edgeProfile.IsOwnApproved node

/-- Another node's object forgets, or it comes complete and with no approved
edge of this node. -/
def CarriesNoApproval (node : Node) (kobj : KnowledgeObject) : Prop :=
  kobj.source ≠ none → kobj.eventType = some .forget ∨
    ∃ manifest contents, kobj.manifest = some manifest ∧
      kobj.contents = some contents ∧ contents ≠ [] ∧
      ∀ edgeProfile, EdgeProfile.modelValidate contents = some edgeProfile →
        ¬edgeProfile.IsOwnApproved node

theorem CarriesNoApproval.brings {node : Node} {kobj : KnowledgeObject}
    (carries : CarriesNoApproval node kobj) (state : NodeState) :
    BringsNoApproval node state kobj := by
  intro external announced bundle arrives edgeRid edgeProfile _ validated
  rcases carries external with forgets |
    ⟨manifest, contents, hasManifest, hasContents, nonempty, unapproved⟩
  · exact absurd forgets arrives.notForget
  · obtain ⟨_, same⟩ :=
      arrives.offered.of_own hasManifest hasContents nonempty
    rw [same] at validated
    exact unapproved edgeProfile validated

theorem EdgeNegotiationHandler.onTerms_of_not_abort {node : Node}
    {edgeProfile approved : EdgeProfile} {peerProfile : NodeProfile}
    {nodeTypes : KoiNetNode → NodeType}
    (agreed : abort node edgeProfile peerProfile = false)
    (typed : peerProfile.nodeType = nodeTypes edgeProfile.target)
    (same : approved = { edgeProfile with status := .approved }) :
    approved.OnTerms node nodeTypes := by
  obtain ⟨provided, reachable⟩ := abort_eq_false_iff.mp agreed
  rw [typed] at reachable
  subst same
  exact
    { provided := provided
      reachable := reachable }

theorem Queued.onTerms {node : Node} {nodeTypes : KoiNetNode → NodeType}
    {cache : Cache} {kobj : KnowledgeObject}
    (types : TypesFixed nodeTypes cache) (queued : Queued node cache kobj) :
    QueuedOnTerms node nodeTypes kobj := by
  intro internal contents edgeProfile present validated own
  cases queued with
  | forget => cases present
  | discovered => cases present
  | proposal bundle edgeRid proposed named filled status =>
      cases present
      rw [filled, EdgeProfile.modelValidate_modelDump] at validated
      cases validated
      rw [own.approved] at status
      cases status
  | approval edgeRid proposed clockReads peerBundle peerProfile outgoing known
      peer agreed =>
      cases present
      have typed := types _ peerBundle peerProfile known peer
      change EdgeProfile.modelValidate
        ({ proposed with status := .approved } : EdgeProfile).modelDump = _
        at validated
      rw [EdgeProfile.modelValidate_modelDump] at validated
      exact EdgeNegotiationHandler.onTerms_of_not_abort agreed typed
        (Option.some.inj validated).symm

section Cache

variable {node : Node} {nodeTypes : KoiNetNode → NodeType}
  {state : NodeState} {kobj : KnowledgeObject} {after : Cache}

theorem TypesFixed.effect (types : TypesFixed nodeTypes state.cache)
    (keeps : KeepsType node nodeTypes state kobj)
    (effect : KnowledgePipeline.CacheEffect node state kobj after) :
    TypesFixed nodeTypes after := by
  intro nodeRid bundle nodeProfile cached validated
  cases effect with
  | write manifest written arrives =>
      rcases Cache.read_of_write cached with ⟨named, same⟩ | before
      · subst same
        exact keeps manifest bundle arrives nodeRid nodeProfile named.symm
          validated
      · exact types nodeRid bundle nodeProfile before validated
  | delete deleted _ =>
      exact types nodeRid bundle nodeProfile (Cache.read_of_delete cached)
        validated
  | nothing => exact types nodeRid bundle nodeProfile cached validated

theorem EdgesOnTerms.effect (edges : EdgesOnTerms node nodeTypes state.cache)
    (own : QueuedOnTerms node nodeTypes kobj)
    (foreign : BringsNoApproval node state kobj)
    (effect : KnowledgePipeline.CacheEffect node state kobj after) :
    EdgesOnTerms node nodeTypes after := by
  intro edgeRid bundle edgeProfile cached validated approved
  cases effect with
  | write manifest written arrives =>
      rcases Cache.read_of_write cached with ⟨named, same⟩ | before
      · subst same
        by_cases internal : kobj.source = none
        · obtain ⟨_, present, _⟩ := arrives.offered.of_internal internal
          exact own internal bundle.contents edgeProfile present validated
            approved
        · exact (foreign internal manifest bundle arrives edgeRid edgeProfile
            named.symm validated approved).elim
      · exact edges edgeRid bundle edgeProfile before validated approved
  | delete deleted _ =>
      exact edges edgeRid bundle edgeProfile (Cache.read_of_delete cached)
        validated approved
  | nothing => exact edges edgeRid bundle edgeProfile cached validated approved

end Cache

namespace Negotiated

variable {node : Node} {nodeTypes : KoiNetNode → NodeType}
  {state after : NodeState}

theorem ownEdgesApproved (negotiated : Negotiated node nodeTypes state) :
    OwnEdgesApproved node state.cache := by
  intro edgeRid bundle edgeProfile cached validated own
  have terms := negotiated.edges edgeRid bundle edgeProfile cached validated own
  refine ⟨terms.provided, ?_⟩
  rintro peerBundle peerProfile known peer ⟨webhook, isPartial⟩
  have typed := negotiated.types _ peerBundle peerProfile known peer
  exact terms.reachable ⟨webhook, typed.symm.trans isPartial⟩

theorem enqueues (negotiated : Negotiated node nodeTypes state)
    (enqueues : Enqueues node state after) :
    Negotiated node nodeTypes after := by
  obtain ⟨added, grown, allowed⟩ := enqueues.queued
  constructor
  · rw [enqueues.cache]
    exact negotiated.types
  · rw [enqueues.cache]
    exact negotiated.edges
  · intro kobj member
    rw [grown] at member
    rcases List.mem_append.mp member with old | new
    · exact negotiated.queue kobj old
    · exact (allowed kobj new).onTerms negotiated.types

theorem receive (negotiated : Negotiated node nodeTypes state)
    {kobj : KnowledgeObject} (external : kobj.source ≠ none) :
    Negotiated node nodeTypes
      (state.withQueue (state.kobjQueue ++ [kobj])) := by
  refine
    { types := negotiated.types
      edges := negotiated.edges
      queue := ?_ }
  intro queued member internal
  rcases List.mem_append.mp member with old | new
  · exact negotiated.queue queued old internal
  · rw [List.mem_singleton.mp new] at internal
    exact (external internal).elim

theorem work (registry : Registry node)
    (negotiated : Negotiated node nodeTypes state) {kobj : KnowledgeObject}
    {rest : List KnowledgeObject} (queue : state.kobjQueue = kobj :: rest)
    (keeps : KeepsType node nodeTypes (state.withQueue rest) kobj)
    (foreign : BringsNoApproval node (state.withQueue rest) kobj) :
    Negotiated node nodeTypes
      ((KnowledgePipeline.process node registry.handlers kobj).run
        (state.withQueue rest)).2 := by
  have own : QueuedOnTerms node nodeTypes kobj :=
    negotiated.queue kobj (by simp [queue])
  have effect := KnowledgePipeline.process_cacheEffect registry kobj
    (state.withQueue rest)
  have before : TypesFixed nodeTypes (state.withQueue rest).cache :=
    negotiated.types
  have edges : EdgesOnTerms node nodeTypes (state.withQueue rest).cache :=
    negotiated.edges
  have types := before.effect keeps effect
  obtain ⟨early, late, grown, earlyQueued, lateQueued⟩ :=
    KnowledgePipeline.process_queue registry kobj (state.withQueue rest)
  refine
    { types := types
      edges := edges.effect own foreign effect
      queue := ?_ }
  intro queued member
  rw [grown] at member
  rcases List.mem_append.mp member with member | inLate
  · rcases List.mem_append.mp member with inRest | inEarly
    · rw [NodeState.withQueue_kobjQueue] at inRest
      exact negotiated.queue queued (by simp [queue, inRest])
    · exact (earlyQueued queued inEarly).onTerms negotiated.types
  · exact (lateQueued queued inLate).onTerms types

theorem step {registry : Registry node}
    (negotiated : Negotiated node nodeTypes state)
    (step : QueueStep registry
      (fun state kobj => KeepsType node nodeTypes state kobj ∧
        BringsNoApproval node state kobj) state after) :
    Negotiated node nodeTypes after := by
  cases step with
  | receive kobj external => exact negotiated.receive external
  | work kobj rest queue allowed =>
      exact negotiated.work registry queue allowed.1 allowed.2
  | other _ stable => exact negotiated.enqueues stable.toEnqueues

end Negotiated

/-- In every run in which the nodes keep their types and other nodes' objects
forget or come complete with no approved edge of this node, the approved edges
of this node in the cache are the ones it approved. -/
theorem ownEdgesApproved_of_carried {node : Node}
    {nodeTypes : KoiNetNode → NodeType} {registry : Registry node}
    {first last : NodeState}
    (run : Run
      (QueueStep registry fun state kobj =>
        KeepsType node nodeTypes state kobj ∧ CarriesNoApproval node kobj)
      first last)
    (initial : Negotiated node nodeTypes first) :
    OwnEdgesApproved node last.cache := by
  have foreign : Run (QueueStep registry fun state kobj =>
      KeepsType node nodeTypes state kobj ∧ BringsNoApproval node state kobj)
      first last :=
    run.mono fun taken => taken.mono fun state _ allowed =>
      ⟨allowed.1, allowed.2.brings state⟩
  exact (foreign.invariant (fun negotiated taken => negotiated.step taken)
    initial).ownEdgesApproved

/-- In every run in which the nodes keep their types and no other node's
object brings an approved edge of this node, the approved edges of this node
in the cache are the ones it approved. -/
theorem ownEdgesApproved_of_run {node : Node}
    {nodeTypes : KoiNetNode → NodeType} {registry : Registry node}
    {first last : NodeState}
    (run : Run
      (QueueStep registry fun state kobj =>
        KeepsType node nodeTypes state kobj ∧
          BringsNoApproval node state kobj)
      first last)
    (initial : Negotiated node nodeTypes first) :
    OwnEdgesApproved node last.cache :=
  (run.invariant (fun negotiated taken => negotiated.step taken)
    initial).ownEdgesApproved

/-- A complete object about an edge states no node's type. -/
theorem keepsType_of_edge {node : Node} {nodeTypes : KoiNetNode → NodeType}
    {state : NodeState} {kobj : KnowledgeObject} {manifest : Manifest}
    {contents : Contents} {edgeRid : KoiNetEdge}
    (hasManifest : kobj.manifest = some manifest)
    (hasContents : kobj.contents = some contents) (nonempty : contents ≠ [])
    (named : manifest.rid = .edge edgeRid) :
    KeepsType node nodeTypes state kobj := by
  intro announced bundle arrives nodeRid nodeProfile isNode
  obtain ⟨_, same⟩ :=
    arrives.offered.of_own hasManifest hasContents nonempty
  rw [same, named] at isNode
  cases isNode

theorem negotiated_fresh_empty (node : Node)
    (nodeTypes : KoiNetNode → NodeType) :
    Negotiated node nodeTypes (.fresh .empty) := by
  constructor
  · intro nodeRid bundle nodeProfile cached
    cases cached
  · intro edgeRid bundle edgeProfile cached
    cases cached
  · intro kobj member
    cases member

theorem ownEdgesApproved_of_run_proposal :
    ∃ last : NodeState, last.cache.read (.edge { id := "e" }) ≠ none ∧
      OwnEdgesApproved .standalone last.cache := by
  let peer : KoiNetNode := { name := "peer", hash := "key" }
  let known : Bundle :=
    { manifest := { rid := .node peer, timestamp := 0, sha256Hash := "" }
      contents := [("node_type", .str "PARTIAL")] }
  let proposed : EdgeProfile :=
    { context := EdgeProfile.defaultContext
      source := Node.standalone.rid
      target := peer
      edgeType := .poll
      status := .proposed
      ridTypes := [.koiNetNode] }
  let manifest : Manifest :=
    { rid := .edge { id := "e" }, timestamp := -1, sha256Hash := "p" }
  let kobj : KnowledgeObject := .fromEvent
    (.fromBundle .new { manifest, contents := proposed.modelDump })
    (some peer)
  let approval : KnowledgeObject := .fromBundle
    (EdgeNegotiationHandler.approval .standalone kobj.rid proposed 0)
    (some .update) none
  have foreign : CarriesNoApproval .standalone kobj := by
    refine fun _ => .inr ⟨manifest, proposed.modelDump, rfl, rfl,
      proposed.modelDump_ne_nil, ?_⟩
    intro edgeProfile validated own
    rw [EdgeProfile.modelValidate_modelDump] at validated
    cases validated
    cases own.approved
  have initial : Negotiated .standalone (fun _ => .partialNode)
      (.fresh (Cache.empty.write known)) := by
    constructor
    · intro nodeRid bundle nodeProfile cached validated
      change (Cache.empty.write known).read _ = _ at cached
      rw [Cache.read_write] at cached
      split at cached
      · cases cached
        cases validated
        rfl
      · cases cached
    · intro edgeRid bundle edgeProfile cached
      cases cached
    · intro kobj member
      cases member
  have run : Run
      (QueueStep (Registry.listed .standalone) fun state kobj =>
        KeepsType .standalone (fun _ => .partialNode) state kobj ∧
          BringsNoApproval .standalone state kobj)
      (.fresh (Cache.empty.write known)) _ :=
    .tail
      (.tail
        (.tail (.refl _) (.receive _ kobj (by decide)))
        (.work _ kobj [] rfl
          ⟨keepsType_of_edge rfl rfl proposed.modelDump_ne_nil rfl,
            foreign.brings _⟩))
      (.work _ approval [] rfl
        ⟨keepsType_of_edge rfl rfl (EdgeProfile.modelDump_ne_nil _) rfl,
          fun external => (external rfl).elim⟩)
  refine ⟨_, ?_, ownEdgesApproved_of_run run initial⟩
  decide

/-- A peer's event about an edge of this node, already marked as approved, is
cached although it lists a type this node does not provide. -/
theorem ownEdgesApproved_not_invariant :
    ¬∀ (node : Node) (nodeTypes : KoiNetNode → NodeType)
      (registry : Registry node) (first last : NodeState),
      Run (QueueStep registry (KeepsType node nodeTypes)) first last →
      Negotiated node nodeTypes first → OwnEdgesApproved node last.cache := by
  intro always
  let installed : EdgeProfile :=
    { context := EdgeProfile.defaultContext
      source := Node.standalone.rid
      target := { name := "peer", hash := "key" }
      edgeType := .poll
      status := .approved
      ridTypes := [.other "orn:private"] }
  let manifest : Manifest :=
    { rid := .edge { id := "e" }, timestamp := 0, sha256Hash := "p" }
  let kobj : KnowledgeObject := .fromEvent
    (.fromBundle .new { manifest, contents := installed.modelDump })
    (some { name := "peer", hash := "key" })
  have run : Run
      (QueueStep (Registry.listed .standalone)
        (KeepsType .standalone fun _ => .full))
      (.fresh .empty) _ :=
    .tail
      (.tail (.refl _) (.receive (.fresh .empty) kobj (by decide)))
      (.work _ kobj [] rfl
        (keepsType_of_edge rfl rfl installed.modelDump_ne_nil rfl))
  have approved := always .standalone (fun _ => .full) (.listed _) _ _ run
    (negotiated_fresh_empty _ _)
  have provided := (approved { id := "e" }
    { manifest, contents := installed.modelDump } installed rfl
    installed.modelValidate_modelDump ⟨rfl, rfl⟩).1
      (.other "orn:private") (by simp [installed])
  revert provided
  decide

end KoiNet
