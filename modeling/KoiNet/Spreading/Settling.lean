import KoiNet.Pipeline.Neighbors
import KoiNet.Spreading.PeerNetwork

/-!
# Networks that come to rest

No version of a document is made up on its way through the network.  However
the steps of its nodes are interleaved, only so many of them can follow each
other without anything being published or arriving twice.  If versions with
equal hashes have equal timestamps, then subscribers are not behind those they
subscribe to once nothing is on its way, and the newest version is cached
wherever subscriptions lead.
-/

namespace KoiNet

open Foundation KnowledgePipeline

namespace PeerNetwork

variable (network : PeerNetwork)

/-- Some member has the bundle at the start, or one publishes it. -/
def Circulating (first : NetworkState) (actions : List NetworkAction)
    (bundle : Bundle) : Prop :=
  (∃ rid ∈ network.members, (first rid).Has bundle) ∨
    ∃ rid, .publish rid bundle ∈ actions

/-- No member has a version that it has yet to work on or to send. -/
def AtRest (state : NetworkState) : Prop :=
  ∀ rid ∈ network.members,
    (∀ kobj ∈ (state rid).kobjQueue, kobj.version = none) ∧
      ∀ queued ∈ (state rid).eventQueue, queued.version = none

/-- A member sends objects of the type to another one. -/
def Subscribed (ridType : RIDType) (rid target : KoiNetNode) : Prop :=
  rid ∈ network.members ∧ target ∈ network.members ∧
    target ∈ network.subscribers rid ridType

/-- No subscriber is behind the node that it subscribes to. -/
def Agrees (state : NetworkState) : Prop :=
  ∀ rid target bundle, network.Subscribed bundle.rid.type rid target →
    target ≠ rid → (state rid).document bundle.rid = some bundle →
    ∃ held, (state target).document bundle.rid = some held ∧
      bundle.timestamp ≤ held.timestamp

/-- Documents are cached under their own RIDs. -/
def Named (state : NetworkState) : Prop :=
  ∀ rid ∈ network.members, ∀ document bundle,
    (state rid).document document = some bundle → bundle.rid = document

/-- Versions of one document with the same hash have the same timestamp. -/
def Coherent (known : Bundle → Prop) : Prop :=
  ∀ left right, known left → known right → left.rid = right.rid →
    left.hash = right.hash → left.timestamp = right.timestamp

variable {network} {first last state : NetworkState}
  {actions : List NetworkAction}

theorem read_of_document {state : NodeState} {document : RID}
    {bundle : Bundle} (cached : state.document document = some bundle) :
    state.cache.read document = some bundle := by
  unfold NodeState.document at cached
  split at cached
  · exact cached
  · cases cached

theorem atRest_iff :
    network.protocol.AtRest state.versions ↔ network.AtRest state := by
  have quiet : ∀ rid, (state.versions rid).waiting = [] ∧
        (state.versions rid).sent = [] ↔
      (∀ kobj ∈ (state rid).kobjQueue, kobj.version = none) ∧
        ∀ queued ∈ (state rid).eventQueue, queued.version = none := by
    intro rid
    exact and_congr List.filterMap_eq_nil_iff List.filterMap_eq_nil_iff
  unfold Gossip.Protocol.AtRest AtRest
  exact forall₂_congr fun rid _ => quiet rid

theorem mem_spreads_publish_iff {rid : KoiNetNode} {bundle : Bundle} :
    .publish rid bundle ∈ actions.filterMap NetworkAction.spreads ↔
      .publish rid bundle ∈ actions := by
  rw [List.mem_filterMap]
  constructor
  · intro published
    obtain ⟨action, among, isPublish⟩ := published
    cases action with
    | publish =>
        cases isPublish
        exact among
    | work => cases isPublish
    | deliver => cases isPublish
    | again => cases isPublish
    | leave => cases isPublish
    | aside => cases isPublish
  · intro among
    exact ⟨.publish rid bundle, among, rfl⟩

theorem carries_circulating :
    network.protocol.Carries (network.Circulating first actions)
      first.versions := by
  rw [carries_iff]
  intro rid member bundle has
  exact .inl ⟨rid, member, has⟩

theorem invariant_of_start (atRest : network.AtRest first)
    (agrees : network.Agrees first) (named : network.Named first) :
    network.protocol.Invariant (network.Circulating first actions)
      first.versions := by
  have agreesThere : network.protocol.Agrees first.versions := by
    intro document rid target subscribed apart bundle cached
    have same := named rid subscribed.1 document bundle cached
    subst same
    exact agrees rid target bundle subscribed apart cached
  apply agreesThere.invariant (atRest_iff.mpr atRest)
  intro rid member document bundle cached
  exact ⟨named rid member document bundle cached,
    .inl ⟨rid, member, .inl ⟨document, cached⟩⟩⟩

theorem settles (operates : network.Operates first)
    (atRest : network.AtRest first) (agrees : network.Agrees first)
    (named : network.Named first)
    (coherent : Coherent (network.Circulating first actions))
    (trace : Trace network.Step actions first last)
    (still : network.AtRest last) :
    network.protocol.Agrees last.versions ∧
      ∀ rid bundle, .publish rid bundle ∈ actions → ∀ target,
        Relation.ReflTransGen (network.Subscribed bundle.rid.type) rid
          target → (last.versions target).Holds network.protocol bundle := by
  obtain ⟨settled, held⟩ :=
    (invariant_of_start atRest agrees named).settles coherent
    (spreads_trace operates trace)
    (fun rid bundle published =>
      .inr ⟨rid, mem_spreads_publish_iff.mp published⟩)
    (atRest_iff.mpr still)
  refine ⟨settled, ?_⟩
  intro rid bundle published target path
  exact held rid bundle (mem_spreads_publish_iff.mpr published) target path

/-- Whether the action takes a version out of a queue for good. -/
def Settling (actions : List NetworkAction) : Prop :=
  ∀ action ∈ actions, action.spreads = none ∨
    action.spreads = some .progress

/-- From every state there is a bound on how many versions can be worked on,
delivered or dropped before something is published or arrives twice. -/
theorem exists_bound (operates : network.Operates first) :
    ∃ bound, ∀ actions last, Trace network.Step actions first last →
      Settling actions →
      (actions.filterMap NetworkAction.spreads).length ≤ bound := by
  obtain ⟨bound, bounded⟩ := network.protocol.exists_bound first.versions
  refine ⟨bound, ?_⟩
  intro actions last trace settling
  apply bounded _ last.versions
  have progresses : actions.filterMap NetworkAction.spreads =
      List.replicate (actions.filterMap NetworkAction.spreads).length
        .progress := by
    rw [List.eq_replicate_iff]
    refine ⟨rfl, ?_⟩
    intro image among
    obtain ⟨action, member, isImage⟩ := List.mem_filterMap.mp among
    rcases settling action member with none | progress
    · rw [none] at isImage
      cases isImage
    · rw [progress] at isImage
      cases isImage
      rfl
  rw [← progresses]
  exact spreads_trace operates trace

theorem exists_work (operates : network.Operates state) {rid : KoiNetNode}
    (member : rid ∈ network.members) {kobj : KnowledgeObject}
    {rest : List KnowledgeObject}
    (queue : (state rid).kobjQueue = kobj :: rest)
    (brings : kobj.version ≠ none) :
    ∃ next, network.Step (.work rid) state next := by
  obtain ⟨waiting, isVersion⟩ := Option.ne_none_iff_exists'.mp brings
  have subscribed := operates.serves rid member
    waiting.version.manifest.rid.type
  rw [← audience_withQueue rest] at subscribed
  have same := operates.process_eq member queue isVersion
  by_cases fresh : Fresh ((state rid).withQueue rest).cache
      waiting.version.manifest.rid waiting.version.manifest
  · have ran := process_version_fresh
      ((network.registration rid).registry (network.node rid)) isVersion fresh
      subscribed
    exact ⟨_, .work state rid kobj rest _ member queue brings
      (same.trans ran)⟩
  · have ran := process_version_stale
      ((network.registration rid).registry (network.node rid)) isVersion fresh
    exact ⟨_, .work state rid kobj rest _ member queue brings
      (same.trans ran)⟩

/-- As long as some version is under way and no other object comes before it,
one can be worked on, delivered or dropped. -/
theorem exists_progress (operates : network.Operates state)
    (unobstructed : ∀ rid ∈ network.members, ∀ kobj rest,
      (state rid).kobjQueue = kobj :: rest → kobj.version ≠ none)
    (notAtRest : ¬network.AtRest state) :
    ∃ action next, action.spreads = some .progress ∧
      network.Step action state next := by
  unfold AtRest at notAtRest
  push Not at notAtRest
  obtain ⟨rid, member, busy⟩ := notAtRest
  cases queue : (state rid).kobjQueue with
  | cons kobj rest =>
      obtain ⟨next, step⟩ := exists_work operates member queue
        (unobstructed rid member kobj rest queue)
      exact ⟨_, next, rfl, step⟩
  | nil =>
      obtain ⟨queued, sent, brings⟩ := busy (by simp [queue])
      obtain ⟨earlier, later, split⟩ := List.append_of_mem sent
      by_cases arrives : queued.target ∈ network.members ∧
          queued.target ≠ rid
      · exact ⟨_, _, rfl, .deliver state rid queued earlier later member
          arrives.1 arrives.2 brings split⟩
      · exact ⟨_, _, rfl, .leave state rid queued earlier later member
          arrives brings split⟩

def alice : KoiNetNode :=
  { name := "alice", hash := "a" }

def bob : KoiNetNode :=
  { name := "bob", hash := "b" }

/-- A full node that provides documents. -/
def documentNode (rid : KoiNetNode) : Node :=
  .isolated
    { nodeRid := rid
      nodeProfile :=
        { context := NodeProfile.defaultContext
          baseUrl := some rid.name
          nodeType := .full
          provides := { event := [.other "orn:example"], state := [] }
          publicKey := some rid.hash } }
    id fun _ => ""

/-- Bob subscribes to the documents of Alice. -/
def subscribedPair : PeerNetwork :=
  { members := {alice, bob}
    node := documentNode
    storage := fun _ => .json 200 (fun _ => true) fun _ => false
    registration := fun _ => .listed
    named := fun _ => rfl
    subscribers := fun rid ridType =>
      if rid = alice ∧ ridType = .other "orn:example" then [bob] else [] }

def aliceToBob : EdgeProfile :=
  { context := EdgeProfile.defaultContext
    source := alice
    target := bob
    edgeType := .webhook
    status := .approved
    ridTypes := [.other "orn:example"] }

/-- Only Alice has cached something, the edge to Bob. -/
def pairFirst : NetworkState := fun rid =>
  if rid = alice then
    { NodeState.fresh
        (Cache.empty.write (edgeEntry { id := "edge" } aliceToBob)) with
      dg := DiGraph.empty.addEdge alice bob { id := "edge" } }
  else
    .fresh .empty

theorem subscribedPair_serves : subscribedPair.Serves pairFirst := by
  intro rid member ridType
  by_cases example' : ridType = .other "orn:example"
  · subst example'
    rcases Finset.mem_insert.mp member with rfl | isBob
    · rfl
    · cases Finset.mem_singleton.mp isBob
      rfl
  · have absent : ridType ∉ (documentNode rid).profile.provides.event := by
      simpa [documentNode, Node.isolated, Node.profile] using example'
    unfold audience
    change (if ridType ∈ (documentNode rid).profile.provides.event then _
      else _) = _
    rw [if_neg absent]
    simp [subscribedPair, example']

theorem pairFirst_document (rid : KoiNetNode) (document : RID) :
    (pairFirst rid).document document = none := by
  unfold pairFirst
  split
  · cases document <;> rfl
  · cases document <;> rfl

theorem pairFirst_atRest : subscribedPair.AtRest pairFirst := by
  intro rid _
  unfold pairFirst
  split
  · constructor
    · intro kobj among
      cases among
    · intro queued among
      cases among
  · constructor
    · intro kobj among
      cases among
    · intro queued among
      cases among

theorem pairFirst_has (rid : KoiNetNode) (bundle : Bundle) :
    ¬(pairFirst rid).Has bundle := by
  intro has
  rcases has with ⟨document, cached⟩ | ⟨kobj, among, _⟩ | ⟨queued, among, _⟩
  · rw [pairFirst_document] at cached
    cases cached
  · unfold pairFirst at among
    split at among <;> cases among
  · unfold pairFirst at among
    split at among <;> cases among

theorem operates_pairFirst : subscribedPair.Operates pairFirst :=
  { serves := subscribedPair_serves
    preserves := fun rid _ bundle has => (pairFirst_has rid bundle has).elim }

/-- Alice publishes a document, and the event about it reaches Bob. -/
def pairActions : List NetworkAction :=
  [.publish alice (documentVersion 1 "c"), .work alice, .deliver alice,
    .work bob]

theorem documentVersion_isDocument (timestamp : Timestamp)
    (content : String) : (documentVersion timestamp content).IsDocument :=
  ⟨_, _, documentVersion_isVersion timestamp content⟩

theorem preserves_pair : subscribedPair.Preserves (documentVersion 1 "c") :=
  fun _ _ => { kept := ⟨rfl, rfl⟩, offset := rfl }

/-- Alice has yet to work on what she has published. -/
def pairPublished : NetworkState :=
  Function.update pairFirst alice ((pairFirst alice).withQueue
    [.fromBundle (documentVersion 1 "c") none none])

theorem publishes_pair : subscribedPair.Step
    (.publish alice (documentVersion 1 "c")) pairFirst pairPublished :=
  .publish pairFirst alice _ none (by decide)
    (documentVersion_isDocument 1 "c") preserves_pair (by simp)

theorem written_pair : (KnowledgeObject.fromBundle (documentVersion 1 "c") none
    none).version ≠ none := by
  rw [version_fromBundle (documentVersion_isDocument 1 "c") (by simp)]
  simp

theorem pairPublished_queue {rid : KoiNetNode}
    (member : rid ∈ subscribedPair.members) {kobj : KnowledgeObject}
    {rest : List KnowledgeObject}
    (queue : (pairPublished rid).kobjQueue = kobj :: rest) :
    kobj.version ≠ none := by
  rcases Finset.mem_insert.mp member with rfl | isBob
  · cases queue
    exact written_pair
  · cases Finset.mem_singleton.mp isBob
    cases queue

theorem pairPublished_not_atRest : ¬subscribedPair.AtRest pairPublished := by
  intro still
  obtain ⟨worked, _⟩ := still alice (by decide)
  exact written_pair (worked _ List.mem_cons_self)

theorem exists_pairRun :
    ∃ last, Trace subscribedPair.Step pairActions pairFirst last ∧
      subscribedPair.AtRest last ∧
      (last bob).document (documentVersion 1 "c").rid =
        some (documentVersion 1 "c") := by
  have aliceMember : alice ∈ subscribedPair.members := by decide
  have bobMember : bob ∈ subscribedPair.members := by decide
  let sent : NetworkState := Function.update pairPublished alice
    ((subscribedPair.process alice
      (.fromBundle (documentVersion 1 "c") none none)).run
        ((pairPublished alice).withQueue [])).2
  let queued : QueuedEvent :=
    { event := .fromBundle .new (documentVersion 1 "c"), target := bob }
  let delivered : NetworkState := Function.update
    (Function.update sent alice { sent alice with eventQueue := [] ++ [] }) bob
    ((sent bob).receiving queued.event alice)
  let last : NetworkState := Function.update delivered bob
    ((subscribedPair.process bob
      (.fromEvent queued.event (some alice))).run
        ((delivered bob).withQueue [])).2
  have document := documentVersion_isDocument 1 "c"
  have aliceWorks : subscribedPair.Step (.work alice) pairPublished sent :=
    .work pairPublished alice _ [] _ aliceMember rfl written_pair rfl
  have addressed : queued.version =
      some { target := bob, version := documentVersion 1 "c" } :=
    version_of_written document (by simp) bob
  have delivers : subscribedPair.Step (.deliver alice) sent delivered :=
    .deliver sent alice queued [] [] aliceMember bobMember (by decide)
      (by simp [addressed]) rfl
  have received : (KnowledgeObject.fromEvent queued.event
      (some alice)).version =
        some { source := some alice, version := documentVersion 1 "c" } :=
    rfl
  have bobWorks : subscribedPair.Step (.work bob) delivered last :=
    .work delivered bob _ [] _ bobMember rfl (by simp [received]) rfl
  refine ⟨last, .cons publishes_pair (.cons aliceWorks (.cons delivers
    (.cons bobWorks (.nil last)))), ?_, rfl⟩
  have emptied : ∀ rid ∈ subscribedPair.members,
      (last rid).kobjQueue = [] ∧ (last rid).eventQueue = [] := by
    intro rid member
    rcases Finset.mem_insert.mp member with rfl | isBob
    · exact ⟨rfl, rfl⟩
    · cases Finset.mem_singleton.mp isBob
      exact ⟨rfl, rfl⟩
  intro rid member
  rw [(emptied rid member).1, (emptied rid member).2]
  simp

theorem circulating_pair {bundle : Bundle}
    (circulating : subscribedPair.Circulating pairFirst pairActions bundle) :
    bundle = documentVersion 1 "c" := by
  rcases circulating with ⟨rid, _, has⟩ | ⟨rid, published⟩
  · exact (pairFirst_has rid bundle has).elim
  · simp only [pairActions, List.mem_cons, reduceCtorEq, List.not_mem_nil,
      or_false, NetworkAction.publish.injEq] at published
    exact published.2

theorem coherent_pair :
    Coherent (subscribedPair.Circulating pairFirst pairActions) := by
  intro left right isLeft isRight _ _
  rw [circulating_pair isLeft, circulating_pair isRight]

theorem agrees_pairFirst : subscribedPair.Agrees pairFirst := by
  intro rid target bundle _ _ cached
  rw [pairFirst_document] at cached
  cases cached

theorem named_pairFirst : subscribedPair.Named pairFirst := by
  intro rid _ document bundle cached
  rw [pairFirst_document] at cached
  cases cached

section Results

variable {network : PeerNetwork} {first last : NetworkState}
  {actions : List NetworkAction}

/-- Whatever a member has at any time, some member had it at the start or has
published it just so. -/
theorem circulating_of_has (operates : network.Operates first)
    (trace : Trace network.Step actions first last) {rid : KoiNetNode}
    (member : rid ∈ network.members) {bundle : Bundle}
    (has : (last rid).Has bundle) :
    network.Circulating first actions bundle := by
  have initial : network.protocol.Carries (network.Circulating first actions)
      first.versions :=
    carries_circulating
  apply carries_iff.mp (initial.trace (spreads_trace operates trace) ?_) rid
    member bundle has
  intro publisher version published
  exact .inr ⟨publisher, mem_spreads_publish_iff.mp published⟩

theorem circulating_of_has_pair :
    ∃ last, Trace subscribedPair.Step pairActions pairFirst last ∧
      (last bob).Has (documentVersion 1 "c") ∧
      subscribedPair.Circulating pairFirst pairActions
        (documentVersion 1 "c") := by
  obtain ⟨last, trace, _, cached⟩ := exists_pairRun
  have has : (last bob).Has (documentVersion 1 "c") := .inl ⟨_, cached⟩
  exact ⟨last, trace, has,
    circulating_of_has operates_pairFirst trace (by decide) has⟩

/-- After any run, no subscriber is behind once nothing is on its way. -/
theorem agrees_of_rest (operates : network.Operates first)
    (atRest : network.AtRest first) (agrees : network.Agrees first)
    (named : network.Named first)
    (coherent : Coherent (network.Circulating first actions))
    (trace : Trace network.Step actions first last)
    (still : network.AtRest last) : network.Agrees last := by
  obtain ⟨settled, _⟩ :=
    settles operates atRest agrees named coherent trace still
  intro rid target bundle subscribed apart cached
  exact settled bundle.rid rid target subscribed apart bundle cached

theorem agrees_of_rest_pair :
    ∃ last, Trace subscribedPair.Step pairActions pairFirst last ∧
      subscribedPair.AtRest last ∧ subscribedPair.Agrees last := by
  obtain ⟨last, trace, still, _⟩ := exists_pairRun
  exact ⟨last, trace, still, agrees_of_rest operates_pairFirst
    pairFirst_atRest agrees_pairFirst named_pairFirst coherent_pair trace
    still⟩

/-- The newest version of a document, published by some member in whatever
run, is cached wherever subscriptions lead from there once nothing is on its
way. -/
theorem newest_of_rest (operates : network.Operates first)
    (atRest : network.AtRest first) (agrees : network.Agrees first)
    (named : network.Named first)
    (coherent : Coherent (network.Circulating first actions))
    (trace : Trace network.Step actions first last)
    (still : network.AtRest last) {rid target : KoiNetNode} {newest : Bundle}
    (published : .publish rid newest ∈ actions)
    (isNewest : ∀ bundle, network.Circulating first actions bundle →
      bundle.rid = newest.rid → newest.timestamp ≤ bundle.timestamp →
      bundle = newest)
    (member : target ∈ network.members)
    (path : Relation.ReflTransGen (network.Subscribed newest.rid.type) rid
      target) :
    (last target).cache.read newest.rid = some newest := by
  obtain ⟨_, held⟩ := settles operates atRest agrees named coherent trace still
  have invariant := (invariant_of_start atRest agrees named).trace coherent
    (spreads_trace operates trace) fun publisher bundle among =>
      .inr ⟨publisher, mem_spreads_publish_iff.mp among⟩
  have cached := (held rid newest published target path).eq_newest
    (invariant.stored target member) isNewest
  exact read_of_document cached

theorem newest_of_rest_pair :
    ∃ last, Trace subscribedPair.Step pairActions pairFirst last ∧
      (last bob).cache.read (documentVersion 1 "c").rid =
        some (documentVersion 1 "c") := by
  obtain ⟨last, trace, still, _⟩ := exists_pairRun
  have subscribed : subscribedPair.Subscribed
      (documentVersion 1 "c").rid.type alice bob := by
    refine ⟨by decide, by decide, ?_⟩
    change bob ∈ [bob]
    simp
  exact ⟨last, trace, newest_of_rest operates_pairFirst pairFirst_atRest
    agrees_pairFirst named_pairFirst coherent_pair trace still
    (by simp [pairActions])
    (fun bundle circulating _ _ => circulating_pair circulating) (by decide)
    (.single subscribed)⟩

/-- However its steps are interleaved, a network takes only so many of them
before something is published or arrives twice, and unless another object
comes before a version it takes one as long as some version is under way. -/
theorem comes_to_rest (operates : network.Operates first) :
    (∃ bound, ∀ actions last, Trace network.Step actions first last →
      Settling actions →
      (actions.filterMap NetworkAction.spreads).length ≤ bound) ∧
    ∀ actions last, Trace network.Step actions first last →
      (∀ rid ∈ network.members, ∀ kobj rest,
        (last rid).kobjQueue = kobj :: rest → kobj.version ≠ none) →
      ¬network.AtRest last →
      ∃ action next, action.spreads = some .progress ∧
        network.Step action last next := by
  refine ⟨exists_bound operates, ?_⟩
  intro actions last trace unobstructed notAtRest
  exact exists_progress (operates_trace operates trace) unobstructed notAtRest

theorem comes_to_rest_pair :
    (∃ bound, ∀ actions last,
      Trace subscribedPair.Step actions pairFirst last → Settling actions →
      (actions.filterMap NetworkAction.spreads).length ≤ bound) ∧
    ¬subscribedPair.AtRest pairPublished ∧
    ∃ action next, action.spreads = some .progress ∧
      subscribedPair.Step action pairPublished next := by
  obtain ⟨bounded, progresses⟩ := comes_to_rest operates_pairFirst
  exact ⟨bounded, pairPublished_not_atRest,
    progresses _ _ (.cons publishes_pair (.nil _))
      (fun _ member _ _ queue => pairPublished_queue member queue)
      pairPublished_not_atRest⟩

end Results

end PeerNetwork

end KoiNet
