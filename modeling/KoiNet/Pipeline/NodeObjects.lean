import KoiNet.Pipeline.Chores

/-!
# Processing an object about another node

After the cache action the graph is rebuilt, the node is contacted, and the
edges of a forgotten node are queued.  Where asking the node brings no RIDs,
all that is queued are chores, and which ones is a function of the cache.
-/

namespace KoiNet

open Foundation Frame KnowledgePipeline

/-- Asked for RIDs the node answers with none, or not at all. -/
def BringsNoRids (node : Node) (peer : KoiNetNode) : Prop :=
  ∀ state url request result,
    node.answer state url peer .fetchRids request = .received result →
    (∃ payload, result = .ok payload ∧ payload.rids = []) ∨
      ∃ failure, result = .error failure ∧ failure.isRequestError = true

/-- Asked for RIDs the node answers with none. -/
def AnswersNoRids (node : Node) (peer : KoiNetNode) : Prop :=
  ∀ state url request, ∃ payload,
    node.answer state url peer .fetchRids request = .received (.ok payload) ∧
    payload.rids = []

/-- The URL for requests to the node is known or its lack raises a
`RequestError`. -/
def Resolves (node : Node) (cache : Cache) (peer : KoiNetNode) : Prop :=
  (∃ url, RequestHandler.resolve node cache peer = .ok (some url)) ∨
    ∃ error, RequestHandler.resolve node cache peer = .error (.request error)

/-- There is no URL, and a request raises a `TypeError`. -/
def Unaddressed (node : Node) (cache : Cache) (peer : KoiNetNode) : Prop :=
  RequestHandler.resolve node cache peer = .ok none

/-- A request adds nothing to the queue but FORGET objects for its target. -/
structure Asks (peer : KoiNetNode) (before after : NodeState) : Prop where
  cache : after.cache = before.cache
  dg : after.dg = before.dg
  clockReads : after.clockReads = before.clockReads
  queued : ∃ count, after.kobjQueue = before.kobjQueue ++
    List.replicate count (.fromRid (.node peer) (some .forget) none)

theorem AnswersNoRids.brings {node : Node} {peer : KoiNetNode}
    (answers : AnswersNoRids node peer) : BringsNoRids node peer := by
  intro state url request result received
  obtain ⟨payload, answered, empty⟩ := answers state url request
  cases answered.symm.trans received
  exact .inl ⟨payload, rfl, empty⟩

section Requests

variable {node : Node} {peer : KoiNetNode}

section Resolving

variable {cache : Cache}

/-- Over a valid cache no third case is left. -/
theorem resolves_or_unaddressed (valid : ValidCache node cache) :
    Resolves node cache peer ∨ Unaddressed node cache peer := by
  unfold Resolves Unaddressed
  cases resolved : RequestHandler.resolve node cache peer with
  | ok url =>
      cases url with
      | none => exact .inr rfl
      | some url => exact .inl (.inl ⟨url, rfl⟩)
  | error failure =>
      unfold RequestHandler.resolve at resolved
      cases read : cache.read (.node peer) with
      | none =>
          rw [read] at resolved
          dsimp only at resolved
          split at resolved
          · cases resolved
          · cases resolved
            exact .inl (.inr ⟨_, rfl⟩)
      | some bundle =>
          obtain ⟨profile, validated⟩ := valid.nodes peer bundle read
          rw [read] at resolved
          dsimp only at resolved
          rw [validated] at resolved
          dsimp only at resolved
          split at resolved
          · cases resolved
            exact .inl (.inr ⟨_, rfl⟩)
          · cases resolved

/-- Of the nodes that are not cached only the first contact can lack a URL. -/
theorem unaddressed_uncached_iff (absent : cache.read (.node peer) = none) :
    Unaddressed node cache peer ↔
      node.config.firstContact.rid = some peer ∧
        node.config.firstContact.url = none := by
  unfold Unaddressed RequestHandler.resolve
  rw [absent]
  dsimp only
  constructor
  · intro resolved
    split at resolved
    · rename_i first
      cases unset : node.config.firstContact.url with
      | none => exact ⟨first.symm, rfl⟩
      | some url =>
          rw [unset] at resolved
          cases resolved
    · cases resolved
  · intro unset
    rw [if_pos unset.1.symm, unset.2]

theorem unaddressed_cached_iff {profile : NodeProfile}
    (cached : cache.nodeProfile peer = some profile) :
    Unaddressed node cache peer ↔
      profile.nodeType = .full ∧ profile.baseUrl = none := by
  obtain ⟨bundle, read, validated⟩ := Cache.nodeProfile_eq_some_iff.mp cached
  unfold Unaddressed RequestHandler.resolve
  rw [read]
  dsimp only
  rw [validated]
  dsimp only
  constructor
  · intro resolved
    split at resolved
    · cases resolved
    · rename_i full
      cases unset : profile.baseUrl with
      | none => exact ⟨not_not.mp full, rfl⟩
      | some url =>
          rw [unset] at resolved
          cases resolved
  · intro unset
    rw [if_neg (not_not.mpr unset.1), unset.2]

end Resolving

end Requests

/-- The chores are queued, and the cache stays as it is. -/
structure Adds (node : Node) (chores : List Chore)
    (before after : NodeState) : Prop where
  cache : after.cache = before.cache
  queue : after.kobjQueue = before.kobjQueue ++ chores.map (Chore.kobj node)
  clockReads : after.clockReads =
    before.clockReads + chores.countP Chore.isProposal

namespace Adds

variable {node : Node} {first second third : NodeState}

theorem of_same (cache : second.cache = first.cache)
    (queue : second.kobjQueue = first.kobjQueue)
    (clockReads : second.clockReads = first.clockReads) :
    Adds node [] first second :=
  { cache := cache
    queue := by simp [queue]
    clockReads := by simp [clockReads] }

theorem trans {early late : List Chore} (left : Adds node early first second)
    (right : Adds node late second third) :
    Adds node (early ++ late) first third :=
  { cache := right.cache.trans left.cache
    queue := by
      rw [right.queue, left.queue, List.map_append, List.append_assoc]
    clockReads := by
      rw [right.clockReads, left.clockReads, List.countP_append,
        Nat.add_assoc] }

end Adds

/-- The node is forgotten once more, as often as asking it has failed too
often. -/
def forgottenAgain (peer : KoiNetNode) (count : Nat) : List Chore :=
  List.replicate count (.forget (.node peer))

theorem Asks.adds {node : Node} {peer : KoiNetNode}
    {before after : NodeState} (asks : Asks peer before after) :
    ∃ count, Adds node (forgottenAgain peer count) before after := by
  obtain ⟨count, queued⟩ := asks.queued
  refine
    ⟨count,
      { cache := asks.cache
        queue := ?_
        clockReads := ?_ }⟩
  · rw [queued, forgottenAgain, List.map_replicate]
    rfl
  · rw [asks.clockReads, forgottenAgain, List.countP_replicate]
    rfl

/-- The edge that is proposed to a node with this profile, if any. -/
def contactProposal (node : Node) (cache : Cache) (peer : KoiNetNode)
    (profile : NodeProfile) : Option Proposal :=
  if profile.nodeType = .partialNode then none
  else if NodeContactHandler.availableRidTypes node profile = [] then none
  else proposes node cache peer
    (NodeContactHandler.availableRidTypes node profile)

/-- The chore of proposing it. -/
def contactChores (node : Node) (cache : Cache) (clockReads : Nat)
    (peer : KoiNetNode) (profile : NodeProfile) : List Chore :=
  match contactProposal node cache peer profile with
  | none => []
  | some proposal => [.propose proposal clockReads]

section Contact

variable {node : Node} {peer : KoiNetNode} {state : NodeState}

end Contact

/-- The RID is that of a cached edge of the node. -/
def Cache.joins (cache : Cache) (peer : KoiNetNode) : RID → Bool
  | .edge edgeRid =>
      match cache.edgeProfile edgeRid with
      | some profile => profile.source = peer ∨ profile.target = peer
      | none => false
  | _ => false

/-- The chores of forgetting those of the listed edges that join the node. -/
def forgetListed (cache : Cache) (peer : KoiNetNode) (rids : List RID) :
    List Chore :=
  (rids.filter (cache.joins peer)).map .forget

/-- The chores of forgetting the cached edges of a node. -/
def forgetChores (node : Node) (cache : Cache) (peer : KoiNetNode) :
    List Chore :=
  forgetListed cache peer (cache.listRids node.listdir.order [.koiNetEdge])

section Forget

variable {node : Node} {peer : KoiNetNode} {state : NodeState}

end Forget

section Publish

variable {node : Node} (registry : Registry node) {peer : KoiNetNode}
  {kobj : KnowledgeObject} {bundle : Bundle} {profile : NodeProfile}
  {state : NodeState}

/-- An object about a node with a bundle of its own. -/
structure BringsNode (kobj : KnowledgeObject) (peer : KoiNetNode)
    (bundle : Bundle) (profile : NodeProfile) : Prop where
  isNode : kobj.rid = .node peer
  hasManifest : kobj.manifest = some bundle.manifest
  hasContents : kobj.contents = some bundle.contents
  validated : NodeProfile.modelValidate bundle.contents = some profile
  named : bundle.manifest.rid = .node peer
  typed : kobj.eventType = some .new

theorem BringsNode.nonempty (brings : BringsNode kobj peer bundle profile) :
    bundle.contents ≠ [] := by
  intro empty
  have validated := brings.validated
  rw [empty] at validated
  cases validated

end Publish

end KoiNet
