import KoiNet.Membership.Forgetting

/-!
# The edge to a node that comes back

Which edge from a provider is cached at the end of a handshake: the edges from
before, the edge proposed on the FORGET event and the edge proposed on the NEW
event are put into the cache and taken out of it one after the other.
-/

namespace KoiNet

open Foundation

/-- There is a cached edge from the provider to this node for exactly these
types. -/
def Cache.Subscribed (cache : Cache) (provider subscriber : KoiNetNode)
    (ridTypes : List RIDType) : Prop :=
  ∃ edgeRid edge, cache.edgeProfile edgeRid = some edge ∧
    edge.source = provider ∧ edge.target = subscriber ∧
    edge.ridTypes.toFinset = ridTypes.toFinset

/-- What the FORGET event of a known node queues. -/
def forgetFirst (node : Node) (cache : Cache) (clockReads : Nat)
    (peer : KoiNetNode) (old : NodeProfile) : List Chore :=
  contactChores node (cache.delete (.node peer)) clockReads peer old ++
    forgetChores node (cache.delete (.node peer)) peer

section Contact

variable {node : Node} {cache scanned : Cache} {peer : KoiNetNode}
  {profile : NodeProfile} {proposal : Proposal} {clockReads : Nat}

end Contact

section Joining

variable {node : Node} {state : NodeState} {peer : KoiNetNode}
  {own : Bundle} {profile : NodeProfile}

end Joining

section Rejoining

variable {node : Node} {cache : Cache} {peer : KoiNetNode} {own : Bundle}
  {old profile : NodeProfile} {clockReads : Nat} {edgeRid : KoiNetEdge}

end Rejoining

section Rejoined

variable {node : Node} {state : NodeState} {peer : KoiNetNode}
  {own : Bundle} {old profile : NodeProfile}

end Rejoined

end KoiNet
