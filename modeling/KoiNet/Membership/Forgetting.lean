import KoiNet.Membership.Aftermath
import KoiNet.Pipeline.Validity

/-!
# Forgetting a node

The object that deletes a node's profile also contacts the node, which may
propose an edge to it, before the cached edges of the node are queued to be
forgotten.  The proposal stays if it takes an RID that none of these edges
has.
-/

namespace KoiNet

open Foundation KnowledgePipeline

/-- The URL of the first contact is configured if an edge is proposed to it
while it is not cached. -/
def Locatable (node : Node) (cache : Cache) (peer : KoiNetNode)
    (profile : NodeProfile) : Prop :=
  contactProposal node (cache.delete (.node peer)) peer profile ≠ none →
    node.config.firstContact.rid = some peer →
    node.config.firstContact.url ≠ none

section Forgetting

variable {node : Node} (registry : Registry node) {peer : KoiNetNode}
  {profile : NodeProfile} {cache : Cache}

theorem Locatable.resolves (valid : ValidCache node cache)
    (other : peer ≠ node.rid)
    (locatable : Locatable node cache peer profile)
    (proposed : contactProposal node (cache.delete (.node peer)) peer profile ≠
      none) : Resolves node (cache.delete (.node peer)) peer := by
  rcases resolves_or_unaddressed (valid.delete_node other) with
    resolves | unaddressed
  · exact resolves
  · obtain ⟨first, unset⟩ :=
      (unaddressed_uncached_iff (Cache.read_delete_self _ _)).mp unaddressed
    exact (locatable proposed first unset).elim

end Forgetting

/-- The profile of a full node that provides events about nodes. -/
def providerProfile (baseUrl publicKey : String) : Contents :=
  ("provides", .dict [("event", .list [.ridType .koiNetNode])]) ::
    fullProfile baseUrl publicKey

/-- A bundle whose hash and timestamp do not matter. -/
def bundleOf (rid : RID) (contents : Contents) : Bundle :=
  { manifest := { rid, timestamp := 0, sha256Hash := "" }, contents }

/-- A node that knows one provider. -/
def acquainted (peer : KoiNetNode) : Cache :=
  (Cache.empty.write (bundleOf (.node Node.standalone.rid)
    (fullProfile "url" "h"))).write
      (bundleOf (.node peer) (providerProfile "peer-url" "key"))

end KoiNet
