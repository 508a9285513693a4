import KoiNet.Components.Node

/-!
# The network graph

A directed graph over the cached nodes and edges, rebuilt from the cache
whenever a node or an edge changes.  Rebuilding stops with an exception at
the first cached edge whose contents are not an edge profile.
-/

namespace KoiNet

open Foundation

inductive Direction where
  | incoming
  | outgoing
  deriving DecidableEq, Repr

namespace NetworkGraph

def addRid (rid : RID) : NodeM Unit :=
  match rid with
  | .node nodeRid =>
      Effect.modify fun state => { state with dg := state.dg.addNode nodeRid }
  | .edge edgeRid => do
      let state ← Effect.get
      match state.cache.read rid with
      | none => pure ()
      | some edgeBundle =>
          let edgeProfile ←
            edgeBundle.validateContents EdgeProfile.modelValidate
          Effect.modify fun state =>
            { state with
              dg := state.dg.addEdge edgeProfile.source edgeProfile.target
                edgeRid }
  | .other _ _ => pure ()

def generate (node : Node) : NodeM Unit := do
  Effect.modify fun state => { state with dg := DiGraph.empty }
  let rids ← Cache.list node []
  Effect.forEach rids addRid

def start (node : Node) : NodeM Unit :=
  generate node

def getEdge (source target : KoiNetNode) : NodeM (Option KoiNetEdge) := do
  let state ← Effect.get
  return state.dg.getEdgeData source target

/-- `dg.out_edges(identity.rid)` or `dg.in_edges(identity.rid)`, asked only
of a graph that has edges. -/
def adjacentEdges (wanted : Bool) (dg : DiGraph KoiNetNode KoiNetEdge)
    (adjacent : Option (List (KoiNetNode × KoiNetNode))) :
    NodeM (List (KoiNetNode × KoiNetNode)) :=
  if wanted && !dg.edges.keys.isEmpty then
    match adjacent with
    | some edges => pure edges
    | none => Effect.raise .networkXError
  else
    pure []

def getEdges (node : Node) (direction : Option Direction) :
    NodeM (List KoiNetEdge) := do
  let state ← Effect.get
  let outEdges ← adjacentEdges
    (direction = none || direction = some .outgoing) state.dg
    (state.dg.outEdges node.rid)
  let inEdges ← adjacentEdges
    (direction = none || direction = some .incoming) state.dg
    (state.dg.inEdges node.rid)
  return (outEdges ++ inEdges).filterMap fun edge =>
    state.dg.getEdgeData edge.1 edge.2

/-- The other end point of an edge of this node, if the edge has the status
and lists the type asked for. -/
def neighborOf (node : Node) (status : Option EdgeStatus)
    (allowedType : Option RIDType) (edgeProfile : EdgeProfile) :
    Option KoiNetNode :=
  if status.any (edgeProfile.status ≠ ·) then none
  else if allowedType.any (· ∉ edgeProfile.ridTypes) then none
  else if edgeProfile.target = node.rid then some edgeProfile.source
  else if edgeProfile.source = node.rid then some edgeProfile.target
  else none

def collectNeighbors (node : Node) (status : Option EdgeStatus)
    (allowedType : Option RIDType) :
    List KoiNetEdge → List KoiNetNode → NodeM (List KoiNetNode)
  | [], neighbors => pure neighbors
  | edgeRid :: rest, neighbors => do
      let state ← Effect.get
      match state.cache.read (.edge edgeRid) with
      | none => collectNeighbors node status allowedType rest neighbors
      | some edgeBundle =>
          let edgeProfile ←
            edgeBundle.validateContents EdgeProfile.modelValidate
          match neighborOf node status allowedType edgeProfile with
          | none => collectNeighbors node status allowedType rest neighbors
          | some neighbor =>
              collectNeighbors node status allowedType rest
                (neighbors.insert neighbor)

def getNeighbors (node : Node) (direction : Option Direction)
    (status : Option EdgeStatus) (allowedType : Option RIDType) :
    NodeM (List KoiNetNode) := do
  let edges ← getEdges node direction
  collectNeighbors node status allowedType edges []

end NetworkGraph

end KoiNet
