import KoiNet.Foundation.Dict

/-!
# Directed graphs with labelled edges

At most one edge joins a source to a target, adding it again replaces its
label.  Adding an edge also adds its two end points.  Asking for the edges at
a node that the graph does not contain is an error.
-/

namespace Foundation

structure DiGraph (ν l : Type) where
  nodes : List ν
  edges : Dict (ν × ν) l

namespace DiGraph

variable {ν l : Type} [DecidableEq ν]

def empty : DiGraph ν l :=
  { nodes := []
    edges := Dict.empty }

def addNode (graph : DiGraph ν l) (node : ν) : DiGraph ν l :=
  { graph with nodes := graph.nodes.insert node }

def addEdge (graph : DiGraph ν l) (source target : ν) (label : l) :
    DiGraph ν l :=
  { nodes := (graph.nodes.insert source).insert target
    edges := graph.edges.set (source, target) label }

def getEdgeData (graph : DiGraph ν l) (source target : ν) : Option l :=
  graph.edges.get? (source, target)

/-- The edges leaving `node`, or `none` if the graph has no such node. -/
def outEdges (graph : DiGraph ν l) (node : ν) : Option (List (ν × ν)) :=
  if node ∈ graph.nodes then
    some (graph.edges.keys.filter fun edge => edge.1 = node)
  else
    none

/-- The edges entering `node`, or `none` if the graph has no such node. -/
def inEdges (graph : DiGraph ν l) (node : ν) : Option (List (ν × ν)) :=
  if node ∈ graph.nodes then
    some (graph.edges.keys.filter fun edge => edge.2 = node)
  else
    none

@[simp] theorem mem_addNode {graph : DiGraph ν l} {node other : ν} :
    other ∈ (graph.addNode node).nodes ↔
      other = node ∨ other ∈ graph.nodes := by
  simp [addNode]

@[simp] theorem mem_addEdge {graph : DiGraph ν l} {source target other : ν}
    {label : l} :
    other ∈ (graph.addEdge source target label).nodes ↔
      other = target ∨ other = source ∨ other ∈ graph.nodes := by
  simp [addEdge]

@[simp] theorem getEdgeData_addNode (graph : DiGraph ν l) (node : ν)
    (source target : ν) :
    (graph.addNode node).getEdgeData source target =
      graph.getEdgeData source target :=
  rfl

theorem getEdgeData_addEdge (graph : DiGraph ν l) (source target : ν)
    (label : l) (otherSource otherTarget : ν) :
    (graph.addEdge source target label).getEdgeData otherSource otherTarget =
      if (otherSource, otherTarget) = (source, target) then some label
      else graph.getEdgeData otherSource otherTarget :=
  graph.edges.get?_set (source, target) (otherSource, otherTarget) label

end DiGraph

end Foundation
