import KoiNet.Assembly.Correctness

/-!
# What sorting a graph gives

A graph whose dependencies are all nodes of it is either sorted completely, or
the error names the nodes that cannot be listed because they lead to a cycle.
-/

namespace KoiNet

open Foundation BuildArtifact

variable (iteration : Iteration String)

/-- Every dependency is a node of the graph. -/
def Closed (adj : AdjList String) : Prop :=
  ∀ node neighbor, adj.DependsOn node neighbor → neighbor ∈ adj.keys

theorem topoSort_of_acyclic {adj : AdjList String} (closed : Closed adj)
    (acyclic : ¬Cyclic adj.DependsOn) :
    ∃ ordering, topoSort iteration adj = .ok ordering ∧
      Orders (· ∈ adj.keys) adj.DependsOn ordering := by
  have complete := (adj.sorted_complete_iff iteration).mpr ⟨closed, acyclic⟩
  have returned : topoSort iteration adj = .ok (adj.sorted iteration) :=
    if_pos complete
  exact ⟨_, returned, orders_of_topoSort iteration returned fun _ => Iff.rfl⟩

theorem topoSort_of_cyclic {adj : AdjList String} (closed : Closed adj)
    (cyclic : Cyclic adj.DependsOn) :
    ∃ nodes, topoSort iteration adj = .error (.cycle nodes) ∧
      ∀ node, node ∈ nodes ↔ ReachesCycle adj.DependsOn node := by
  have incomplete :
      ¬(adj.sorted iteration).length = adj.keys.length := fun complete =>
    ((adj.sorted_complete_iff iteration).mp complete).2 cyclic
  refine ⟨_, if_neg incomplete, fun node => ?_⟩
  rw [List.mem_filter, decide_eq_true_eq]
  constructor
  · intro left
    obtain ⟨member, unlisted⟩ := left
    rw [adj.mem_sorted_iff_not_reachesCycle iteration closed member] at unlisted
    exact not_not.mp unlisted
  · intro reaches
    obtain ⟨_, depends⟩ := reaches.depends
    have member := AdjList.mem_keys_of_dependsOn depends
    refine ⟨member, ?_⟩
    rw [adj.mem_sorted_iff_not_reachesCycle iteration closed member]
    exact not_not.mpr reaches

/-- The loop of the sort always ends.  A closed graph is sorted completely if
it has no cycle; otherwise the error names the nodes that lead to one. -/
theorem topoSort_sorts (adj : AdjList String) :
    (AdjList.Sorting.loop iteration (adj.reverse iteration) adj.keys.length
        adj.initial).queue = [] ∧
      (Closed adj →
        (¬Cyclic adj.DependsOn →
          ∃ ordering, topoSort iteration adj = .ok ordering ∧
            Orders (· ∈ adj.keys) adj.DependsOn ordering) ∧
        (Cyclic adj.DependsOn →
          ∃ nodes, topoSort iteration adj = .error (.cycle nodes) ∧
            ∀ node, node ∈ nodes ↔ ReachesCycle adj.DependsOn node)) :=
  ⟨adj.loop_drains iteration, fun closed =>
    ⟨topoSort_of_acyclic iteration closed,
      topoSort_of_cyclic iteration closed⟩⟩

/-- Two nodes that depend on each other, one that depends on them, and one
that depends on nothing. -/
def knot : AdjList String :=
  Dict.ofItems
    [("left", .ofList ["right"]), ("right", .ofList ["left"]),
      ("above", .ofList ["left", "apart"]), ("apart", .empty)]

theorem topoSort_sorts_knot :
    ∃ nodes, topoSort (.byAge String) knot = .error (.cycle nodes) ∧
      ∀ node, node ∈ nodes ↔ ReachesCycle knot.DependsOn node := by
  have listedClosed : ∀ item ∈ knot.items, ∀ neighbor ∈ item.2.items,
      neighbor ∈ knot.keys := by decide
  have closed : Closed knot := by
    intro node neighbor depends
    obtain ⟨set, listed, member⟩ :=
      (AdjList.mem_neighbors_iff knot node neighbor).mp depends
    exact listedClosed _ listed _ member
  have onward : knot.DependsOn "left" "right" := by decide
  have back : knot.DependsOn "right" "left" := by decide
  exact ((topoSort_sorts (.byAge String) knot).2 closed).2
    ⟨"left", .tail (.single onward) back⟩

end KoiNet
