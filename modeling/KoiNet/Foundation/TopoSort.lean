import KoiNet.Foundation.Dict
import KoiNet.Foundation.OrderedSet
import KoiNet.Foundation.Precedence

/-!
# Topological sorting

Kahn's algorithm on a dictionary of dependency sets.  A node is queued once
all its dependencies are listed, and each listed node lowers the degrees of
the nodes that depend on it.  The sort lists every node exactly if no node
has a dependency outside the dictionary and the dependencies have no cycle.
-/

namespace Foundation

/-- The order in which the members of a set are listed. -/
structure Iteration (α : Type) where
  order : List α → List α
  perm : ∀ items, (order items).Perm items

/-- Oldest first. -/
def Iteration.byAge (α : Type) : Iteration α :=
  { order := id
    perm := fun _ => .refl _ }

abbrev AdjList (α : Type) : Type := Dict α (OrderedSet α)

namespace AdjList

variable {α : Type} [DecidableEq α]

def neighbors (adj : AdjList α) (node : α) : OrderedSet α :=
  (adj.get? node).getD .empty

def DependsOn (adj : AdjList α) (node dependency : α) : Prop :=
  dependency ∈ adj.neighbors node

instance (adj : AdjList α) (node dependency : α) :
    Decidable (adj.DependsOn node dependency) :=
  inferInstanceAs (Decidable (dependency ∈ adj.neighbors node))

/-- `adj.setdefault(node, set())`. -/
def touch (adj : AdjList α) (node : α) : AdjList α :=
  adj.setDefault node .empty

/-- `adj.setdefault(node, set()); adj[node].add(neighbor)`. -/
def addNeighbor (neighbor : α) (adj : AdjList α) (node : α) : AdjList α :=
  adj.set node ((adj.neighbors node).add neighbor)

/-- The graph with every dependency turned round. -/
def reverse (iteration : Iteration α) (adj : AdjList α) : AdjList α :=
  adj.items.foldl
    (fun reversed item =>
      (iteration.order item.2.items).foldl (addNeighbor item.1)
        (touch reversed item.1))
    Dict.empty

/-- How far a sort has come. -/
structure Sorting (α : Type) where
  outDegree : Dict α Int
  queue : List α
  ordering : List α

/-- One dependency of the node is listed. -/
def Sorting.release (sorting : Sorting α) (node : α) : Sorting α :=
  let degree := (sorting.outDegree.get? node).getD 0 - 1
  { sorting with
    outDegree := sorting.outDegree.set node degree
    queue := if degree = 0 then sorting.queue ++ [node] else sorting.queue }

def Sorting.visit (iteration : Iteration α) (reversed : AdjList α)
    (sorting : Sorting α) (node : α) (rest : List α) : Sorting α :=
  (iteration.order (reversed.neighbors node).items).foldl Sorting.release
    { sorting with
      queue := rest
      ordering := sorting.ordering ++ [node] }

/-- `while queue`, for at most this many nodes. -/
def Sorting.loop (iteration : Iteration α) (reversed : AdjList α) :
    Nat → Sorting α → Sorting α
  | 0, sorting => sorting
  | fuel + 1, sorting =>
      match sorting.queue with
      | [] => sorting
      | node :: rest =>
          loop iteration reversed fuel
            (sorting.visit iteration reversed node rest)

/-- The number of dependencies of each node. -/
def degrees (adj : AdjList α) : Dict α Int :=
  { items := adj.items.map fun item => (item.1, (item.2.items.length : Int))
    nodup := by
      rw [List.map_map]
      exact adj.nodup }

def initial (adj : AdjList α) : Sorting α :=
  { outDegree := adj.degrees
    queue := (adj.degrees.items.filter fun item => item.2 = 0).map Prod.fst
    ordering := [] }

/-- The nodes in the order in which the sort lists them. -/
def sorted (iteration : Iteration α) (adj : AdjList α) : List α :=
  (Sorting.loop iteration (adj.reverse iteration) adj.keys.length
    adj.initial).ordering

theorem neighbors_touch (adj : AdjList α) (node other : α) :
    (adj.touch node).neighbors other = adj.neighbors other := by
  unfold touch Dict.setDefault neighbors
  cases stored : adj.get? node with
  | some set => rfl
  | none =>
      rw [Dict.get?_set]
      split
      · rename_i same
        rw [same, stored]
        rfl
      · rfl

theorem mem_neighbors_addNeighbor (adj : AdjList α)
    (neighbor node item other : α) :
    item ∈ (addNeighbor neighbor adj node).neighbors other ↔
      item ∈ adj.neighbors other ∨ (item = neighbor ∧ other = node) := by
  unfold addNeighbor neighbors
  rw [Dict.get?_set]
  by_cases same : other = node
  · simp [same, or_comm]
  · simp [same]

private theorem mem_neighbors_addNeighbors (nodes : List α) (adj : AdjList α)
    (neighbor item other : α) :
    item ∈ (nodes.foldl (addNeighbor neighbor) adj).neighbors other ↔
      item ∈ adj.neighbors other ∨ (item = neighbor ∧ other ∈ nodes) := by
  induction nodes generalizing adj with
  | nil => simp
  | cons node rest induction =>
      rw [List.foldl_cons, induction, mem_neighbors_addNeighbor,
        List.mem_cons]
      tauto

private theorem mem_neighbors_reverseItems (iteration : Iteration α)
    (items : List (α × OrderedSet α)) (adj : AdjList α) (item other : α) :
    item ∈ (items.foldl
        (fun reversed entry =>
          (iteration.order entry.2.items).foldl (addNeighbor entry.1)
            (touch reversed entry.1)) adj).neighbors other ↔
      item ∈ adj.neighbors other ∨
        ∃ set, (item, set) ∈ items ∧ other ∈ set := by
  induction items generalizing adj with
  | nil => simp
  | cons entry rest induction =>
      obtain ⟨node, set⟩ := entry
      rw [List.foldl_cons, induction, mem_neighbors_addNeighbors,
        neighbors_touch, (iteration.perm _).mem_iff, OrderedSet.mem_items]
      constructor
      · rintro ((inAdj | ⟨rfl, inSet⟩) | ⟨found, listed, inFound⟩)
        · exact .inl inAdj
        · exact .inr ⟨set, by simp, inSet⟩
        · exact .inr ⟨found, by simp [listed], inFound⟩
      · rintro (inAdj | ⟨found, listed, inFound⟩)
        · exact .inl (.inl inAdj)
        · rcases List.mem_cons.mp listed with same | inRest
          · cases same
            exact .inl (.inr ⟨rfl, inFound⟩)
          · exact .inr ⟨found, inRest, inFound⟩

theorem mem_neighbors_iff (adj : AdjList α) (node dependency : α) :
    dependency ∈ adj.neighbors node ↔
      ∃ set, (node, set) ∈ adj.items ∧ dependency ∈ set := by
  simp only [adj.mem_items_iff]
  unfold neighbors
  cases adj.get? node with
  | none => simp
  | some set => simp

theorem mem_neighbors_reverse (iteration : Iteration α) (adj : AdjList α)
    (node dependent : α) :
    dependent ∈ (adj.reverse iteration).neighbors node ↔
      adj.DependsOn dependent node := by
  unfold reverse DependsOn
  rw [mem_neighbors_reverseItems, adj.mem_neighbors_iff dependent node]
  simp [neighbors]

theorem mem_keys_of_dependsOn {adj : AdjList α} {node dependency : α}
    (depends : adj.DependsOn node dependency) : node ∈ adj.keys := by
  obtain ⟨set, listed, _⟩ := (adj.mem_neighbors_iff node dependency).mp depends
  exact List.mem_map.mpr ⟨_, listed, rfl⟩

/-- How many of a node's dependencies are not in the list. -/
def unmet (adj : AdjList α) (listed : List α) (node : α) : Nat :=
  ((adj.neighbors node).items.filter (· ∉ listed)).length

theorem unmet_eq_zero_iff (adj : AdjList α) (listed : List α) (node : α) :
    adj.unmet listed node = 0 ↔
      ∀ dependency, adj.DependsOn node dependency → dependency ∈ listed := by
  unfold unmet
  rw [List.length_eq_zero_iff, List.filter_eq_nil_iff]
  simp [DependsOn, OrderedSet.mem_items]

theorem unmet_append_singleton (adj : AdjList α) {listed : List α}
    {visited : α} (fresh : visited ∉ listed) (node : α) :
    adj.unmet listed node = adj.unmet (listed ++ [visited]) node +
      if adj.DependsOn node visited then 1 else 0 := by
  unfold unmet
  have nodup := (adj.neighbors node).nodup
  have erased : (adj.neighbors node).items.filter
        (· ∉ listed ++ [visited]) =
      ((adj.neighbors node).items.filter (· ∉ listed)).erase visited := by
    rw [(nodup.filter _).erase_eq_filter, List.filter_filter]
    apply List.filter_congr
    intro item _
    by_cases same : item = visited <;> simp [same]
  rw [erased]
  by_cases depends : adj.DependsOn node visited
  · have member : visited ∈
        (adj.neighbors node).items.filter (· ∉ listed) := by
      simpa [OrderedSet.mem_items, fresh, DependsOn] using depends
    have positive := List.length_pos_of_mem member
    rw [List.length_erase_of_mem member, if_pos depends]
    omega
  · have absent : visited ∉
        (adj.neighbors node).items.filter (· ∉ listed) := by
      intro member
      exact depends (List.mem_of_mem_filter member)
    rw [List.erase_of_not_mem absent, if_neg depends, Nat.add_zero]

/-- What releasing the nodes one after the other does. -/
theorem releases (nodes : List α) (nodup : nodes.Nodup)
    (sorting : Sorting α) :
    (nodes.foldl Sorting.release sorting).ordering = sorting.ordering ∧
    (∀ node, (nodes.foldl Sorting.release sorting).outDegree.get? node =
      if node ∈ nodes then
        some ((sorting.outDegree.get? node).getD 0 - 1)
      else
        sorting.outDegree.get? node) ∧
    (nodes.foldl Sorting.release sorting).queue =
      sorting.queue ++
        nodes.filter fun node => (sorting.outDegree.get? node).getD 0 = 1 := by
  induction nodes generalizing sorting with
  | nil => simp
  | cons head rest induction =>
      obtain ⟨fresh, distinct⟩ := List.nodup_cons.mp nodup
      obtain ⟨ordering, outDegree, queue⟩ :=
        induction distinct (sorting.release head)
      have kept : ∀ node, node ≠ head →
          (sorting.release head).outDegree.get? node =
            sorting.outDegree.get? node :=
        fun node different => Dict.get?_set_ne _ _ different
      rw [List.foldl_cons]
      refine ⟨ordering, ?_, ?_⟩
      · intro node
        rw [outDegree]
        by_cases same : node = head
        · subst same
          rw [if_neg fresh, if_pos (by simp)]
          exact Dict.get?_set_self _ _ _
        · rw [kept node same]
          simp [same]
      · have others : rest.filter (fun node =>
              ((sorting.release head).outDegree.get? node).getD 0 = 1) =
            rest.filter fun node =>
              (sorting.outDegree.get? node).getD 0 = 1 := by
          apply List.filter_congr
          intro node member
          rw [kept]
          rintro rfl
          exact fresh member
        rw [queue, others]
        unfold Sorting.release
        dsimp only
        by_cases last : (sorting.outDegree.get? head).getD 0 = 1
        · rw [if_pos (by omega), List.filter_cons_of_pos (by simpa using last),
            List.append_assoc]
          rfl
        · rw [if_neg (by omega), List.filter_cons_of_neg (by simpa using last)]

/-- The listed and queued nodes are those whose dependencies are listed. -/
structure Sorting.Valid (adj : AdjList α) (sorting : Sorting α) : Prop where
  nodup : (sorting.ordering ++ sorting.queue).Nodup
  keys : ∀ node ∈ sorting.ordering ++ sorting.queue, node ∈ adj.keys
  outDegree : ∀ node ∈ adj.keys, sorting.outDegree.get? node =
    some (adj.unmet sorting.ordering node : Int)
  ready : ∀ node ∈ adj.keys, node ∈ sorting.ordering ++ sorting.queue ↔
    adj.unmet sorting.ordering node = 0
  respects : Respects adj.DependsOn sorting.ordering

theorem get?_degrees {adj : AdjList α} {node : α}
    (member : node ∈ adj.keys) :
    adj.degrees.get? node = some (adj.unmet [] node : Int) := by
  obtain ⟨set, stored⟩ := adj.mem_keys_iff.mp member
  have listed := (adj.mem_items_iff).mpr stored
  rw [← Dict.mem_items_iff]
  refine List.mem_map.mpr ⟨_, listed, ?_⟩
  simp [unmet, neighbors, stored]

theorem initial_valid (adj : AdjList α) : adj.initial.Valid adj := by
  have queued : ∀ node, node ∈ adj.initial.queue ↔
      adj.degrees.get? node = some 0 := by
    intro node
    simp [initial, ← Dict.mem_items_iff]
  have sameKeys : adj.degrees.keys = adj.keys := by
    unfold Dict.keys degrees
    rw [List.map_map]
    rfl
  refine
    { nodup := ?_
      keys := ?_
      outDegree := fun node member => get?_degrees member
      ready := ?_
      respects := respects_nil }
  · exact adj.degrees.nodup.sublist (List.filter_sublist.map Prod.fst)
  · intro node member
    rw [← sameKeys, Dict.mem_keys_iff]
    exact ⟨0, (queued node).mp member⟩
  · intro node member
    change node ∈ [] ++ adj.initial.queue ↔ adj.unmet [] node = 0
    rw [List.nil_append, queued, get?_degrees member]
    simp

theorem Sorting.Valid.fresh {adj : AdjList α} {sorting : Sorting α}
    (valid : sorting.Valid adj) {node : α} {rest : List α}
    (queue : sorting.queue = node :: rest) : node ∉ sorting.ordering := by
  intro member
  have nodup := valid.nodup
  rw [queue] at nodup
  exact (List.nodup_append.mp nodup).2.2 node member node (by simp) rfl

/-- The node is listed, and the nodes for which it was the last unmet
dependency are queued. -/
structure Sorting.Visits (adj : AdjList α) (sorting : Sorting α) (node : α)
    (rest : List α) (visited : Sorting α) : Prop where
  ordering : visited.ordering = sorting.ordering ++ [node]
  outDegree : ∀ other ∈ adj.keys, visited.outDegree.get? other =
    some (adj.unmet (sorting.ordering ++ [node]) other : Int)
  queue : ∃ released : List α, visited.queue = rest ++ released ∧
    released.Nodup ∧ ∀ other, other ∈ released ↔
      adj.DependsOn other node ∧ adj.unmet sorting.ordering other = 1

theorem Sorting.Valid.visits {adj : AdjList α} {sorting : Sorting α}
    (valid : sorting.Valid adj) (iteration : Iteration α) {node : α}
    {rest : List α} (queue : sorting.queue = node :: rest) :
    sorting.Visits adj node rest
      (sorting.visit iteration (adj.reverse iteration) node rest) := by
  let dependents :=
    iteration.order ((adj.reverse iteration).neighbors node).items
  have isDependent : ∀ other, other ∈ dependents ↔
      adj.DependsOn other node := by
    intro other
    rw [(iteration.perm _).mem_iff, OrderedSet.mem_items,
      mem_neighbors_reverse]
  have distinct : dependents.Nodup :=
    (iteration.perm _).nodup_iff.mpr
      ((adj.reverse iteration).neighbors node).nodup
  have degree : ∀ other ∈ adj.keys,
      (sorting.outDegree.get? other).getD 0 =
        (adj.unmet sorting.ordering other : Int) := by
    intro other member
    rw [valid.outDegree other member]
    rfl
  have lowered := adj.unmet_append_singleton (valid.fresh queue)
  obtain ⟨ordering, outDegree, newQueue⟩ := releases dependents distinct
    { sorting with
      queue := rest
      ordering := sorting.ordering ++ [node] }
  refine
    { ordering := ordering
      outDegree := ?_
      queue := ⟨_, newQueue, distinct.filter _, ?_⟩ }
  · intro other member
    change (dependents.foldl Sorting.release _).outDegree.get? other = _
    rw [outDegree]
    dsimp only
    rw [degree other member, lowered other]
    by_cases depends : adj.DependsOn other node
    · rw [if_pos ((isDependent other).mpr depends), if_pos depends]
      simp
    · rw [if_neg (mt (isDependent other).mp depends),
        valid.outDegree other member, lowered other, if_neg depends,
        Nat.add_zero]
  · intro other
    rw [List.mem_filter, isDependent]
    apply and_congr_right
    intro depends
    rw [decide_eq_true_eq, degree other (mem_keys_of_dependsOn depends)]
    exact Int.ofNat_inj

theorem Sorting.Valid.visit {adj : AdjList α} {sorting : Sorting α}
    (valid : sorting.Valid adj) (iteration : Iteration α) {node : α}
    {rest : List α} (queue : sorting.queue = node :: rest) :
    (sorting.visit iteration (adj.reverse iteration) node rest).Valid adj := by
  obtain ⟨ordering, outDegree, released, newQueue, distinct, isReleased⟩ :=
    valid.visits iteration queue
  have nodup := valid.nodup
  have ready := valid.ready
  have inKeys := valid.keys
  rw [queue] at nodup ready inKeys
  have met : adj.unmet sorting.ordering node = 0 :=
    (ready node (inKeys node (by simp))).mp (by simp)
  have moved : (sorting.ordering ++ [node]) ++ (rest ++ released) =
      (sorting.ordering ++ node :: rest) ++ released := by simp
  refine
    { nodup := ?_
      keys := ?_
      outDegree := ?_
      ready := ?_
      respects := ?_ }
  · rw [ordering, newQueue, moved]
    refine nodup.append distinct ?_
    intro other listed member
    obtain ⟨depends, one⟩ := (isReleased other).mp member
    have zero := (ready other (inKeys other listed)).mp listed
    omega
  · rw [ordering, newQueue, moved]
    intro other member
    rcases List.mem_append.mp member with old | new
    · exact inKeys other old
    · exact mem_keys_of_dependsOn ((isReleased other).mp new).1
  · rw [ordering]
    exact outDegree
  · intro other member
    have step := adj.unmet_append_singleton (valid.fresh queue) other
    rw [ordering, newQueue, moved, List.mem_append, isReleased,
      ready other member]
    by_cases depends : adj.DependsOn other node
    · rw [if_pos depends] at step
      simp only [depends, true_and]
      omega
    · rw [if_neg depends] at step
      simp only [depends, false_and, or_false]
      omega
  · rw [ordering]
    exact valid.respects.append_singleton
      ((adj.unmet_eq_zero_iff _ _).mp met)

theorem Sorting.Valid.loop {adj : AdjList α} {iteration : Iteration α}
    {fuel : Nat} {sorting : Sorting α} (valid : sorting.Valid adj)
    (enough : adj.keys.length ≤ sorting.ordering.length + fuel) :
    (Sorting.loop iteration (adj.reverse iteration) fuel sorting).Valid adj ∧
      (Sorting.loop iteration (adj.reverse iteration) fuel sorting).queue =
        [] := by
  induction fuel generalizing sorting with
  | zero =>
      refine ⟨valid, ?_⟩
      have bounded := (valid.nodup.subperm valid.keys).length_le
      rw [List.length_append] at bounded
      rw [← List.length_eq_zero_iff]
      change sorting.queue.length = 0
      omega
  | succ fuel induction =>
      unfold Sorting.loop
      cases queue : sorting.queue with
      | nil => exact ⟨valid, queue⟩
      | cons node rest =>
          apply induction (valid.visit iteration queue)
          have listed : (sorting.visit iteration (adj.reverse iteration) node
              rest).ordering = sorting.ordering ++ [node] :=
            (releases _ ((iteration.perm _).nodup_iff.mpr
              ((adj.reverse iteration).neighbors node).nodup) _).1
          rw [listed, List.length_append, List.length_singleton]
          omega

variable (iteration : Iteration α) (adj : AdjList α)

theorem loop_drains :
    (Sorting.loop iteration (adj.reverse iteration) adj.keys.length
      adj.initial).queue = [] :=
  (adj.initial_valid.loop (Nat.le_add_left _ _)).2

private theorem sorted_valid :
    ∃ sorting : Sorting α, sorting.Valid adj ∧ sorting.queue = [] ∧
      sorting.ordering = adj.sorted iteration :=
  ⟨_, (adj.initial_valid.loop (Nat.le_add_left _ _)).1,
    adj.loop_drains iteration, rfl⟩

theorem sorted_respects :
    Respects adj.DependsOn (adj.sorted iteration) := by
  obtain ⟨sorting, valid, _, same⟩ := adj.sorted_valid iteration
  rw [← same]
  exact valid.respects

theorem sorted_subperm : (adj.sorted iteration).Subperm adj.keys := by
  obtain ⟨sorting, valid, drained, same⟩ := adj.sorted_valid iteration
  have nodup := valid.nodup
  have keys := valid.keys
  rw [drained, List.append_nil, same] at nodup keys
  exact nodup.subperm keys

/-- A node is listed exactly if all its dependencies are. -/
theorem mem_sorted_iff {node : α} (member : node ∈ adj.keys) :
    node ∈ adj.sorted iteration ↔ ∀ dependency,
      adj.DependsOn node dependency → dependency ∈ adj.sorted iteration := by
  obtain ⟨sorting, valid, drained, same⟩ := adj.sorted_valid iteration
  have ready := valid.ready node member
  rw [drained, List.append_nil, unmet_eq_zero_iff, same] at ready
  exact ready

/-- If every dependency is a node, the nodes that are not listed are those that
lead to a cycle. -/
theorem mem_sorted_iff_not_reachesCycle
    (closed : ∀ node dependency, adj.DependsOn node dependency →
      dependency ∈ adj.keys) {node : α} (member : node ∈ adj.keys) :
    node ∈ adj.sorted iteration ↔ ¬ReachesCycle adj.DependsOn node := by
  constructor
  · exact (adj.sorted_respects iteration).not_reachesCycle
  · intro acyclic
    by_contra unlisted
    let stuck := adj.keys.filter (· ∉ adj.sorted iteration)
    have isStuck : ∀ other, other ∈ stuck ↔
        other ∈ adj.keys ∧ other ∉ adj.sorted iteration := by
      intro other
      simp [stuck]
    refine acyclic (reachesCycle_of_stuck (fun other inStuck => ?_)
      ((isStuck node).mpr ⟨member, unlisted⟩))
    obtain ⟨isKey, absent⟩ := (isStuck other).mp inStuck
    rw [adj.mem_sorted_iff iteration isKey] at absent
    push Not at absent
    obtain ⟨dependency, depends, missing⟩ := absent
    exact ⟨dependency, (isStuck dependency).mpr
      ⟨closed other dependency depends, missing⟩, depends⟩

/-- The sort is complete exactly if every dependency is a node and there is no
cycle. -/
theorem sorted_complete_iff :
    (adj.sorted iteration).length = adj.keys.length ↔
      (∀ node dependency, adj.DependsOn node dependency →
        dependency ∈ adj.keys) ∧ ¬Cyclic adj.DependsOn := by
  have subperm := adj.sorted_subperm iteration
  constructor
  · intro complete
    have perm := subperm.perm_of_length_le (Nat.le_of_eq complete.symm)
    constructor
    · intro node dependency depends
      have listed := perm.mem_iff.mpr (mem_keys_of_dependsOn depends)
      exact perm.mem_iff.mp ((adj.mem_sorted_iff iteration
        (mem_keys_of_dependsOn depends)).mp listed dependency depends)
    · apply (adj.sorted_respects iteration).not_cyclic
      intro node dependency depends
      exact perm.mem_iff.mpr (mem_keys_of_dependsOn depends)
  · rintro ⟨closed, acyclic⟩
    have all : ∀ node ∈ adj.keys, node ∈ adj.sorted iteration := by
      intro node member
      rw [adj.mem_sorted_iff_not_reachesCycle iteration closed member]
      exact fun reaches =>
        acyclic (cyclic_iff_exists_reachesCycle.mpr ⟨node, reaches⟩)
    have nodup : adj.keys.Nodup := adj.nodup
    exact Nat.le_antisymm subperm.length_le (nodup.subperm all).length_le

end AdjList

end Foundation
