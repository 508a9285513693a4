import KoiNet.Assembly.Graphs

/-!
# What depends on what

Three relations between the components of an assembly say what has to be
initialised, started and stopped before what.  The init graph agrees with the
first.  The other graphs agree with theirs unless a singleton declares a
dependency on a component that has the method in question and is not a
singleton: that dependency is kept in the graph, which has no entry for it.
-/

namespace KoiNet

open Foundation BuildArtifact

section Relations

variable (compDict : Dict String Component) (declarations : Declarations)

/-- Constructor dependencies among defined components. -/
def InitDependsOn (compName dependency : String) : Prop :=
  ∃ comp, compDict.get? compName = some comp ∧ comp.type = .singleton ∧
    dependency ∈ comp.parameters ∧ dependency ∈ compDict.keys

/-- The singletons with a method of this name. -/
def IsHooked (name : MethodName) (compName : String) : Prop :=
  ∃ method, Hooked compDict name compName method

/-- A dependency declared on the method of a singleton. -/
def Declares (name : MethodName) (compName dependency : String) : Prop :=
  ∃ method dependencies, Hooked compDict name compName method ∧
    declarations.get? method = some dependencies ∧
    dependency ∈ dependencies

/-- Declared start dependencies among singletons with a start method. -/
def StartDependsOn (compName dependency : String) : Prop :=
  Declares compDict declarations .start compName dependency ∧
    IsHooked compDict .start dependency

/-- Stop dependencies among singletons with a stop method: the declared ones,
or the reversed start dependencies if none are declared. -/
def StopDependsOn (compName dependency : String) : Prop :=
  IsHooked compDict .stop dependency ∧
    ∃ method, Hooked compDict .stop compName method ∧
      match declarations.get? method with
      | some dependencies => dependency ∈ dependencies
      | none => StartDependsOn compDict declarations dependency compName

/-- Some singleton declares a dependency on a component that has a method of
this name but is no singleton. -/
def Dangling (name : MethodName) : Prop :=
  ∃ compName dependency, Declares compDict declarations name compName
      dependency ∧
    dependency ∈ componentsWith compDict name ∧
    ¬IsHooked compDict name dependency

def SomeCycle : Prop :=
  Cyclic (InitDependsOn compDict) ∨
    Cyclic (StartDependsOn compDict declarations) ∨
    Cyclic (StopDependsOn compDict declarations)

end Relations

variable {compDict : Dict String Component} {declarations : Declarations}

theorem keys_buildInitGraph :
    (buildInitGraph compDict).keys = compDict.keys :=
  compDict.keys_ofItems_map _

theorem dependsOn_buildInitGraph :
    (buildInitGraph compDict).DependsOn = InitDependsOn compDict := by
  funext compName dependency
  unfold AdjList.DependsOn InitDependsOn
  rw [eq_iff_iff, AdjList.mem_neighbors_iff]
  simp only [Dict.mem_items_iff, buildInitGraph, Dict.get?_ofItems_map]
  constructor
  · rintro ⟨_, ⟨comp, stored, rfl⟩, member⟩
    unfold initDependencies at member
    cases isType : comp.type with
    | singleton =>
        rw [isType] at member
        obtain ⟨parameter, defined⟩ := OrderedSet.mem_within.mp member
        exact ⟨comp, stored, isType, OrderedSet.mem_ofList.mp parameter,
          defined⟩
    | object =>
        rw [isType] at member
        exact absurd member (OrderedSet.not_mem_empty dependency)
  · rintro ⟨comp, stored, isType, parameter, defined⟩
    refine ⟨_, ⟨comp, stored, rfl⟩, ?_⟩
    unfold initDependencies
    rw [isType]
    exact OrderedSet.mem_within.mpr
      ⟨OrderedSet.mem_ofList.mpr parameter, defined⟩
theorem mem_keys_graph {name : MethodName} {compName : String}
    {default : String → OrderedSet String} :
    compName ∈ (graphOf declarations compDict name default).keys ↔
      IsHooked compDict name compName :=
  mem_keys_graphOf declarations compDict

theorem dependsOn_startGraph_iff {compName dependency : String} :
    (startGraphOf declarations compDict).DependsOn compName dependency ↔
      Declares compDict declarations .start compName dependency ∧
        dependency ∈ componentsWith compDict .start := by
  unfold startGraphOf Declares
  rw [dependsOn_graphOf]
  constructor
  · rintro ⟨method, hooked, isComponent, declared⟩
    refine ⟨⟨method, ?_⟩, isComponent⟩
    cases found : declarations.get? method with
    | none =>
        rw [found] at declared
        exact absurd declared (OrderedSet.not_mem_empty dependency)
    | some dependencies =>
        rw [found] at declared
        exact ⟨dependencies, hooked, rfl, declared⟩
  · rintro ⟨⟨method, dependencies, hooked, found, declared⟩, isComponent⟩
    refine ⟨method, hooked, isComponent, ?_⟩
    rw [found]
    exact declared

theorem dependsOn_stopGraph_iff (iteration : Iteration String)
    {compName dependency : String} :
    (stopGraphOf declarations compDict iteration).DependsOn compName
        dependency ↔
      dependency ∈ componentsWith compDict .stop ∧
        ∃ method, Hooked compDict .stop compName method ∧
          match declarations.get? method with
          | some dependencies => dependency ∈ dependencies
          | none =>
              (startGraphOf declarations compDict).DependsOn dependency
                compName := by
  unfold stopGraphOf
  rw [dependsOn_graphOf]
  constructor
  · rintro ⟨method, hooked, isComponent, declared⟩
    refine ⟨isComponent, method, hooked, ?_⟩
    cases found : declarations.get? method with
    | none =>
        rw [found] at declared
        exact (AdjList.mem_neighbors_reverse iteration _ _ _).mp declared
    | some dependencies =>
        rw [found] at declared
        exact declared
  · rintro ⟨isComponent, method, hooked, declared⟩
    refine ⟨method, hooked, isComponent, ?_⟩
    cases found : declarations.get? method with
    | none =>
        rw [found] at declared
        exact (AdjList.mem_neighbors_reverse iteration _ _ _).mpr declared
    | some dependencies =>
        rw [found] at declared
        exact declared

private theorem isHooked_iff {name : MethodName} {compName : String} :
    IsHooked compDict name compName ↔
      ∃ comp, compDict.get? compName = some comp ∧ comp.type = .singleton ∧
        (comp.method name).isSome := by
  unfold IsHooked Hooked hookOf
  constructor
  · rintro ⟨method, comp, stored, hook⟩
    split at hook
    · rename_i isType
      exact ⟨comp, stored, isType, by rw [hook]; rfl⟩
    · cases hook
  · rintro ⟨comp, stored, isType, isMethod⟩
    obtain ⟨method, found⟩ := Option.isSome_iff_exists.mp isMethod
    refine ⟨method, comp, stored, ?_⟩
    rw [isType]
    exact found

/-- A singleton has every method that it has as a component. -/
private theorem isHooked_of_isHooked {name other : MethodName}
    {compName : String} (hooked : IsHooked compDict name compName)
    (isComponent : compName ∈ componentsWith compDict other) :
    IsHooked compDict other compName := by
  obtain ⟨comp, stored, isType, _⟩ := isHooked_iff.mp hooked
  obtain ⟨_, again, isMethod⟩ := mem_componentsWith.mp isComponent
  cases stored.symm.trans again
  exact isHooked_iff.mpr ⟨comp, stored, isType, isMethod⟩

theorem Declares.isHooked {name : MethodName} {compName dependency : String}
    (declares : Declares compDict declarations name compName dependency) :
    IsHooked compDict name compName := by
  obtain ⟨method, _, hooked, _⟩ := declares
  exact ⟨method, hooked⟩

theorem dependsOn_startGraph
    (closed : ¬Dangling compDict declarations .start) :
    (startGraphOf declarations compDict).DependsOn =
      StartDependsOn compDict declarations := by
  funext compName dependency
  rw [eq_iff_iff, dependsOn_startGraph_iff]
  constructor
  · rintro ⟨declares, isComponent⟩
    refine ⟨declares, ?_⟩
    by_contra unhooked
    exact closed ⟨compName, dependency, declares, isComponent, unhooked⟩
  · rintro ⟨declares, method, hooked⟩
    exact ⟨declares, hooked.mem_componentsWith⟩

theorem dependsOn_stopGraph (iteration : Iteration String)
    (startClosed : ¬Dangling compDict declarations .start)
    (closed : ¬Dangling compDict declarations .stop) :
    (stopGraphOf declarations compDict iteration).DependsOn =
      StopDependsOn compDict declarations := by
  funext compName dependency
  rw [eq_iff_iff, dependsOn_stopGraph_iff, dependsOn_startGraph startClosed]
  unfold StopDependsOn
  constructor
  · rintro ⟨isComponent, method, hooked, declared⟩
    refine ⟨?_, method, hooked, declared⟩
    cases found : declarations.get? method with
    | none =>
        rw [found] at declared
        exact isHooked_of_isHooked declared.1.isHooked isComponent
    | some dependencies =>
        rw [found] at declared
        by_contra unhooked
        exact closed ⟨compName, dependency,
          ⟨method, dependencies, hooked, found, declared⟩, isComponent,
          unhooked⟩
  · rintro ⟨⟨_, isHooked⟩, depends⟩
    exact ⟨isHooked.mem_componentsWith, depends⟩

variable (iteration : Iteration String)

/-- Some dependency has no entry in the graph. -/
def OpenEnded (adj : AdjList String) : Prop :=
  ∃ compName dependency, adj.DependsOn compName dependency ∧
    dependency ∉ adj.keys

theorem topoSort_raises_iff (adj : AdjList String) :
    (∃ error, topoSort iteration adj = .error error) ↔
      OpenEnded adj ∨ Cyclic adj.DependsOn := by
  have complete := adj.sorted_complete_iff iteration
  have raises : (∃ error, topoSort iteration adj = .error error) ↔
      ¬(adj.sorted iteration).length = adj.keys.length := by
    unfold topoSort
    dsimp only
    split
    · rename_i same
      simp [same]
    · rename_i different
      simp [different]
  rw [raises, complete, not_and_or, not_not]
  apply or_congr_left
  unfold OpenEnded
  push Not
  rfl

theorem topoSort_returns {adj : AdjList String} {order : List String}
    (returned : topoSort iteration adj = .ok order) :
    order.Perm adj.keys ∧ Respects adj.DependsOn order := by
  unfold topoSort at returned
  dsimp only at returned
  split at returned
  · rename_i complete
    cases returned
    exact ⟨(adj.sorted_subperm iteration).perm_of_length_le
      (Nat.le_of_eq complete.symm), adj.sorted_respects iteration⟩
  · cases returned

theorem not_openEnded_buildInitGraph :
    ¬OpenEnded (buildInitGraph compDict) := by
  rintro ⟨compName, dependency, depends, unlisted⟩
  rw [dependsOn_buildInitGraph] at depends
  rw [keys_buildInitGraph] at unlisted
  obtain ⟨_, _, _, _, defined⟩ := depends
  exact unlisted defined

theorem openEnded_startGraph_iff :
    OpenEnded (startGraphOf declarations compDict) ↔
      Dangling compDict declarations .start := by
  unfold OpenEnded Dangling
  simp only [dependsOn_startGraph_iff, and_assoc]
  unfold startGraphOf
  simp only [mem_keys_graph]

theorem openEnded_stopGraph_iff :
    OpenEnded (stopGraphOf declarations compDict iteration) ↔
      Dangling compDict declarations .stop := by
  unfold OpenEnded Dangling
  have keys : ∀ compName,
      compName ∈ (stopGraphOf declarations compDict iteration).keys ↔
        IsHooked compDict .stop compName := fun _ => mem_keys_graph
  simp only [dependsOn_stopGraph_iff, keys]
  constructor
  · rintro ⟨compName, dependency, ⟨isComponent, method, hooked, declared⟩,
      unhooked⟩
    refine ⟨compName, dependency, ?_, isComponent, unhooked⟩
    cases found : declarations.get? method with
    | none =>
        rw [found] at declared
        obtain ⟨declares, _⟩ := dependsOn_startGraph_iff.mp declared
        exact absurd (isHooked_of_isHooked declares.isHooked isComponent)
          unhooked
    | some dependencies =>
        rw [found] at declared
        exact ⟨method, dependencies, hooked, found, declared⟩
  · rintro ⟨compName, dependency, ⟨method, dependencies, hooked, found,
      declared⟩, isComponent, unhooked⟩
    refine ⟨compName, dependency, ⟨isComponent, method, hooked, ?_⟩, unhooked⟩
    rw [found]
    exact declared

end KoiNet
