import KoiNet.Infra.BuildArtifact

/-!
# What the graph builders compute

A start or stop graph holds, for every singleton with a method of that name,
the declared or default dependencies restricted to the components that have
one too.  Building it restricts the declared sets in the same way, so it
changes nothing exactly if every declared dependency is such a component.
-/

namespace KoiNet

namespace BuildArtifact

open Foundation

/-- The declared set after the graph of these components was built. -/
def restrict (components : List String) (declarations : Declarations)
    (method : Method) : Declarations :=
  match declarations.get? method with
  | none => declarations
  | some dependencies =>
      if dependencies.isSubset components then declarations
      else declarations.set method (dependencies.within components)

/-- The dependencies that a graph of these components has for a method. -/
def dependenciesOf (components : List String) (declarations : Declarations)
    (method : Method) (default : OrderedSet String) : OrderedSet String :=
  ((declarations.get? method).getD default).within components

/-- The method through which a component takes part in a graph. -/
def hookOf (name : MethodName) (comp : Component) : Option Method :=
  match comp.type with
  | .singleton => comp.method name
  | .object => none

def hooks (name : MethodName) (items : List (String × Component)) :
    List Method :=
  items.filterMap fun item => hookOf name item.2

def entriesOf (name : MethodName) (components : List String)
    (default : String → OrderedSet String) (declarations : Declarations)
    (items : List (String × Component)) :
    List (String × OrderedSet String) :=
  items.filterMap fun item =>
    (hookOf name item.2).map fun method =>
      (item.1,
        dependenciesOf components declarations method (default item.1))

variable (components : List String) (declarations : Declarations)

theorem get?_restrict (method other : Method) :
    (restrict components declarations method).get? other =
      if other = method then
        (declarations.get? method).map fun dependencies =>
          dependencies.within components
      else
        declarations.get? other := by
  unfold restrict
  cases declared : declarations.get? method with
  | none =>
      by_cases same : other = method
      · simp [same, declared]
      · simp [same]
  | some dependencies =>
      dsimp only
      split
      · rename_i subset
        by_cases same : other = method
        · have kept := OrderedSet.within_eq_self_iff.mpr
            (OrderedSet.isSubset_iff.mp subset)
          simp [same, declared, kept]
        · simp [same]
      · rw [Dict.get?_set]
        rfl

theorem restrict_of_isSubset {method : Method}
    (subset : ∀ dependencies, declarations.get? method = some dependencies →
      ∀ dependency ∈ dependencies, dependency ∈ components) :
    restrict components declarations method = declarations := by
  unfold restrict
  cases declared : declarations.get? method with
  | none => rfl
  | some dependencies =>
      exact if_pos (OrderedSet.isSubset_iff.mpr (subset _ declared))

private theorem within_within (set : OrderedSet String) :
    (set.within components).within components = set.within components :=
  OrderedSet.within_eq_self_iff.mpr fun _ member =>
    (OrderedSet.mem_within.mp member).2

theorem dependenciesOf_restrict (method other : Method)
    (default : OrderedSet String) :
    dependenciesOf components (restrict components declarations method) other
        default =
      dependenciesOf components declarations other default := by
  unfold dependenciesOf
  rw [get?_restrict]
  by_cases same : other = method
  · subst same
    rw [if_pos rfl]
    cases declarations.get? other with
    | none => rfl
    | some dependencies => exact within_within components dependencies
  · rw [if_neg same]

theorem declaredDependencies_run (method : Method)
    (default : OrderedSet String) :
    (declaredDependencies components method default).run declarations =
      (.ok (dependenciesOf components declarations method default),
        restrict components declarations method) := by
  unfold declaredDependencies dependenciesOf restrict
  rw [Effect.run_get_bind]
  cases declared : declarations.get? method with
  | none => rfl
  | some dependencies =>
      by_cases subset : dependencies.isSubset components
      · have kept := OrderedSet.within_eq_self_iff.mpr
          (OrderedSet.isSubset_iff.mp subset)
        simp [subset, kept]
      · simp [subset]

theorem entriesOf_restrict (name : MethodName)
    (default : String → OrderedSet String) (method : Method)
    (items : List (String × Component)) :
    entriesOf name components default
        (restrict components declarations method) items =
      entriesOf name components default declarations items := by
  unfold entriesOf
  simp only [dependenciesOf_restrict]

theorem methodEntries_run (name : MethodName)
    (default : String → OrderedSet String)
    (items : List (String × Component)) :
    (methodEntries name components default items).run declarations =
      (.ok (entriesOf name components default declarations items),
        (hooks name items).foldl (restrict components) declarations) := by
  induction items generalizing declarations with
  | nil => rfl
  | cons item rest induction =>
      obtain ⟨compName, comp⟩ := item
      unfold methodEntries
      cases isType : comp.type with
      | object =>
          have noHook : hookOf name comp = none := by simp [hookOf, isType]
          rw [induction]
          simp [entriesOf, hooks, noHook]
      | singleton =>
          cases found : comp.method name with
          | none =>
              have noHook : hookOf name comp = none := by
                simp [hookOf, isType, found]
              rw [induction]
              simp [entriesOf, hooks, noHook]
          | some method =>
              have hook : hookOf name comp = some method := by
                simp [hookOf, isType, found]
              rw [Effect.run_bind_of_ok
                  (declaredDependencies_run components declarations method _),
                Effect.run_bind_of_ok (induction _), entriesOf_restrict]
              simp [entriesOf, hooks, hook]

theorem get?_restricts (methods : List Method) (other : Method) :
    (methods.foldl (restrict components) declarations).get? other =
      if other ∈ methods then
        (declarations.get? other).map fun dependencies =>
          dependencies.within components
      else
        declarations.get? other := by
  induction methods generalizing declarations with
  | nil => simp
  | cons method rest induction =>
      rw [List.foldl_cons, induction, get?_restrict]
      by_cases same : other = method
      · subst same
        by_cases again : other ∈ rest
        · cases declarations.get? other with
          | none => simp
          | some dependencies => simp [again, within_within]
        · simp [again]
      · simp [same]

/-- Restricting the sets of these methods changes nothing exactly if each
declares components only. -/
theorem restricts_eq_self_iff (methods : List Method) :
    methods.foldl (restrict components) declarations = declarations ↔
      ∀ method ∈ methods, ∀ dependencies,
        declarations.get? method = some dependencies →
          ∀ dependency ∈ dependencies, dependency ∈ components := by
  constructor
  · intro same method member dependencies declared
    have after := get?_restricts components declarations methods method
    rw [same, if_pos member, declared, Option.map_some, Option.some.injEq]
      at after
    exact OrderedSet.within_eq_self_iff.mp after.symm
  · intro subset
    induction methods with
    | nil => rfl
    | cons method rest induction =>
        rw [List.foldl_cons, restrict_of_isSubset components declarations
          (subset method List.mem_cons_self)]
        exact induction fun other member =>
          subset other (List.mem_cons_of_mem method member)

variable (compDict : Dict String Component)

def graphOf (name : MethodName) (default : String → OrderedSet String) :
    AdjList String :=
  Dict.ofItems (entriesOf name (componentsWith compDict name) default
    declarations compDict.items)

def declarationsAfter (name : MethodName) : Declarations :=
  (hooks name compDict.items).foldl
    (restrict (componentsWith compDict name)) declarations

theorem methodGraph_run (name : MethodName)
    (default : String → OrderedSet String) :
    (methodGraph compDict name default).run declarations =
      (.ok (graphOf declarations compDict name default),
        declarationsAfter declarations compDict name) := by
  unfold methodGraph
  rw [Effect.run_bind_of_ok (methodEntries_run _ declarations name default _)]
  rfl

/-- The name of a singleton with a method of this name. -/
def Hooked (name : MethodName) (compName : String) (method : Method) : Prop :=
  ∃ comp, compDict.get? compName = some comp ∧
    hookOf name comp = some method

variable {compDict}

theorem mem_componentsWith {name : MethodName} {compName : String} :
    compName ∈ componentsWith compDict name ↔
      ∃ comp, compDict.get? compName = some comp ∧
        (comp.method name).isSome := by
  simp [componentsWith, compDict.mem_items_iff]

theorem Hooked.mem_componentsWith {name : MethodName} {compName : String}
    {method : Method} (hooked : Hooked compDict name compName method) :
    compName ∈ componentsWith compDict name := by
  obtain ⟨comp, stored, hook⟩ := hooked
  refine BuildArtifact.mem_componentsWith.mpr ⟨comp, stored, ?_⟩
  unfold hookOf at hook
  split at hook
  · simp [hook]
  · cases hook

variable (compDict) {name : MethodName}
  {default : String → OrderedSet String}

private theorem graphOf_items :
    (graphOf declarations compDict name default).items =
      entriesOf name (componentsWith compDict name) default declarations
        compDict.items := by
  apply Dict.ofItems_items
  refine compDict.nodup.sublist ?_
  generalize compDict.items = items
  induction items with
  | nil => exact List.nil_sublist _
  | cons item rest induction =>
      unfold entriesOf at induction ⊢
      cases hook : hookOf name item.2 with
      | none =>
          rw [List.filterMap_cons_none (by rw [hook]; rfl), List.map_cons]
          exact induction.trans (List.sublist_cons_self _ _)
      | some method =>
          rw [List.filterMap_cons_some (by rw [hook]; rfl), List.map_cons,
            List.map_cons]
          exact induction.cons_cons _

theorem get?_graphOf {compName : String} {set : OrderedSet String} :
    (graphOf declarations compDict name default).get? compName = some set ↔
      ∃ method, Hooked compDict name compName method ∧
        set = dependenciesOf (componentsWith compDict name) declarations
          method (default compName) := by
  rw [← Dict.mem_items_iff, graphOf_items]
  unfold entriesOf
  simp only [List.mem_filterMap, Option.map_eq_some_iff, Prod.mk.injEq]
  constructor
  · rintro ⟨⟨found, comp⟩, listed, method, hook, rfl, rfl⟩
    exact ⟨method, ⟨comp, compDict.mem_items_iff.mp listed, hook⟩, rfl⟩
  · rintro ⟨method, ⟨comp, stored, hook⟩, rfl⟩
    exact ⟨(compName, comp), compDict.mem_items_iff.mpr stored, method, hook,
      rfl, rfl⟩

theorem mem_keys_graphOf {compName : String} :
    compName ∈ (graphOf declarations compDict name default).keys ↔
      ∃ method, Hooked compDict name compName method := by
  rw [Dict.mem_keys_iff]
  simp [get?_graphOf]

theorem dependsOn_graphOf {compName dependency : String} :
    (graphOf declarations compDict name default).DependsOn compName
        dependency ↔
      ∃ method, Hooked compDict name compName method ∧
        dependency ∈ componentsWith compDict name ∧
        dependency ∈
          (declarations.get? method).getD (default compName) := by
  unfold AdjList.DependsOn
  rw [AdjList.mem_neighbors_iff]
  simp only [Dict.mem_items_iff, get?_graphOf]
  constructor
  · rintro ⟨_, ⟨method, hooked, rfl⟩, member⟩
    obtain ⟨declared, isComponent⟩ := OrderedSet.mem_within.mp member
    exact ⟨method, hooked, isComponent, declared⟩
  · rintro ⟨method, hooked, isComponent, declared⟩
    exact ⟨_, ⟨method, hooked, rfl⟩,
      OrderedSet.mem_within.mpr ⟨declared, isComponent⟩⟩

theorem mem_hooks {method : Method} :
    method ∈ hooks name compDict.items ↔
      ∃ compName, Hooked compDict name compName method := by
  unfold hooks Hooked
  simp only [List.mem_filterMap, Prod.exists, compDict.mem_items_iff]

/-- Building a graph changes no declared set exactly if every declared
dependency is a component with such a method. -/
theorem declarationsAfter_eq_self_iff :
    declarationsAfter declarations compDict name = declarations ↔
      ∀ compName method dependencies,
        Hooked compDict name compName method →
          declarations.get? method = some dependencies →
            ∀ dependency ∈ dependencies,
              dependency ∈ componentsWith compDict name := by
  unfold declarationsAfter
  rw [restricts_eq_self_iff]
  simp only [mem_hooks]
  constructor
  · intro subset compName method dependencies hooked
    exact subset method ⟨compName, hooked⟩ dependencies
  · rintro subset method ⟨compName, hooked⟩ dependencies
    exact subset compName method dependencies hooked

theorem hookOf_name {comp : Component} {method : Method}
    (hook : hookOf name comp = some method) : method.name = name := by
  unfold hookOf Component.method at hook
  split at hook
  · obtain ⟨owner, _, rfl⟩ := Option.map_eq_some_iff.mp hook
    rfl
  · cases hook

theorem get?_declarationsAfter_of_ne {other : MethodName} {method : Method}
    (different : method.name ≠ other) :
    (declarationsAfter declarations compDict other).get? method =
      declarations.get? method := by
  unfold declarationsAfter
  rw [get?_restricts, if_neg]
  intro member
  obtain ⟨_, _, _, hook⟩ := (mem_hooks compDict).mp member
  exact different (hookOf_name hook)

private theorem graphOf_declarationsAfter {other : MethodName}
    (different : name ≠ other) :
    graphOf (declarationsAfter declarations compDict other) compDict name
        default =
      graphOf declarations compDict name default := by
  have same : ∀ method, method.name = name →
      (declarationsAfter declarations compDict other).get? method =
        declarations.get? method := by
    rintro method rfl
    exact get?_declarationsAfter_of_ne declarations compDict different
  have entries : ∀ item : String × Component,
      (hookOf name item.2).map (fun method =>
        (item.1, dependenciesOf (componentsWith compDict name)
          (declarationsAfter declarations compDict other) method
          (default item.1))) =
      (hookOf name item.2).map fun method =>
        (item.1, dependenciesOf (componentsWith compDict name) declarations
          method (default item.1)) := by
    intro item
    cases hook : hookOf name item.2 with
    | none => rfl
    | some method =>
        simp [dependenciesOf, same method (hookOf_name hook)]
  unfold graphOf entriesOf
  simp only [entries]

/-- The start graph that is built with these declared sets. -/
def startGraphOf : AdjList String :=
  graphOf declarations compDict .start fun _ => .empty

def stopGraphOf (iteration : Iteration String) : AdjList String :=
  graphOf declarations compDict .stop
    ((startGraphOf declarations compDict).reverse iteration).neighbors

theorem buildStartGraph_run :
    (buildStartGraph compDict).run declarations =
      (.ok (startGraphOf declarations compDict),
        declarationsAfter declarations compDict .start) :=
  methodGraph_run declarations compDict .start _

theorem buildStopGraph_run (iteration : Iteration String) :
    (buildStopGraph compDict iteration
        (startGraphOf declarations compDict)).run
        (declarationsAfter declarations compDict .start) =
      (.ok (stopGraphOf declarations compDict iteration),
        declarationsAfter (declarationsAfter declarations compDict .start)
          compDict .stop) := by
  unfold buildStopGraph stopGraphOf
  rw [methodGraph_run, graphOf_declarationsAfter]
  decide

end BuildArtifact

end KoiNet
