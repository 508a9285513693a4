import KoiNet.Assembly.Creation
import KoiNet.Assembly.Relations

/-!
# When an assembly can be built

An assembly is built correctly if the builder raises exactly because one of
the three relations has a cycle, and otherwise orders the components along
them and lets every component be created once.  That fails exactly for
assemblies without a cycle in which a singleton declares a start or stop
dependency on a component that has the method but is not a singleton.
-/

namespace KoiNet

open Foundation BuildArtifact

variable (iteration : Iteration String) (assembler : Assembler)
  (declarations : Declarations)

theorem build_run :
    (build iteration assembler).run declarations =
      let compDict := collectComponents assembler
      let started := declarationsAfter declarations compDict .start
      let stopped := declarationsAfter started compDict .stop
      match topoSort iteration (buildInitGraph compDict) with
      | .error error => (.error error, declarations)
      | .ok initOrder =>
          match topoSort iteration (startGraphOf declarations compDict) with
          | .error error => (.error error, started)
          | .ok startOrder =>
              match topoSort iteration
                  (stopGraphOf declarations compDict iteration) with
              | .error error => (.error error, stopped)
              | .ok stopOrder =>
                  (.ok
                    { compDict := compDict
                      compTypes := resolveTypes compDict
                      initGraph := buildInitGraph compDict
                      startGraph := startGraphOf declarations compDict
                      stopGraph := stopGraphOf declarations compDict iteration
                      initOrder := initOrder
                      startOrder := startOrder
                      stopOrder := stopOrder },
                    stopped) := by
  unfold build
  dsimp only
  rw [Effect.run_bind, Effect.run_ofExcept]
  cases topoSort iteration (buildInitGraph (collectComponents assembler)) with
  | error error => rfl
  | ok initOrder =>
      dsimp only
      rw [Effect.run_bind_of_ok (buildStartGraph_run _ _), Effect.run_bind,
        Effect.run_ofExcept]
      cases topoSort iteration
          (startGraphOf declarations (collectComponents assembler)) with
      | error error => rfl
      | ok startOrder =>
          dsimp only
          rw [Effect.run_bind_of_ok (buildStopGraph_run _ _ iteration),
            Effect.run_bind, Effect.run_ofExcept]
          cases topoSort iteration (stopGraphOf declarations
              (collectComponents assembler) iteration) with
          | error error => rfl
          | ok stopOrder => rfl

/-- The builder raises exactly if one of the three graphs cannot be
sorted. -/
theorem build_raises_iff :
    (∃ error, ((build iteration assembler).run declarations).1 =
        .error error) ↔
      let compDict := collectComponents assembler
      (∃ error, topoSort iteration (buildInitGraph compDict) =
        .error error) ∨
      (∃ error, topoSort iteration (startGraphOf declarations compDict) =
        .error error) ∨
      ∃ error, topoSort iteration
        (stopGraphOf declarations compDict iteration) = .error error := by
  rw [build_run]
  dsimp only
  cases topoSort iteration (buildInitGraph (collectComponents assembler)) with
  | error error => simp
  | ok initOrder =>
      cases topoSort iteration
          (startGraphOf declarations (collectComponents assembler)) with
      | error error => simp
      | ok startOrder =>
          cases topoSort iteration (stopGraphOf declarations
              (collectComponents assembler) iteration) with
          | error error => simp
          | ok stopOrder => simp

/-- What the builder returns are the graphs and their orders. -/
structure Sorted (artifact : BuildArtifact) : Prop where
  compTypes : artifact.compTypes = resolveTypes (collectComponents assembler)
  initGraph : artifact.initGraph =
    buildInitGraph (collectComponents assembler)
  initOrder : topoSort iteration artifact.initGraph = .ok artifact.initOrder
  startOrder : topoSort iteration
    (startGraphOf declarations (collectComponents assembler)) =
      .ok artifact.startOrder
  stopOrder : topoSort iteration
    (stopGraphOf declarations (collectComponents assembler) iteration) =
      .ok artifact.stopOrder

theorem build_returns {artifact : BuildArtifact}
    (returned : ((build iteration assembler).run declarations).1 =
      .ok artifact) :
    Sorted iteration assembler declarations artifact := by
  rw [build_run] at returned
  dsimp only at returned
  split at returned
  · cases returned
  · rename_i initOrder initSorted
    split at returned
    · cases returned
    · rename_i startOrder startSorted
      split at returned
      · cases returned
      · rename_i stopOrder stopSorted
        cases returned
        exact ⟨rfl, rfl, initSorted, startSorted, stopSorted⟩

/-- An order of the components concerned, each after its dependencies. -/
def Orders (concerned : String → Prop)
    (dependsOn : String → String → Prop) (order : List String) : Prop :=
  order.Nodup ∧ (∀ compName, compName ∈ order ↔ concerned compName) ∧
    Respects dependsOn order

/-- The orders of an artifact, and the creation of its components, are
right. -/
structure Assembles (artifact : BuildArtifact) : Prop where
  initOrder : Orders (· ∈ (collectComponents assembler).keys)
    (InitDependsOn (collectComponents assembler)) artifact.initOrder
  startOrder : Orders (IsHooked (collectComponents assembler) .start)
    (StartDependsOn (collectComponents assembler) declarations)
    artifact.startOrder
  stopOrder : Orders (IsHooked (collectComponents assembler) .stop)
    (StopDependsOn (collectComponents assembler) declarations)
    artifact.stopOrder
  creates : ∀ {Obj Raised : Type} (objects : Objects Obj Raised),
    Assembler.Creates objects artifact
      ((Assembler.buildComponents iteration objects artifact).run [])

structure CorrectlyAssembled : Prop where
  raises : (∃ error, ((build iteration assembler).run declarations).1 =
      .error error) ↔
    SomeCycle (collectComponents assembler) declarations
  assembles : ∀ artifact,
    ((build iteration assembler).run declarations).1 = .ok artifact →
      Assembles iteration assembler declarations artifact

theorem orders_of_topoSort {adj : AdjList String}
    {order : List String} (sorted : topoSort iteration adj = .ok order)
    {concerned : String → Prop}
    (keys : ∀ compName, compName ∈ adj.keys ↔ concerned compName) :
    Orders concerned adj.DependsOn order := by
  obtain ⟨perm, respects⟩ := topoSort_returns iteration sorted
  refine ⟨perm.nodup_iff.mpr adj.nodup, ?_, respects⟩
  intro compName
  rw [perm.mem_iff, keys]

variable {iteration assembler declarations}

theorem Sorted.orderly {artifact : BuildArtifact}
    (sorted : Sorted iteration assembler declarations artifact) :
    Assembler.Orderly artifact := by
  obtain ⟨perm, respects⟩ := topoSort_returns iteration sorted.initOrder
  refine
    { nodup := perm.nodup_iff.mpr artifact.initGraph.nodup
      typed := ?_
      respects := respects }
  intro compName member
  rw [perm.mem_iff, sorted.initGraph, keys_buildInitGraph] at member
  rw [sorted.compTypes, ← Dict.mem_keys_iff]
  unfold resolveTypes
  rw [Dict.keys_ofItems_map]
  exact member

theorem Sorted.assembles {artifact : BuildArtifact}
    (sorted : Sorted iteration assembler declarations artifact)
    (startClosed : ¬Dangling (collectComponents assembler) declarations
      .start)
    (stopClosed : ¬Dangling (collectComponents assembler) declarations
      .stop) :
    Assembles iteration assembler declarations artifact := by
  have initSorted := sorted.initOrder
  rw [sorted.initGraph] at initSorted
  refine
    { initOrder := ?_
      startOrder := ?_
      stopOrder := ?_
      creates := fun objects =>
        Assembler.buildComponents_creates sorted.orderly }
  · rw [← dependsOn_buildInitGraph]
    exact orders_of_topoSort iteration initSorted fun compName => by
      rw [keys_buildInitGraph]
  · rw [← dependsOn_startGraph startClosed]
    exact orders_of_topoSort iteration sorted.startOrder fun _ =>
      mem_keys_graph
  · rw [← dependsOn_stopGraph iteration startClosed stopClosed]
    exact orders_of_topoSort iteration sorted.stopOrder fun _ =>
      mem_keys_graph

variable (iteration assembler declarations)

theorem build_raises_iff_someCycle_or_dangling :
    (∃ error, ((build iteration assembler).run declarations).1 =
        .error error) ↔
      SomeCycle (collectComponents assembler) declarations ∨
        Dangling (collectComponents assembler) declarations .start ∨
        Dangling (collectComponents assembler) declarations .stop := by
  rw [build_raises_iff]
  simp only [topoSort_raises_iff, openEnded_startGraph_iff,
    openEnded_stopGraph_iff, not_openEnded_buildInitGraph, false_or]
  rw [dependsOn_buildInitGraph]
  unfold SomeCycle
  by_cases startOpen :
      Dangling (collectComponents assembler) declarations .start
  · simp [startOpen]
  · by_cases stopOpen :
        Dangling (collectComponents assembler) declarations .stop
    · simp [stopOpen]
    · rw [dependsOn_startGraph startOpen,
        dependsOn_stopGraph iteration startOpen stopOpen]
      simp [startOpen, stopOpen]

/-- An assembly is built correctly exactly if one of its relations has a cycle
or no singleton declares a dependency on another kind of component. -/
theorem correctlyAssembled_iff :
    CorrectlyAssembled iteration assembler declarations ↔
      SomeCycle (collectComponents assembler) declarations ∨
        ¬Dangling (collectComponents assembler) declarations .start ∧
          ¬Dangling (collectComponents assembler) declarations .stop := by
  have raises := build_raises_iff_someCycle_or_dangling iteration assembler
    declarations
  constructor
  · intro correct
    rw [correct.raises] at raises
    by_cases cyclic : SomeCycle (collectComponents assembler) declarations
    · exact .inl cyclic
    · refine .inr ⟨?_, ?_⟩
      · exact fun startOpen => cyclic (raises.mpr (.inr (.inl startOpen)))
      · exact fun stopOpen => cyclic (raises.mpr (.inr (.inr stopOpen)))
  · intro condition
    have exact : (∃ error, ((build iteration assembler).run
          declarations).1 = .error error) ↔
        SomeCycle (collectComponents assembler) declarations := by
      rw [raises]
      constructor
      · rintro (cyclic | startOpen | stopOpen)
        · exact cyclic
        · exact condition.resolve_right fun closed => closed.1 startOpen
        · exact condition.resolve_right fun closed => closed.2 stopOpen
      · exact .inl
    refine ⟨exact, fun artifact returned => ?_⟩
    have acyclic : ¬SomeCycle (collectComponents assembler) declarations := by
      rw [← exact, returned]
      rintro ⟨error, impossible⟩
      cases impossible
    obtain ⟨startClosed, stopClosed⟩ := condition.resolve_left acyclic
    exact (build_returns iteration assembler declarations returned).assembles
      startClosed stopClosed

def waitingComponent : Component :=
  { explicitType := none
    callable := true
    parameters := []
    definedIn := fun
      | .start => some "App"
      | .stop => none }

/-- An object passed as it is, with a start and a stop method. -/
def objectComponent : Component :=
  { explicitType := none
    callable := false
    parameters := []
    definedIn := fun _ => some "Service" }

def waitingAssembler : Assembler :=
  { mro :=
      [.ofItems
        [("app", some waitingComponent), ("service", some objectComponent)]] }

/-- `@depends_on("service")` on `App.start`. -/
def waitingDeclarations : Declarations :=
  dependsOn ["service"] Dict.empty { owner := "App", name := .start }

private theorem waitingAssembler_hooked {name : MethodName}
    {compName : String} {method : Method}
    (hooked : Hooked (collectComponents waitingAssembler) name compName
      method) :
    compName = "app" ∧ method = { owner := "App", name := .start } ∧
      name = .start := by
  obtain ⟨comp, stored, hook⟩ := hooked
  have items : (collectComponents waitingAssembler).items =
      [("app", waitingComponent), ("service", objectComponent)] := rfl
  rw [← Dict.mem_items_iff, items] at stored
  simp only [List.mem_cons, Prod.mk.injEq, List.not_mem_nil, or_false]
    at stored
  rcases stored with ⟨rfl, rfl⟩ | ⟨rfl, rfl⟩
  · cases name with
    | start => exact ⟨rfl, (Option.some.inj hook).symm, rfl⟩
    | stop => cases hook
  · cases hook

/-- The builder reports a cycle although nothing depends on anything that
depends on it. -/
theorem waitingAssembler_not_correctlyAssembled :
    ((build (.byAge String) waitingAssembler).run waitingDeclarations).1 =
        .error (.cycle ["app"]) ∧
      ¬CorrectlyAssembled (.byAge String) waitingAssembler
        waitingDeclarations := by
  have raises : ((build (.byAge String) waitingAssembler).run
      waitingDeclarations).1 = .error (.cycle ["app"]) := rfl
  refine ⟨raises, fun correct => ?_⟩
  rcases correct.raises.mp ⟨_, raises⟩ with cyclic | cyclic | cyclic
  · refine not_cyclic_of_forall_not ?_ cyclic
    rintro compName dependency ⟨comp, stored, _, parameter, _⟩
    have items : (collectComponents waitingAssembler).items =
        [("app", waitingComponent), ("service", objectComponent)] := rfl
    rw [← Dict.mem_items_iff, items] at stored
    simp only [List.mem_cons, Prod.mk.injEq, List.not_mem_nil, or_false]
      at stored
    rcases stored with ⟨_, rfl⟩ | ⟨_, rfl⟩ <;> cases parameter
  · refine not_cyclic_of_forall_not ?_ cyclic
    rintro compName dependency ⟨⟨method, set, hooked, found, declared⟩,
      _, isHooked⟩
    obtain ⟨rfl, _⟩ := waitingAssembler_hooked isHooked
    obtain ⟨_, rfl, _⟩ := waitingAssembler_hooked hooked
    cases found
    revert declared
    decide
  · refine not_cyclic_of_forall_not ?_ cyclic
    rintro compName dependency ⟨⟨method, hooked⟩, _⟩
    obtain ⟨_, _, impossible⟩ := waitingAssembler_hooked hooked
    cases impossible

end KoiNet
