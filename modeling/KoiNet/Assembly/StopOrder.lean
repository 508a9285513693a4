import KoiNet.Assembly.Correctness

/-!
# Whether stopping reverses starting

What a component depends on at start should be stopped after it.  The stop
graph is the reversed start graph without the components that have no stop
method, so it keeps this for dependencies that pass through components with
one, and no other dependency is left to decide the order.
-/

namespace KoiNet

open Foundation BuildArtifact Relation

section Relations

variable (compDict : Dict String Component) (declarations : Declarations)

/-- Start dependencies among components that have a stop method. -/
def StartDependsOnStoppable (compName dependency : String) : Prop :=
  IsHooked compDict .stop compName ∧
    StartDependsOn compDict declarations compName dependency ∧
    IsHooked compDict .stop dependency

/-- Whatever depends on a component at start, perhaps through others, is
stopped before it. -/
def StopsDependentsFirst (order : List String) : Prop :=
  ∀ compName dependency, IsHooked compDict .stop compName →
    IsHooked compDict .stop dependency →
      TransGen (StartDependsOn compDict declarations) compName dependency →
        Precedes order compName dependency

/-- Components with a stop method of which one depends on the other at start
do so through components that all have a stop method. -/
def LinkedByStoppable : Prop :=
  ∀ compName dependency, IsHooked compDict .stop compName →
    IsHooked compDict .stop dependency →
      TransGen (StartDependsOn compDict declarations) compName dependency →
        TransGen (StartDependsOnStoppable compDict declarations) compName
          dependency

/-- No stop method has declared dependencies. -/
def StopUndeclared : Prop :=
  ∀ compName method, Hooked compDict .stop compName method →
    declarations.get? method = none

end Relations

variable {compDict : Dict String Component} {declarations : Declarations}

theorem stopDependsOn_iff (undeclared : StopUndeclared compDict declarations)
    {compName dependency : String} :
    StopDependsOn compDict declarations compName dependency ↔
      StartDependsOnStoppable compDict declarations dependency compName := by
  constructor
  · intro declared
    obtain ⟨hooked, method, stopHooked, depends⟩ := declared
    rw [undeclared compName method stopHooked] at depends
    exact ⟨hooked, depends, method, stopHooked⟩
  · intro declared
    obtain ⟨hooked, depends, method, stopHooked⟩ := declared
    refine ⟨hooked, method, stopHooked, ?_⟩
    rw [undeclared compName method stopHooked]
    exact depends

theorem transGen_stopDependsOn_iff
    (undeclared : StopUndeclared compDict declarations)
    {compName dependency : String} :
    TransGen (StopDependsOn compDict declarations) compName dependency ↔
      TransGen (StartDependsOnStoppable compDict declarations) dependency
        compName := by
  have same : StopDependsOn compDict declarations =
      Function.swap (StartDependsOnStoppable compDict declarations) := by
    funext compName dependency
    exact propext (stopDependsOn_iff undeclared)
  rw [same, transGen_swap]

theorem Orders.stopsDependentsFirst
    (undeclared : StopUndeclared compDict declarations)
    (linked : LinkedByStoppable compDict declarations) {order : List String}
    (orders : Orders (IsHooked compDict .stop)
      (StopDependsOn compDict declarations) order) :
    StopsDependentsFirst compDict declarations order := by
  intro compName dependency compStops dependencyStops depends
  have chain := linked compName dependency compStops dependencyStops depends
  exact orders.2.2.precedes
    ((transGen_stopDependsOn_iff undeclared).mpr chain)
    ((orders.2.1 dependency).mpr dependencyStops)

/-- Without such a link, some order of the same graph stops a component before
what depends on it. -/
theorem Orders.linkedByStoppable
    (undeclared : StopUndeclared compDict declarations)
    (acyclic : ¬Cyclic (StartDependsOn compDict declarations))
    {order : List String}
    (orders : Orders (IsHooked compDict .stop)
      (StopDependsOn compDict declarations) order)
    (forced : ∀ order, Orders (IsHooked compDict .stop)
        (StopDependsOn compDict declarations) order →
      StopsDependentsFirst compDict declarations order) :
    LinkedByStoppable compDict declarations := by
  intro compName dependency compStops dependencyStops depends
  obtain ⟨nodup, members, respects⟩ := orders
  by_contra unlinked
  have independent :
      ¬ReflTransGen (StopDependsOn compDict declarations) dependency
        compName := by
    intro reaches
    rcases reflTransGen_iff_eq_or_transGen.mp reaches with rfl | chain
    · exact acyclic ⟨compName, depends⟩
    · exact unlinked ((transGen_stopDependsOn_iff undeclared).mp chain)
  obtain ⟨rearranged, perm, again, first⟩ :=
    respects.exists_precedes ((members dependency).mpr dependencyStops)
      ((members compName).mpr compStops) independent
  have reordered : Orders (IsHooked compDict .stop)
      (StopDependsOn compDict declarations) rearranged :=
    ⟨perm.nodup_iff.mpr nodup,
      fun other => perm.mem_iff.trans (members other), again⟩
  exact first.not_precedes reordered.1
    (forced rearranged reordered compName dependency compStops
      dependencyStops depends)

variable (iteration : Iteration String) (assembler : Assembler)

/-- It is enough that whatever depends on something at start has a stop
method. -/
theorem linkedByStoppable_of_forall
    (stoppable : ∀ compName, IsHooked compDict .start compName →
      IsHooked compDict .stop compName) :
    LinkedByStoppable compDict declarations := by
  intro compName dependency _ _ depends
  refine depends.lift id fun left right step => ⟨?_, step, ?_⟩
  · exact stoppable left step.1.isHooked
  · exact stoppable right step.2

/-- If start dependencies link components with a stop method only through such
components, the stop order stops dependents first.  Otherwise the stop graph
does not decide it: another order of the same graph does not. -/
theorem stopOrder_stopsDependentsFirst {artifact : BuildArtifact}
    (returned : ((build iteration assembler).run declarations).1 =
      .ok artifact)
    (undeclared : StopUndeclared (collectComponents assembler)
      declarations) :
    (LinkedByStoppable (collectComponents assembler) declarations →
      StopsDependentsFirst (collectComponents assembler) declarations
        artifact.stopOrder) ∧
    ((∀ order, Orders (IsHooked (collectComponents assembler) .stop)
          (StopDependsOn (collectComponents assembler) declarations) order →
        StopsDependentsFirst (collectComponents assembler) declarations
          order) ↔
      LinkedByStoppable (collectComponents assembler) declarations) := by
  have raises := build_raises_iff_someCycle_or_dangling iteration assembler
    declarations
  rw [returned] at raises
  have sound := raises.not.mp fun ⟨_, impossible⟩ => nomatch impossible
  unfold SomeCycle at sound
  simp only [not_or] at sound
  obtain ⟨⟨_, acyclic, _⟩, startClosed, stopClosed⟩ := sound
  have orders := ((build_returns iteration assembler declarations
    returned).assembles startClosed stopClosed).stopOrder
  refine ⟨fun linked => orders.stopsDependentsFirst undeclared linked, ?_⟩
  constructor
  · exact orders.linkedByStoppable undeclared acyclic
  · intro linked order ordered
    exact ordered.stopsDependentsFirst undeclared linked

/-- A service whose stop method is the one given, if any. -/
def serviceComponent (name : String) (stops : Bool) : Component :=
  { explicitType := none
    callable := true
    parameters := []
    definedIn := fun
      | .start => some name
      | .stop => if stops then some name else none }

/-- `server` is started after `bridge`, and `bridge` after `store`. -/
def chainAssembler (bridgeStops : Bool) : Assembler :=
  { mro :=
      [.ofItems
        [("store", some (serviceComponent "Store" true)),
          ("bridge", some (serviceComponent "Bridge" bridgeStops)),
          ("server", some (serviceComponent "Server" true))]] }

def chainDeclarations : Declarations :=
  dependsOn ["bridge"]
    (dependsOn ["store"] Dict.empty { owner := "Bridge", name := .start })
    { owner := "Server", name := .start }

private theorem chainAssembler_isHooked (name : MethodName) :
    IsHooked (collectComponents (chainAssembler true)) name "store" ∧
      IsHooked (collectComponents (chainAssembler true)) name "bridge" ∧
      IsHooked (collectComponents (chainAssembler true)) name "server" := by
  cases name <;>
    exact ⟨⟨_, _, rfl, rfl⟩, ⟨_, _, rfl, rfl⟩, ⟨_, _, rfl, rfl⟩⟩

private theorem chainAssembler_components {name : MethodName}
    {compName : String}
    (hooked : IsHooked (collectComponents (chainAssembler true)) name
      compName) :
    compName = "store" ∨ compName = "bridge" ∨ compName = "server" := by
  obtain ⟨_, comp, stored, _⟩ := hooked
  have items : (collectComponents (chainAssembler true)).items =
      [("store", serviceComponent "Store" true),
        ("bridge", serviceComponent "Bridge" true),
        ("server", serviceComponent "Server" true)] := rfl
  rw [← Dict.mem_items_iff, items] at stored
  simp only [List.mem_cons, Prod.mk.injEq, List.not_mem_nil, or_false]
    at stored
  rcases stored with ⟨rfl, _⟩ | ⟨rfl, _⟩ | ⟨rfl, _⟩
  · exact .inl rfl
  · exact .inr (.inl rfl)
  · exact .inr (.inr rfl)

private theorem chainDeclarations_stopUndeclared
    {compDict : Dict String Component} :
    StopUndeclared compDict chainDeclarations := by
  rintro compName method ⟨comp, _, hook⟩
  have isStop := hookOf_name hook
  have apart : ∀ owner, method ≠ ⟨owner, .start⟩ := by
    rintro owner rfl
    cases isStop
  unfold chainDeclarations dependsOn
  simp [Dict.get?_set, apart]

theorem stopOrder_stopsDependentsFirst_chain :
    StopsDependentsFirst (collectComponents (chainAssembler true))
      chainDeclarations ["server", "bridge", "store"] := by
  have stoppable : ∀ compName,
      IsHooked (collectComponents (chainAssembler true)) .start compName →
        IsHooked (collectComponents (chainAssembler true)) .stop
          compName := by
    intro compName hooked
    obtain ⟨store, bridge, server⟩ := chainAssembler_isHooked .stop
    rcases chainAssembler_components hooked with rfl | rfl | rfl
    · exact store
    · exact bridge
    · exact server
  exact (stopOrder_stopsDependentsFirst (.byAge String) (chainAssembler true)
    rfl chainDeclarations_stopUndeclared).1
      (linkedByStoppable_of_forall stoppable)

private theorem chainAssembler_startDependsOn :
    TransGen (StartDependsOn (collectComponents (chainAssembler false))
      chainDeclarations) "server" "store" := by
  have outer : StartDependsOn (collectComponents (chainAssembler false))
      chainDeclarations "server" "bridge" :=
    ⟨⟨_, _, ⟨_, rfl, rfl⟩, rfl, by decide⟩, _, _, rfl, rfl⟩
  have inner : StartDependsOn (collectComponents (chainAssembler false))
      chainDeclarations "bridge" "store" :=
    ⟨⟨_, _, ⟨_, rfl, rfl⟩, rfl, by decide⟩, _, _, rfl, rfl⟩
  exact .tail (.single outer) inner

/-- If the bridge has no stop method, the store is stopped before the
server. -/
theorem chainAssembler_stops_store_first :
    ∃ artifact,
      ((build (.byAge String) (chainAssembler false)).run
        chainDeclarations).1 = .ok artifact ∧
      StopUndeclared (collectComponents (chainAssembler false))
        chainDeclarations ∧
      artifact.stopOrder = ["store", "server"] ∧
      ¬StopsDependentsFirst (collectComponents (chainAssembler false))
        chainDeclarations artifact.stopOrder := by
  refine ⟨_, rfl, chainDeclarations_stopUndeclared, rfl, fun first => ?_⟩
  have order : Precedes ["store", "server"] "server" "store" :=
    first "server" "store" ⟨_, _, rfl, rfl⟩ ⟨_, _, rfl, rfl⟩
      chainAssembler_startDependsOn
  exact order.not_precedes (by decide) (List.Sublist.refl _)

end KoiNet
