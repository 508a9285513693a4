import KoiNet.Assembly.Correctness

/-!
# Building several assemblers in one process

The builds of a sequence of assemblers are isolated if each finds and leaves
the declared dependency sets as they were, and so computes what it would
compute first.  The dependencies of a singleton that are not components of the
assembler at hand are removed from the set on the shared function object, so
the builds are isolated exactly if there are none.
-/

namespace KoiNet

open Foundation BuildArtifact

variable (iteration : Iteration String)

/-- The declared sets after these builds, each returning or raising. -/
def declarationsAfterBuilds :
    List Assembler → Declarations → Declarations
  | [], declarations => declarations
  | assembler :: rest, declarations =>
      declarationsAfterBuilds rest
        ((build iteration assembler).run declarations).2

/-- Every build of the sequence has the result it would have as the first one
and leaves every declared set unchanged. -/
def Isolated (sequence : List Assembler) (declarations : Declarations) :
    Prop :=
  ∀ earlier assembler later, sequence = earlier ++ assembler :: later →
    let reached := declarationsAfterBuilds iteration earlier declarations
    ((build iteration assembler).run reached).1 =
        ((build iteration assembler).run declarations).1 ∧
      ((build iteration assembler).run reached).2 = reached

/-- The singletons declare dependencies only on components that have such a
method too. -/
def DeclaresOnlyComponents (compDict : Dict String Component)
    (declarations : Declarations) (name : MethodName) : Prop :=
  ∀ compName dependency,
    Declares compDict declarations name compName dependency →
      dependency ∈ componentsWith compDict name

/-- The declared dependencies that the build comes to look at are components;
it stops at the first graph that cannot be sorted. -/
def DeclaresDefined (declarations : Declarations) (assembler : Assembler) :
    Prop :=
  let compDict := collectComponents assembler
  ¬Cyclic (InitDependsOn compDict) →
    DeclaresOnlyComponents compDict declarations .start ∧
      (¬Cyclic (StartDependsOn compDict declarations) →
        ¬Dangling compDict declarations .start →
          DeclaresOnlyComponents compDict declarations .stop)

variable {compDict : Dict String Component} {declarations : Declarations}

theorem declarationsAfter_eq_self_iff_declares {name : MethodName} :
    declarationsAfter declarations compDict name = declarations ↔
      DeclaresOnlyComponents compDict declarations name := by
  rw [declarationsAfter_eq_self_iff]
  constructor
  · rintro only compName dependency ⟨method, set, hooked, found, declared⟩
    exact only compName method set hooked found dependency declared
  · intro only compName method set hooked found dependency declared
    exact only compName dependency ⟨method, set, hooked, found, declared⟩

theorem declarationsAfter_both_eq_self_iff :
    declarationsAfter (declarationsAfter declarations compDict .start)
        compDict .stop = declarations ↔
      DeclaresOnlyComponents compDict declarations .start ∧
        DeclaresOnlyComponents compDict declarations .stop := by
  constructor
  · intro same
    have startSame : declarationsAfter declarations compDict .start =
        declarations := by
      rw [declarationsAfter_eq_self_iff]
      intro compName method set hooked found dependency declared
      have isStart : method.name ≠ .stop := by
        obtain ⟨_, _, hook⟩ := hooked
        rw [hookOf_name hook]
        decide
      have kept := get?_declarationsAfter_of_ne
        (declarationsAfter declarations compDict .start) compDict isStart
      have isHook : method ∈ hooks .start compDict.items :=
        (mem_hooks compDict).mpr ⟨compName, hooked⟩
      rw [same, declarationsAfter, get?_restricts, if_pos isHook, found,
        Option.map_some, Option.some.injEq] at kept
      exact OrderedSet.within_eq_self_iff.mp kept.symm dependency declared
    rw [startSame] at same
    exact ⟨declarationsAfter_eq_self_iff_declares.mp startSame,
      declarationsAfter_eq_self_iff_declares.mp same⟩
  · rintro ⟨startOnly, stopOnly⟩
    rw [declarationsAfter_eq_self_iff_declares.mpr startOnly,
      declarationsAfter_eq_self_iff_declares.mpr stopOnly]

theorem build_unchanged_iff (assembler : Assembler) :
    ((build iteration assembler).run declarations).2 = declarations ↔
      DeclaresDefined declarations assembler := by
  have initRaises := topoSort_raises_iff iteration
    (buildInitGraph (collectComponents assembler))
  have startRaises := topoSort_raises_iff iteration
    (startGraphOf declarations (collectComponents assembler))
  rw [dependsOn_buildInitGraph] at initRaises
  rw [openEnded_startGraph_iff] at startRaises
  simp only [not_openEnded_buildInitGraph, false_or] at initRaises
  rw [build_run]
  unfold DeclaresDefined
  dsimp only
  cases initSorted : topoSort iteration
      (buildInitGraph (collectComponents assembler)) with
  | error error =>
      have cyclic := initRaises.mp ⟨error, initSorted⟩
      simp [cyclic]
  | ok initOrder =>
      have acyclic : ¬Cyclic (InitDependsOn (collectComponents assembler)) := by
        rw [← initRaises, initSorted]
        rintro ⟨error, impossible⟩
        cases impossible
      simp only [acyclic, not_false_eq_true, true_imp_iff]
      cases startSorted : topoSort iteration
          (startGraphOf declarations (collectComponents assembler)) with
      | error error =>
          dsimp only
          rw [declarationsAfter_eq_self_iff_declares]
          rcases startRaises.mp ⟨error, startSorted⟩ with startOpen | cyclic
          · simp [startOpen]
          · by_cases startOpen : Dangling (collectComponents assembler)
                declarations .start
            · simp [startOpen]
            · rw [dependsOn_startGraph startOpen] at cyclic
              simp [cyclic]
      | ok startOrder =>
          have sorted : ¬Dangling (collectComponents assembler) declarations
                .start ∧
              ¬Cyclic (startGraphOf declarations
                (collectComponents assembler)).DependsOn := by
            rw [← not_or, ← startRaises, startSorted]
            rintro ⟨error, impossible⟩
            cases impossible
          obtain ⟨startClosed, startAcyclic⟩ := sorted
          rw [dependsOn_startGraph startClosed] at startAcyclic
          simp only [startClosed, startAcyclic, not_false_eq_true,
            true_imp_iff]
          rw [← declarationsAfter_both_eq_self_iff]
          cases topoSort iteration (stopGraphOf declarations
              (collectComponents assembler) iteration) with
          | error error => rfl
          | ok stopOrder => rfl

private theorem declarationsAfterBuilds_eq_self {sequence : List Assembler}
    (defined : ∀ assembler ∈ sequence,
      DeclaresDefined declarations assembler) :
    declarationsAfterBuilds iteration sequence declarations =
      declarations := by
  induction sequence with
  | nil => rfl
  | cons assembler rest induction =>
      have same := (build_unchanged_iff iteration assembler).mpr
        (defined assembler List.mem_cons_self)
      unfold declarationsAfterBuilds
      rw [same]
      exact induction fun other member =>
        defined other (List.mem_cons_of_mem assembler member)

private theorem Isolated.declaresDefined {sequence : List Assembler}
    (isolated : Isolated iteration sequence declarations) :
    ∀ assembler ∈ sequence, DeclaresDefined declarations assembler := by
  induction sequence with
  | nil =>
      intro assembler member
      cases member
  | cons head rest induction =>
      have same : ((build iteration head).run declarations).2 =
          declarations := (isolated [] head rest rfl).2
      have restIsolated : Isolated iteration rest declarations := by
        intro earlier assembler later split
        have afterHead :=
          isolated (head :: earlier) assembler later (by rw [split]; rfl)
        unfold declarationsAfterBuilds at afterHead
        rw [same] at afterHead
        exact afterHead
      intro assembler member
      rcases List.mem_cons.mp member with rfl | inRest
      · exact (build_unchanged_iff iteration assembler).mp same
      · exact induction restIsolated assembler inRest

/-- Builds are isolated exactly if each of the assemblers declares
dependencies on its components only. -/
theorem isolated_iff (sequence : List Assembler)
    (declarations : Declarations) :
    Isolated iteration sequence declarations ↔
      ∀ assembler ∈ sequence, DeclaresDefined declarations assembler := by
  constructor
  · exact fun isolated => isolated.declaresDefined
  · intro defined earlier assembler later split
    have reached : declarationsAfterBuilds iteration earlier declarations =
        declarations := by
      apply declarationsAfterBuilds_eq_self
      intro other member
      apply defined
      rw [split]
      exact List.mem_append_left _ member
    dsimp only
    rw [reached]
    refine ⟨rfl, (build_unchanged_iff iteration assembler).mpr ?_⟩
    apply defined
    rw [split]
    simp

def threadedComponent (stopOwner : String) : Component :=
  { explicitType := none
    callable := true
    parameters := []
    definedIn := fun
      | .start => some "ThreadedComponent"
      | .stop => some stopOwner }

def baseBody : ClassBody :=
  .ofItems
    [("kobj_worker", some (threadedComponent "KnowledgeProcessingWorker"))]

/-- The worker and the server of a full node. -/
def fullNode : Assembler :=
  { mro :=
      [.ofItems [("server", some (threadedComponent "NodeServer"))],
        baseBody] }

/-- The worker and the poller of a partial node. -/
def partialNode : Assembler :=
  { mro :=
      [.ofItems [("poller", some (threadedComponent "NodePoller"))],
        baseBody] }

/-- `@depends_on("server", "poller")` on the stop method of the worker. -/
def workerDeclarations : Declarations :=
  dependsOn ["server", "poller"] Dict.empty
    { owner := "KnowledgeProcessingWorker", name := .stop }

/-- Once a partial node was built, a full node stops its worker before its
server. -/
theorem partialNode_fullNode_not_isolated :
    ((build (.byAge String) fullNode).run workerDeclarations).1.map
        BuildArtifact.stopOrder = .ok ["server", "kobj_worker"] ∧
      ((build (.byAge String) fullNode).run
          (declarationsAfterBuilds (.byAge String) [partialNode]
            workerDeclarations)).1.map BuildArtifact.stopOrder =
        .ok ["kobj_worker", "server"] ∧
      ¬Isolated (.byAge String) [partialNode, fullNode]
        workerDeclarations := by
  refine ⟨rfl, rfl, fun isolated => ?_⟩
  have same := congrArg (Except.map BuildArtifact.stopOrder)
    (isolated [partialNode] fullNode [] rfl).1
  revert same
  decide

end KoiNet
