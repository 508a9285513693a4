import KoiNet.Infra.Lifecycle

/-!
# Completing a shutdown

The shutdown is to stop every component whatever their stop methods raise.
The event that reports a raised exception has no conversion for its argument,
so the logger raises in turn and the loop is left before the exception is
queued.  The shutdown is completed exactly if no stop method raises.
-/

namespace KoiNet

open Foundation NodeLifecycle

variable {World Raised : Type} (container : Container World Raised)

/-- What the stop methods of the components do, called one after the other. -/
def stopOutcomes : List String → World → List (CallOutcome World Raised)
  | [], _ => []
  | compName :: rest, world =>
      container.stop compName world ::
        stopOutcomes rest (container.stop compName world).world

/-- The exceptions queued while a method is called, and the one it raises. -/
def CallOutcome.exceptions (outcome : CallOutcome World Raised) :
    List Raised :=
  outcome.queued ++ outcome.raised.toList

/-- Every component is stopped once and in order, every exception is queued,
and the node can be started again. -/
structure ShutdownComplete (lifecycle : Lifecycle World Raised) : Prop where
  returns : ((shutdown container).run lifecycle).1 = .ok ()
  stopped : ((shutdown container).run lifecycle).2.stopped =
    lifecycle.stopped ++ container.stopOrder
  queued : ((shutdown container).run lifecycle).2.exceptionQueue =
    lifecycle.exceptionQueue ++
      (stopOutcomes container container.stopOrder lifecycle.world).flatMap
        CallOutcome.exceptions
  idle : ((shutdown container).run lifecycle).2.state = .idle
  clear : ((shutdown container).run lifecycle).2.shutdownSignal = false

/-- The lifecycle after a stop method that does this. -/
def afterStop (lifecycle : Lifecycle World Raised) (compName : String)
    (outcome : CallOutcome World Raised) : Lifecycle World Raised :=
  { lifecycle with
    stopped := lifecycle.stopped ++ [compName]
    world := outcome.world
    exceptionQueue := lifecycle.exceptionQueue ++ outcome.queued
    shutdownSignal := lifecycle.shutdownSignal || outcome.signals }

theorem stopComponent_run (compName : String)
    (lifecycle : Lifecycle World Raised) :
    (stopComponent container compName).run lifecycle =
      (match (container.stop compName lifecycle.world).raised with
        | none => .ok ()
        | some _ => .error .typeError,
        afterStop lifecycle compName
          (container.stop compName lifecycle.world)) := by
  unfold stopComponent call
  cases raises : (container.stop compName lifecycle.world).raised with
  | none =>
      simp only [Effect.run_bind, logCall_run_nil,
        Effect.run_modify, Effect.run_get, Effect.run_pure, raises]
      rfl
  | some err =>
      have plain : '%' ∉ "Shutdown error:".toList := by decide
      simp only [Effect.run_bind, logCall_run_nil,
        Effect.run_modify, Effect.run_get, Effect.run_pure, raises,
        logCall_run_of_not_mem plain (List.cons_ne_nil _ _)]
      rfl

theorem stopComponents_return {compNames : List String}
    {lifecycle : Lifecycle World Raised}
    (silent : ∀ outcome ∈ stopOutcomes container compNames lifecycle.world,
      outcome.raised = none) :
    ∃ after, (Effect.forEach compNames (stopComponent container)).run
        lifecycle = (.ok (), after) ∧
      after.stopped = lifecycle.stopped ++ compNames ∧
      after.exceptionQueue = lifecycle.exceptionQueue ++
        (stopOutcomes container compNames lifecycle.world).flatMap
          CallOutcome.exceptions := by
  induction compNames generalizing lifecycle with
  | nil => exact ⟨lifecycle, rfl, by simp, by simp [stopOutcomes]⟩
  | cons compName rest induction =>
      have first : (container.stop compName lifecycle.world).raised = none :=
        silent _ List.mem_cons_self
      obtain ⟨after, run, stopped, queued⟩ := induction
        (show ∀ outcome ∈ stopOutcomes container rest
            (afterStop lifecycle compName
              (container.stop compName lifecycle.world)).world,
            outcome.raised = none from
          fun outcome member => silent outcome
            (List.mem_cons_of_mem _ member))
      have returned := stopComponent_run container compName lifecycle
      rw [first] at returned
      refine ⟨after, (Effect.run_bind_of_ok returned _).trans run, ?_, ?_⟩
      · rw [stopped]
        simp [afterStop]
      · rw [queued]
        simp [afterStop, stopOutcomes, CallOutcome.exceptions, first]

theorem stopComponents_raise {compNames : List String}
    {lifecycle : Lifecycle World Raised}
    {outcome : CallOutcome World Raised}
    (member : outcome ∈ stopOutcomes container compNames lifecycle.world)
    (raises : outcome.raised ≠ none) :
    ((Effect.forEach compNames (stopComponent container)).run lifecycle).1 =
      .error .typeError := by
  induction compNames generalizing lifecycle with
  | nil => cases member
  | cons compName rest induction =>
      have run := stopComponent_run container compName lifecycle
      cases first : (container.stop compName lifecycle.world).raised with
      | none =>
          rw [first] at run
          have later : outcome ∈ stopOutcomes container rest
              (container.stop compName lifecycle.world).world := by
            rcases List.mem_cons.mp member with rfl | inRest
            · exact absurd first raises
            · exact inRest
          unfold Effect.forEach
          rw [Effect.run_bind_of_ok run]
          exact induction later
      | some err =>
          rw [first] at run
          unfold Effect.forEach
          rw [Effect.run_bind, run]

/-- All components are stopped exactly if no stop method raises. -/
theorem stopComponents_returns_iff (compNames : List String)
    (lifecycle : Lifecycle World Raised) :
    ((Effect.forEach compNames (stopComponent container)).run lifecycle).1 =
        .ok () ↔
      ∀ outcome ∈ stopOutcomes container compNames lifecycle.world,
        outcome.raised = none := by
  constructor
  · intro returned outcome member
    cases raised : outcome.raised with
    | none => rfl
    | some err =>
        have failed := stopComponents_raise container member
          (by simp [raised])
        cases returned.symm.trans failed
  · intro silent
    obtain ⟨after, run, _⟩ := stopComponents_return container silent
    rw [run]

theorem stopComponents_state (compNames : List String)
    (lifecycle : Lifecycle World Raised) :
    ((Effect.forEach compNames (stopComponent container)).run
      lifecycle).2.state = lifecycle.state := by
  induction compNames generalizing lifecycle with
  | nil => rfl
  | cons compName rest induction =>
      have run := stopComponent_run container compName lifecycle
      unfold Effect.forEach
      cases first : (container.stop compName lifecycle.world).raised with
      | none =>
          rw [first] at run
          rw [Effect.run_bind_of_ok run, induction]
          rfl
      | some err =>
          rw [first] at run
          rw [Effect.run_bind, run]
          rfl

private theorem shutdown_run (lifecycle : Lifecycle World Raised) :
    (shutdown container).run lifecycle =
      match (Effect.forEach container.stopOrder (stopComponent container)).run
          { lifecycle with state := .stopping } with
      | (.ok _, after) =>
          (.ok (), { after with shutdownSignal := false, state := .idle })
      | (.error failure, after) => (.error failure, after) := by
  unfold shutdown setState setShutdownSignal
  rw [Effect.run_modify_bind, Effect.run_bind_of_ok (logCall_run_nil _ _),
    Effect.run_bind]
  cases (Effect.forEach container.stopOrder (stopComponent container)).run
      { lifecycle with state := .stopping } with
  | mk result after =>
      cases result with
      | ok value => rfl
      | error failure => rfl

/-- A shutdown is completed exactly if no stop method raises. -/
theorem shutdownComplete_iff (lifecycle : Lifecycle World Raised) :
    ShutdownComplete container lifecycle ↔
      ∀ outcome ∈ stopOutcomes container container.stopOrder lifecycle.world,
        outcome.raised = none := by
  constructor
  · intro complete
    have returns := complete.returns
    rw [shutdown_run] at returns
    refine (stopComponents_returns_iff container container.stopOrder
      { lifecycle with state := .stopping }).mp ?_
    split at returns
    · rename_i ending
      rw [ending]
    · cases returns
  · intro silent
    obtain ⟨after, run, stopped, queued⟩ := stopComponents_return container
      (show ∀ outcome ∈ stopOutcomes container container.stopOrder
          ({ lifecycle with state := .stopping } :
            Lifecycle World Raised).world, outcome.raised = none from silent)
    have whole := shutdown_run container lifecycle
    rw [run] at whole
    refine ⟨?_, ?_, ?_, ?_, ?_⟩ <;> rw [whole]
    · exact stopped
    · exact queued

theorem startComponent_returns (compName : String)
    (lifecycle : Lifecycle World Raised) :
    ∃ after, (startComponent container compName).run lifecycle =
      (.ok (), after) := by
  unfold startComponent call
  cases raises : (container.start compName lifecycle.world).raised with
  | none =>
      simp only [Effect.run_bind, logCall_run_nil, Effect.run_modify,
        Effect.run_get, Effect.run_pure, raises]
      exact ⟨_, rfl⟩
  | some err =>
      simp only [Effect.run_bind, logCall_run_nil, Effect.run_modify,
        Effect.run_get, Effect.run_pure, raises]
      exact ⟨_, rfl⟩

theorem startFrom_returns (compNames : List String)
    (lifecycle : Lifecycle World Raised) :
    ∃ after, (startFrom container compNames).run lifecycle =
      (.ok (), after) := by
  induction compNames generalizing lifecycle with
  | nil => exact ⟨_, rfl⟩
  | cons compName rest induction =>
      obtain ⟨between, started⟩ :=
        startComponent_returns container compName lifecycle
      unfold startFrom
      rw [Effect.run_bind_of_ok started, Effect.run_get_bind]
      split
      · exact ⟨_, rfl⟩
      · exact induction between

theorem await_returns (lifecycle : Lifecycle World Raised) :
    ∃ after, (await container).run lifecycle = (.ok (), after) := by
  unfold await
  rw [Effect.run_get_bind]
  split
  · exact ⟨_, rfl⟩
  · exact ⟨_, rfl⟩

/-- However the startup ends, the thread comes to the shutdown, and the node
can be started again exactly if no stop method raises then. -/
theorem run_idle_iff (lifecycle : Lifecycle World Raised) :
    ∃ reached : Lifecycle World Raised,
      ((NodeLifecycle.run container).run lifecycle).2.stopped =
        ((shutdown container).run reached).2.stopped ∧
      (((NodeLifecycle.run container).run lifecycle).2.state = .idle ↔
        ∀ outcome ∈ stopOutcomes container container.stopOrder reached.world,
          outcome.raised = none) := by
  obtain ⟨started, startup⟩ := startFrom_returns container
    container.startOrder { lifecycle with state := .starting }
  obtain ⟨reached, awaited⟩ :=
    await_returns container { started with startupSignal := true }
  refine ⟨reached, ?_⟩
  have body : (NodeLifecycle.startup container >>= fun _ =>
      Effect.modify (fun lifecycle =>
        { lifecycle with startupSignal := true }) >>= fun _ =>
      await container).run lifecycle = (.ok (), reached) := by
    have startup : (NodeLifecycle.startup container).run lifecycle =
        (.ok (), started) := startup
    rw [Effect.run_bind_of_ok startup, Effect.run_modify_bind, awaited]
  have silent := stopComponents_returns_iff container container.stopOrder
    { reached with state := .stopping }
  have kept := stopComponents_state container container.stopOrder
    { reached with state := .stopping }
  unfold NodeLifecycle.run Effect.tryFinally
  dsimp only
  rw [body]
  dsimp only
  rw [← silent, Effect.run_bind, Effect.run_bind, shutdown_run]
  generalize (Effect.forEach container.stopOrder
    (stopComponent container)).run { reached with state := .stopping } =
      ending at kept
  obtain ⟨result, after⟩ := ending
  cases result with
  | ok value => exact ⟨rfl, iff_of_true rfl rfl⟩
  | error failure =>
      refine ⟨rfl, iff_of_false ?_ ?_⟩
      · intro idle
        cases kept.symm.trans idle
      · intro impossible
        cases impossible

/-- The poller is stopped before the worker and raises. -/
def raisingContainer : Container Unit String :=
  let silent : CallOutcome Unit String :=
    { world := ()
      queued := []
      signals := false
      raised := none }
  { startOrder := ["kobj_worker", "poller"]
    stopOrder := ["poller", "kobj_worker"]
    start := fun _ _ => silent
    stop := fun compName _ =>
      if compName = "poller" then { silent with raised := some "unreachable" }
      else silent
    await := fun _ => silent
    str := id }

def runningLifecycle : Lifecycle Unit String :=
  { state := .running
    shutdownSignal := true
    startupSignal := true
    exceptionQueue := []
    world := ()
    started := ["kobj_worker", "poller"]
    stopped := [] }

/-- The worker is not stopped, the exception of the poller is lost, and the
node stays in the stopping state. -/
theorem raisingContainer_not_shutdownComplete :
    (shutdown raisingContainer).run runningLifecycle =
        (.error .typeError,
          { runningLifecycle with
            state := .stopping
            stopped := ["poller"] }) ∧
      ¬ShutdownComplete raisingContainer runningLifecycle := by
  refine ⟨rfl, fun complete => ?_⟩
  have idle := complete.idle
  revert idle
  decide

end KoiNet
