import KoiNet.Components.WorkerThreads
import KoiNet.Lifecycle.Completeness

/-!
# Starting the workers again

A worker that is told to stop takes its sentinel only if its thread is still
in its loop then and stays there until the sentinel is reached.  In runs in
which that is so, no sentinel is left for the next thread.  Otherwise one is,
for example if the startup was aborted before the worker was started.
-/

namespace KoiNet

open Foundation NodeLifecycle

variable {α Raised : Type}

namespace NodeProcess

variable (process : NodeProcess α Raised)

/-- A worker that is started finds no sentinel, and a worker that finds one is
being stopped and has taken every item queued before. -/
def Restartable : Prop :=
  ∀ worker,
    (∀ compName rest, process.control = .starting (compName :: rest) →
      Worker.ofCompName compName = some worker →
      .stopWorker ∉ (process.lifecycle.world worker).queue) ∧
    ∀ rest, (process.lifecycle.world worker).phase = .waiting →
      (process.lifecycle.world worker).queue = .stopWorker :: rest →
      (∃ later, process.control = .joining worker later) ∧
        (process.lifecycle.world worker).taken =
          (process.lifecycle.world worker).queuedBeforeStop

/-- A worker is told to stop while its thread is in its loop, and does not
raise once it has been told. -/
def Clean : NodeAction α Raised → Prop
  | .stopNext _ =>
      ∀ compName rest worker,
        process.control = .stopping (compName :: rest) →
        Worker.ofCompName compName = some worker →
        (process.lifecycle.world worker).phase.inLoop = true
  | .raises worker _ => .stopWorker ∉ (process.lifecycle.world worker).queue
  | _ => True

/-- The steps of which a clean run is made. -/
def CleanStep (orders : NodeOrders Raised) (action : NodeAction α Raised)
    (process next : NodeProcess α Raised) : Prop :=
  Step orders action process next ∧ process.Clean action

end NodeProcess

namespace WorkerThread

/-- The items in a queue. -/
def values (queue : List (WorkItem α)) : List α :=
  queue.filterMap fun
    | .item value => some value
    | .stopWorker => none

/-- The thread will take the one sentinel in the queue, after the items queued
before it. -/
def Finishing (thread : WorkerThread α) : Prop :=
  thread.phase.inLoop = true ∧ ∃ before later : List α,
    thread.queue = before.map .item ++ .stopWorker :: later.map .item ∧
      thread.queuedBeforeStop = thread.taken ++ before

/-- No item is lost, and there is a sentinel only while the lifecycle manager
waits for the thread. -/
structure Sound (control : LifecycleControl) (worker : Worker)
    (thread : WorkerThread α) : Prop where
  lossless : thread.queued = thread.taken ++ values thread.queue
  sentinel : .stopWorker ∈ thread.queue →
    (∃ rest, control = .joining worker rest) ∧ thread.Finishing

variable {control : LifecycleControl} {worker : Worker}
  {thread : WorkerThread α}

/-- A worker without a sentinel may be found at any point. -/
theorem Sound.of_not_mem (sound : thread.Sound control worker)
    (absent : .stopWorker ∉ thread.queue) (other : LifecycleControl) :
    thread.Sound other worker :=
  { lossless := sound.lossless
    sentinel := fun member => absurd member absent }

theorem Sound.not_mem (sound : thread.Sound control worker)
    (elsewhere : ∀ rest, control ≠ .joining worker rest) :
    .stopWorker ∉ thread.queue := by
  intro member
  obtain ⟨⟨rest, joining⟩, _⟩ := sound.sentinel member
  exact elsewhere rest joining

theorem Sound.phase (sound : thread.Sound control worker)
    (absent : .stopWorker ∉ thread.queue) (phase : ThreadPhase) :
    Sound control worker { thread with phase := phase } :=
  { lossless := sound.lossless
    sentinel := fun member => absurd member absent }

theorem Sound.start (sound : thread.Sound control worker)
    (absent : .stopWorker ∉ thread.queue) :
    thread.start.Sound control worker := by
  unfold WorkerThread.start
  split
  · exact sound.phase absent .waiting
  · exact sound

theorem exists_map_item {queue : List (WorkItem α)}
    (absent : .stopWorker ∉ queue) : queue = (values queue).map WorkItem.item := by
  induction queue with
  | nil => rfl
  | cons first rest induction =>
      cases first with
      | stopWorker => exact absurd List.mem_cons_self absent
      | item value =>
          have tail := induction fun member =>
            absent (List.mem_cons_of_mem _ member)
          change _ = WorkItem.item value :: (values rest).map .item
          rw [← tail]

theorem Sound.putStopWorker (sound : thread.Sound control worker)
    (absent : .stopWorker ∉ thread.queue)
    (inLoop : thread.phase.inLoop = true) (rest : List String) :
    thread.putStopWorker.Sound (.joining worker rest) worker := by
  refine
    { lossless := ?_
      sentinel := fun _ => ⟨⟨rest, rfl⟩, inLoop, values thread.queue, [],
        ?_, sound.lossless⟩ }
  · change thread.queued = _
    rw [sound.lossless]
    simp [WorkerThread.putStopWorker, values]
  · change thread.queue ++ [.stopWorker] = _
    conv => lhs; rw [exists_map_item absent]
    rfl

theorem Sound.put (sound : thread.Sound control worker) (value : α) :
    (thread.put value).Sound control worker := by
  constructor
  · change thread.queued ++ [value] =
      thread.taken ++ values (thread.queue ++ [.item value])
    rw [sound.lossless]
    simp [values]
  · intro member
    have before : .stopWorker ∈ thread.queue := by
      simpa [WorkerThread.put] using member
    obtain ⟨joining, inLoop, items, later, queue, recorded⟩ :=
      sound.sentinel before
    refine ⟨joining, inLoop, items, later ++ [value], ?_, recorded⟩
    change thread.queue ++ [.item value] = _
    rw [queue]
    simp

theorem Sound.take (sound : thread.Sound control worker)
    {first : WorkItem α} {rest : List (WorkItem α)}
    (queue : thread.queue = first :: rest) :
    (thread.take first rest).Sound control worker := by
  cases first with
  | stopWorker =>
      have lossless := sound.lossless
      obtain ⟨_, _, before, later, split, _⟩ :=
        sound.sentinel (by simp [queue])
      rw [queue] at lossless split
      have rest_eq : rest = later.map .item := by
        cases before with
        | nil => exact (List.cons.inj split).2
        | cons value before => cases (List.cons.inj split).1
      refine
        { lossless := lossless
          sentinel := fun member => ?_ }
      change .stopWorker ∈ rest at member
      rw [rest_eq] at member
      simp at member
  | item value =>
      have lossless := sound.lossless
      rw [queue] at lossless
      constructor
      · change thread.queued = (thread.taken ++ [value]) ++ values rest
        rw [lossless]
        simp [values]
      · intro member
        obtain ⟨joining, _, before, later, split, recorded⟩ :=
          sound.sentinel (by
            rw [queue]
            exact List.mem_cons_of_mem _ member)
        rw [queue] at split
        refine ⟨joining, rfl, ?_⟩
        cases before with
        | nil => cases (List.cons.inj split).1
        | cons head before =>
            obtain ⟨same, tail⟩ := List.cons.inj split
            cases same
            refine ⟨before, later, tail, ?_⟩
            change thread.queuedBeforeStop = (thread.taken ++ [value]) ++ before
            rw [recorded]
            simp

end WorkerThread

private theorem startComponent_world {World : Type}
    {container : Container World Raised} {compName : String}
    {lifecycle after : Lifecycle World Raised}
    (run : (startComponent container compName).run lifecycle =
      (.ok (), after)) :
    after.world = (container.start compName lifecycle.world).world := by
  unfold startComponent call at run
  cases raises : (container.start compName lifecycle.world).raised with
  | none =>
      simp only [Effect.run_bind, logCall_run_nil, Effect.run_modify,
        Effect.run_get, Effect.run_pure, raises] at run
      cases run
      rfl
  | some err =>
      simp only [Effect.run_bind, logCall_run_nil, Effect.run_modify,
        Effect.run_get, Effect.run_pure, raises] at run
      cases run
      rfl

private theorem stopComponent_world {World : Type}
    {container : Container World Raised} {compName : String}
    {lifecycle after : Lifecycle World Raised} {result : Except Exc Unit}
    (run : (stopComponent container compName).run lifecycle =
      (result, after)) :
    after.world = (container.stop compName lifecycle.world).world := by
  rw [stopComponent_run] at run
  cases run
  rfl

variable {orders : NodeOrders Raised}

theorem start_world (ending : CallEnding Raised) (compName : String)
    (workers : Workers α) (worker : Worker) :
    ((orders.container ending).start compName workers).world worker =
      if Worker.ofCompName compName = some worker then
        (workers worker).start
      else
        workers worker := by
  unfold NodeOrders.container
  dsimp only
  cases named : Worker.ofCompName compName with
  | none => rfl
  | some started =>
      dsimp only
      by_cases same : worker = started
      · subst same
        simp
      · simp [same, Ne.symm same]

theorem stop_world (ending : CallEnding Raised) (compName : String)
    (workers : Workers α) (worker : Worker) :
    ((orders.container ending).stop compName workers).world worker =
      if Worker.ofCompName compName = some worker then
        (workers worker).putStopWorker
      else
        workers worker := by
  unfold NodeOrders.container
  dsimp only
  cases named : Worker.ofCompName compName with
  | none => rfl
  | some stopped =>
      dsimp only
      by_cases same : worker = stopped
      · subst same
        simp
      · simp [same, Ne.symm same]

namespace NodeProcess

/-- Every worker is sound. -/
def Sound (process : NodeProcess α Raised) : Prop :=
  ∀ worker,
    (process.lifecycle.world worker).Sound process.control worker

theorem initial_sound : (initial : NodeProcess α Raised).Sound := by
  intro worker
  exact
    { lossless := rfl
      sentinel := fun member => absurd member List.not_mem_nil }

theorem Sound.withWorker {process : NodeProcess α Raised}
    (sound : process.Sound) {worker : Worker} {thread : WorkerThread α}
    (stepped : thread.Sound process.control worker) :
    (process.withWorker worker thread).Sound := by
  intro other
  unfold NodeProcess.withWorker
  dsimp only
  by_cases same : other = worker
  · subst same
    rw [Function.update_self]
    exact stepped
  · rw [Function.update_of_ne same]
    exact sound other

section Lifecycle

variable {lifecycle after : Lifecycle (Workers α) Raised}
  {control : LifecycleControl} {ending : CallEnding Raised} {compName : String}
  {rest : List String}

/-- While no worker is joined the lifecycle manager may move on. -/
private theorem Sound.moveOn
    (sound : Sound { lifecycle := lifecycle, control := control })
    (free : ∀ worker rest, control ≠ .joining worker rest)
    (same : after.world = lifecycle.world) (next : LifecycleControl) :
    Sound { lifecycle := after, control := next } := by
  intro worker
  have absent := (sound worker).not_mem (free worker)
  dsimp only
  rw [same]
  exact (sound worker).of_not_mem absent next

private theorem Sound.startNext
    (sound : Sound
      { lifecycle := lifecycle, control := .starting (compName :: rest) })
    (run : (startComponent (orders.container ending) compName).run lifecycle =
      (.ok (), after)) (next : LifecycleControl) :
    Sound { lifecycle := after, control := next } := by
  intro worker
  have absent : .stopWorker ∉ (lifecycle.world worker).queue :=
    (sound worker).not_mem (by simp)
  dsimp only
  rw [startComponent_world run, start_world]
  split
  · refine ((sound worker).start absent).of_not_mem ?_ next
    unfold WorkerThread.start
    split
    · exact absent
    · exact absent
  · exact (sound worker).of_not_mem absent next

private theorem Sound.stopNext
    (sound : Sound
      { lifecycle := lifecycle, control := .stopping (compName :: rest) })
    (run : (stopComponent (orders.container ending) compName).run lifecycle =
      (.ok (), after))
    (inLoop : ∀ worker, Worker.ofCompName compName = some worker →
      (lifecycle.world worker).phase.inLoop = true) (worker : Worker) :
    (after.world worker).Sound
      (match Worker.ofCompName compName with
        | some worker => .joining worker rest
        | none => .stopping rest) worker := by
  have absent : .stopWorker ∉ (lifecycle.world worker).queue :=
    (sound worker).not_mem (by simp)
  rw [stopComponent_world run, stop_world]
  by_cases named : Worker.ofCompName compName = some worker
  · rw [if_pos named, named]
    exact (sound worker).putStopWorker absent (inLoop worker named) rest
  · rw [if_neg named]
    exact (sound worker).of_not_mem absent _

private theorem Sound.stopFails {failure : Exc}
    (sound : Sound
      { lifecycle := lifecycle, control := .stopping (compName :: rest) })
    (run : (stopComponent (orders.container ending) compName).run lifecycle =
      (.error failure, after)) :
    Sound { lifecycle := after, control := .failed } := by
  intro worker
  have absent : .stopWorker ∉ (lifecycle.world worker).queue :=
    (sound worker).not_mem (by simp)
  have silent : Worker.ofCompName compName ≠ some worker := by
    intro named
    rw [stopComponent_run] at run
    unfold NodeOrders.container at run
    simp [named] at run
  dsimp only
  rw [stopComponent_world run, stop_world, if_neg silent]
  exact (sound worker).of_not_mem absent _

private theorem Sound.joined {stopped : Worker}
    (sound : Sound
      { lifecycle := lifecycle, control := .joining stopped rest })
    (ended : (lifecycle.world stopped).phase = .ended) :
    Sound { lifecycle := lifecycle, control := .stopping rest } := by
  intro worker
  refine (sound worker).of_not_mem ?_ _
  intro member
  obtain ⟨⟨later, joining⟩, inLoop, _⟩ := (sound worker).sentinel member
  cases joining
  rw [ended] at inLoop
  cases inLoop

end Lifecycle

theorem Sound.step {action : NodeAction α Raised}
    {process next : NodeProcess α Raised} (sound : process.Sound)
    (taken : CleanStep orders action process next) : next.Sound := by
  obtain ⟨step, clean⟩ := taken
  cases step with
  | start => exact sound.moveOn (by simp) rfl _
  | startNext run =>
      split
      · exact (sound.startNext run .awaiting).moveOn (by simp) rfl _
      · exact sound.startNext run _
  | started => exact sound.moveOn (by simp) rfl _
  | beginShutdown _ => exact sound.moveOn (by simp) rfl _
  | stopNext run =>
      rename_i compName rest
      exact sound.stopNext run fun worker named =>
        clean compName rest worker rfl named
  | stopFails run => exact sound.stopFails run
  | joined ended => exact sound.joined ended
  | endShutdown => exact sound.moveOn (by simp) rfl _
  | signal => exact sound
  | put =>
      rename_i worker value
      exact sound.withWorker ((sound worker).put value)
  | take waiting queue =>
      rename_i worker first rest
      exact sound.withWorker ((sound worker).take queue)
  | processed processing =>
      rename_i worker
      refine sound.withWorker
        { lossless := (sound worker).lossless
          sentinel := fun member => ?_ }
      obtain ⟨joining, _, finishing⟩ := (sound worker).sentinel member
      exact ⟨joining, rfl, finishing⟩
  | raises _ =>
      rename_i worker err _
      exact sound.withWorker ((sound worker).phase clean .raising)
  | ends ending =>
      rename_i worker
      refine sound.withWorker ((sound worker).phase ?_ .ended)
      intro member
      obtain ⟨_, inLoop, _⟩ := (sound worker).sentinel member
      rcases ending with returning | raising
      · rw [returning] at inLoop
        cases inLoop
      · rw [raising] at inLoop
        cases inLoop

theorem Sound.restartable {process : NodeProcess α Raised}
    (sound : process.Sound) : process.Restartable := by
  intro worker
  constructor
  · intro compName rest starting _
    apply (sound worker).not_mem
    simp [starting]
  · intro rest _ queue
    obtain ⟨joining, _, before, later, split, recorded⟩ :=
      (sound worker).sentinel (by simp [queue])
    refine ⟨joining, ?_⟩
    rw [queue] at split
    cases before with
    | nil =>
        rw [recorded, List.append_nil]
    | cons value before => cases (List.cons.inj split).1

/-- In a clean run no worker is ever started with a sentinel in its queue, and
a worker that takes one has taken everything queued before it was told to
stop. -/
theorem restartable_of_cleanRun {actions : List (NodeAction α Raised)}
    {process : NodeProcess α Raised}
    (run : Trace (CleanStep orders) actions initial process) :
    process.Restartable :=
  (run.invariant (fun sound step => Sound.step sound step)
    initial_sound).restartable

/-- The configuration is started first; it has no stop method. -/
def workerOrders : NodeOrders String :=
  { startOrder := ["config", "kobj_worker"]
    stopOrder := ["kobj_worker"]
    str := id }

def returning : CallEnding String :=
  { queued := []
    signals := false
    raised := none }

/-- The worker is started, processes an item, is stopped and about to be
started again. -/
def restart : List (NodeAction Unit String) :=
  [.start, .startNext returning, .startNext returning, .started,
    .put .kobjWorker (), .take .kobjWorker, .processed .kobjWorker,
    .signal, .beginShutdown, .stopNext returning, .take .kobjWorker,
    .ends .kobjWorker, .joined, .endShutdown, .start, .startNext returning]

theorem restart_restartable :
    ∃ process : NodeProcess Unit String,
      Trace (CleanStep workerOrders) restart initial process ∧
        process.control = .starting ["kobj_worker"] ∧
        process.Restartable := by
  have run : ∃ process : NodeProcess Unit String,
      Trace (CleanStep workerOrders) restart initial process ∧
        process.control = .starting ["kobj_worker"] := by
    refine ⟨_,
      .cons ⟨.start rfl, trivial⟩ <|
      .cons ⟨.startNext rfl, trivial⟩ <|
      .cons ⟨.startNext rfl, trivial⟩ <|
      .cons ⟨.started, trivial⟩ <|
      .cons ⟨.put, trivial⟩ <|
      .cons ⟨.take rfl rfl, trivial⟩ <|
      .cons ⟨.processed rfl, trivial⟩ <|
      .cons ⟨.signal, trivial⟩ <|
      .cons ⟨.beginShutdown rfl, trivial⟩ <|
      .cons ⟨.stopNext rfl, ?_⟩ <|
      .cons ⟨.take rfl rfl, trivial⟩ <|
      .cons ⟨.ends (.inl rfl), trivial⟩ <|
      .cons ⟨.joined rfl, trivial⟩ <|
      .cons ⟨.endShutdown, trivial⟩ <|
      .cons ⟨.start rfl, trivial⟩ <|
      .cons ⟨.startNext rfl, trivial⟩ <| .nil _, rfl⟩
    intro compName rest worker stopping named
    cases stopping
    cases named
    rfl
  obtain ⟨process, trace, starting⟩ := run
  exact ⟨process, trace, starting, restartable_of_cleanRun trace⟩

/-- The configuration raises, the worker is stopped without a thread, and is
then started with the sentinel in its queue. -/
def abortedStartup : List (NodeAction Unit String) :=
  [.start, .startNext { returning with raised := some "invalid" },
    .beginShutdown, .stopNext returning, .joined, .endShutdown,
    .start, .startNext returning]

theorem abortedStartup_not_restartable :
    ∃ process : NodeProcess Unit String,
      Trace (Step workerOrders) abortedStartup initial process ∧
        ¬process.Restartable := by
  refine ⟨_,
    .cons (.start rfl) <| .cons (.startNext rfl) <|
    .cons (.beginShutdown rfl) <| .cons (.stopNext rfl) <|
    .cons (.joined rfl) <| .cons .endShutdown <|
    .cons (.start rfl) <| .cons (.startNext rfl) <| .nil _, ?_⟩
  intro restartable
  exact (restartable .kobjWorker).1 "kobj_worker" [] rfl rfl
    List.mem_cons_self

end NodeProcess

end KoiNet
