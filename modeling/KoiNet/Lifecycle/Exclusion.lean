import KoiNet.Assembly.Correctness
import KoiNet.Infra.LifecycleThreads

/-!
# One lifecycle thread at a time

`start` relies on the state to tell that no lifecycle thread is alive, and
`stop` on it to tell that one will clear the signal.  The state says so except
in the gaps: a thread that was created has not set `STARTING` yet, a thread
that has set `IDLE` still prints exceptions, and the thread that was `RUNNING`
when `stop` tested may be done when `stop` sets the signal.
-/

namespace KoiNet

open Foundation

/-- The orders of a built artifact, some of whose singletons are
`ThreadedComponent`s: these have a stop method. -/
def LifecycleOrders.ofArtifact {iteration : Iteration String}
    {assembler : Assembler} {declarations : Declarations}
    {artifact : BuildArtifact}
    (sorted : Sorted iteration assembler declarations artifact)
    (threaded : List String)
    (stoppable : ∀ compName ∈ threaded, IsHooked
      (BuildArtifact.collectComponents assembler) .stop compName) :
    LifecycleOrders :=
  { startOrder := artifact.startOrder
    stopOrder := artifact.stopOrder
    threaded := threaded
    joined := by
      intro compName member
      have perm :=
        (topoSort_returns iteration sorted.stopOrder).1
      rw [perm.mem_iff]
      exact mem_keys_graph.mpr (stoppable compName member) }

/-- At most one lifecycle thread is alive, and no stale signal is left. -/
structure Exclusive (node : LifecycleThreads) : Prop where
  atMostOne : node.threads.length ≤ 1
  clear : node.shared.state = .idle → node.threads = [] →
    node.shared.shutdownSignal = false

/-- `start` tests the state while no thread is in a gap, and `stop` sets the
signal before it is cleared. -/
def Timely (node : LifecycleThreads) : LifecycleAction → Prop
  | .testStart =>
      ∀ point ∈ node.threads, point ≠ .created ∧ point ≠ .printing
  | .setSignal => node.shared.state ≠ .idle ∧ .cleared ∉ node.threads
  | _ => True

theorem Timely.of_no_thread {node : LifecycleThreads}
    (none : node.threads = []) : Timely node .testStart := by
  intro point member
  rw [none] at member
  cases member

/-- A step of any of the threads. -/
def LifecycleThreads.Steps (orders : LifecycleOrders)
    (node after : LifecycleThreads) : Prop :=
  ∃ action, Step orders action node after

/-- A step outside the gaps. -/
def LifecycleThreads.TimelySteps (orders : LifecycleOrders)
    (node after : LifecycleThreads) : Prop :=
  ∃ action, Timely node action ∧ Step orders action node after

/-- No component thread is alive and no signal is set. -/
structure Quiescent (shared : LifecycleShared) : Prop where
  clear : shared.shutdownSignal = false
  joined : ∀ compName, shared.alive compName = false

/-- The state that goes with the point of a lifecycle thread. -/
def LifecyclePoint.Agrees (shared : LifecycleShared) : LifecyclePoint → Prop
  | .created => shared.state = .idle
  | .starting _ => shared.state = .starting
  | .failing _ => shared.state = .starting
  | .checking _ => shared.state = .starting
  | .awaiting => shared.state ≠ .idle
  | .leaving => shared.state ≠ .idle
  | .stopping rest => shared.state = .stopping ∧
      ∀ compName, shared.alive compName = true → compName ∈ rest
  | .cleared => shared.state = .stopping ∧ Quiescent shared
  | .printing => shared.state = .idle ∧ Quiescent shared

/-- Without a thread the node is idle, or its shutdown has failed. -/
def ThreadsAgree (shared : LifecycleShared) : List LifecyclePoint → Prop
  | [] => shared.state = .idle ∧ Quiescent shared ∨ shared.state = .stopping
  | [point] => point.Agrees shared
  | _ => False

structure Excludes (orders : LifecycleOrders) (node : LifecycleThreads) :
    Prop where
  threaded : ∀ compName, node.shared.alive compName = true →
    compName ∈ orders.threaded
  agree : ThreadsAgree node.shared node.threads
  tested : node.control = .startTested →
    node.threads = [] ∧ node.shared.state = .idle

section Invariant

variable {orders : LifecycleOrders}

theorem ThreadsAgree.at_most_one {shared : LifecycleShared}
    {threads : List LifecyclePoint} (agree : ThreadsAgree shared threads) :
    threads = [] ∨ ∃ point, threads = [point] ∧ point.Agrees shared := by
  rcases threads with _ | ⟨point, _ | ⟨other, rest⟩⟩
  · exact .inl rfl
  · exact .inr ⟨point, rfl, agree⟩
  · exact agree.elim

theorem Excludes.exclusive {node : LifecycleThreads}
    (excludes : Excludes orders node) : Exclusive node := by
  have agree := excludes.agree
  constructor
  · rcases agree.at_most_one with none | ⟨point, one, _⟩
    · simp [none]
    · simp [one]
  · intro idle none
    rw [none] at agree
    rcases agree with rested | failed
    · exact rested.2.clear
    · rw [idle] at failed
      cases failed

/-- The logger raises on the event and its argument. -/
theorem shutdownError_raises (text : String) :
    ((shutdownError text).run ()).1 = .error .typeError := by
  unfold shutdownError
  rw [logCall_run_of_not_mem (by decide) (by simp)]

theorem Spawns.threaded {compName : String} {before after : String → Bool}
    (spawns : Spawns orders compName before after)
    (threaded : ∀ compName, before compName = true →
      compName ∈ orders.threaded) :
    ∀ compName, after compName = true → compName ∈ orders.threaded := by
  intro other isAlive
  rcases spawns with rfl | ⟨member, rfl⟩
  · exact threaded other isAlive
  · by_cases same : other = compName
    · rw [same]
      exact member
    · rw [Function.update_of_ne same] at isAlive
      exact threaded other isAlive

theorem LifecyclePoint.Step.agree {shared after : LifecycleShared}
    {point : LifecyclePoint} {next : Option LifecyclePoint}
    (step : point.Step orders shared after next)
    (threaded : ∀ compName, shared.alive compName = true →
      compName ∈ orders.threaded)
    (agrees : point.Agrees shared) :
    (∀ compName, after.alive compName = true → compName ∈ orders.threaded) ∧
      ThreadsAgree after next.toList := by
  cases step with
  | begins => exact ⟨threaded, rfl⟩
  | startReturns spawns => exact ⟨spawns.threaded threaded, agrees⟩
  | startRaises spawns => exact ⟨spawns.threaded threaded, agrees⟩
  | startFailed => exact ⟨threaded, agrees⟩
  | aborts set =>
      refine ⟨threaded, ?_⟩
      show shared.state ≠ .idle
      rw [show shared.state = .starting from agrees]
      decide
  | continues clear => exact ⟨threaded, agrees⟩
  | started =>
      refine ⟨threaded, ?_⟩
      show LifecycleState.running ≠ .idle
      decide
  | startupRaises =>
      refine ⟨threaded, ?_⟩
      show shared.state ≠ .idle
      rw [show shared.state = .starting from agrees]
      decide
  | signalled set => exact ⟨threaded, agrees⟩
  | stops =>
      refine ⟨threaded, rfl, ?_⟩
      intro compName isAlive
      exact orders.joined compName (threaded compName isAlive)
  | stopReturns joined =>
      refine ⟨threaded, agrees.1, ?_⟩
      intro other isAlive
      rcases List.mem_cons.mp (agrees.2 other isAlive) with same | later
      · rw [same, joined] at isAlive
        cases isAlive
      · exact later
  | stopRaises logged =>
      rw [shutdownError_raises] at logged
      cases logged
  | shutdownRaises raised => exact ⟨threaded, .inr agrees.1⟩
  | clears =>
      refine ⟨threaded, agrees.1, rfl, ?_⟩
      intro compName
      cases isAlive : shared.alive compName with
      | false => rfl
      | true => cases agrees.2 compName isAlive
  | idles => exact ⟨threaded, rfl, agrees.2.clear, agrees.2.joined⟩
  | ends => exact ⟨threaded, .inl agrees⟩

theorem Excludes.lifecycle {shared after : LifecycleShared}
    {control : ControlPoint} {left right : List LifecyclePoint}
    {point : LifecyclePoint} {next : Option LifecyclePoint}
    (excludes : Excludes orders ⟨shared, left ++ point :: right, control⟩)
    (step : point.Step orders shared after next) :
    Excludes orders ⟨after, left ++ (next.toList ++ right), control⟩ := by
  have agree : ThreadsAgree shared (left ++ point :: right) := excludes.agree
  have only : left = [] ∧ right = [] := by
    rcases agree.at_most_one with none | ⟨other, one, _⟩
    · simp at none
    · have ends : left = [] ∧ point = other ∧ right = [] := by
        rw [List.append_eq_singleton_iff] at one
        simpa using one
      exact ⟨ends.1, ends.2.2⟩
  obtain ⟨rfl, rfl⟩ := only
  have stepped := step.agree excludes.threaded agree
  refine
    { threaded := stepped.1
      agree := ?_
      tested := ?_ }
  · show ThreadsAgree after ([] ++ (next.toList ++ []))
    rw [List.nil_append, List.append_nil]
    exact stepped.2
  · intro tested
    cases (excludes.tested tested).1

/-- Where the state is idle and no thread is in a gap, there is none. -/
theorem Excludes.no_thread {node : LifecycleThreads}
    (excludes : Excludes orders node) (idle : node.shared.state = .idle)
    (noGap : ∀ point ∈ node.threads, point ≠ .created ∧ point ≠ .printing) :
    node.threads = [] := by
  rcases excludes.agree.at_most_one with none | ⟨point, one, agrees⟩
  · exact none
  · have outside := noGap point (by simp [one])
    cases point with
    | created => exact absurd rfl outside.1
    | printing => exact absurd rfl outside.2
    | awaiting | leaving => exact absurd idle agrees
    | stopping _ => cases idle.symm.trans agrees.1
    | cleared => cases idle.symm.trans agrees.1
    | starting _ | failing _ | checking _ => cases idle.symm.trans agrees

/-- The signal may be set where it is still going to be cleared, or where no
thread is alive and none can be started. -/
theorem ThreadsAgree.set_signal {shared : LifecycleShared}
    {threads : List LifecyclePoint} (agree : ThreadsAgree shared threads)
    (unsettled : ¬Quiescent shared ∨
      shared.state ≠ .idle ∧ .cleared ∉ threads) :
    ThreadsAgree { shared with shutdownSignal := true } threads := by
  rcases agree.at_most_one with rfl | ⟨point, rfl, agrees⟩
  · rcases agree with ⟨idle, quiescent⟩ | failed
    · rcases unsettled with unsettled | unsettled
      · exact absurd quiescent unsettled
      · exact absurd idle unsettled.1
    · exact .inr failed
  · show point.Agrees { shared with shutdownSignal := true }
    cases point with
    | cleared =>
        rcases unsettled with unsettled | unsettled
        · exact absurd agrees.2 unsettled
        · simp at unsettled
    | printing =>
        rcases unsettled with unsettled | unsettled
        · exact absurd agrees.2 unsettled
        · exact absurd agrees.1 unsettled.1
    | created | starting _ | failing _ | checking _ | awaiting | leaving
      | stopping _ => exact agrees

theorem Quiescent.with_alive {shared : LifecycleShared}
    {alive : String → Bool} (quiescent : Quiescent shared)
    (fewer : ∀ compName, alive compName = true →
      shared.alive compName = true) :
    Quiescent { shared with alive := alive } := by
  refine ⟨quiescent.clear, ?_⟩
  intro compName
  show alive compName = false
  cases isAlive : alive compName with
  | false => rfl
  | true =>
      have was := fewer compName isAlive
      rw [quiescent.joined compName] at was
      cases was

theorem ThreadsAgree.with_alive {shared : LifecycleShared}
    {threads : List LifecyclePoint} {alive : String → Bool}
    (agree : ThreadsAgree shared threads)
    (fewer : ∀ compName, alive compName = true →
      shared.alive compName = true) :
    ThreadsAgree { shared with alive := alive } threads := by
  rcases agree.at_most_one with rfl | ⟨point, rfl, agrees⟩
  · rcases agree with ⟨idle, quiescent⟩ | failed
    · exact .inl ⟨idle, quiescent.with_alive fewer⟩
    · exact .inr failed
  · show point.Agrees { shared with alive := alive }
    cases point with
    | cleared => exact ⟨agrees.1, agrees.2.with_alive fewer⟩
    | printing => exact ⟨agrees.1, agrees.2.with_alive fewer⟩
    | stopping rest =>
        exact ⟨agrees.1, fun compName isAlive =>
          agrees.2 compName (fewer compName isAlive)⟩
    | created | starting _ | failing _ | checking _ | awaiting | leaving =>
        exact agrees

theorem Excludes.step {node after : LifecycleThreads}
    {action : LifecycleAction} (excludes : Excludes orders node)
    (timely : Timely node action)
    (step : LifecycleThreads.Step orders action node after) :
    Excludes orders after := by
  cases step with
  | testStart idle =>
      exact
        { threaded := excludes.threaded
          agree := excludes.agree
          tested := fun _ => ⟨excludes.no_thread idle timely, idle⟩ }
  | createThread =>
      have tested := excludes.tested rfl
      dsimp only at tested
      obtain ⟨rfl, idle⟩ := tested
      exact
        { threaded := excludes.threaded
          agree := idle
          tested := fun other => by cases other }
  | testStop running =>
      exact
        { threaded := excludes.threaded
          agree := excludes.agree
          tested := fun other => by cases other }
  | setSignal =>
      exact
        { threaded := excludes.threaded
          agree := excludes.agree.set_signal (.inr timely)
          tested := fun other => by cases other }
  | lifecycle stepped => exact excludes.lifecycle stepped
  | componentCrashes isAlive =>
      have unsettled : ∀ shared : LifecycleShared, ∀ compName,
          shared.alive compName = true → ¬Quiescent shared := by
        intro shared compName isAlive quiescent
        rw [quiescent.joined compName] at isAlive
        cases isAlive
      exact
        { threaded := excludes.threaded
          agree := excludes.agree.set_signal (.inl (unsettled _ _ isAlive))
          tested := excludes.tested }
  | @componentEnds shared _ _ compName isAlive =>
      have fewer : ∀ other,
          Function.update shared.alive compName false other = true →
            shared.alive other = true := by
        intro other still
        by_cases same : other = compName
        · rw [same, Function.update_self] at still
          cases still
        · rw [Function.update_of_ne same] at still
          exact still
      exact
        { threaded := fun other still =>
            excludes.threaded other (fewer other still)
          agree := excludes.agree.with_alive fewer
          tested := excludes.tested }

theorem excludes_initial : Excludes orders .initial :=
  { threaded := fun compName isAlive => by cases isAlive
    agree := .inl ⟨rfl, rfl, fun _ => rfl⟩
    tested := fun other => by cases other }

/-- In every run outside the gaps, whatever the interleaving, at most one
lifecycle thread is alive, and an idle node without one has no signal set. -/
theorem exclusive_of_run {node : LifecycleThreads}
    (run : Run (LifecycleThreads.TimelySteps orders) .initial node) :
    Exclusive node := by
  have excludes : Excludes orders node := by
    apply run.invariant _ excludes_initial
    intro state next excludes taken
    obtain ⟨action, timely, step⟩ := taken
    exact excludes.step timely step
  exact excludes.exclusive

end Invariant

theorem LifecyclePoint.Step.only {orders : LifecycleOrders}
    {shared after : LifecycleShared} {point : LifecyclePoint}
    {next : Option LifecyclePoint}
    (step : point.Step orders shared after next) (control : ControlPoint) :
    LifecycleThreads.Step orders .lifecycle ⟨shared, [point], control⟩
      ⟨after, next.toList, control⟩ := by
  have stepped : LifecycleThreads.Step orders .lifecycle
      ⟨shared, [] ++ point :: [], control⟩
      ⟨after, [] ++ (next.toList ++ []), control⟩ := .lifecycle step
  rw [List.append_nil] at stepped
  exact stepped

/-- The only component has a thread. -/
def oneWorker : LifecycleOrders :=
  { startOrder := ["worker"]
    stopOrder := ["worker"]
    threaded := ["worker"]
    joined := by simp }

theorem worker_spawns (alive : String → Bool) :
    Spawns oneWorker "worker" alive (Function.update alive "worker" true) :=
  .inr ⟨by simp [oneWorker], rfl⟩

theorem exclusive_of_run_restarted :
    ∃ node, node.threads = [.created] ∧ Exclusive node := by
  have tested : Run (LifecycleThreads.TimelySteps oneWorker) .initial _ :=
    .tail (.refl _) ⟨.testStart, .of_no_thread rfl, .testStart rfl⟩
  have created := tested.tail ⟨.createThread, trivial, .createThread⟩
  have begun := created.tail
    ⟨.lifecycle, trivial, LifecyclePoint.Step.begins.only _⟩
  have spawned := begun.tail ⟨.lifecycle, trivial,
    (LifecyclePoint.Step.startReturns (worker_spawns _)).only _⟩
  have continued := spawned.tail
    ⟨.lifecycle, trivial, (LifecyclePoint.Step.continues rfl).only _⟩
  have running := continued.tail
    ⟨.lifecycle, trivial, LifecyclePoint.Step.started.only _⟩
  have stopTested := running.tail ⟨.testStop, trivial, .testStop rfl⟩
  have signalled := stopTested.tail
    ⟨.setSignal, ⟨by decide, by decide⟩, .setSignal⟩
  have left := signalled.tail
    ⟨.lifecycle, trivial, (LifecyclePoint.Step.signalled rfl).only _⟩
  have stopping := left.tail
    ⟨.lifecycle, trivial, LifecyclePoint.Step.stops.only _⟩
  have ended := stopping.tail ⟨.componentEnds, trivial,
    @LifecycleThreads.Step.componentEnds _ _ _ _ "worker" rfl⟩
  have joined := ended.tail
    ⟨.lifecycle, trivial, (LifecyclePoint.Step.stopReturns rfl).only _⟩
  have cleared := joined.tail
    ⟨.lifecycle, trivial, LifecyclePoint.Step.clears.only _⟩
  have idle := cleared.tail
    ⟨.lifecycle, trivial, LifecyclePoint.Step.idles.only _⟩
  have printed := idle.tail
    ⟨.lifecycle, trivial, LifecyclePoint.Step.ends.only _⟩
  have retested := printed.tail
    ⟨.testStart, .of_no_thread rfl, .testStart rfl⟩
  have restarted := retested.tail ⟨.createThread, trivial, .createThread⟩
  exact ⟨_, rfl, exclusive_of_run restarted⟩

/-- The second call of `start` finds the state the first thread has not
changed yet; and the worker may crash between the test of `stop` and its
setting the signal, so that the node is shut down before the signal is set. -/
theorem lifecycle_not_exclusive :
    (∃ node, Run (LifecycleThreads.Steps oneWorker) .initial node ∧
        ¬node.threads.length ≤ 1) ∧
      ∃ node, Run (LifecycleThreads.Steps oneWorker) .initial node ∧
        node.shared.state = .idle ∧ node.threads = [] ∧
          node.shared.shutdownSignal = true := by
  have tested : Run (LifecycleThreads.Steps oneWorker) .initial _ :=
    .tail (.refl _) ⟨_, .testStart rfl⟩
  have created := tested.tail ⟨_, .createThread⟩
  have retested := created.tail ⟨_, .testStart rfl⟩
  have recreated := retested.tail ⟨_, .createThread⟩
  have begun := created.tail ⟨_, LifecyclePoint.Step.begins.only _⟩
  have spawned := begun.tail
    ⟨_, (LifecyclePoint.Step.startReturns (worker_spawns _)).only _⟩
  have continued := spawned.tail
    ⟨_, (LifecyclePoint.Step.continues rfl).only _⟩
  have running := continued.tail ⟨_, LifecyclePoint.Step.started.only _⟩
  have stopTested := running.tail ⟨_, .testStop rfl⟩
  have crashed := stopTested.tail
    ⟨_, @LifecycleThreads.Step.componentCrashes _ _ _ _ "worker" rfl⟩
  have ended := crashed.tail
    ⟨_, @LifecycleThreads.Step.componentEnds _ _ _ _ "worker" rfl⟩
  have left := ended.tail ⟨_, (LifecyclePoint.Step.signalled rfl).only _⟩
  have stopping := left.tail ⟨_, LifecyclePoint.Step.stops.only _⟩
  have joined := stopping.tail
    ⟨_, (LifecyclePoint.Step.stopReturns rfl).only _⟩
  have cleared := joined.tail ⟨_, LifecyclePoint.Step.clears.only _⟩
  have idle := cleared.tail ⟨_, LifecyclePoint.Step.idles.only _⟩
  have printed := idle.tail ⟨_, LifecyclePoint.Step.ends.only _⟩
  have signalled := printed.tail ⟨_, .setSignal⟩
  exact ⟨⟨_, recreated, by decide⟩, ⟨_, signalled, rfl, rfl, rfl⟩⟩

end KoiNet
