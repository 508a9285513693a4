import KoiNet.Foundation.Execution
import KoiNet.Infra.Lifecycle
import Mathlib.Logic.Function.Basic

/-!
# The threads of the lifecycle manager

`start` and `stop` test the lifecycle state and then act on it; the state is
changed by the lifecycle threads that `start` creates.  The shutdown signal is
set by `stop`, by a start method that raises and by component threads that
crash, and is cleared by the lifecycle thread.  Every step here is one such
access; the calls do not block.
-/

namespace KoiNet

open Foundation

/-- The orders of an artifact.  A `ThreadedComponent` has a start method and a
stop method, so it is among the components that are stopped. -/
structure LifecycleOrders where
  startOrder : List String
  stopOrder : List String
  threaded : List String
  joined : ∀ compName ∈ threaded, compName ∈ stopOrder

/-- Where a lifecycle thread is that is alive. -/
inductive LifecyclePoint where
  /-- `_run` has not begun. -/
  | created
  | starting (rest : List String)
  /-- In the `except` branch of the loop in `_startup`. -/
  | failing (rest : List String)
  /-- At `if self.shutdown_signal.is_set()`. -/
  | checking (rest : List String)
  /-- At `self.shutdown_signal.wait()`, behind a startup that may have been
  aborted. -/
  | awaiting
  /-- At the `finally` of `_run`. -/
  | leaving
  | stopping (rest : List String)
  /-- The signal is cleared, the state is not yet set to `IDLE`. -/
  | cleared
  /-- The queued exceptions are printed. -/
  | printing
  deriving DecidableEq, Repr

/-- What the threads share: the state, the signal, and which component threads
are alive. -/
structure LifecycleShared where
  state : LifecycleState
  shutdownSignal : Bool
  alive : String → Bool

/-- A start method creates the thread of its component, unless it raises
before, has no thread to create, or finds it alive. -/
def Spawns (orders : LifecycleOrders) (compName : String)
    (before after : String → Bool) : Prop :=
  after = before ∨
    compName ∈ orders.threaded ∧ after = Function.update before compName true

/-- `self.log.error("Shutdown error:", str(err))`. -/
def shutdownError (text : String) : Effect Exc Unit Unit :=
  logCall "Shutdown error:" [text]

/-- One step of a lifecycle thread; without a point after it the thread has
ended. -/
inductive LifecyclePoint.Step (orders : LifecycleOrders) :
    LifecycleShared → LifecyclePoint →
      LifecycleShared → Option LifecyclePoint → Prop where
  | begins {shared : LifecycleShared} :
      Step orders shared .created { shared with state := .starting }
        (some (.starting orders.startOrder))
  | startReturns {shared : LifecycleShared} {compName : String}
      {rest : List String} {alive : String → Bool} :
      Spawns orders compName shared.alive alive →
      Step orders shared (.starting (compName :: rest))
        { shared with alive := alive } (some (.checking rest))
  | startRaises {shared : LifecycleShared} {compName : String}
      {rest : List String} {alive : String → Bool} :
      Spawns orders compName shared.alive alive →
      Step orders shared (.starting (compName :: rest))
        { shared with alive := alive } (some (.failing rest))
  | startFailed {shared : LifecycleShared} {rest : List String} :
      Step orders shared (.failing rest) { shared with shutdownSignal := true }
        (some (.checking rest))
  | aborts {shared : LifecycleShared} {rest : List String} :
      shared.shutdownSignal = true →
      Step orders shared (.checking rest) shared (some .awaiting)
  | continues {shared : LifecycleShared} {rest : List String} :
      shared.shutdownSignal = false →
      Step orders shared (.checking rest) shared (some (.starting rest))
  | started {shared : LifecycleShared} :
      Step orders shared (.starting []) { shared with state := .running }
        (some .awaiting)
  -- an exception that `_startup` does not handle
  | startupRaises {shared : LifecycleShared} {rest : List String} :
      Step orders shared (.starting rest) shared (some .leaving)
  | signalled {shared : LifecycleShared} :
      shared.shutdownSignal = true →
      Step orders shared .awaiting shared (some .leaving)
  | stops {shared : LifecycleShared} :
      Step orders shared .leaving { shared with state := .stopping }
        (some (.stopping orders.stopOrder))
  -- `ThreadedComponent.stop` waits for the thread, if it is alive
  | stopReturns {shared : LifecycleShared} {compName : String}
      {rest : List String} :
      shared.alive compName = false →
      Step orders shared (.stopping (compName :: rest)) shared
        (some (.stopping rest))
  | stopRaises {shared : LifecycleShared} {compName text : String}
      {rest : List String} :
      ((shutdownError text).run ()).1 = .ok () →
      Step orders shared (.stopping (compName :: rest)) shared
        (some (.stopping rest))
  | shutdownRaises {shared : LifecycleShared} {compName text : String}
      {rest : List String} {failure : Exc} :
      ((shutdownError text).run ()).1 = .error failure →
      Step orders shared (.stopping (compName :: rest)) shared none
  | clears {shared : LifecycleShared} :
      Step orders shared (.stopping []) { shared with shutdownSignal := false }
        (some .cleared)
  | idles {shared : LifecycleShared} :
      Step orders shared .cleared { shared with state := .idle }
        (some .printing)
  | ends {shared : LifecycleShared} :
      Step orders shared .printing shared none

/-- Where the controlling thread is: between two calls, or behind the test of
one. -/
inductive ControlPoint where
  | between
  | startTested
  | stopTested
  deriving DecidableEq, Repr

/-- The lifecycle threads that are alive, and the controlling thread. -/
structure LifecycleThreads where
  shared : LifecycleShared
  threads : List LifecyclePoint
  control : ControlPoint

inductive LifecycleAction where
  | testStart
  | createThread
  | testStop
  | setSignal
  | lifecycle
  | componentCrashes
  | componentEnds
  deriving DecidableEq, Repr

/-- One step of one of the threads.  A test that fails ends the call and
changes nothing. -/
inductive LifecycleThreads.Step (orders : LifecycleOrders) :
    LifecycleAction → LifecycleThreads → LifecycleThreads → Prop where
  | testStart {shared : LifecycleShared} {threads : List LifecyclePoint} :
      shared.state = .idle →
      Step orders .testStart ⟨shared, threads, .between⟩
        ⟨shared, threads, .startTested⟩
  | createThread {shared : LifecycleShared}
      {threads : List LifecyclePoint} :
      Step orders .createThread ⟨shared, threads, .startTested⟩
        ⟨shared, .created :: threads, .between⟩
  | testStop {shared : LifecycleShared} {threads : List LifecyclePoint} :
      shared.state = .running →
      Step orders .testStop ⟨shared, threads, .between⟩
        ⟨shared, threads, .stopTested⟩
  | setSignal {shared : LifecycleShared} {threads : List LifecyclePoint} :
      Step orders .setSignal ⟨shared, threads, .stopTested⟩
        ⟨{ shared with shutdownSignal := true }, threads, .between⟩
  | lifecycle {shared after : LifecycleShared} {control : ControlPoint}
      {left right : List LifecyclePoint} {point : LifecyclePoint}
      {next : Option LifecyclePoint} :
      point.Step orders shared after next →
      Step orders .lifecycle ⟨shared, left ++ point :: right, control⟩
        ⟨after, left ++ (next.toList ++ right), control⟩
  | componentCrashes {shared : LifecycleShared}
      {threads : List LifecyclePoint} {control : ControlPoint}
      {compName : String} :
      shared.alive compName = true →
      Step orders .componentCrashes ⟨shared, threads, control⟩
        ⟨{ shared with shutdownSignal := true }, threads, control⟩
  | componentEnds {shared : LifecycleShared}
      {threads : List LifecyclePoint} {control : ControlPoint}
      {compName : String} :
      shared.alive compName = true →
      Step orders .componentEnds ⟨shared, threads, control⟩
        ⟨{ shared with
            alive := Function.update shared.alive compName false },
          threads, control⟩

/-- The node has not been started yet. -/
def LifecycleThreads.initial : LifecycleThreads :=
  { shared :=
      { state := .idle
        shutdownSignal := false
        alive := fun _ => false }
    threads := []
    control := .between }

end KoiNet
