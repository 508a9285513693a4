import KoiNet.Foundation.Execution
import KoiNet.Infra.Lifecycle
import Mathlib.Logic.Function.Basic

/-!
# The threads of the queue workers

The two queue workers run as threads that the lifecycle manager starts and
stops with the other components, again and again.  Stopping a worker queues a
sentinel and waits for the thread to end; the thread ends when it takes a
sentinel from its queue or when an item makes it raise.  What the other
components do is arbitrary.
-/

namespace KoiNet

open Foundation

inductive Worker where
  | kobjWorker
  | eventWorker
  deriving DecidableEq, Repr

namespace Worker

def compName : Worker → String
  | .kobjWorker => "kobj_worker"
  | .eventWorker => "event_worker"

/-- The worker that is the component of this name. -/
def ofCompName (compName : String) : Option Worker :=
  if compName = "kobj_worker" then some .kobjWorker
  else if compName = "event_worker" then some .eventWorker
  else none

end Worker

/-- What a queue holds; `stopWorker` is the sentinel `STOP_WORKER`. -/
inductive WorkItem (α : Type) where
  | stopWorker
  | item (value : α)
  deriving DecidableEq, Repr

/-- How far the thread of a worker is; it is alive unless it has ended. -/
inductive ThreadPhase where
  | ended
  /-- In `q.get`. -/
  | waiting
  | processing
  /-- A sentinel has been taken. -/
  | returning
  /-- An exception has left `run`. -/
  | raising
  deriving DecidableEq, Repr

/-- Whether the thread is still in the loop of `run`. -/
def ThreadPhase.inLoop : ThreadPhase → Bool
  | .waiting | .processing => true
  | _ => false

/-- A worker, with the items queued and taken so far, and those that had been
queued when it was last told to stop. -/
structure WorkerThread (α : Type) where
  phase : ThreadPhase
  queue : List (WorkItem α)
  queued : List α
  taken : List α
  queuedBeforeStop : List α

namespace WorkerThread

variable {α : Type} (thread : WorkerThread α)

/-- `ThreadedComponent.start`. -/
def start : WorkerThread α :=
  match thread.phase with
  | .ended => { thread with phase := .waiting }
  | _ => thread

/-- `q.put(STOP_WORKER)`. -/
def putStopWorker : WorkerThread α :=
  { thread with
    queue := thread.queue ++ [.stopWorker]
    queuedBeforeStop := thread.queued }

/-- `q.put(item)`. -/
def put (value : α) : WorkerThread α :=
  { thread with
    queue := thread.queue ++ [.item value]
    queued := thread.queued ++ [value] }

/-- Take the first item from the queue, of which this is the rest. -/
def take (first : WorkItem α) (rest : List (WorkItem α)) : WorkerThread α :=
  match first with
  | .stopWorker =>
      { thread with
        phase := .returning
        queue := rest }
  | .item value =>
      { thread with
        phase := .processing
        queue := rest
        taken := thread.taken ++ [value] }

end WorkerThread

abbrev Workers (α : Type) : Type := Worker → WorkerThread α

/-- What calling a method of another component does: the exceptions threads
put into the queue meanwhile, whether the shutdown signal is set meanwhile,
and the exception it raises. -/
structure CallEnding (Raised : Type) where
  queued : List Raised
  signals : Bool
  raised : Option Raised

/-- The orders of an artifact and the text of an exception. -/
structure NodeOrders (Raised : Type) where
  startOrder : List String
  stopOrder : List String
  str : Raised → String

variable {α Raised : Type}

/-- The components, where a call of another component than a worker ends like
this; stopping a worker goes on with waiting for its thread. -/
def NodeOrders.container (orders : NodeOrders Raised)
    (ending : CallEnding Raised) : Container (Workers α) Raised :=
  let other (workers : Workers α) : CallOutcome (Workers α) Raised :=
    { world := workers
      queued := ending.queued
      signals := ending.signals
      raised := ending.raised }
  let silent (workers : Workers α) : CallOutcome (Workers α) Raised :=
    { world := workers
      queued := []
      signals := false
      raised := none }
  { startOrder := orders.startOrder
    stopOrder := orders.stopOrder
    start := fun compName workers =>
      match Worker.ofCompName compName with
      | some worker =>
          silent (Function.update workers worker (workers worker).start)
      | none => other workers
    stop := fun compName workers =>
      match Worker.ofCompName compName with
      | some worker =>
          silent (Function.update workers worker
            (workers worker).putStopWorker)
      | none => other workers
    await := other
    str := orders.str }

/-- Where the thread of the lifecycle manager is. -/
inductive LifecycleControl where
  /-- There is none. -/
  | idle
  | starting (rest : List String)
  | awaiting
  | stopping (rest : List String)
  /-- In the stop method of a worker. -/
  | joining (worker : Worker) (rest : List String)
  /-- An exception has left the shutdown. -/
  | failed
  deriving DecidableEq, Repr

structure NodeProcess (α Raised : Type) where
  lifecycle : Lifecycle (Workers α) Raised
  control : LifecycleControl

inductive NodeAction (α Raised : Type) where
  | start
  | startNext (ending : CallEnding Raised)
  | started
  | beginShutdown
  | stopNext (ending : CallEnding Raised)
  | joined
  | endShutdown
  | signal
  | put (worker : Worker) (value : α)
  | take (worker : Worker)
  | processed (worker : Worker)
  | raises (worker : Worker) (err : Raised)
  | ends (worker : Worker)

namespace NodeProcess

/-- The process after a step of one worker. -/
def withWorker (process : NodeProcess α Raised) (worker : Worker)
    (thread : WorkerThread α) : NodeProcess α Raised :=
  { process with
    lifecycle :=
      { process.lifecycle with
        world := Function.update process.lifecycle.world worker thread } }

open NodeLifecycle in
/-- One step of the lifecycle manager, of a worker, or of whatever else sets
the shutdown signal or queues an item. -/
inductive Step (orders : NodeOrders Raised) :
    NodeAction α Raised → NodeProcess α Raised → NodeProcess α Raised →
    Prop where
  | start {lifecycle : Lifecycle (Workers α) Raised} :
      lifecycle.state = .idle →
      Step orders .start ⟨lifecycle, .idle⟩
        ⟨{ lifecycle with state := .starting, startupSignal := false },
          .starting orders.startOrder⟩
  | startNext {ending : CallEnding Raised}
      {lifecycle after : Lifecycle (Workers α) Raised} {compName : String}
      {rest : List String} :
      (startComponent (orders.container ending) compName).run lifecycle =
        (.ok (), after) →
      Step orders (.startNext ending) ⟨lifecycle, .starting (compName :: rest)⟩
        (if after.shutdownSignal then
          ⟨{ after with startupSignal := true }, .awaiting⟩
        else
          ⟨after, .starting rest⟩)
  | started {lifecycle : Lifecycle (Workers α) Raised} :
      Step orders .started ⟨lifecycle, .starting []⟩
        ⟨{ lifecycle with state := .running, startupSignal := true },
          .awaiting⟩
  | beginShutdown {lifecycle : Lifecycle (Workers α) Raised} :
      lifecycle.shutdownSignal = true →
      Step orders .beginShutdown ⟨lifecycle, .awaiting⟩
        ⟨{ lifecycle with state := .stopping }, .stopping orders.stopOrder⟩
  | stopNext {ending : CallEnding Raised}
      {lifecycle after : Lifecycle (Workers α) Raised} {compName : String}
      {rest : List String} :
      (stopComponent (orders.container ending) compName).run lifecycle =
        (.ok (), after) →
      Step orders (.stopNext ending) ⟨lifecycle, .stopping (compName :: rest)⟩
        ⟨after,
          match Worker.ofCompName compName with
          | some worker => .joining worker rest
          | none => .stopping rest⟩
  | stopFails {ending : CallEnding Raised}
      {lifecycle after : Lifecycle (Workers α) Raised} {compName : String}
      {rest : List String} {failure : Exc} :
      (stopComponent (orders.container ending) compName).run lifecycle =
        (.error failure, after) →
      Step orders (.stopNext ending) ⟨lifecycle, .stopping (compName :: rest)⟩
        ⟨after, .failed⟩
  | joined {lifecycle : Lifecycle (Workers α) Raised} {worker : Worker}
      {rest : List String} :
      (lifecycle.world worker).phase = .ended →
      Step orders .joined ⟨lifecycle, .joining worker rest⟩
        ⟨lifecycle, .stopping rest⟩
  | endShutdown {lifecycle : Lifecycle (Workers α) Raised} :
      Step orders .endShutdown ⟨lifecycle, .stopping []⟩
        ⟨{ lifecycle with
            shutdownSignal := false
            state := .idle
            exceptionQueue := [] },
          .idle⟩
  | signal {process : NodeProcess α Raised} :
      Step orders .signal process
        { process with
          lifecycle := { process.lifecycle with shutdownSignal := true } }
  | put {process : NodeProcess α Raised} {worker : Worker} {value : α} :
      Step orders (.put worker value) process
        (process.withWorker worker
          ((process.lifecycle.world worker).put value))
  | take {process : NodeProcess α Raised} {worker : Worker}
      {first : WorkItem α} {rest : List (WorkItem α)} :
      (process.lifecycle.world worker).phase = .waiting →
      (process.lifecycle.world worker).queue = first :: rest →
      Step orders (.take worker) process
        (process.withWorker worker
          ((process.lifecycle.world worker).take first rest))
  | processed {process : NodeProcess α Raised} {worker : Worker} :
      (process.lifecycle.world worker).phase = .processing →
      Step orders (.processed worker) process
        (process.withWorker worker
          { process.lifecycle.world worker with phase := .waiting })
  -- also while waiting, when buffers are flushed, or after the sentinel
  | raises {process : NodeProcess α Raised} {worker : Worker}
      {err : Raised} :
      (process.lifecycle.world worker).phase = .waiting ∨
        (process.lifecycle.world worker).phase = .processing ∨
        (process.lifecycle.world worker).phase = .returning →
      Step orders (.raises worker err) process
        { process.withWorker worker
            { process.lifecycle.world worker with phase := .raising } with
          lifecycle :=
            { (process.withWorker worker
                { process.lifecycle.world worker with
                  phase := .raising }).lifecycle with
              shutdownSignal := true
              exceptionQueue := process.lifecycle.exceptionQueue ++ [err] } }
  | ends {process : NodeProcess α Raised} {worker : Worker} :
      (process.lifecycle.world worker).phase = .returning ∨
        (process.lifecycle.world worker).phase = .raising →
      Step orders (.ends worker) process
        (process.withWorker worker
          { process.lifecycle.world worker with phase := .ended })

/-- A process whose node was never started, with empty queues. -/
def initial : NodeProcess α Raised :=
  { lifecycle :=
      { state := .idle
        shutdownSignal := false
        startupSignal := false
        exceptionQueue := []
        world := fun _ =>
          { phase := .ended
            queue := []
            queued := []
            taken := []
            queuedBeforeStop := [] }
        started := []
        stopped := [] }
    control := .idle }

end NodeProcess

end KoiNet
