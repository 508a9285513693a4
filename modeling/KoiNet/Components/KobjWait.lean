import KoiNet.Components.WorkerThreads

/-!
# Waiting for the queue of knowledge objects

A thread calls `KobjQueue.wait` while the worker takes objects from the queue.
The worker marks a task as done before it records that processing it raised
and sets the shutdown signal, and each round of `wait` first polls the signal
and then reads the count of unfinished tasks.  Every step here is one such
access.  The objects are numbered in the order in which they are pushed.
-/

namespace KoiNet

open Foundation

/-- Where the thread of the worker is. -/
inductive WorkerPoint (Raised : Type) where
  | unstarted
  /-- In `q.get`. -/
  | getting
  | processing (kobj : Nat)
  /-- At the `finally`, after `process` returned. -/
  | processed
  /-- At the `finally`, after `process` raised. -/
  | raised (kobj : Nat) (exc : Raised)
  /-- At the `finally`, with the sentinel. -/
  | stopping
  /-- In the `except` of `_run`: the exception is not recorded. -/
  | failed (kobj : Nat) (exc : Raised)
  /-- The exception is recorded, the signal is not set. -/
  | recorded (kobj : Nat)
  /-- The thread has ended after it set the signal. -/
  | crashed (kobj : Nat)
  | returned

/-- Where the waiting thread is, and how many objects had been pushed when it
called `wait`. -/
inductive WaitPoint where
  | outside
  /-- At `self.shutdown_signal.wait(0.1)`. -/
  | polling (called : Nat)
  /-- At `self.q.unfinished_tasks == 0`. -/
  | reading (called : Nat)
  | returned (called : Nat)
  /-- `RuntimeError("Shutdown while awaiting queue")`. -/
  | raised
  deriving DecidableEq, Repr

/-- The queue with its count of unfinished tasks, the signal, the threads, and
what has happened so far: for every object pushed the object while processing
which it was pushed, if any, and the objects on which `process` returned. -/
structure KobjThreads (Raised : Type) where
  queue : List (WorkItem Nat)
  unfinishedTasks : Nat
  shutdownSignal : Bool
  exceptionQueue : List Raised
  worker : WorkerPoint Raised
  waiter : WaitPoint
  origins : List (Option Nat)
  processed : List Nat

namespace KobjThreads

variable {Raised : Type}

/-- Nothing is pushed and nothing is started. -/
def initial : KobjThreads Raised :=
  { queue := []
    unfinishedTasks := 0
    shutdownSignal := false
    exceptionQueue := []
    worker := .unstarted
    waiter := .outside
    origins := []
    processed := [] }

/-- `q.put(kobj)`. -/
def put (threads : KobjThreads Raised) (origin : Option Nat) :
    KobjThreads Raised :=
  { threads with
    queue := threads.queue ++ [.item threads.origins.length]
    unfinishedTasks := threads.unfinishedTasks + 1
    origins := threads.origins ++ [origin] }

/-- `q.put(STOP_WORKER)`. -/
def putStopWorker (threads : KobjThreads Raised) : KobjThreads Raised :=
  { threads with
    queue := threads.queue ++ [.stopWorker]
    unfinishedTasks := threads.unfinishedTasks + 1 }

/-- `q.task_done()`, after which the worker is there. -/
def taskDone (threads : KobjThreads Raised) (next : WorkerPoint Raised) :
    KobjThreads Raised :=
  { threads with
    unfinishedTasks := threads.unfinishedTasks - 1
    worker := next }

/-- A step of the worker. -/
inductive WorkerStep :
    KobjThreads Raised → KobjThreads Raised → Prop where
  | start {threads : KobjThreads Raised} :
      threads.worker = .unstarted →
      WorkerStep threads { threads with worker := .getting }
  | dequeue {threads : KobjThreads Raised} {kobj : Nat}
      {rest : List (WorkItem Nat)} :
      threads.worker = .getting → threads.queue = .item kobj :: rest →
      WorkerStep threads
        { threads with
          queue := rest
          worker := .processing kobj }
  | dequeueStop {threads : KobjThreads Raised}
      {rest : List (WorkItem Nat)} :
      threads.worker = .getting → threads.queue = .stopWorker :: rest →
      WorkerStep threads
        { threads with
          queue := rest
          worker := .stopping }
  | handlerPushes {threads : KobjThreads Raised} {kobj : Nat} :
      threads.worker = .processing kobj →
      WorkerStep threads (threads.put (some kobj))
  | processReturns {threads : KobjThreads Raised} {kobj : Nat} :
      threads.worker = .processing kobj →
      WorkerStep threads
        { threads with
          worker := .processed
          processed := threads.processed ++ [kobj] }
  | processRaises {threads : KobjThreads Raised} {kobj : Nat}
      (exc : Raised) :
      threads.worker = .processing kobj →
      WorkerStep threads { threads with worker := .raised kobj exc }
  | processedDone {threads : KobjThreads Raised} :
      threads.worker = .processed →
      WorkerStep threads (threads.taskDone .getting)
  | raisedDone {threads : KobjThreads Raised} {kobj : Nat} {exc : Raised} :
      threads.worker = .raised kobj exc →
      WorkerStep threads (threads.taskDone (.failed kobj exc))
  | stopDone {threads : KobjThreads Raised} :
      threads.worker = .stopping →
      WorkerStep threads (threads.taskDone .returned)
  | records {threads : KobjThreads Raised} {kobj : Nat} {exc : Raised} :
      threads.worker = .failed kobj exc →
      WorkerStep threads
        { threads with
          exceptionQueue := threads.exceptionQueue ++ [exc]
          worker := .recorded kobj }
  | signals {threads : KobjThreads Raised} {kobj : Nat} :
      threads.worker = .recorded kobj →
      WorkerStep threads
        { threads with
          shutdownSignal := true
          worker := .crashed kobj }

/-- A step of the thread that calls `wait`, once or several times. -/
inductive WaiterStep :
    KobjThreads Raised → KobjThreads Raised → Prop where
  | calls {threads : KobjThreads Raised} :
      (∀ called, threads.waiter ≠ .polling called ∧
        threads.waiter ≠ .reading called) →
      WaiterStep threads
        { threads with waiter := .polling threads.origins.length }
  | polls {threads : KobjThreads Raised} {called : Nat} :
      threads.waiter = .polling called → threads.shutdownSignal = false →
      WaiterStep threads { threads with waiter := .reading called }
  | signalled {threads : KobjThreads Raised} {called : Nat} :
      threads.waiter = .polling called → threads.shutdownSignal = true →
      WaiterStep threads { threads with waiter := .raised }
  | continues {threads : KobjThreads Raised} {called : Nat} :
      threads.waiter = .reading called → threads.unfinishedTasks ≠ 0 →
      WaiterStep threads { threads with waiter := .polling called }
  | returns {threads : KobjThreads Raised} {called : Nat} :
      threads.waiter = .reading called → threads.unfinishedTasks = 0 →
      WaiterStep threads { threads with waiter := .returned called }

/-- A step of any thread; the threads other than the worker push objects and
the sentinel, and set and clear the signal. -/
inductive Step : KobjThreads Raised → KobjThreads Raised → Prop where
  | worker {threads after : KobjThreads Raised} :
      WorkerStep threads after → Step threads after
  | waiter {threads after : KobjThreads Raised} :
      WaiterStep threads after → Step threads after
  | pushes {threads : KobjThreads Raised} : Step threads (threads.put none)
  | pushesStop {threads : KobjThreads Raised} :
      Step threads threads.putStopWorker
  | signal {threads : KobjThreads Raised} (value : Bool) :
      Step threads { threads with shutdownSignal := value }

end KobjThreads

end KoiNet
