import KoiNet.Components.KobjWait
import Mathlib.Data.List.Perm.Basic
import Mathlib.Data.List.Range

/-!
# What a returned wait guarantees

No object is lost or taken twice: each one pushed is processed, failed, in
process or in the queue, and the unfinished tasks are the last two kinds.
When `wait` returns everything pushed so far is therefore processed or failed,
and it did not notice a failure unless the signal was set before it polled.
-/

namespace KoiNet

open Foundation

variable {Raised : Type}

namespace WorkerPoint

/-- The object with the worker on which `process` has not returned. -/
def held : WorkerPoint Raised → List Nat
  | .processing kobj => [kobj]
  | .raised kobj _ => [kobj]
  | .failed kobj _ => [kobj]
  | .recorded kobj => [kobj]
  | .crashed kobj => [kobj]
  | _ => []

/-- The tasks taken from the queue and not yet marked as done. -/
def undone : WorkerPoint Raised → Nat
  | .processing _ => 1
  | .processed => 1
  | .raised _ _ => 1
  | .stopping => 1
  | _ => 0

/-- `process` raised on the object, and its task is already marked as
done. -/
def FailedOn (kobj : Nat) : WorkerPoint Raised → Prop
  | .failed lost _ => kobj = lost
  | .recorded lost => kobj = lost
  | .crashed lost => kobj = lost
  | _ => False

theorem mem_held_of_undone_eq_zero {point : WorkerPoint Raised} {kobj : Nat}
    (none : point.undone = 0) : kobj ∈ point.held ↔ point.FailedOn kobj := by
  cases point with
  | processing => cases none
  | processed => cases none
  | raised => cases none
  | stopping => cases none
  | failed lost exc => simp [held, FailedOn]
  | recorded lost => simp [held, FailedOn]
  | crashed lost => simp [held, FailedOn]
  | unstarted => simp [held, FailedOn]
  | getting => simp [held, FailedOn]
  | returned => simp [held, FailedOn]

end WorkerPoint

namespace KobjThreads

/-- The objects in a queue. -/
def queuedKobjs (queue : List (WorkItem Nat)) : List Nat :=
  queue.filterMap fun
    | .item kobj => some kobj
    | .stopWorker => none

theorem queuedKobjs_append (queue more : List (WorkItem Nat)) :
    queuedKobjs (queue ++ more) = queuedKobjs queue ++ queuedKobjs more :=
  List.filterMap_append

/-- Every object pushed is in one place, and the count is that of the tasks
that are not done. -/
structure Accounted (threads : KobjThreads Raised) : Prop where
  places : (threads.processed ++ threads.worker.held ++
      queuedKobjs threads.queue).Perm (List.range threads.origins.length)
  unfinished : threads.unfinishedTasks =
    threads.queue.length + threads.worker.undone

namespace Accounted

variable {threads after : KobjThreads Raised}

theorem initial : (initial : KobjThreads Raised).Accounted :=
  { places := .refl _
    unfinished := rfl }

theorem put (accounted : threads.Accounted) (origin : Option Nat) :
    (threads.put origin).Accounted := by
  constructor
  · have placed := accounted.places.append_right [threads.origins.length]
    unfold KobjThreads.put
    rw [queuedKobjs_append, List.length_append, ← List.append_assoc]
    simpa [List.range_succ, queuedKobjs] using placed
  · have counted := accounted.unfinished
    simp only [KobjThreads.put, List.length_append, List.length_singleton]
    omega

theorem putStopWorker (accounted : threads.Accounted) :
    threads.putStopWorker.Accounted := by
  constructor
  · unfold KobjThreads.putStopWorker
    rw [queuedKobjs_append]
    simpa [queuedKobjs] using accounted.places
  · have counted := accounted.unfinished
    simp only [KobjThreads.putStopWorker, List.length_append,
      List.length_singleton]
    omega

theorem workerStep (accounted : threads.Accounted)
    (step : WorkerStep threads after) : after.Accounted := by
  have places := accounted.places
  have counted := accounted.unfinished
  cases step with
  | start here =>
      rw [here] at places counted
      exact { places := places, unfinished := counted }
  | dequeue here first =>
      rw [here, first] at places counted
      exact
        { places := by simpa [queuedKobjs, WorkerPoint.held] using places
          unfinished := by
            simpa [WorkerPoint.undone] using counted }
  | dequeueStop here first =>
      rw [here, first] at places counted
      exact
        { places := by simpa [queuedKobjs, WorkerPoint.held] using places
          unfinished := by
            simpa [WorkerPoint.undone] using counted }
  | handlerPushes here => exact accounted.put _
  | processReturns here =>
      rw [here] at places counted
      exact
        { places := by simpa [WorkerPoint.held] using places
          unfinished := counted }
  | processRaises exc here =>
      rw [here] at places counted
      exact { places := places, unfinished := counted }
  | processedDone here =>
      rw [here] at places counted
      refine { places := places, unfinished := ?_ }
      simp only [taskDone, counted, WorkerPoint.undone]
      omega
  | raisedDone here =>
      rw [here] at places counted
      refine { places := places, unfinished := ?_ }
      simp only [taskDone, counted, WorkerPoint.undone]
      omega
  | stopDone here =>
      rw [here] at places counted
      refine { places := places, unfinished := ?_ }
      simp only [taskDone, counted, WorkerPoint.undone]
      omega
  | records here =>
      rw [here] at places counted
      exact { places := places, unfinished := counted }
  | signals here =>
      rw [here] at places counted
      exact { places := places, unfinished := counted }

theorem step (accounted : threads.Accounted) (step : Step threads after) :
    after.Accounted := by
  cases step with
  | worker step => exact accounted.workerStep step
  | waiter step =>
      cases step with
      | calls _ | polls _ _ | signalled _ _ | continues _ _ | returns _ _ =>
          exact
            { places := accounted.places
              unfinished := accounted.unfinished }
  | pushes => exact accounted.put none
  | pushesStop => exact accounted.putStopWorker
  | signal value =>
      exact
        { places := accounted.places
          unfinished := accounted.unfinished }

theorem of_run (run : Run Step KobjThreads.initial threads) :
    threads.Accounted :=
  run.invariant (fun accounted taken => accounted.step taken) .initial

end Accounted

/-- No more objects had been pushed when `wait` was called than now. -/
def Called (threads : KobjThreads Raised) : Prop :=
  ∀ called, threads.waiter = .polling called ∨ threads.waiter = .reading called →
    called ≤ threads.origins.length

theorem Called.step {threads after : KobjThreads Raised}
    (bound : threads.Called) (step : Step threads after) : after.Called := by
  have put : ∀ origin, (threads.put origin).Called := by
    intro origin called waits
    have now := bound called waits
    simp only [KobjThreads.put, List.length_append]
    omega
  cases step with
  | worker step =>
      cases step with
      | handlerPushes here => exact put _
      | start | dequeue | dequeueStop | processReturns | processRaises
      | processedDone | raisedDone | stopDone | records | signals =>
          exact bound
  | waiter step =>
      cases step with
      | calls idle =>
          rintro called (polls | reads)
          · cases polls
            exact Nat.le_refl _
          · cases reads
      | polls here clear =>
          rintro called (polls | reads)
          · cases polls
          · cases reads
            exact bound _ (.inl here)
      | continues here unfinished =>
          rintro called (polls | reads)
          · cases polls
            exact bound _ (.inr here)
          · cases reads
      | signalled here set =>
          rintro called (polls | reads)
          · cases polls
          · cases reads
      | returns here done =>
          rintro called (polls | reads)
          · cases polls
          · cases reads
  | pushes => exact put none
  | pushesStop => exact bound
  | signal value => exact bound

theorem Called.of_run {threads : KobjThreads Raised}
    (run : Run Step initial threads) : threads.Called := by
  refine run.invariant (fun bound taken => bound.step taken) ?_
  rintro called (polls | reads)
  · cases polls
  · cases reads

/-- The object was pushed before the call, or while processing one that
was. -/
def Owed (threads : KobjThreads Raised) (called kobj : Nat) : Prop :=
  kobj < called ∨
    ∃ parent, parent < called ∧ threads.origins[kobj]? = some (some parent)

/-- On every such object `process` has returned. -/
def Honours (threads : KobjThreads Raised) (called : Nat) : Prop :=
  ∀ kobj, threads.Owed called kobj → kobj ∈ threads.processed

/-- When no task is unfinished every object is processed or failed. -/
theorem Accounted.processed_iff {threads : KobjThreads Raised}
    (accounted : threads.Accounted) (done : threads.unfinishedTasks = 0)
    {kobj : Nat} (pushed : kobj < threads.origins.length) :
    kobj ∈ threads.processed ↔ ¬threads.worker.FailedOn kobj := by
  have counted := accounted.unfinished
  rw [done] at counted
  have empty : threads.queue = [] := List.length_eq_zero_iff.mp (by omega)
  have none : threads.worker.undone = 0 := by omega
  have places := accounted.places
  rw [empty] at places
  have placed : threads.processed ++ threads.worker.held ++ queuedKobjs [] =
      threads.processed ++ threads.worker.held := List.append_nil _
  rw [placed] at places
  rw [← WorkerPoint.mem_held_of_undone_eq_zero none]
  constructor
  · intro processed held
    have nodup := places.nodup_iff.mpr List.nodup_range
    exact (List.nodup_append.mp nodup).2.2 kobj processed kobj held rfl
  · intro notHeld
    have member := places.mem_iff.mpr (List.mem_range.mpr pushed)
    exact (List.mem_append.mp member).resolve_right notHeld

theorem Owed.pushed {threads : KobjThreads Raised} {called kobj : Nat}
    (bound : called ≤ threads.origins.length)
    (owed : threads.Owed called kobj) : kobj < threads.origins.length := by
  rcases owed with before | ⟨parent, _, pushed⟩
  · exact Nat.lt_of_lt_of_le before bound
  · exact (List.getElem?_eq_some_iff.mp pushed).1

/-- A wait that returns has kept its guarantee exactly if, when it read the
count, the worker had not marked an object that the guarantee is about as done
after `process` raised on it. -/
theorem honours_iff {before after : KobjThreads Raised} {called : Nat}
    (run : Run Step initial before) (step : WaiterStep before after)
    (returned : after.waiter = .returned called) :
    after.Honours called ↔
      ∀ kobj, before.worker.FailedOn kobj → ¬before.Owed called kobj := by
  have accounted := Accounted.of_run run
  have bound := Called.of_run run
  cases step with
  | calls => cases returned
  | polls => cases returned
  | signalled => cases returned
  | continues => cases returned
  | returns here done =>
      cases returned
      have pushed : ∀ {kobj}, before.Owed called kobj →
          kobj < before.origins.length :=
        fun owed => owed.pushed (bound called (.inr here))
      constructor
      · intro honours kobj failed owed
        exact (accounted.processed_iff done (pushed owed)).mp
          (honours kobj owed) failed
      · intro noneFailed kobj owed
        exact (accounted.processed_iff done (pushed owed)).mpr
          fun failed => noneFailed kobj failed owed

private theorem run_processing :
    Run Step (initial : KobjThreads Unit)
      { queue := []
        unfinishedTasks := 1
        shutdownSignal := false
        exceptionQueue := []
        worker := .processing 0
        waiter := .outside
        origins := [none]
        processed := [] } :=
  (((Run.refl _).tail .pushes).tail (.worker (.start rfl))).tail
    (.worker (.dequeue rfl rfl))

theorem honours_iff_processed :
    ∃ after : KobjThreads Unit, after.waiter = .returned 1 ∧
      after.Honours 1 := by
  have run := ((((run_processing.tail (.worker (.processReturns rfl))).tail
    (.waiter (.calls (by simp)))).tail (.worker (.processedDone rfl))).tail
      (.waiter (.polls rfl rfl)))
  refine ⟨_, rfl, (honours_iff run (.returns rfl rfl) rfl).mpr ?_⟩
  intro kobj failed
  cases failed

/-- The wait returns between the end of the task and the signal, although
`process` raised on the object. -/
theorem wait_misses_failure :
    ∃ before after : KobjThreads Unit, Run Step initial before ∧
      WaiterStep before after ∧ after.waiter = .returned 1 ∧
      ¬after.Honours 1 := by
  have run := ((((run_processing.tail (.waiter (.calls (by simp)))).tail
    (.worker (.processRaises () rfl))).tail (.worker (.raisedDone rfl))).tail
      (.waiter (.polls rfl rfl)))
  refine ⟨_, _, run, .returns rfl rfl, rfl, fun honours => ?_⟩
  have processed := honours 0 (.inl (by decide))
  cases processed

end KobjThreads

end KoiNet
