import KoiNet.Infra.LogSystem

/-!
# The lifecycle of a node

The lifecycle manager calls the start methods of the components and, once the
shutdown signal is set, their stop methods.  What a method does to the world
is up to the component; threads may meanwhile put exceptions into the queue
and set the signal.
-/

namespace KoiNet

open Foundation

/-- `lifecycle.NodeState`. -/
inductive LifecycleState where
  | idle
  | starting
  | running
  | stopping
  deriving DecidableEq, Repr

/-- What has happened when a start or stop method, or some waiting, is
over. -/
structure CallOutcome (World Raised : Type) where
  world : World
  /-- The exceptions put into the queue meanwhile. -/
  queued : List Raised
  /-- Whether the shutdown signal was set meanwhile. -/
  signals : Bool
  raised : Option Raised

/-- The components with their methods, by name. -/
structure Container (World Raised : Type) where
  startOrder : List String
  stopOrder : List String
  start : String → World → CallOutcome World Raised
  stop : String → World → CallOutcome World Raised
  /-- What happens until the shutdown signal is set. -/
  await : World → CallOutcome World Raised
  str : Raised → String

/-- The lifecycle manager, with the methods called so far. -/
structure Lifecycle (World Raised : Type) where
  state : LifecycleState
  shutdownSignal : Bool
  startupSignal : Bool
  exceptionQueue : List Raised
  world : World
  started : List String
  stopped : List String

abbrev LifecycleM (World Raised α : Type) : Type :=
  Effect Exc (Lifecycle World Raised) α

namespace NodeLifecycle

variable {World Raised : Type}

def setState (state : LifecycleState) : LifecycleM World Raised Unit :=
  Effect.modify fun lifecycle => { lifecycle with state := state }

def setShutdownSignal (value : Bool) : LifecycleM World Raised Unit :=
  Effect.modify fun lifecycle => { lifecycle with shutdownSignal := value }

/-- `exception_queue.put(err)`. -/
def putException (err : Raised) : LifecycleM World Raised Unit :=
  Effect.modify fun lifecycle =>
    { lifecycle with exceptionQueue := lifecycle.exceptionQueue ++ [err] }

/-- Call a method; the result is the exception it raises. -/
def call (method : World → CallOutcome World Raised) :
    LifecycleM World Raised (Option Raised) := do
  let lifecycle ← Effect.get
  let outcome := method lifecycle.world
  Effect.modify fun lifecycle =>
    { lifecycle with
      world := outcome.world
      exceptionQueue := lifecycle.exceptionQueue ++ outcome.queued
      shutdownSignal := lifecycle.shutdownSignal || outcome.signals }
  return outcome.raised

variable (container : Container World Raised)

def startComponent (compName : String) : LifecycleM World Raised Unit := do
  logCall ("Starting " ++ compName ++ "...") []
  Effect.modify fun lifecycle =>
    { lifecycle with started := lifecycle.started ++ [compName] }
  let raised ← call (container.start compName)
  match raised with
  | none => pure ()
  | some err => do
      logCall ("Startup error: " ++ container.str err) []
      putException err
      setShutdownSignal true

/-- The loop over the start order. -/
def startFrom : List String → LifecycleM World Raised Unit
  | [] => do
      setState .running
      logCall "Startup complete!" []
  | compName :: rest => do
      startComponent container compName
      let lifecycle ← Effect.get
      if lifecycle.shutdownSignal then
        logCall "Startup failed, aborting" []
      else
        startFrom rest

/-- `_startup`. -/
def startup : LifecycleM World Raised Unit := do
  setState .starting
  logCall "Starting node..." []
  startFrom container container.startOrder

def stopComponent (compName : String) : LifecycleM World Raised Unit := do
  logCall ("Stopping " ++ compName ++ "...") []
  Effect.modify fun lifecycle =>
    { lifecycle with stopped := lifecycle.stopped ++ [compName] }
  let raised ← call (container.stop compName)
  match raised with
  | none => pure ()
  | some err => do
      logCall "Shutdown error:" [container.str err]
      putException err

/-- `_shutdown`. -/
def shutdown : LifecycleM World Raised Unit := do
  setState .stopping
  logCall "Stopping node..." []
  Effect.forEach container.stopOrder (stopComponent container)
  setShutdownSignal false
  setState .idle
  logCall "Shutdown complete!" []

/-- `shutdown_signal.wait()`. -/
def await : LifecycleM World Raised Unit := do
  let lifecycle ← Effect.get
  if lifecycle.shutdownSignal then
    pure ()
  else
    let _ ← call container.await
    setShutdownSignal true

/-- `_run`. -/
def run : LifecycleM World Raised Unit :=
  Effect.tryFinally
    (startup container >>= fun _ =>
      Effect.modify (fun lifecycle =>
        { lifecycle with startupSignal := true }) >>= fun _ =>
      await container)
    (shutdown container >>= fun _ =>
      -- the queued exceptions are printed
      Effect.modify fun lifecycle => { lifecycle with exceptionQueue := [] })

end NodeLifecycle

end KoiNet
