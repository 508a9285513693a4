import KoiNet.Components.EventBuffer
import KoiNet.Components.RequestHandler

/-!
# The worker that sends events

The worker takes the queued events one by one and sorts them into a buffer for
nodes that poll and one for nodes that are sent broadcasts.  How a broadcast
ends is up to the request handler, which is an argument here.
-/

namespace KoiNet

open Foundation

/-- A call of `broadcast_events`. -/
structure Broadcast where
  target : KoiNetNode
  events : List Event

/-- The state of the worker, with the broadcasts it has tried so far. -/
structure EventWorkerState where
  node : NodeState
  pollEventBuf : EventBuffer
  broadcastEventBuf : EventBuffer
  broadcasts : List Broadcast

namespace EventWorkerState

def nodePart : Part EventWorkerState NodeState :=
  { get := fun state => state.node
    set := fun state node => { state with node := node }
    get_set := fun _ _ => rfl
    set_get := fun _ => rfl
    set_set := fun _ _ _ => rfl }

def pollPart : Part EventWorkerState EventBuffer :=
  { get := fun state => state.pollEventBuf
    set := fun state buffer => { state with pollEventBuf := buffer }
    get_set := fun _ _ => rfl
    set_get := fun _ => rfl
    set_set := fun _ _ _ => rfl }

def broadcastPart : Part EventWorkerState EventBuffer :=
  { get := fun state => state.broadcastEventBuf
    set := fun state buffer => { state with broadcastEventBuf := buffer }
    get_set := fun _ _ => rfl
    set_get := fun _ => rfl
    set_set := fun _ _ _ => rfl }

/-- The events passed to `broadcast_events` for the target, in order. -/
def passedTo (state : EventWorkerState) (target : KoiNetNode) : List Event :=
  (state.broadcasts.filter fun broadcast => broadcast.target = target).flatMap
    fun broadcast => broadcast.events

end EventWorkerState

abbrev EventM (α : Type) : Type := Effect Exc EventWorkerState α

/-- What the worker gets from the event queue. -/
inductive EventQueueItem where
  | stopWorker
  | queued (item : QueuedEvent)

namespace EventProcessingWorker

open EventWorkerState

/-- `time.time()`. -/
def time (node : Node) : EventM Timestamp := do
  let state ← Effect.get
  Effect.modify (nodePart.update fun state =>
    { state with clockReads := state.clockReads + 1 })
  return node.now state.node.clockReads

/-- An integer argument that is given a Boolean. -/
def boolAsInt : Bool → Int
  | true => 1
  | false => 0

variable (broadcastEvents : KoiNetNode → List Event → NodeM Unit)

/-- Pass a batch of events to the request handler. -/
def broadcast (target : KoiNetNode) (events : List Event) : EventM Unit := do
  Effect.modify fun state =>
    { state with broadcasts := state.broadcasts ++ [{ target, events }] }
  nodePart.within (broadcastEvents target events)

/-- `force_flush` is passed to `safe_flush` in the place of its limit. -/
def flushAndBroadcast (target : KoiNetNode) (forceFlush : Bool := false) :
    EventM Unit :=
  Effect.tryExcept
    (EventBuffer.safeFlush broadcastPart target (boolAsInt forceFlush) false
      (broadcast broadcastEvents target))
    Exc.isRequestError
    (pure ())

variable (node : Node)

def pushEvent (buffer : Part EventWorkerState EventBuffer)
    (item : QueuedEvent) : EventM Unit := do
  let now ← time node
  Effect.modify (buffer.update fun buffer =>
    buffer.push item.target item.event now)

/-- Buffer an event for a broadcast, and send the buffer if it is too long. -/
def bufferBroadcast (item : QueuedEvent) : EventM Unit := do
  pushEvent node broadcastPart item
  let state ← Effect.get
  if node.config.eventWorker.maxBufLen <
      state.broadcastEventBuf.bufLen item.target then
    flushAndBroadcast broadcastEvents item.target
  else
    pure ()

def bufferEvent (item : QueuedEvent) : EventM Unit := do
  let state ← Effect.get
  match state.node.cache.read (.node item.target) with
  | some nodeBundle =>
      let nodeProfile ← nodePart.within
        (nodeBundle.validateContents NodeProfile.modelValidate)
      match nodeProfile.nodeType with
      | .full => bufferBroadcast broadcastEvents node item
      | .partialNode => pushEvent node pollPart item
  | none =>
      if some item.target = node.config.firstContact.rid then
        bufferBroadcast broadcastEvents node item
      else
        pure ()

def flushAll : EventM Unit := do
  let state ← Effect.get
  Effect.forEach state.broadcastEventBuf.buffers.keys fun target =>
    flushAndBroadcast broadcastEvents target true

/-- Handle an item; the result says whether the loop returns. -/
def dequeue : EventQueueItem → EventM Bool
  | .stopWorker => do
      flushAll broadcastEvents
      return true
  | .queued item => do
      bufferEvent broadcastEvents node item
      return false

/-- Send the target's buffer if its first event has waited long enough. -/
def flushOverdue (target : KoiNetNode) : EventM Unit := do
  let state ← Effect.get
  match state.broadcastEventBuf.startTime.get? target with
  | none => pure ()
  | some startTime =>
      if state.broadcastEventBuf.bufLen target = 0 then
        pure ()
      else
        let now ← time node
        if node.config.eventWorker.maxWaitTime ≤ now - startTime then
          flushAndBroadcast broadcastEvents target
        else
          pure ()

/-- `except queue.Empty`. -/
def handleEmpty : EventM Unit := do
  let state ← Effect.get
  Effect.forEach state.broadcastEventBuf.buffers.keys fun target =>
    flushOverdue broadcastEvents node target

/-- The main loop, for the items it gets from the queue; `none` is a
timeout. -/
def run : List (Option EventQueueItem) → EventM Unit
  | [] => pure ()
  | none :: later => do
      handleEmpty broadcastEvents node
      run later
  | some item :: later => do
      let returns ← dequeue broadcastEvents node item
      if returns then pure () else run later

end EventProcessingWorker

end KoiNet
