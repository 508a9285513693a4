import KoiNet.Foundation.Dict
import KoiNet.Foundation.Part
import KoiNet.Foundation.Slice
import KoiNet.Protocol.KnowledgeObject

/-!
# Buffers of outgoing events

An `EventBuffer` holds the events that wait to be sent to each node, oldest
first, and when the first of them was pushed.
-/

namespace KoiNet

open Foundation

structure EventBuffer where
  buffers : Dict KoiNetNode (List Event)
  startTime : Dict KoiNetNode Timestamp

namespace EventBuffer

def empty : EventBuffer :=
  { buffers := Dict.empty
    startTime := Dict.empty }

/-- `buffers.get(target, [])`. -/
def pending (buffer : EventBuffer) (target : KoiNetNode) : List Event :=
  (buffer.buffers.get? target).getD []

/-- Push an event at a given time. -/
def push (buffer : EventBuffer) (target : KoiNetNode) (event : Event)
    (now : Timestamp) : EventBuffer :=
  { buffers := buffer.buffers.set target (buffer.pending target ++ [event])
    startTime := buffer.startTime.setDefault target now }

def bufLen (buffer : EventBuffer) (target : KoiNetNode) : Nat :=
  (buffer.pending target).length

/-- `limit and len(event_buf) > limit`. -/
def exceeds (limit : Int) (eventBuf : List Event) : Prop :=
  limit ≠ 0 ∧ limit < eventBuf.length

instance (limit : Int) (eventBuf : List Event) :
    Decidable (exceeds limit eventBuf) :=
  inferInstanceAs (Decidable (_ ∧ _))

/-- The events a flush takes from a buffer. -/
def flushed (limit : Int) (eventBuf : List Event) : List Event :=
  if exceeds limit eventBuf then Slice.upTo eventBuf limit else eventBuf

/-- Forget when the first event for the target was pushed. -/
def stopTimer (target : KoiNetNode) (buffer : EventBuffer) : EventBuffer :=
  { buffer with startTime := buffer.startTime.erase target }

/-- Remove the flushed events of a buffer that was read before. -/
def commit (target : KoiNetNode) (limit : Int) (eventBuf : List Event)
    (buffer : EventBuffer) : EventBuffer :=
  if exceeds limit eventBuf then
    { buffer with
      buffers := buffer.buffers.set target (Slice.beyond eventBuf limit) }
  else
    { buffer with buffers := buffer.buffers.erase target }

def flush (buffer : EventBuffer) (target : KoiNetNode) (limit : Int := 0) :
    List Event × EventBuffer :=
  match buffer.buffers.get? target with
  | none => ([], buffer.stopTimer target)
  | some eventBuf =>
      (flushed limit eventBuf,
        (buffer.stopTimer target).commit target limit eventBuf)

/-- `with safe_flush(...) as events: body(events)`, for the buffer that is a
part of the state. -/
def safeFlush {ε σ : Type} (part : Part σ EventBuffer) (target : KoiNetNode)
    (limit : Int) (forceFlush : Bool) (body : List Event → Effect ε σ Unit) :
    Effect ε σ Unit := do
  Effect.modify (part.update (stopTimer target))
  let state ← Effect.get
  match (part.get state).buffers.get? target with
  | none => body []
  | some eventBuf =>
      let committed : Effect ε σ Unit :=
        Effect.modify (part.update (commit target limit eventBuf))
      Effect.onRaise
        (body (flushed limit eventBuf) >>= fun _ => committed)
        (if forceFlush then committed else pure ())

@[simp] theorem stopTimer_buffers (buffer : EventBuffer)
    (target : KoiNetNode) :
    (buffer.stopTimer target).buffers = buffer.buffers :=
  rfl

theorem commit_get?_ne (buffer : EventBuffer) {target other : KoiNetNode}
    (limit : Int) (eventBuf : List Event) (different : other ≠ target) :
    (buffer.commit target limit eventBuf).buffers.get? other =
      buffer.buffers.get? other := by
  unfold commit
  split
  · exact Dict.get?_set_ne _ _ different
  · exact Dict.get?_erase_ne _ different

/-- What a commit leaves of a buffer. -/
def remaining (limit : Int) (eventBuf : List Event) : Option (List Event) :=
  if exceeds limit eventBuf then some (Slice.beyond eventBuf limit) else none

theorem commit_get?_self (buffer : EventBuffer) (target : KoiNetNode)
    (limit : Int) (eventBuf : List Event) :
    (buffer.commit target limit eventBuf).buffers.get? target =
      remaining limit eventBuf := by
  unfold commit remaining
  split
  · exact Dict.get?_set_self _ _ _
  · exact Dict.get?_erase_self _ _

/-- The flushed events and the remaining ones are those of the buffer. -/
theorem flushed_append_remaining (limit : Int) (eventBuf : List Event) :
    flushed limit eventBuf ++ (remaining limit eventBuf).getD [] =
      eventBuf := by
  unfold flushed remaining
  split
  · exact Slice.upTo_append_beyond eventBuf limit
  · exact List.append_nil eventBuf

theorem flush_others (buffer : EventBuffer) {target other : KoiNetNode}
    (limit : Int) (different : other ≠ target) :
    (buffer.flush target limit).2.buffers.get? other =
        buffer.buffers.get? other ∧
      (buffer.flush target limit).2.startTime.get? other =
        buffer.startTime.get? other := by
  have timers : (buffer.stopTimer target).startTime.get? other =
      buffer.startTime.get? other := Dict.get?_erase_ne _ different
  unfold flush
  split
  · exact ⟨rfl, timers⟩
  · refine ⟨(buffer.stopTimer target).commit_get?_ne limit _ different, ?_⟩
    unfold commit
    split
    · exact timers
    · exact timers

/-- What a flush takes and what it leaves are the buffered events. -/
theorem flush_append_pending (buffer : EventBuffer) (target : KoiNetNode)
    (limit : Int) :
    (buffer.flush target limit).1 ++
        (buffer.flush target limit).2.pending target =
      buffer.pending target := by
  unfold flush pending
  cases buffered : buffer.buffers.get? target with
  | none =>
      dsimp only
      rw [stopTimer_buffers, buffered]
      rfl
  | some events =>
      dsimp only
      rw [commit_get?_self]
      exact flushed_append_remaining limit events

theorem flush_unlimited (buffer : EventBuffer) (target : KoiNetNode) :
    (buffer.flush target 0).1 = buffer.pending target ∧
      (buffer.flush target 0).2.pending target = [] := by
  have nothing : (buffer.flush target 0).2.pending target = [] := by
    unfold flush pending
    cases buffered : buffer.buffers.get? target with
    | none => simp [buffered]
    | some events =>
        dsimp only
        rw [commit_get?_self]
        simp [remaining, exceeds]
  have split := buffer.flush_append_pending target 0
  rw [nothing, List.append_nil] at split
  exact ⟨split, nothing⟩

theorem flush_length_le (buffer : EventBuffer) (target : KoiNetNode)
    {limit : Int} (positive : 0 < limit) :
    ((buffer.flush target limit).1.length : Int) ≤ limit := by
  unfold flush
  split
  · exact Int.le_of_lt positive
  · rename_i events _
    change ((flushed limit events).length : Int) ≤ limit
    unfold flushed
    split
    · unfold Slice.upTo Slice.position
      rw [if_pos (Int.le_of_lt positive), List.length_take]
      omega
    · rename_i within
      unfold exceeds at within
      omega

section SafeFlush

variable {ε σ : Type} {part : Part σ EventBuffer} {target : KoiNetNode}
  {limit : Int} {forceFlush : Bool} {body : List Event → Effect ε σ Unit}
  {state after : σ}

theorem safeFlush_absent
    (absent : (part.get state).buffers.get? target = none) :
    (safeFlush part target limit forceFlush body).run state =
      (body []).run (part.update (stopTimer target) state) := by
  unfold safeFlush
  rw [Effect.run_modify_bind, Effect.run_get_bind, Part.get_update,
    stopTimer_buffers, absent]

theorem safeFlush_returns {eventBuf : List Event}
    (present : (part.get state).buffers.get? target = some eventBuf)
    (returned : (body (flushed limit eventBuf)).run
      (part.update (stopTimer target) state) = (.ok (), after)) :
    (safeFlush part target limit forceFlush body).run state =
      (.ok (), part.update (commit target limit eventBuf) after) := by
  unfold safeFlush
  rw [Effect.run_modify_bind, Effect.run_get_bind, Part.get_update,
    stopTimer_buffers, present]
  simp only [Effect.onRaise, Effect.run_bind, returned, Effect.run_modify]

theorem safeFlush_raises {eventBuf : List Event} {failure : ε}
    (present : (part.get state).buffers.get? target = some eventBuf)
    (raised : (body (flushed limit eventBuf)).run
      (part.update (stopTimer target) state) = (.error failure, after)) :
    (safeFlush part target limit forceFlush body).run state =
      (.error failure,
        if forceFlush then part.update (commit target limit eventBuf) after
        else after) := by
  unfold safeFlush
  rw [Effect.run_modify_bind, Effect.run_get_bind, Part.get_update,
    stopTimer_buffers, present]
  cases forceFlush <;>
    simp [Effect.onRaise, Effect.run_bind, raised]

end SafeFlush

end EventBuffer

end KoiNet
