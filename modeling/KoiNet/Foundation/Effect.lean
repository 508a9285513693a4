import Mathlib.Logic.Basic

/-!
# Stateful computations that may raise

A computation reads and writes a state and then returns a value or raises an
exception.  The state survives a raised exception: whatever was written before
the raise stays written.

Two kinds of facts about computations compose without running them.  A
`Frame` is a reflexive and transitive relation between the states before and
after, and `Frame.Keeps` says that every run of a computation relates them,
whether it returns or raises.  `Completes` says that from a given class of
states a computation returns, and what holds of its result.
-/

namespace Foundation

structure Effect (ε σ α : Type) where
  run : σ → Except ε α × σ

namespace Effect

variable {ε σ α β : Type}

instance : Monad (Effect ε σ) where
  pure value := { run := fun state => (.ok value, state) }
  bind first next :=
    { run := fun state =>
        match first.run state with
        | (.ok value, after) => (next value).run after
        | (.error failure, after) => (.error failure, after) }

def get : Effect ε σ σ :=
  { run := fun state => (.ok state, state) }

def modify (change : σ → σ) : Effect ε σ Unit :=
  { run := fun state => (.ok (), change state) }

def raise (failure : ε) : Effect ε σ α :=
  { run := fun state => (.error failure, state) }

/-- A computed value, or the exception computing it raised. -/
def ofExcept (result : Except ε α) : Effect ε σ α :=
  { run := fun state => (result, state) }

/-- `try: body except <caught>: fallback`; other exceptions pass through. -/
def tryExcept (body : Effect ε σ α) (caught : ε → Bool)
    (fallback : Effect ε σ α) : Effect ε σ α :=
  { run := fun state =>
      match body.run state with
      | (.ok value, after) => (.ok value, after)
      | (.error failure, after) =>
          if caught failure then fallback.run after
          else (.error failure, after) }

/-- `try: body except Exception: cleanup; raise`. -/
def onRaise (body : Effect ε σ α) (cleanup : Effect ε σ Unit) :
    Effect ε σ α :=
  { run := fun state =>
      match body.run state with
      | (.ok value, after) => (.ok value, after)
      | (.error failure, after) =>
          (cleanup >>= fun _ => raise failure).run after }

/-- `try: body finally: cleanup`. -/
def tryFinally (body : Effect ε σ α) (cleanup : Effect ε σ Unit) :
    Effect ε σ α :=
  { run := fun state =>
      match body.run state with
      | (.ok value, after) => (cleanup >>= fun _ => pure value).run after
      | (.error failure, after) =>
          (cleanup >>= fun _ => raise failure).run after }

/-- `for item in items: body(item)`. -/
def forEach {ι : Type} : List ι → (ι → Effect ε σ Unit) → Effect ε σ Unit
  | [], _ => pure ()
  | item :: rest, body => body item >>= fun _ => forEach rest body

theorem run_bind (first : Effect ε σ α) (next : α → Effect ε σ β)
    (state : σ) :
    (first >>= next).run state =
      match first.run state with
      | (.ok value, after) => (next value).run after
      | (.error failure, after) => (.error failure, after) :=
  rfl

@[simp] theorem run_pure (value : α) (state : σ) :
    (pure value : Effect ε σ α).run state = (.ok value, state) :=
  rfl

@[simp] theorem run_get (state : σ) :
    (get : Effect ε σ σ).run state = (.ok state, state) :=
  rfl

@[simp] theorem run_modify (change : σ → σ) (state : σ) :
    (modify change : Effect ε σ Unit).run state = (.ok (), change state) :=
  rfl

@[simp] theorem run_raise (failure : ε) (state : σ) :
    (raise failure : Effect ε σ α).run state = (.error failure, state) :=
  rfl

@[simp] theorem run_ofExcept (result : Except ε α) (state : σ) :
    (ofExcept result : Effect ε σ α).run state = (result, state) :=
  rfl

@[simp] theorem run_pure_bind (value : α) (next : α → Effect ε σ β)
    (state : σ) :
    ((pure value : Effect ε σ α) >>= next).run state =
      (next value).run state :=
  rfl

@[simp] theorem run_get_bind (next : σ → Effect ε σ β) (state : σ) :
    (get >>= next).run state = (next state).run state :=
  rfl

@[simp] theorem run_modify_bind (change : σ → σ)
    (next : Unit → Effect ε σ β) (state : σ) :
    (modify change >>= next).run state = (next ()).run (change state) :=
  rfl

@[simp] theorem run_raise_bind (failure : ε) (next : α → Effect ε σ β)
    (state : σ) :
    ((raise failure : Effect ε σ α) >>= next).run state =
      (.error failure, state) :=
  rfl

@[simp] theorem run_forEach_nil {ι : Type} (body : ι → Effect ε σ Unit)
    (state : σ) :
    (forEach [] body).run state = (.ok (), state) :=
  rfl

theorem run_bind_of_ok {first : Effect ε σ α} {value : α}
    {state after : σ} (returned : first.run state = (.ok value, after))
    (next : α → Effect ε σ β) :
    (first >>= next).run state = (next value).run after := by
  rw [run_bind, returned]

theorem run_bind_of_error {first : Effect ε σ α} {failure : ε}
    {state after : σ} (raised : first.run state = (.error failure, after))
    (next : α → Effect ε σ β) :
    (first >>= next).run state = (.error failure, after) := by
  rw [run_bind, raised]

theorem run_bind_eq_ok_iff {first : Effect ε σ α} {next : α → Effect ε σ β}
    {value : β} {state after : σ} :
    (first >>= next).run state = (.ok value, after) ↔
      ∃ middle between, first.run state = (.ok middle, between) ∧
        (next middle).run between = (.ok value, after) := by
  constructor
  · intro returned
    rw [run_bind] at returned
    split at returned
    · rename_i middle between firstReturned
      exact ⟨middle, between, firstReturned, returned⟩
    · simp at returned
  · rintro ⟨middle, between, firstReturned, rest⟩
    rw [run_bind_of_ok firstReturned, rest]

/-- Computing the result does not matter to the state. -/
theorem run_then_pure (first : Effect ε σ α) (value : α → β) (state : σ) :
    ((first >>= fun result => pure (value result)).run state).2 =
      (first.run state).2 := by
  rw [run_bind]
  generalize first.run state = ended
  obtain ⟨_ | _, after⟩ := ended <;> rfl

theorem bind_returns_iff {first : Effect ε σ α} {next : α → Effect ε σ Unit}
    (returns : ∀ value state, ((next value).run state).1 = .ok ())
    {state : σ} :
    ((first >>= next).run state).1 = .ok () ↔
      ∃ value, (first.run state).1 = .ok value := by
  rw [run_bind]
  generalize first.run state = ended
  obtain ⟨result, after⟩ := ended
  cases result with
  | ok value => simp [returns]
  | error failure => simp

theorem forEach_returns {ι : Type} {body : ι → Effect ε σ Unit}
    (returns : ∀ item state, ((body item).run state).1 = .ok ())
    (items : List ι) (state : σ) :
    ((forEach items body).run state).1 = .ok () := by
  induction items generalizing state with
  | nil => rfl
  | cons item rest induction =>
      have first := returns item state
      rw [forEach, run_bind]
      generalize (body item).run state = ended at first
      obtain ⟨result, after⟩ := ended
      cases first
      exact induction after

/-- A loop returns exactly if its body does for every item, where that only
depends on what the body leaves alone. -/
theorem forEach_returns_iff {ι : Type} {body : ι → Effect ε σ Unit}
    {items : List ι} {pre : σ → Prop} {good : ι → Prop}
    (kept : ∀ item ∈ items, ∀ state, pre state → pre ((body item).run state).2)
    (ends : ∀ item ∈ items, ∀ state, pre state →
      (((body item).run state).1 = .ok () ↔ good item))
    {state : σ} (given : pre state) :
    ((forEach items body).run state).1 = .ok () ↔
      ∀ item ∈ items, good item := by
  induction items generalizing state with
  | nil => simp
  | cons item rest induction =>
      have first := ends item (by simp) state given
      have stays := kept item (by simp) state given
      have later : ∀ state, pre state →
          (((forEach rest body).run state).1 = .ok () ↔
            ∀ item ∈ rest, good item) := fun state given =>
        induction (fun other member => kept other (by simp [member]))
          (fun other member => ends other (by simp [member])) given
      rw [forEach, run_bind]
      generalize (body item).run state = ended at first stays
      obtain ⟨result, after⟩ := ended
      cases result with
      | error failure =>
          simp only [reduceCtorEq, false_iff] at first ⊢
          exact fun all => first (all item (by simp))
      | ok value =>
          dsimp only
          rw [later after stays, List.forall_mem_cons]
          simp only [true_iff] at first
          exact ⟨fun all => ⟨first, all⟩, fun all => all.2⟩

end Effect

/-- What every run of a computation may do to the state: nothing is allowed,
and what is allowed may be done repeatedly. -/
structure Frame (σ : Type) where
  rel : σ → σ → Prop
  refl : ∀ state, rel state state
  trans : ∀ {first second third}, rel first second → rel second third →
    rel first third

namespace Frame

variable {ε σ α β : Type}

/-- The frame of computations that leave a view of the state as it was. -/
def unchanged {β : Type} (view : σ → β) : Frame σ :=
  { rel := fun before after => view after = view before
    refl := fun _ => rfl
    trans := fun first second => second.trans first }

/-- The frame of computations that keep a property of the state. -/
def preserving (holds : σ → Prop) : Frame σ :=
  { rel := fun before after => holds before → holds after
    refl := fun _ given => given
    trans := fun first second given => second (first given) }

/-- Every run relates the states before and after, also when it raises. -/
def Keeps (frame : Frame σ) (body : Effect ε σ α) : Prop :=
  ∀ state, frame.rel state (body.run state).2

variable {frame : Frame σ}

theorem Keeps.mono {coarser : Frame σ} {body : Effect ε σ α}
    (keeps : frame.Keeps body)
    (included : ∀ {before after}, frame.rel before after →
      coarser.rel before after) :
    coarser.Keeps body :=
  fun state => included (keeps state)

theorem keeps_pure (value : α) :
    frame.Keeps (pure value : Effect ε σ α) :=
  fun state => frame.refl state

theorem keeps_get : frame.Keeps (Effect.get : Effect ε σ σ) :=
  fun state => frame.refl state

theorem keeps_raise (failure : ε) :
    frame.Keeps (Effect.raise failure : Effect ε σ α) :=
  fun state => frame.refl state

theorem keeps_ofExcept (result : Except ε α) :
    frame.Keeps (Effect.ofExcept result : Effect ε σ α) :=
  fun state => frame.refl state

theorem keeps_modify {change : σ → σ}
    (allowed : ∀ state, frame.rel state (change state)) :
    frame.Keeps (Effect.modify change : Effect ε σ Unit) :=
  allowed

theorem keeps_bind {first : Effect ε σ α} {next : α → Effect ε σ β}
    (firstKeeps : frame.Keeps first)
    (nextKeeps : ∀ value, frame.Keeps (next value)) :
    frame.Keeps (first >>= next) := by
  intro state
  have firstStep := firstKeeps state
  rw [Effect.run_bind]
  split
  · rename_i value after returned
    rw [returned] at firstStep
    exact frame.trans firstStep (nextKeeps value after)
  · rename_i failure after raised
    rw [raised] at firstStep
    exact firstStep

/-- As `keeps_bind`, for a second part that relies on what the first part can
return. -/
theorem keeps_bind_returned {first : Effect ε σ α} {next : α → Effect ε σ β}
    (firstKeeps : frame.Keeps first)
    (nextKeeps : ∀ value, (∃ before after,
      first.run before = (.ok value, after)) → frame.Keeps (next value)) :
    frame.Keeps (first >>= next) := by
  intro state
  have firstStep := firstKeeps state
  rw [Effect.run_bind]
  split
  · rename_i value after returned
    rw [returned] at firstStep
    exact frame.trans firstStep (nextKeeps value ⟨state, after, returned⟩ after)
  · rename_i failure after raised
    rw [raised] at firstStep
    exact firstStep

theorem keeps_tryExcept {body fallback : Effect ε σ α} {caught : ε → Bool}
    (bodyKeeps : frame.Keeps body) (fallbackKeeps : frame.Keeps fallback) :
    frame.Keeps (Effect.tryExcept body caught fallback) := by
  intro state
  have bodyStep := bodyKeeps state
  unfold Effect.tryExcept
  dsimp only
  split
  · rename_i value after returned
    rw [returned] at bodyStep
    exact bodyStep
  · rename_i failure after raised
    rw [raised] at bodyStep
    split
    · exact frame.trans bodyStep (fallbackKeeps after)
    · exact bodyStep

theorem keeps_onRaise {body : Effect ε σ α} {cleanup : Effect ε σ Unit}
    (bodyKeeps : frame.Keeps body) (cleanupKeeps : frame.Keeps cleanup) :
    frame.Keeps (Effect.onRaise body cleanup) := by
  intro state
  have bodyStep := bodyKeeps state
  unfold Effect.onRaise
  dsimp only
  split
  · rename_i value after returned
    rw [returned] at bodyStep
    exact bodyStep
  · rename_i failure after raised
    rw [raised] at bodyStep
    exact frame.trans bodyStep
      (keeps_bind cleanupKeeps (fun _ => keeps_raise failure) after)

theorem keeps_forEach_mem {ι : Type} {body : ι → Effect ε σ Unit}
    {items : List ι} (bodyKeeps : ∀ item ∈ items, frame.Keeps (body item)) :
    frame.Keeps (Effect.forEach items body) := by
  induction items with
  | nil => exact keeps_pure ()
  | cons item rest induction =>
      refine keeps_bind (bodyKeeps item (by simp)) fun _ => induction ?_
      exact fun later member => bodyKeeps later (by simp [member])

theorem keeps_forEach {ι : Type} {body : ι → Effect ε σ Unit}
    (bodyKeeps : ∀ item, frame.Keeps (body item)) (items : List ι) :
    frame.Keeps (Effect.forEach items body) :=
  keeps_forEach_mem fun item _ => bodyKeeps item

end Frame

/-- Whatever the computation raises is allowed. -/
def RaisesOnly {ε σ α : Type} (allowed : ε → Prop) (body : Effect ε σ α) :
    Prop :=
  ∀ state failure, (body.run state).1 = .error failure → allowed failure

namespace RaisesOnly

variable {ε σ α β : Type} {allowed : ε → Prop}

theorem pure (value : α) :
    RaisesOnly allowed (Pure.pure value : Effect ε σ α) := by
  intro state failure raised
  cases raised

theorem raise {failure : ε} (isAllowed : allowed failure) :
    RaisesOnly allowed (Effect.raise failure : Effect ε σ α) := by
  intro state other raised
  cases raised
  exact isAllowed

theorem ofExcept {result : Except ε α}
    (isAllowed : ∀ failure, result = .error failure → allowed failure) :
    RaisesOnly allowed (Effect.ofExcept result : Effect ε σ α) :=
  fun _ => isAllowed

theorem bind {first : Effect ε σ α} {next : α → Effect ε σ β}
    (firstRaises : RaisesOnly allowed first)
    (nextRaises : ∀ value, RaisesOnly allowed (next value)) :
    RaisesOnly allowed (first >>= next) := by
  intro state failure raised
  rw [Effect.run_bind] at raised
  split at raised
  · rename_i value after _
    exact nextRaises value after failure raised
  · rename_i other after firstRaised
    cases raised
    exact firstRaises state failure (congrArg Prod.fst firstRaised)

theorem tryExcept {body fallback : Effect ε σ α} {caught : ε → Bool}
    (bodyRaises : RaisesOnly (fun failure => caught failure = false →
      allowed failure) body)
    (fallbackRaises : RaisesOnly allowed fallback) :
    RaisesOnly allowed (Effect.tryExcept body caught fallback) := by
  intro state failure raised
  unfold Effect.tryExcept at raised
  dsimp only at raised
  split at raised
  · cases raised
  · rename_i other after bodyRaised
    cases isCaught : caught other with
    | true =>
        rw [isCaught, if_pos rfl] at raised
        exact fallbackRaises after failure raised
    | false =>
        rw [isCaught] at raised
        cases raised
        exact bodyRaises state failure (congrArg Prod.fst bodyRaised) isCaught

end RaisesOnly

/-- From every state of `pre` the computation returns, and `post` holds of the
result and the state it leaves. -/
def Completes {ε σ α : Type} (pre : σ → Prop) (body : Effect ε σ α)
    (post : α → σ → Prop) : Prop :=
  ∀ state, pre state →
    ∃ value after, body.run state = (.ok value, after) ∧ post value after

/-- The loop gets to the item: the items before it all pass. -/
inductive Reached {ι : Type} (passes : ι → Prop) (item : ι) :
    List ι → Prop where
  | here (rest : List ι) : Reached passes item (item :: rest)
  | later {head : ι} {rest : List ι} : passes head →
      Reached passes item rest → Reached passes item (head :: rest)

theorem Reached.mono {ι : Type} {passes weaker : ι → Prop} {item : ι}
    {items : List ι} (reached : Reached passes item items)
    (included : ∀ other, passes other → weaker other) :
    Reached weaker item items := by
  induction reached with
  | here rest => exact .here rest
  | later passing _ induction => exact .later (included _ passing) induction

namespace Completes

variable {ε σ α β : Type} {pre : σ → Prop}

theorem pure {value : α} {post : α → σ → Prop}
    (holds : ∀ state, pre state → post value state) :
    Completes pre (pure value : Effect ε σ α) post :=
  fun state given => ⟨value, state, rfl, holds state given⟩

theorem bind {first : Effect ε σ α} {next : α → Effect ε σ β}
    {middle : α → σ → Prop} {post : β → σ → Prop}
    (firstCompletes : Completes pre first middle)
    (nextCompletes : ∀ value, Completes (middle value) (next value) post) :
    Completes pre (first >>= next) post := by
  intro state given
  obtain ⟨value, between, returned, holds⟩ := firstCompletes state given
  obtain ⟨result, after, finished, final⟩ :=
    nextCompletes value between holds
  exact ⟨result, after, by rw [Effect.run_bind_of_ok returned, finished],
    final⟩

theorem mono {body : Effect ε σ α} {stronger : σ → Prop}
    {post weaker : α → σ → Prop} (completes : Completes pre body post)
    (given : ∀ state, stronger state → pre state)
    (yields : ∀ value state, post value state → weaker value state) :
    Completes stronger body weaker := by
  intro state holds
  obtain ⟨value, after, returned, final⟩ :=
    completes state (given state holds)
  exact ⟨value, after, returned, yields value after final⟩

theorem pure_bind {value : α} {next : α → Effect ε σ β} {post : β → σ → Prop}
    (nextCompletes : Completes pre (next value) post) :
    Completes pre ((Pure.pure value : Effect ε σ α) >>= next) post :=
  nextCompletes

theorem get_bind {next : σ → Effect ε σ β} {post : β → σ → Prop}
    (nextCompletes : ∀ read, pre read → Completes pre (next read) post) :
    Completes pre (Effect.get >>= next) post :=
  fun state given => nextCompletes state given state given

theorem modify {change : σ → σ} {post : Unit → σ → Prop}
    (holds : ∀ state, pre state → post () (change state)) :
    Completes pre (Effect.modify change : Effect ε σ Unit) post :=
  fun state given => ⟨(), change state, rfl, holds state given⟩

theorem ofExcept_bind {result : Except ε α} {value : α}
    {next : α → Effect ε σ β} {post : β → σ → Prop}
    (returned : result = .ok value)
    (nextCompletes : Completes pre (next value) post) :
    Completes pre (Effect.ofExcept result >>= next) post := by
  rw [returned]
  exact nextCompletes

/-- A known value of the first part that the rest relies on. -/
theorem bind_good {first : Effect ε σ α} {next : α → Effect ε σ β}
    {good : α → Prop} {post : β → σ → Prop}
    (firstCompletes : Completes pre first fun value state =>
      pre state ∧ good value)
    (nextCompletes : ∀ value, good value → Completes pre (next value) post) :
    Completes pre (first >>= next) post := by
  apply bind firstCompletes
  intro value state given
  exact nextCompletes value given.2 state given.1

/-- A loop whose body keeps an invariant returns with the invariant. -/
theorem forEach {ι : Type} {body : ι → Effect ε σ Unit} {items : List ι}
    (bodyCompletes : ∀ item ∈ items,
      Completes pre (body item) fun _ => pre) :
    Completes pre (Effect.forEach items body) fun _ => pre := by
  induction items with
  | nil => exact Completes.pure fun _ given => given
  | cons item rest induction =>
      exact Completes.bind (bodyCompletes item (by simp)) fun _ =>
        induction fun later member => bodyCompletes later (by simp [member])

/-- A loop reaches what one of its items establishes, if the items before it
keep what that takes and all of them keep the goal. -/
theorem forEach_reaches {ι : Type} {body : ι → Effect ε σ Unit}
    {items : List ι} {goal : σ → Prop} {item : ι} (member : item ∈ items)
    (bodyCompletes : ∀ other ∈ items, other ≠ item →
      Completes pre (body other) fun _ => pre)
    (reaches : Completes pre (body item) fun _ => goal)
    (kept : ∀ item ∈ items, Completes goal (body item) fun _ => goal) :
    Completes pre (Effect.forEach items body) fun _ => goal := by
  induction items with
  | nil => cases member
  | cons head rest induction =>
      by_cases first : head = item
      · subst first
        apply Completes.bind reaches
        intro _
        exact Completes.forEach fun later inRest => kept later (by simp [inRest])
      · have later : item ∈ rest := by
          rcases List.mem_cons.mp member with same | later
          · exact absurd same.symm first
          · exact later
        apply Completes.bind (bodyCompletes head (by simp) first)
        intro _
        exact induction later
          (fun other inRest => bodyCompletes other (by simp [inRest]))
          (fun other inRest => kept other (by simp [inRest]))

/-- As `forEach_reaches`, for a loop that may be aborted behind the item. -/
theorem forEach_reached {ι : Type} {body : ι → Effect ε σ Unit}
    {passes : ι → Prop} {items : List ι} {item : ι} {goal : σ → Prop}
    (reached : Reached passes item items)
    (goesOn : ∀ other ∈ items, passes other →
      Completes pre (body other) fun _ => pre)
    (reaches : ∀ state, pre state → goal ((body item).run state).2)
    (kept : ∀ other, (Frame.preserving goal).Keeps (body other))
    {state : σ} (given : pre state) :
    goal ((Effect.forEach items body).run state).2 := by
  induction reached generalizing state with
  | here rest =>
      have arrived := reaches state given
      rw [Effect.forEach, Effect.run_bind]
      generalize (body item).run state = ended at arrived
      obtain ⟨result, after⟩ := ended
      cases result with
      | ok value => exact Frame.keeps_forEach kept rest after arrived
      | error failure => exact arrived
  | later passing _ induction =>
      obtain ⟨_, after, returned, still⟩ :=
        goesOn _ (by simp) passing state given
      rw [Effect.forEach, Effect.run_bind_of_ok returned]
      exact induction (fun other member => goesOn other (by simp [member]))
        still

/-- A computation that always returns completes with what its frame says. -/
theorem of_keeps {body : Effect ε σ Unit} {frame : Frame σ}
    {post : Unit → σ → Prop}
    (returns : ∀ state, (body.run state).1 = .ok ())
    (keeps : frame.Keeps body)
    (follows : ∀ {before after}, pre before → frame.rel before after →
      post () after) :
    Completes pre body post := by
  intro state given
  refine ⟨(), (body.run state).2, ?_, follows given (keeps state)⟩
  rw [← returns state]

end Completes

end Foundation
