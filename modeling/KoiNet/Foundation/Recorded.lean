import KoiNet.Foundation.Part

/-!
# Computations that record what they do

A recording computation keeps, beside the state of a plain one, the actions
taken so far.  `Records` says that it does nothing else: it returns what the
plain one returns, leaves the state the plain one leaves, and adds actions
that a log of the run allows.  The rules follow the structure of the
computation.

A `Ledger` is a log that only speaks of the states before and after.  It
composes along every computation.
-/

namespace Foundation

/-- A state and the actions taken so far. -/
structure Recorded (σ α : Type) where
  state : σ
  actions : List α

namespace Recorded

variable {ε σ α β γ : Type}

/-- The state of the plain computation. -/
def statePart : Part (Recorded σ α) σ :=
  { get := Recorded.state
    set := fun recorded state => { recorded with state := state }
    get_set := fun _ _ => rfl
    set_get := fun _ => rfl
    set_set := fun _ _ _ => rfl }

/-- A part of a computation that takes no action worth recording. -/
def unrecorded (body : Effect ε σ β) : Effect ε (Recorded σ α) β :=
  statePart.within body

def record (action : α) : Effect ε (Recorded σ α) Unit :=
  Effect.modify fun recorded =>
    { recorded with actions := recorded.actions ++ [action] }

/-- A part of a computation that is an action once it has returned. -/
def noting (action : α) (body : Effect ε σ β) : Effect ε (Recorded σ α) β := do
  let value ← unrecorded body
  record action
  return value

end Recorded

open Recorded

variable {ε σ α β γ : Type}

/-- The recording computation runs as the plain one does, and adds actions
that the log allows for the run. -/
def Records (recording : Effect ε (Recorded σ α) β) (plain : Effect ε σ β)
    (log : σ → Except ε β × σ → List α → Prop) : Prop :=
  ∀ state earlier, ∃ actions,
    recording.run { state := state, actions := earlier } =
        ((plain.run state).1,
          { state := (plain.run state).2
            actions := earlier ++ actions }) ∧
      log state (plain.run state) actions

namespace Records

variable {log : σ → Except ε β × σ → List α → Prop}

theorem unrecorded {plain : Effect ε σ β}
    (holds : ∀ state, log state (plain.run state) []) :
    Records (Recorded.unrecorded plain) plain log := by
  intro state earlier
  refine ⟨[], ?_, holds state⟩
  rw [List.append_nil]
  rfl

theorem pure {value : β} (holds : ∀ state, log state (.ok value, state) []) :
    Records (Pure.pure value) (Pure.pure value) log := by
  intro state earlier
  refine ⟨[], ?_, holds state⟩
  rw [List.append_nil]
  rfl

theorem mono {recording : Effect ε (Recorded σ α) β} {plain : Effect ε σ β}
    {weaker : σ → Except ε β × σ → List α → Prop}
    (records : Records recording plain log)
    (follows : ∀ state actions, log state (plain.run state) actions →
      weaker state (plain.run state) actions) :
    Records recording plain weaker := by
  intro state earlier
  obtain ⟨actions, ran, allowed⟩ := records state earlier
  exact ⟨actions, ran, follows state actions allowed⟩

theorem ran {recording : Effect ε (Recorded σ α) β} {plain : Effect ε σ β}
    (records : Records recording plain log) :
    Records recording plain fun state ended actions =>
      plain.run state = ended ∧ log state ended actions :=
  records.mono fun _ _ allowed => ⟨rfl, allowed⟩

theorem and {recording : Effect ε (Recorded σ α) β} {plain : Effect ε σ β}
    {other : σ → Except ε β × σ → List α → Prop}
    (records : Records recording plain log)
    (alsoRecords : Records recording plain other) :
    Records recording plain fun state ended actions =>
      log state ended actions ∧ other state ended actions := by
  intro state earlier
  obtain ⟨actions, ran, allowed⟩ := records state earlier
  obtain ⟨others, alsoRan, alsoAllowed⟩ := alsoRecords state earlier
  have same : earlier ++ actions = earlier ++ others := by
    have recorded := ran.symm.trans alsoRan
    simpa using recorded
  rw [← List.append_cancel_left same] at alsoAllowed
  exact ⟨actions, ran, allowed, alsoAllowed⟩

theorem record {action : α} {recording : Effect ε (Recorded σ α) β}
    {plain : Effect ε σ β}
    (records : Records recording plain fun state ended actions =>
      log state ended (action :: actions)) :
    Records (Recorded.record action >>= fun _ => recording) plain log := by
  intro state earlier
  obtain ⟨actions, ran, allowed⟩ := records state (earlier ++ [action])
  refine ⟨action :: actions, ?_, allowed⟩
  rw [List.append_assoc] at ran
  exact ran

/-- A sequence records what its first part records and, if that returned,
what the rest records. -/
theorem bind {recordingFirst : Effect ε (Recorded σ α) γ}
    {first : Effect ε σ γ} {recordingNext : γ → Effect ε (Recorded σ α) β}
    {next : γ → Effect ε σ β}
    {firstLog : σ → Except ε γ × σ → List α → Prop}
    {nextLog : γ → σ → Except ε β × σ → List α → Prop}
    (firstRecords : Records recordingFirst first firstLog)
    (nextRecords : ∀ value, (∃ state between actions,
        firstLog state (.ok value, between) actions) →
      Records (recordingNext value) (next value) (nextLog value))
    (raised : ∀ state failure after actions,
      firstLog state (.error failure, after) actions →
      log state (.error failure, after) actions)
    (returned : ∀ state value between ended early late,
      firstLog state (.ok value, between) early →
      nextLog value between ended late → log state ended (early ++ late)) :
    Records (recordingFirst >>= recordingNext) (first >>= next) log := by
  intro state earlier
  obtain ⟨early, ran, allowed⟩ := firstRecords state earlier
  rw [Effect.run_bind, Effect.run_bind, ran]
  generalize first.run state = ended at allowed
  obtain ⟨result, between⟩ := ended
  cases result with
  | error failure => exact ⟨early, rfl, raised _ _ _ _ allowed⟩
  | ok value =>
      have nextRecord := nextRecords value ⟨state, between, early, allowed⟩
      obtain ⟨late, lateRan, lateAllowed⟩ :=
        nextRecord between (earlier ++ early)
      refine ⟨early ++ late, ?_, returned _ _ _ _ _ _ allowed lateAllowed⟩
      rw [← List.append_assoc]
      exact lateRan

theorem unrecorded_bind {first : Effect ε σ γ}
    {recordingNext : γ → Effect ε (Recorded σ α) β}
    {next : γ → Effect ε σ β}
    (raised : ∀ state failure after,
      first.run state = (.error failure, after) →
      log state (.error failure, after) [])
    (nextRecords : ∀ value, (∃ state between,
        first.run state = (.ok value, between)) →
      Records (recordingNext value) (next value) fun between ended actions =>
        ∀ state, first.run state = (.ok value, between) →
          log state ended actions) :
    Records (Recorded.unrecorded first >>= recordingNext) (first >>= next)
      log := by
  have silent : Records (α := α) (Recorded.unrecorded first) first
      fun state ended actions => first.run state = ended ∧ actions = [] :=
    unrecorded fun _ => ⟨rfl, rfl⟩
  apply bind silent
  · intro value known
    obtain ⟨state, between, actions, known⟩ := known
    exact nextRecords value ⟨state, between, known.1⟩
  · intro state failure after actions allowed
    rw [allowed.2]
    exact raised state failure after allowed.1
  · intro state value between ended early late firstAllowed nextAllowed
    rw [firstAllowed.2]
    exact nextAllowed state firstAllowed.1

theorem noting {action : α} {plain : Effect ε σ β}
    (returned : ∀ state value after, plain.run state = (.ok value, after) →
      log state (.ok value, after) [action])
    (raised : ∀ state failure after,
      plain.run state = (.error failure, after) →
      log state (.error failure, after) []) :
    Records (Recorded.noting action plain) plain log := by
  intro state earlier
  have ran : (Recorded.unrecorded plain : Effect ε (Recorded σ α) β).run
      { state := state, actions := earlier } =
        ((plain.run state).1,
          { state := (plain.run state).2, actions := earlier }) := rfl
  unfold Recorded.noting
  rw [Effect.run_bind, ran]
  cases ended : plain.run state with
  | mk result after =>
      cases result with
      | ok value => exact ⟨[action], rfl, returned state value after ended⟩
      | error failure =>
          refine ⟨[], ?_, raised state failure after ended⟩
          rw [List.append_nil]

/-- A change of the state, noted, after which a value is returned. -/
theorem noting_modify {action : α} {change : σ → σ} {value : β} :
    Records
      (Recorded.noting action (Effect.modify change) >>= fun _ =>
        Pure.pure value)
      ((Effect.modify change : Effect ε σ Unit) >>= fun _ => Pure.pure value)
      fun state ended actions =>
        ended = (.ok value, change state) ∧ actions = [action] := by
  intro state earlier
  exact ⟨[action], rfl, rfl, rfl⟩

end Records

/-- What the actions of a run say about the states before and after it. -/
structure Ledger (σ α : Type) where
  rel : σ → List α → σ → Prop
  refl : ∀ state, rel state [] state
  trans : ∀ {first second third early late}, rel first early second →
    rel second late third → rel first (early ++ late) third

namespace Ledger

/-- Every run of the recording computation balances. -/
def Keeps (ledger : Ledger σ α) (recording : Effect ε (Recorded σ α) β)
    (plain : Effect ε σ β) : Prop :=
  Records recording plain fun state ended actions =>
    ledger.rel state actions ended.2

variable {ledger : Ledger σ α}

theorem keeps_pure (value : β) :
    ledger.Keeps (pure value : Effect ε (Recorded σ α) β) (pure value) :=
  Records.pure fun state => ledger.refl state

/-- What changes nothing that the ledger is about need not be recorded. -/
theorem keeps_unrecorded {plain : Effect ε σ β}
    (balanced : ∀ state, ledger.rel state [] (plain.run state).2) :
    ledger.Keeps (Recorded.unrecorded plain) plain :=
  Records.unrecorded balanced

theorem keeps_bind_returned {recordingFirst : Effect ε (Recorded σ α) γ}
    {first : Effect ε σ γ} {recordingNext : γ → Effect ε (Recorded σ α) β}
    {next : γ → Effect ε σ β} (firstKeeps : ledger.Keeps recordingFirst first)
    (nextKeeps : ∀ value, (∃ before after,
        first.run before = (.ok value, after)) →
      ledger.Keeps (recordingNext value) (next value)) :
    ledger.Keeps (recordingFirst >>= recordingNext) (first >>= next) := by
  have firstRecords := Records.ran firstKeeps
  apply Records.bind firstRecords
  · intro value known
    obtain ⟨before, after, _, returned, _⟩ := known
    exact nextKeeps value ⟨before, after, returned⟩
  · intro state failure after actions kept
    exact kept.2
  · intro state value between ended early late kept rest
    exact ledger.trans kept.2 rest

theorem keeps_bind {recordingFirst : Effect ε (Recorded σ α) γ}
    {first : Effect ε σ γ} {recordingNext : γ → Effect ε (Recorded σ α) β}
    {next : γ → Effect ε σ β} (firstKeeps : ledger.Keeps recordingFirst first)
    (nextKeeps : ∀ value, ledger.Keeps (recordingNext value) (next value)) :
    ledger.Keeps (recordingFirst >>= recordingNext) (first >>= next) :=
  keeps_bind_returned firstKeeps fun value _ => nextKeeps value

theorem keeps_noting {action : α} {plain : Effect ε σ β}
    (balanced : ∀ state value after, plain.run state = (.ok value, after) →
      ledger.rel state [action] after)
    (unbalanced : ∀ state failure after,
      plain.run state = (.error failure, after) → ledger.rel state [] after) :
    ledger.Keeps (Recorded.noting action plain) plain :=
  Records.noting balanced unbalanced

theorem keeps_forEach_mem {ι : Type}
    {recordingBody : ι → Effect ε (Recorded σ α) Unit}
    {body : ι → Effect ε σ Unit} {items : List ι}
    (bodyKeeps : ∀ item ∈ items,
      ledger.Keeps (recordingBody item) (body item)) :
    ledger.Keeps (Effect.forEach items recordingBody)
      (Effect.forEach items body) := by
  induction items with
  | nil => exact keeps_pure ()
  | cons item rest induction =>
      apply keeps_bind (bodyKeeps item (by simp))
      intro _
      exact induction fun later member => bodyKeeps later (by simp [member])

theorem keeps_forEach {ι : Type}
    {recordingBody : ι → Effect ε (Recorded σ α) Unit}
    {body : ι → Effect ε σ Unit}
    (bodyKeeps : ∀ item, ledger.Keeps (recordingBody item) (body item))
    (items : List ι) :
    ledger.Keeps (Effect.forEach items recordingBody)
      (Effect.forEach items body) :=
  keeps_forEach_mem fun item _ => bodyKeeps item

/-- The ledger of computations that only take such actions. -/
def each (allowed : α → Prop) : Ledger σ α :=
  { rel := fun _ actions _ => ∀ action ∈ actions, allowed action
    refl := by simp
    trans := by
      intro _ _ _ early late earlyAllowed lateAllowed action member
      rcases List.mem_append.mp member with inEarly | inLate
      · exact earlyAllowed action inEarly
      · exact lateAllowed action inLate }

theorem keeps_each_mono {allowed weaker : α → Prop}
    {recording : Effect ε (Recorded σ α) β} {plain : Effect ε σ β}
    (keeps : (each allowed).Keeps recording plain)
    (follows : ∀ action, allowed action → weaker action) :
    (each weaker).Keeps recording plain := by
  apply Records.mono keeps
  intro state actions all action member
  exact follows action (all action member)

end Ledger

/-- An action that only one segment of a record can hold lies in that
segment. -/
theorem segment_of_split (sought : α → Prop)
    {early segment late before after : List α} {action : α}
    (split : early ++ (segment ++ late) = before ++ action :: after)
    (found : sought action) (notEarly : ∀ other ∈ early, ¬sought other)
    (notLate : ∀ other ∈ late, ¬sought other) :
    ∃ front back, segment = front ++ action :: back ∧
      before = early ++ front := by
  have absentEarly : action ∉ early := fun member =>
    notEarly action member found
  have absentLate : action ∉ late := fun member =>
    notLate action member found
  rcases List.append_eq_append_iff.mp split with
    ⟨front, before_eq, rest⟩ | ⟨front, early_eq, rest⟩
  · rcases List.append_eq_append_iff.mp rest with
      ⟨back, _, late_eq⟩ | ⟨back, segment_eq, back_eq⟩
    · simp [late_eq] at absentLate
    · cases back with
      | nil =>
          rw [List.nil_append] at back_eq
          simp [← back_eq] at absentLate
      | cons head back =>
          simp only [List.cons_append, List.cons.injEq] at back_eq
          rw [← back_eq.1] at segment_eq
          exact ⟨front, back, segment_eq, before_eq⟩
  · cases front with
    | cons head front =>
        simp only [List.cons_append, List.cons.injEq] at rest
        simp [early_eq, rest.1] at absentEarly
    | nil =>
        rw [List.append_nil] at early_eq
        rw [List.nil_append] at rest
        cases segment with
        | nil =>
            rw [List.nil_append] at rest
            simp [← rest] at absentLate
        | cons head back =>
            simp only [List.cons_append, List.cons.injEq] at rest
            refine ⟨[], back, ?_, ?_⟩
            · rw [rest.1, List.nil_append]
            · rw [early_eq, List.append_nil]

end Foundation
