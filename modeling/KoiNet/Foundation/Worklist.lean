import KoiNet.Foundation.Effect

/-!
# Emptying a queue

A worker takes the first item off its queue, works on it, and goes on until
nothing is left; working on an item may add further items, and an exception
ends it.  Where each state stands for a list of chores and a view of the rest
of the state, emptying the queue is a fold over the chores.  Where working on
an item decreases a measure, the worker stops, however much it adds.
-/

namespace Foundation

section Drains

variable {ε σ ι : Type}

/-- The worker returns from every item it takes, and nothing is left. -/
inductive Drains (take : σ → Option (ι × σ)) (work : ι → Effect ε σ Unit) :
    σ → σ → Prop where
  | idle {state : σ} :
      take state = none → Drains take work state state
  | next {state taken worked after : σ} {item : ι} :
      take state = some (item, taken) →
      (work item).run taken = (.ok (), worked) →
      Drains take work worked after → Drains take work state after

namespace Drains

variable {take : σ → Option (ι × σ)} {work : ι → Effect ε σ Unit}
  {state taken : σ} {item : ι}

theorem next_iff (takes : take state = some (item, taken)) {after : σ} :
    Drains take work state after ↔
      ∃ worked, (work item).run taken = (.ok (), worked) ∧
        Drains take work worked after := by
  constructor
  · intro drains
    cases drains with
    | idle none => cases takes.symm.trans none
    | next others returned rest =>
        cases takes.symm.trans others
        exact ⟨_, returned, rest⟩
  · intro found
    obtain ⟨worked, returned, rest⟩ := found
    exact .next takes returned rest

/-- There is one way to empty the queue. -/
theorem functional {left right : σ} (drains : Drains take work state left)
    (others : Drains take work state right) : right = left := by
  induction drains with
  | idle none =>
      cases others with
      | idle => rfl
      | next takes => cases none.symm.trans takes
  | next takes returned _ induction =>
      obtain ⟨worked, otherReturned, rest⟩ := (next_iff takes).mp others
      cases returned.symm.trans otherReturned
      exact induction rest

theorem foldl {χ κ : Type} {stands : List χ → κ → σ → Prop}
    {apply : κ → χ → κ}
    (idle : ∀ view state, stands [] view state → take state = none)
    (works : ∀ chore rest view state, stands (chore :: rest) view state →
      ∃ item taken worked, take state = some (item, taken) ∧
        (work item).run taken = (.ok (), worked) ∧
        stands rest (apply view chore) worked)
    {chores : List χ} {view : κ} {state : σ}
    (initial : stands chores view state) :
    ∃ after, Drains take work state after ∧
      stands [] (chores.foldl apply view) after := by
  induction chores generalizing view state with
  | nil => exact ⟨state, .idle (idle view state initial), initial⟩
  | cons chore rest induction =>
      obtain ⟨item, taken, worked, takes, returned, stands⟩ :=
        works chore rest view state initial
      obtain ⟨after, drains, last⟩ := induction stands
      exact ⟨after, .next takes returned drains, last⟩

/-- If every chore the worker returns from is done, then all of them are when
the queue is empty. -/
theorem eq_foldl {χ κ : Type} {stands : List χ → κ → σ → Prop}
    {apply : κ → χ → κ}
    (idle : ∀ view state, stands [] view state → take state = none)
    (works : ∀ chore rest view state, stands (chore :: rest) view state →
      ∃ item taken, take state = some (item, taken) ∧
        ∀ worked, (work item).run taken = (.ok (), worked) →
          stands rest (apply view chore) worked)
    {chores : List χ} {view : κ} {state after : σ}
    (initial : stands chores view state)
    (drains : Drains take work state after) :
    stands [] (chores.foldl apply view) after := by
  induction chores generalizing view state with
  | nil =>
      have same := functional (.idle (idle view state initial)) drains
      rw [same]
      exact initial
  | cons chore rest induction =>
      obtain ⟨item, taken, takes, done⟩ := works chore rest view state initial
      obtain ⟨worked, returned, later⟩ := (next_iff takes).mp drains
      exact induction (done worked returned) later

theorem idle_after {after : σ} (drains : Drains take work state after) :
    take after = none := by
  induction drains with
  | idle none => exact none
  | next _ _ _ induction => exact induction

end Drains

end Drains

section Stops

variable {ε σ ι : Type}

/-- The worker on at most so many items: how it stopped, if it did. -/
def drain (take : σ → Option (ι × σ)) (work : ι → Effect ε σ Unit) :
    Nat → σ → Option (Except ε Unit × σ)
  | 0, state =>
      match take state with
      | none => some (.ok (), state)
      | some _ => none
  | items + 1, state =>
      match take state with
      | none => some (.ok (), state)
      | some (item, taken) =>
          match (work item).run taken with
          | (.ok (), worked) => drain take work items worked
          | (.error failure, after) => some (.error failure, after)

/-- The worker stops after finitely many items. -/
def Stops (take : σ → Option (ι × σ)) (work : ι → Effect ε σ Unit)
    (state : σ) : Prop :=
  ∃ items ended, drain take work items state = some ended

variable {take : σ → Option (ι × σ)} {work : ι → Effect ε σ Unit}
  {state taken : σ} {item : ι}

theorem drain_idle (idle : take state = none) (items : Nat) :
    drain take work items state = some (.ok (), state) := by
  cases items with
  | zero => simp only [drain, idle]
  | succ items => simp only [drain, idle]

theorem drain_next (takes : take state = some (item, taken)) (items : Nat) :
    drain take work (items + 1) state =
      match (work item).run taken with
      | (.ok (), worked) => drain take work items worked
      | (.error failure, after) => some (.error failure, after) := by
  simp only [drain, takes]

/-- A worker that stops without an exception has emptied the queue. -/
theorem drain_drains {items : Nat} {after : σ}
    (stopped : drain take work items state = some (.ok (), after)) :
    Drains take work state after := by
  induction items generalizing state with
  | zero =>
      cases takes : take state with
      | none =>
          rw [drain_idle takes] at stopped
          cases stopped
          exact .idle takes
      | some found => simp [drain, takes] at stopped
  | succ items induction =>
      cases takes : take state with
      | none =>
          rw [drain_idle takes] at stopped
          cases stopped
          exact .idle takes
      | some found =>
          obtain ⟨item, taken⟩ := found
          rw [drain_next takes] at stopped
          cases ran : (work item).run taken with
          | mk result worked =>
              rw [ran] at stopped
              cases result with
              | ok value => exact .next takes ran (induction stopped)
              | error failure => cases stopped

namespace Stops

theorem idle (idle : take state = none) : Stops take work state :=
  ⟨0, _, drain_idle idle 0⟩

theorem next (takes : take state = some (item, taken))
    (continues : ∀ worked, (work item).run taken = (.ok (), worked) →
      Stops take work worked) :
    Stops take work state := by
  cases ran : (work item).run taken with
  | mk result worked =>
      cases result with
      | ok value =>
          obtain ⟨items, ended, stopped⟩ := continues worked ran
          refine ⟨items + 1, ended, ?_⟩
          rw [drain_next takes, ran]
          exact stopped
      | error failure =>
          refine ⟨1, (.error failure, worked), ?_⟩
          rw [drain_next takes, ran]

/-- The worker stops if every item it returns from decreases a well-founded
measure. -/
theorem of_measure {μ : Type} {less : μ → μ → Prop}
    (wellFounded : WellFounded less) (size : σ → μ) {inv : σ → Prop}
    (decreases : ∀ state item taken worked, inv state →
      take state = some (item, taken) →
      (work item).run taken = (.ok (), worked) →
      inv worked ∧ less (size worked) (size state))
    (initial : inv state) : Stops take work state := by
  induction state using (InvImage.wf size wellFounded).induction with
  | _ state induction =>
      cases takes : take state with
      | none => exact idle takes
      | some found =>
          obtain ⟨item, taken⟩ := found
          apply next takes
          intro worked ran
          obtain ⟨kept, smaller⟩ :=
            decreases state item taken worked initial takes ran
          exact induction worked smaller kept

/-- What is in the queue at first does not matter: if the worker stops from
every state in which only the work has added items, it stops. -/
theorem of_added {queue : σ → List ι} {added : ι → Prop}
    (takes : ∀ state item rest, queue state = item :: rest →
      ∃ taken, take state = some (item, taken) ∧ queue taken = rest)
    (adds : ∀ item taken worked, (work item).run taken = (.ok (), worked) →
      ∃ later, queue worked = queue taken ++ later ∧
        ∀ item ∈ later, added item)
    (stops : ∀ state, (∀ item ∈ queue state, added item) →
      Stops take work state)
    (state : σ) : Stops take work state := by
  -- The queue is what is left of the initial one, and what was added.
  have drained : ∀ (first later : List ι) (state : σ),
      queue state = first ++ later → (∀ item ∈ later, added item) →
      Stops take work state := by
    intro first
    induction first with
    | nil =>
        intro later state queued all
        apply stops
        rw [queued]
        exact all
    | cons item rest induction =>
        intro later state queued all
        obtain ⟨taken, taking, left⟩ := takes state item _ queued
        apply next taking
        intro worked ran
        obtain ⟨more, grown, moreAdded⟩ := adds item taken worked ran
        refine induction (later ++ more) worked ?_ ?_
        · rw [grown, left]
          exact List.append_assoc rest later more
        · intro other member
          rcases List.mem_append.mp member with before | after
          · exact all other before
          · exact moreAdded other after
  exact drained (queue state) [] state (by simp) (by simp)

end Stops

end Stops

end Foundation
