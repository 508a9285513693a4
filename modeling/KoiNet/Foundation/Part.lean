import KoiNet.Foundation.Effect

/-!
# Computations on a part of a state

A `Part` of a state can be read and replaced without touching the rest of it.
A computation on the part is one on the whole state.
-/

namespace Foundation

/-- A part of a state that can be read and replaced on its own. -/
structure Part (σ τ : Type) where
  get : σ → τ
  set : σ → τ → σ
  get_set : ∀ state part, get (set state part) = part
  set_get : ∀ state, set state (get state) = state
  set_set : ∀ state first second, set (set state first) second =
    set state second

namespace Part

variable {σ τ ε α : Type} (part : Part σ τ)

/-- Change the part and keep the rest. -/
def update (change : τ → τ) (state : σ) : σ :=
  part.set state (change (part.get state))

/-- Run a computation on the part. -/
def within (body : Effect ε τ α) : Effect ε σ α :=
  { run := fun state =>
      match body.run (part.get state) with
      | (result, after) => (result, part.set state after) }

@[simp] theorem get_update (change : τ → τ) (state : σ) :
    part.get (part.update change state) = change (part.get state) :=
  part.get_set state _

theorem run_within (body : Effect ε τ α) (state : σ) :
    (part.within body).run state =
      ((body.run (part.get state)).1,
        part.set state (body.run (part.get state)).2) :=
  rfl

theorem run_within_eq {body : Effect ε τ α} {state : σ} {result : Except ε α}
    {after : τ} (ran : body.run (part.get state) = (result, after)) :
    (part.within body).run state = (result, part.set state after) := by
  rw [run_within, ran]

theorem run_forEach_within {ι : Type} (items : List ι)
    (body : ι → Effect ε τ Unit) (state : σ) :
    (Effect.forEach items fun item => part.within (body item)).run state =
      (part.within (Effect.forEach items body)).run state := by
  induction items generalizing state with
  | nil => rw [run_within, Effect.run_forEach_nil, Effect.run_forEach_nil,
      part.set_get]
  | cons item rest induction =>
      rw [Effect.forEach, Effect.run_bind, run_within, run_within,
        Effect.forEach, Effect.run_bind]
      generalize (body item).run (part.get state) = ended
      obtain ⟨result, after⟩ := ended
      cases result with
      | error failure => rfl
      | ok value =>
          dsimp only
          rw [induction, run_within, part.get_set, part.set_set]

end Part

end Foundation
