import KoiNet.Foundation.Effect

/-!
# Computations that check before they go on

A guarded computation does what a plain one does, except that it may raise
where the plain one would go on.  `AgreesAt` says so of one state: the guarded
computation raises only in trouble, and only exceptions that nothing catches.
Sequences and handlers of exceptions keep the relation, so a program and the
same program with checks agree where no check fails.
-/

namespace Foundation

inductive AgreesAt {ε σ α : Type} (uncaught : ε → Prop) (trouble : Prop)
    (guarded plain : Effect ε σ α) (state : σ) : Prop where
  | same :
      guarded.run state = plain.run state →
      AgreesAt uncaught trouble guarded plain state
  | raised (failure : ε) (after : σ) :
      trouble → uncaught failure →
      guarded.run state = (.error failure, after) →
      AgreesAt uncaught trouble guarded plain state

namespace AgreesAt

variable {ε σ α β : Type} {uncaught : ε → Prop} {trouble : Prop}
  {guarded plain : Effect ε σ α} {state : σ}

theorem refl (body : Effect ε σ α) (state : σ) :
    AgreesAt uncaught trouble body body state :=
  .same rfl

/-- Without trouble there is no difference. -/
theorem run_eq (agrees : AgreesAt uncaught trouble guarded plain state)
    (untroubled : ¬trouble) : guarded.run state = plain.run state := by
  cases agrees with
  | same agree => exact agree
  | raised failure after given fatal raised => exact (untroubled given).elim

theorem run_eq_of_ok (agrees : AgreesAt uncaught trouble guarded plain state)
    {value : α} {after : σ}
    (returned : guarded.run state = (.ok value, after)) :
    plain.run state = (.ok value, after) := by
  cases agrees with
  | same agree => rw [← agree, returned]
  | raised failure last given fatal raised =>
      rw [raised] at returned
      cases returned

theorem check {pass : Bool} {failure : ε} (fatal : uncaught failure)
    (fails : pass = false → trouble) (body : Effect ε σ α) (state : σ) :
    AgreesAt uncaught trouble
      ((if pass = true then pure () else Effect.raise failure) >>= fun _ =>
        body)
      body state := by
  cases pass with
  | true => exact .same rfl
  | false => exact .raised failure state (fails rfl) fatal rfl

theorem bind {guardedNext plainNext : α → Effect ε σ β}
    (agrees : AgreesAt uncaught trouble guarded plain state)
    (rest : ∀ value after, plain.run state = (.ok value, after) →
      AgreesAt uncaught trouble (guardedNext value) (plainNext value) after) :
    AgreesAt uncaught trouble (guarded >>= guardedNext) (plain >>= plainNext)
      state := by
  cases agrees with
  | raised failure after given fatal raised =>
      exact .raised failure after given fatal
        (Effect.run_bind_of_error raised _)
  | same agree =>
      generalize ran : plain.run state = ended at agree rest
      obtain ⟨result, after⟩ := ended
      cases result with
      | error failure =>
          apply same
          rw [Effect.run_bind_of_error agree, Effect.run_bind_of_error ran]
      | ok value =>
          cases rest value after rfl with
          | same later =>
              apply same
              rw [Effect.run_bind_of_ok agree, Effect.run_bind_of_ok ran,
                later]
          | raised failure last given fatal raised =>
              refine .raised failure last given fatal ?_
              rw [Effect.run_bind_of_ok agree, raised]

theorem bind_right {guardedNext plainNext : α → Effect ε σ β}
    (first : Effect ε σ α)
    (rest : ∀ value after, first.run state = (.ok value, after) →
      AgreesAt uncaught trouble (guardedNext value) (plainNext value) after) :
    AgreesAt uncaught trouble (first >>= guardedNext) (first >>= plainNext)
      state :=
  (refl first state).bind rest

theorem tryExcept {caught : ε → Bool} {fallback : Effect ε σ α}
    (passes : ∀ failure, uncaught failure → caught failure = false)
    (agrees : AgreesAt uncaught trouble guarded plain state) :
    AgreesAt uncaught trouble (Effect.tryExcept guarded caught fallback)
      (Effect.tryExcept plain caught fallback) state := by
  cases agrees with
  | same agree =>
      apply same
      unfold Effect.tryExcept
      dsimp only
      rw [agree]
  | raised failure after given fatal raised =>
      refine .raised failure after given fatal ?_
      unfold Effect.tryExcept
      dsimp only
      rw [raised]
      simp [passes failure fatal]

end AgreesAt

end Foundation
