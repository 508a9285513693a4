import Mathlib.Logic.Basic

/-!
# Runs of a transition system

`Run step` chains the steps of a transition relation, and `Trace step` does so
for steps that carry a label, in the order of a given list of labels.  A
property that every step preserves is preserved by every run; a property that
only holds while the steps meet a condition is preserved by the runs all of
whose steps meet it.
-/

namespace Foundation

/-- Finitely many steps, each from the state the previous one reached. -/
inductive Run {σ : Type} (step : σ → σ → Prop) : σ → σ → Prop where
  | refl (state : σ) : Run step state state
  | tail {first last next : σ} :
      Run step first last → step last next → Run step first next

namespace Run

variable {σ : Type} {step : σ → σ → Prop}

theorem invariant {inv : σ → Prop} {first last : σ}
    (preserved : ∀ {state next}, inv state → step state next → inv next)
    (run : Run step first last) (initial : inv first) : inv last := by
  induction run with
  | refl => exact initial
  | tail _ taken induction => exact preserved induction taken

theorem mono {stronger : σ → σ → Prop} {first last : σ}
    (included : ∀ {state next}, stronger state next → step state next)
    (run : Run stronger first last) : Run step first last := by
  induction run with
  | refl => exact .refl _
  | tail _ taken induction => exact .tail induction (included taken)

theorem trans {first middle last : σ} (left : Run step first middle)
    (right : Run step middle last) : Run step first last := by
  induction right with
  | refl => exact left
  | tail _ taken induction => exact .tail induction taken

end Run

/-- The steps with these labels, one after the other. -/
inductive Trace {α σ : Type} (step : α → σ → σ → Prop) :
    List α → σ → σ → Prop where
  | nil (state : σ) : Trace step [] state state
  | cons {label : α} {labels : List α} {first next last : σ} :
      step label first next → Trace step labels next last →
      Trace step (label :: labels) first last

namespace Trace

variable {α σ : Type} {step : α → σ → σ → Prop}

theorem invariant {inv : σ → Prop} {labels : List α} {first last : σ}
    (preserved : ∀ {label state next}, inv state → step label state next →
      inv next)
    (trace : Trace step labels first last) (initial : inv first) :
    inv last := by
  induction trace with
  | nil => exact initial
  | cons taken _ induction => exact induction (preserved initial taken)

theorem mono {stronger : α → σ → σ → Prop} {labels : List α} {first last : σ}
    (trace : Trace stronger labels first last)
    (included : ∀ {label state next}, stronger label state next →
      step label state next) : Trace step labels first last := by
  induction trace with
  | nil => exact .nil _
  | cons taken _ induction => exact .cons (included taken) induction

/-- Where every step is, in a view of the state, a step of another system or
none at all, the view of a trace is a trace of that system.  The invariant may
be of the states in which the steps are taken. -/
theorem simulates {β τ : Type} {other : β → τ → τ → Prop} {inv : σ → Prop}
    {view : σ → τ} {relabel : α → Option β}
    (preserved : ∀ {label state next}, inv state → step label state next →
      inv next)
    (stutters : ∀ {label state next}, inv state → step label state next →
      relabel label = none → view next = view state)
    (matched : ∀ {label state next} {image : β}, inv state →
      step label state next → relabel label = some image →
      other image (view state) (view next))
    {labels : List α} {first last : σ} (initial : inv first)
    (trace : Trace step labels first last) :
    Trace other (labels.filterMap relabel) (view first) (view last) := by
  induction trace with
  | nil => exact .nil _
  | @cons label labels _ _ _ taken _ induction =>
      have later := induction (preserved initial taken)
      cases image : relabel label with
      | none =>
          rw [List.filterMap_cons_none image, ← stutters initial taken image]
          exact later
      | some image' =>
          rw [List.filterMap_cons_some image]
          exact .cons (matched initial taken image) later

/-- Where every step changes a view of the state by a function of its label,
the trace changes it by the fold of that function. -/
theorem view_eq_foldl {β : Type} {view : σ → β} {advance : β → α → β}
    (advances : ∀ {label state next}, step label state next →
      view next = advance (view state) label)
    {labels : List α} {first last : σ}
    (trace : Trace step labels first last) :
    view last = labels.foldl advance (view first) := by
  induction trace with
  | nil => rfl
  | cons taken _ induction =>
      rw [induction, advances taken]
      rfl

theorem append_iff {early late : List α} {first last : σ} :
    Trace step (early ++ late) first last ↔
      ∃ middle, Trace step early first middle ∧ Trace step late middle last := by
  constructor
  · intro trace
    induction early generalizing first with
    | nil => exact ⟨first, .nil first, trace⟩
    | cons label early induction =>
        cases trace with
        | cons taken rest =>
            obtain ⟨middle, before, after⟩ := induction rest
            exact ⟨middle, .cons taken before, after⟩
  · rintro ⟨middle, before, after⟩
    induction before with
    | nil => exact after
    | cons taken _ induction => exact .cons taken (induction after)

theorem labelled {labels : List α} {first last : σ}
    (trace : Trace step labels first last) :
    Trace (fun label state next => label ∈ labels ∧ step label state next)
      labels first last := by
  induction trace with
  | nil => exact .nil _
  | cons taken rest induction =>
      refine .cons ⟨by simp, taken⟩ (induction.mono ?_)
      intro label state next step
      exact ⟨List.mem_cons_of_mem _ step.1, step.2⟩

theorem step_of_mem {early late : List α} {label : α} {first last : σ}
    (trace : Trace step (early ++ label :: late) first last) :
    ∃ before after, Trace step early first before ∧
      step label before after := by
  obtain ⟨before, prior, rest⟩ := append_iff.mp trace
  cases rest with
  | cons taken _ => exact ⟨before, _, prior, taken⟩

end Trace

end Foundation
