import Mathlib.Data.List.Basic

/-!
# Delivery of a stream over a network that loses messages

A sender delivers a stream in batches and drops a batch once it has been
acknowledged.  A batch that arrives without being acknowledged is sent again,
perhaps together with more of the stream or with less.  The receiver gets the
acknowledged part of the stream in order, with repetitions, and what it gets
last is never older than what has been acknowledged.
-/

namespace Foundation

variable {α : Type}

/-- What the receiver has got of a stream, of which a part has been
acknowledged and the rest is pending. -/
inductive Redelivers : List α → List α → List α → Prop where
  | start : Redelivers [] [] []
  | extended {acknowledged pending received : List α} (more : List α) :
      Redelivers acknowledged pending received →
      Redelivers acknowledged (pending ++ more) received
  | repeated {acknowledged batch rest received : List α} :
      Redelivers acknowledged (batch ++ rest) received →
      Redelivers acknowledged (batch ++ rest) (received ++ batch)
  | acknowledged {acknowledged batch rest received : List α} :
      Redelivers acknowledged (batch ++ rest) received →
      Redelivers (acknowledged ++ batch) rest (received ++ batch)

namespace Redelivers

variable {acknowledged pending received : List α}

theorem sublist (redelivers : Redelivers acknowledged pending received) :
    acknowledged.Sublist received := by
  induction redelivers with
  | start => exact .slnil
  | extended _ _ induction => exact induction
  | repeated _ induction =>
      exact induction.trans (List.sublist_append_left _ _)
  | acknowledged _ induction => exact induction.append (List.Sublist.refl _)

theorem subset (redelivers : Redelivers acknowledged pending received) :
    received ⊆ acknowledged ++ pending := by
  induction redelivers with
  | start => exact List.nil_subset _
  | extended more _ induction =>
      rw [← List.append_assoc]
      exact List.subset_append_of_subset_left more induction
  | repeated _ induction =>
      apply List.append_subset.mpr
      refine ⟨induction, ?_⟩
      intro value member
      simp [member]
  | acknowledged _ induction =>
      apply List.append_subset.mpr
      rw [List.append_assoc]
      refine ⟨induction, ?_⟩
      intro value member
      simp [member]

end Redelivers

section Latest

variable (p : α → Bool)

/-- The last value of this kind. -/
def latest (values : List α) : Option α :=
  (values.filter p).getLast?

theorem latest_append (first second : List α) :
    latest p (first ++ second) = (latest p second).or (latest p first) := by
  unfold latest
  rw [List.filter_append, List.getLast?_append]

variable {p}

theorem latest_append_of_some {first second : List α} {value : α}
    (found : latest p second = some value) :
    latest p (first ++ second) = latest p second := by
  rw [latest_append, found, Option.some_or]

theorem latest_append_of_none {first second : List α}
    (absent : latest p second = none) :
    latest p (first ++ second) = latest p first := by
  rw [latest_append, absent, Option.none_or]

theorem latest_right_of_none {first second : List α}
    (absent : latest p (first ++ second) = none) :
    latest p second = none := by
  rw [latest_append, Option.or_eq_none_iff] at absent
  exact absent.1

theorem latest_map {β : Type} {p : β → Bool} (f : α → β) (values : List α) :
    latest p (values.map f) = (latest (p ∘ f) values).map f := by
  unfold latest
  rw [List.filter_map, List.getLast?_map]

/-- Of every kind, what was received last comes last in what has been
acknowledged, possibly with some of what is pending. -/
theorem Redelivers.latest_received
    {acknowledged pending received : List α} (p : α → Bool)
    (redelivers : Redelivers acknowledged pending received) :
    ∃ early, early <+: pending ∧
      latest p received = latest p (acknowledged ++ early) := by
  induction redelivers with
  | start => exact ⟨[], List.prefix_rfl, rfl⟩
  | extended more _ induction =>
      obtain ⟨early, isPrefix, same⟩ := induction
      exact ⟨early, isPrefix.trans (List.prefix_append _ _), same⟩
  | @repeated acknowledged batch rest received _ induction =>
      cases last : latest p batch with
      | some value =>
          refine ⟨batch, List.prefix_append _ _, ?_⟩
          rw [latest_append_of_some last, latest_append_of_some last]
      | none =>
          obtain ⟨early, isPrefix, same⟩ := induction
          exact ⟨early, isPrefix, (latest_append_of_none last).trans same⟩
  | @acknowledged acknowledged batch rest received _ induction =>
      cases last : latest p batch with
      | some value =>
          refine ⟨[], List.nil_prefix, ?_⟩
          rw [List.append_nil, latest_append_of_some last,
            latest_append_of_some last]
      | none =>
          obtain ⟨early, ⟨late, split⟩, same⟩ := induction
          rw [latest_append_of_none last, same]
          -- the batch ends within the early part or includes it
          rcases List.append_eq_append_iff.mp split with
            ⟨more, rfl, rfl⟩ | ⟨more, rfl, rfl⟩
          · refine ⟨[], List.nil_prefix, ?_⟩
            rw [List.append_nil, ← List.append_assoc,
              latest_append_of_none (latest_right_of_none last)]
          · refine ⟨more, List.prefix_append _ _, ?_⟩
            rw [List.append_assoc]

end Latest

end Foundation
