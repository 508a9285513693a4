import Mathlib.Data.Fintype.Card
import Mathlib.Data.Set.Finite.List
import Mathlib.Logic.Relation

/-!
# Dependencies and orders that respect them

A list respects a dependency relation if whatever one of its members depends
on stands before it.  Such a list of everything that has dependencies exists
only if nothing depends on itself through others; and finitely many things of
which each depends on another of them contain such a cycle.
-/

namespace Foundation

open Relation

variable {α : Type}

/-- Something depends on itself, perhaps through others. -/
def Cyclic (dependsOn : α → α → Prop) : Prop :=
  ∃ item, TransGen dependsOn item item

theorem not_cyclic_of_forall_not {dependsOn : α → α → Prop}
    (none : ∀ item dependency, ¬dependsOn item dependency) :
    ¬Cyclic dependsOn := by
  rintro ⟨item, cycle⟩
  obtain ⟨next, depends, _⟩ := TransGen.head'_iff.mp cycle
  exact none item next depends

/-- The item depends, perhaps through others, on something that depends on
itself. -/
def ReachesCycle (dependsOn : α → α → Prop) (item : α) : Prop :=
  ∃ member, ReflTransGen dependsOn item member ∧
    TransGen dependsOn member member

theorem cyclic_iff_exists_reachesCycle {dependsOn : α → α → Prop} :
    Cyclic dependsOn ↔ ∃ item, ReachesCycle dependsOn item := by
  constructor
  · rintro ⟨item, cycle⟩
    exact ⟨item, item, .refl, cycle⟩
  · rintro ⟨_, member, _, cycle⟩
    exact ⟨member, cycle⟩

theorem ReachesCycle.depends {dependsOn : α → α → Prop} {item : α}
    (reaches : ReachesCycle dependsOn item) :
    ∃ dependency, dependsOn item dependency := by
  obtain ⟨member, path, cycle⟩ := reaches
  rcases ReflTransGen.cases_head path with rfl | ⟨next, depends, _⟩
  · obtain ⟨next, depends, _⟩ := TransGen.head'_iff.mp cycle
    exact ⟨next, depends⟩
  · exact ⟨next, depends⟩

/-- Each member of the list comes after what it depends on. -/
def Respects (dependsOn : α → α → Prop) (order : List α) : Prop :=
  ∀ earlier item later, order = earlier ++ item :: later →
    ∀ dependency, dependsOn item dependency → dependency ∈ earlier

variable {dependsOn : α → α → Prop} {order : List α}

theorem respects_nil : Respects dependsOn [] := by
  intro earlier item later split
  simp at split

/-- A list that respects the relation is extended by a member all of whose
dependencies it contains. -/
theorem Respects.append_singleton (respects : Respects dependsOn order)
    {item : α} (met : ∀ dependency, dependsOn item dependency →
      dependency ∈ order) :
    Respects dependsOn (order ++ [item]) := by
  intro earlier other later split dependency depends
  rcases List.eq_nil_or_concat later with rfl | ⟨init, last, rfl⟩
  · obtain ⟨rfl, same⟩ := List.append_inj' split rfl
    cases same
    exact met dependency depends
  · have shorter : order ++ [item] = (earlier ++ other :: init) ++ [last] := by
      simpa using split
    obtain ⟨same, _⟩ := List.append_inj' shorter rfl
    exact respects earlier other init same dependency depends

theorem Respects.of_append {left right : List α}
    (respects : Respects dependsOn (left ++ right)) :
    Respects dependsOn left := by
  intro earlier item later split
  apply respects earlier item (later ++ right)
  rw [split]
  simp

/-- Nothing in a list that respects the relation starts an infinite chain of
dependencies. -/
private theorem Respects.acc (respects : Respects dependsOn order) :
    ∀ item ∈ order, Acc (fun dependency item => dependsOn item dependency)
      item := by
  induction order using List.reverseRecOn with
  | nil =>
      intro item member
      cases member
  | append_singleton init last induction =>
      have earlier := induction respects.of_append
      intro item member
      rcases List.mem_append.mp member with inInit | isLast
      · exact earlier item inInit
      · rw [List.mem_singleton.mp isLast]
        constructor
        intro dependency depends
        exact earlier dependency
          (respects init last [] (by simp) dependency depends)

private theorem not_transGen_self_of_acc {item : α}
    (acc : Acc (fun dependency item => dependsOn item dependency) item) :
    ¬TransGen dependsOn item item := by
  have accTrans := acc.transGen
  intro cycle
  have swapped : TransGen (fun dependency item => dependsOn item dependency)
      item item := transGen_swap.mpr cycle
  induction accTrans with
  | intro item _ induction =>
      exact induction item swapped (acc.inv_of_transGen swapped) cycle swapped

theorem Respects.not_reachesCycle (respects : Respects dependsOn order)
    {item : α} (member : item ∈ order) : ¬ReachesCycle dependsOn item := by
  have reached : ∀ found, ReflTransGen dependsOn item found →
      Acc (fun dependency item => dependsOn item dependency) found := by
    intro found reaches
    induction reaches with
    | refl => exact respects.acc item member
    | tail _ depends induction => exact induction.inv depends
  rintro ⟨found, reaches, cycle⟩
  exact not_transGen_self_of_acc (reached found reaches) cycle

/-- If everything that has dependencies is in a list that respects them, there
is no cycle. -/
theorem Respects.not_cyclic (respects : Respects dependsOn order)
    (covers : ∀ item dependency, dependsOn item dependency → item ∈ order) :
    ¬Cyclic dependsOn := by
  rintro ⟨item, cycle⟩
  obtain ⟨next, depends, _⟩ := TransGen.head'_iff.mp cycle
  exact not_transGen_self_of_acc
    (respects.acc item (covers item next depends)) cycle

/-- Finitely many items of which each depends on one of them contain a
cycle. -/
theorem cyclic_of_stuck {members : List α} (nonempty : members ≠ [])
    (stuck : ∀ item ∈ members, ∃ dependency ∈ members,
      dependsOn item dependency) :
    Cyclic dependsOn := by
  by_contra acyclic
  let inside (left right : { item // item ∈ members }) : Prop :=
    TransGen dependsOn right.1 left.1
  have finite : Finite { item // item ∈ members } :=
    (List.finite_toSet members).to_subtype
  have transitive : IsTrans { item // item ∈ members } inside :=
    ⟨fun _ _ _ first second => second.trans first⟩
  have irreflexive : Std.Irrefl inside :=
    ⟨fun item cycle => acyclic ⟨item.1, cycle⟩⟩
  have wellFounded : WellFounded inside :=
    Finite.wellFounded_of_trans_of_irrefl inside
  have impossible : ∀ item : { item // item ∈ members }, False := by
    intro item
    induction item using wellFounded.induction with
    | _ item induction =>
        obtain ⟨dependency, member, depends⟩ := stuck item.1 item.2
        exact induction ⟨dependency, member⟩ (.single depends)
  obtain ⟨first, member⟩ := List.exists_mem_of_ne_nil members nonempty
  exact impossible ⟨first, member⟩

/-- Items of which each depends on one of them all lead to a cycle. -/
theorem reachesCycle_of_stuck {members : List α}
    (stuck : ∀ item ∈ members, ∃ dependency ∈ members,
      dependsOn item dependency) {item : α} (member : item ∈ members) :
    ReachesCycle dependsOn item := by
  classical
  let onward (left right : α) : Prop :=
    ReflTransGen dependsOn item left ∧ dependsOn left right
  let reached := members.filter fun other =>
    ReflTransGen dependsOn item other
  have nonempty : reached ≠ [] :=
    List.ne_nil_of_mem
      (List.mem_filter.mpr ⟨member, decide_eq_true ReflTransGen.refl⟩)
  obtain ⟨found, cycle⟩ : Cyclic onward := by
    refine cyclic_of_stuck nonempty fun other isReached => ?_
    obtain ⟨inMembers, reaches⟩ := List.mem_filter.mp isReached
    have reaches : ReflTransGen dependsOn item other := by simpa using reaches
    obtain ⟨dependency, inside, depends⟩ := stuck other inMembers
    refine ⟨dependency, List.mem_filter.mpr ⟨inside, ?_⟩, reaches, depends⟩
    simpa using reaches.tail depends
  obtain ⟨next, first, _⟩ := TransGen.head'_iff.mp cycle
  exact ⟨found, first.1, cycle.lift id fun _ _ step => step.2⟩

/-- The first item stands before the second in the list. -/
def Precedes (order : List α) (first second : α) : Prop :=
  [first, second].Sublist order

theorem Precedes.not_precedes {first second : α} (nodup : order.Nodup)
    (precedes : Precedes order first second) :
    ¬Precedes order second first := by
  unfold Precedes at precedes ⊢
  induction order with
  | nil => cases precedes
  | cons head tail induction =>
      obtain ⟨apart, nodup⟩ := List.nodup_cons.mp nodup
      intro follows
      cases precedes with
      | cons _ inTail =>
          cases follows with
          | cons _ again => exact induction nodup inTail again
          | cons_cons _ _ => exact apart (inTail.subset (by simp))
      | cons_cons _ inTail =>
          cases follows with
          | cons _ again => exact apart (again.subset (by simp))
          | cons_cons _ _ => exact apart (inTail.subset (by simp))

/-- In a list that respects the relation, whatever an item depends on, perhaps
through others, stands before it. -/
theorem Respects.precedes (respects : Respects dependsOn order)
    {item dependency : α} (depends : TransGen dependsOn item dependency)
    (member : item ∈ order) : Precedes order dependency item := by
  have listed : ∀ earlier later, order = earlier ++ item :: later →
      dependency ∈ earlier := by
    clear member
    induction depends using TransGen.head_induction_on with
    | single depends =>
        intro earlier later split
        exact respects earlier _ later split _ depends
    | @head item next depends _ induction =>
        intro earlier later split
        have before := respects earlier item later split next depends
        obtain ⟨front, back, rfl⟩ := List.append_of_mem before
        have nearer := induction front (back ++ item :: later)
          (by rw [split]; simp)
        exact List.mem_append_left _ nearer
  obtain ⟨earlier, later, rfl⟩ := List.append_of_mem member
  have before := List.singleton_sublist.mpr (listed earlier later rfl)
  exact before.append (List.singleton_sublist.mpr List.mem_cons_self)

/-- Where a member of a filtered list stands in the whole list. -/
private theorem exists_of_filter_eq {keep : α → Bool}
    {earlier later : List α} {item : α}
    (split : order.filter keep = earlier ++ item :: later) :
    ∃ before after, order = before ++ item :: after ∧
      before.filter keep = earlier ∧ keep item = true := by
  obtain ⟨front, back, rfl, rfl, rest⟩ := List.filter_eq_append_iff.mp split
  obtain ⟨skipped, after, rfl, dropped, kept, _⟩ :=
    List.filter_eq_cons_iff.mp rest
  refine ⟨front ++ skipped, after, by simp, ?_, kept⟩
  rw [List.filter_append, List.filter_eq_nil_iff.mpr dropped,
    List.append_nil]

theorem Respects.append {left right : List α}
    (respects : Respects dependsOn left)
    (met : ∀ earlier item later, right = earlier ++ item :: later →
      ∀ dependency, dependsOn item dependency →
        dependency ∈ left ++ earlier) :
    Respects dependsOn (left ++ right) := by
  intro earlier item later split dependency depends
  rcases List.append_eq_append_iff.mp split with
    ⟨front, rfl, rest⟩ | ⟨rest, rfl, behind⟩
  · exact met front item later rest dependency depends
  · cases rest with
    | nil =>
        have here := met [] item later behind.symm dependency depends
        simpa using here
    | cons head rest =>
        obtain ⟨rfl, _⟩ := List.cons.inj behind
        exact respects earlier item rest rfl dependency depends

/-- A list that respects the relation can be rearranged so that an item stands
before another one that it does not depend on. -/
theorem Respects.exists_precedes (respects : Respects dependsOn order)
    {item other : α} (member : item ∈ order) (present : other ∈ order)
    (independent : ¬ReflTransGen dependsOn item other) :
    ∃ rearranged : List α, rearranged.Perm order ∧
      Respects dependsOn rearranged ∧ Precedes rearranged item other := by
  classical
  -- whatever the item needs comes first, in the order it had
  let needed (found : α) : Bool := decide (ReflTransGen dependsOn item found)
  have isNeeded : ∀ found, needed found = true ↔
      ReflTransGen dependsOn item found := fun _ => decide_eq_true_iff
  refine ⟨order.filter needed ++ order.filter (! needed ·),
    List.filter_append_perm needed order, ?_, ?_⟩
  · apply Respects.append
    · intro earlier found later split dependency depends
      obtain ⟨before, after, rfl, rfl, found⟩ := exists_of_filter_eq split
      refine List.mem_filter.mpr
        ⟨respects before _ after rfl dependency depends, ?_⟩
      exact (isNeeded _).mpr (((isNeeded _).mp found).tail depends)
    · intro earlier found later split dependency depends
      obtain ⟨before, after, rfl, rfl, _⟩ := exists_of_filter_eq split
      have present := respects before found after rfl dependency depends
      by_cases isFirst : needed dependency = true
      · exact List.mem_append_left _
          (List.mem_filter.mpr ⟨by simp [present], isFirst⟩)
      · refine List.mem_append_right _
          (List.mem_filter.mpr ⟨present, ?_⟩)
        simpa using isFirst
  · have first : item ∈ order.filter needed :=
      List.mem_filter.mpr ⟨member, (isNeeded item).mpr .refl⟩
    have second : other ∈ order.filter (! needed ·) := by
      refine List.mem_filter.mpr ⟨present, ?_⟩
      rw [Bool.not_eq_true', ← Bool.not_eq_true, isNeeded]
      exact independent
    exact (List.singleton_sublist.mpr first).append
      (List.singleton_sublist.mpr second)

end Foundation
