import Mathlib.Data.List.Dedup

/-!
# Sets that remember the order of insertion

A finite set as the list of its members, oldest first.  The order only shows
when the members are listed.
-/

namespace Foundation

/-- A finite set as a list in which no member occurs twice. -/
structure OrderedSet (α : Type) where
  items : List α
  nodup : items.Nodup

namespace OrderedSet

variable {α : Type} [DecidableEq α]

instance : Membership α (OrderedSet α) where
  mem set item := item ∈ set.items

instance (item : α) (set : OrderedSet α) : Decidable (item ∈ set) :=
  inferInstanceAs (Decidable (item ∈ set.items))

def empty : OrderedSet α :=
  { items := []
    nodup := List.nodup_nil }

/-- `set(items)`. -/
def ofList (items : List α) : OrderedSet α :=
  { items := items.dedup
    nodup := items.nodup_dedup }

/-- `set.add(item)`. -/
def add (set : OrderedSet α) (item : α) : OrderedSet α :=
  if member : item ∈ set then
    set
  else
    { items := set.items ++ [item]
      nodup := set.nodup.append (List.nodup_singleton item)
        (List.disjoint_singleton.mpr member) }

/-- The members that another collection has as well. -/
def within (set : OrderedSet α) (others : List α) : OrderedSet α :=
  { items := set.items.filter (· ∈ others)
    nodup := set.nodup.filter _ }

/-- Whether `set - set(others)` is empty. -/
def isSubset (set : OrderedSet α) (others : List α) : Bool :=
  set.items.all (· ∈ others)

omit [DecidableEq α] in
theorem mem_items {set : OrderedSet α} {item : α} :
    item ∈ set.items ↔ item ∈ set :=
  Iff.rfl

omit [DecidableEq α] in
@[simp] theorem not_mem_empty (item : α) :
    item ∉ (empty : OrderedSet α) :=
  List.not_mem_nil

@[simp] theorem mem_ofList {items : List α} {item : α} :
    item ∈ ofList items ↔ item ∈ items :=
  List.mem_dedup

@[simp] theorem mem_add {set : OrderedSet α} {item other : α} :
    other ∈ set.add item ↔ other = item ∨ other ∈ set := by
  unfold add
  split
  · rename_i member
    constructor
    · exact Or.inr
    · rintro (rfl | inSet)
      · exact member
      · exact inSet
  · change other ∈ set.items ++ [item] ↔ _
    simp [mem_items, or_comm]

@[simp] theorem mem_within {set : OrderedSet α} {others : List α}
    {item : α} :
    item ∈ set.within others ↔ item ∈ set ∧ item ∈ others := by
  change item ∈ set.items.filter _ ↔ _
  simp [mem_items]

theorem isSubset_iff {set : OrderedSet α} {others : List α} :
    set.isSubset others = true ↔ ∀ item ∈ set, item ∈ others := by
  simp [isSubset, mem_items]

theorem within_eq_self_iff {set : OrderedSet α} {others : List α} :
    set.within others = set ↔ ∀ item ∈ set, item ∈ others := by
  constructor
  · intro same item member
    rw [← same, mem_within] at member
    exact member.2
  · intro included
    have kept : set.items.filter (· ∈ others) = set.items := by
      rw [List.filter_eq_self]
      intro item member
      simpa using included item member
    unfold within
    cases set
    simp only at kept ⊢
    congr

end OrderedSet

end Foundation
