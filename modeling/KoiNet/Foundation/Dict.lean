import Mathlib.Data.List.Nodup

/-!
# Insertion-ordered dictionaries

A finite map that remembers the order in which its keys were first stored.
Storing under a key that is already present keeps the key's position, and
removing a key closes the gap.  The order only shows when the keys are
listed; everything else is settled by `get?`.
-/

namespace Foundation

/-- A finite map as a list of entries, no key occurring twice. -/
structure Dict (κ ν : Type) where
  items : List (κ × ν)
  nodup : (items.map Prod.fst).Nodup

namespace Dict

variable {κ ν : Type} [DecidableEq κ]

/-- The value of the first entry stored under `key`. -/
def findItem (key : κ) : List (κ × ν) → Option ν
  | [] => none
  | (head, value) :: rest =>
      if head = key then some value else findItem key rest

/-- Overwrite the entry of `key` in place, or append a new one. -/
def setItem (key : κ) (value : ν) : List (κ × ν) → List (κ × ν)
  | [] => [(key, value)]
  | (head, old) :: rest =>
      if head = key then (head, value) :: rest
      else (head, old) :: setItem key value rest

theorem setItem_keys (key : κ) (value : ν) (items : List (κ × ν)) :
    (setItem key value items).map Prod.fst =
      if key ∈ items.map Prod.fst then items.map Prod.fst
      else items.map Prod.fst ++ [key] := by
  induction items with
  | nil => simp [setItem]
  | cons item rest induction =>
      obtain ⟨head, old⟩ := item
      by_cases same : head = key
      · simp [setItem, same]
      · have different : key ≠ head := Ne.symm same
        simp only [setItem, if_neg same, List.map_cons, induction,
          List.mem_cons, different, false_or]
        split <;> simp

theorem setItem_nodup (key : κ) (value : ν) {items : List (κ × ν)}
    (nodup : (items.map Prod.fst).Nodup) :
    ((setItem key value items).map Prod.fst).Nodup := by
  rw [setItem_keys]
  split
  · exact nodup
  · rename_i absent
    exact nodup.append (List.nodup_singleton key) (by simpa using absent)

theorem setItem_setItem (key : κ) (first second : ν) (items : List (κ × ν)) :
    setItem key second (setItem key first items) =
      setItem key second items := by
  induction items with
  | nil => simp [setItem]
  | cons item rest induction =>
      obtain ⟨head, old⟩ := item
      by_cases same : head = key
      · simp [setItem, same]
      · simp [setItem, same, induction]

theorem findItem_setItem (key other : κ) (value : ν)
    (items : List (κ × ν)) :
    findItem other (setItem key value items) =
      if other = key then some value else findItem other items := by
  induction items with
  | nil => simp [setItem, findItem, eq_comm]
  | cons item rest induction =>
      obtain ⟨head, old⟩ := item
      by_cases same : head = key
      · subst head
        by_cases asked : other = key
        · simp [setItem, findItem, asked]
        · have reverse : key ≠ other := Ne.symm asked
          simp [setItem, findItem, asked, reverse]
      · by_cases asked : other = key
        · subst other
          simp [setItem, findItem, same, induction]
        · simp [setItem, findItem, same, induction, asked]

theorem findItem_eq_some_iff {items : List (κ × ν)}
    (nodup : (items.map Prod.fst).Nodup) {key : κ} {value : ν} :
    findItem key items = some value ↔ (key, value) ∈ items := by
  induction items with
  | nil => simp [findItem]
  | cons item rest induction =>
      obtain ⟨head, old⟩ := item
      obtain ⟨fresh, restNodup⟩ := List.nodup_cons.mp nodup
      by_cases same : head = key
      · subst head
        have absent : (key, value) ∉ rest := by
          intro member
          exact fresh (List.mem_map.mpr ⟨_, member, rfl⟩)
        simp [findItem, absent, eq_comm]
      · have different : key ≠ head := Ne.symm same
        simp [findItem, same, different, induction restNodup]

theorem findItem_filter (key other : κ) (items : List (κ × ν)) :
    findItem other (items.filter fun item => item.1 ≠ key) =
      if other = key then none else findItem other items := by
  induction items with
  | nil => simp [findItem]
  | cons item rest induction =>
      obtain ⟨head, old⟩ := item
      by_cases dropped : head = key
      · subst head
        by_cases asked : other = key
        · simp_all
        · have reverse : key ≠ other := Ne.symm asked
          simp_all [findItem]
      · by_cases asked : other = key
        · subst other
          simp_all [findItem]
        · simp_all [findItem]

def empty : Dict κ ν :=
  { items := []
    nodup := List.nodup_nil }

def get? (dict : Dict κ ν) (key : κ) : Option ν :=
  findItem key dict.items

def keys (dict : Dict κ ν) : List κ :=
  dict.items.map Prod.fst

/-- `dict[key] = value`. -/
def set (dict : Dict κ ν) (key : κ) (value : ν) : Dict κ ν :=
  { items := setItem key value dict.items
    nodup := setItem_nodup key value dict.nodup }

/-- `dict.pop(key, None)`. -/
def erase (dict : Dict κ ν) (key : κ) : Dict κ ν :=
  { items := dict.items.filter fun item => item.1 ≠ key
    nodup := dict.nodup.sublist (List.filter_sublist.map Prod.fst) }

/-- `dict.setdefault(key, value)`. -/
def setDefault (dict : Dict κ ν) (key : κ) (value : ν) : Dict κ ν :=
  match dict.get? key with
  | some _ => dict
  | none => dict.set key value

/-- The entries stored one after the other. -/
def ofItems (items : List (κ × ν)) : Dict κ ν :=
  items.foldl (fun dict item => dict.set item.1 item.2) empty

@[simp] theorem get?_empty (key : κ) :
    (empty : Dict κ ν).get? key = none :=
  rfl

theorem get?_set (dict : Dict κ ν) (key other : κ) (value : ν) :
    (dict.set key value).get? other =
      if other = key then some value else dict.get? other :=
  findItem_setItem key other value dict.items

theorem set_set (dict : Dict κ ν) (key : κ) (first second : ν) :
    (dict.set key first).set key second = dict.set key second := by
  unfold set
  simp only [setItem_setItem]

@[simp] theorem get?_set_self (dict : Dict κ ν) (key : κ) (value : ν) :
    (dict.set key value).get? key = some value := by
  simp [get?_set]

theorem get?_set_ne (dict : Dict κ ν) {key other : κ} (value : ν)
    (different : other ≠ key) :
    (dict.set key value).get? other = dict.get? other := by
  simp [get?_set, different]

theorem get?_erase (dict : Dict κ ν) (key other : κ) :
    (dict.erase key).get? other =
      if other = key then none else dict.get? other :=
  findItem_filter key other dict.items

@[simp] theorem get?_erase_self (dict : Dict κ ν) (key : κ) :
    (dict.erase key).get? key = none := by
  simp [get?_erase]

theorem get?_erase_ne (dict : Dict κ ν) {key other : κ}
    (different : other ≠ key) :
    (dict.erase key).get? other = dict.get? other := by
  simp [get?_erase, different]

theorem erase_of_absent {dict : Dict κ ν} {key : κ}
    (absent : dict.get? key = none) : dict.erase key = dict := by
  have kept : dict.items.filter (fun item => item.1 ≠ key) = dict.items := by
    rw [List.filter_eq_self]
    rintro ⟨head, value⟩ member
    have stored := (findItem_eq_some_iff dict.nodup).mpr member
    simp only [ne_eq, decide_not, Bool.not_eq_true', decide_eq_false_iff_not]
    rintro rfl
    cases absent.symm.trans stored
  unfold erase
  cases dict
  congr

theorem mem_items_iff (dict : Dict κ ν) {key : κ} {value : ν} :
    (key, value) ∈ dict.items ↔ dict.get? key = some value :=
  (findItem_eq_some_iff dict.nodup).symm

theorem get?_setDefault (dict : Dict κ ν) (key other : κ) (value : ν) :
    (dict.setDefault key value).get? other =
      if other = key then some ((dict.get? key).getD value)
      else dict.get? other := by
  unfold setDefault
  cases stored : dict.get? key with
  | some old =>
      by_cases same : other = key
      · simp [same, stored]
      · simp [same]
  | none => exact get?_set dict key other value

theorem mem_keys_iff (dict : Dict κ ν) {key : κ} :
    key ∈ dict.keys ↔ ∃ value, dict.get? key = some value := by
  constructor
  · intro member
    obtain ⟨⟨stored, value⟩, entry, rfl⟩ := List.mem_map.mp member
    exact ⟨value, dict.mem_items_iff.mp entry⟩
  · rintro ⟨value, found⟩
    exact List.mem_map.mpr ⟨(key, value), dict.mem_items_iff.mpr found, rfl⟩

theorem keys_set (dict : Dict κ ν) (key : κ) (value : ν) :
    (dict.set key value).keys =
      if key ∈ dict.keys then dict.keys else dict.keys ++ [key] :=
  setItem_keys key value dict.items

theorem keys_erase (dict : Dict κ ν) (key : κ) :
    (dict.erase key).keys = dict.keys.filter (· ≠ key) := by
  unfold keys erase
  rw [List.filter_map]
  rfl

theorem setItem_of_not_mem {key : κ} (value : ν) {items : List (κ × ν)}
    (absent : key ∉ items.map Prod.fst) :
    setItem key value items = items ++ [(key, value)] := by
  induction items with
  | nil => rfl
  | cons item rest induction =>
      obtain ⟨head, old⟩ := item
      simp only [List.map_cons, List.mem_cons, not_or] at absent
      simp [setItem, Ne.symm absent.1, induction absent.2]

private theorem foldl_set_items (items : List (κ × ν)) (dict : Dict κ ν)
    (nodup : ((dict.items ++ items).map Prod.fst).Nodup) :
    (items.foldl (fun dict item => dict.set item.1 item.2) dict).items =
      dict.items ++ items := by
  induction items generalizing dict with
  | nil => simp
  | cons item rest induction =>
      have split : dict.items ++ item :: rest =
          (dict.items ++ [item]) ++ rest := by simp
      have fresh : item.1 ∉ dict.items.map Prod.fst := by
        rw [List.map_append, List.map_cons] at nodup
        intro member
        exact (List.nodup_append.mp nodup).2.2 _ member _ (by simp) rfl
      have stored : (dict.set item.1 item.2).items = dict.items ++ [item] :=
        setItem_of_not_mem item.2 fresh
      rw [List.foldl_cons, induction, stored, split]
      rw [stored, ← split]
      exact nodup

theorem ofItems_items {items : List (κ × ν)}
    (nodup : (items.map Prod.fst).Nodup) : (ofItems items).items = items :=
  foldl_set_items items empty nodup

theorem ofItems_map_items {μ : Type} (dict : Dict κ ν) (change : κ × ν → μ) :
    (ofItems (dict.items.map fun item => (item.1, change item))).items =
      dict.items.map fun item => (item.1, change item) := by
  apply ofItems_items
  rw [List.map_map]
  exact dict.nodup

theorem keys_ofItems_map {μ : Type} (dict : Dict κ ν) (change : κ × ν → μ) :
    (ofItems (dict.items.map fun item => (item.1, change item))).keys =
      dict.keys := by
  unfold keys
  rw [ofItems_map_items, List.map_map]
  rfl

theorem get?_ofItems_map {μ : Type} (dict : Dict κ ν) (change : κ × ν → μ)
    {key : κ} {value : μ} :
    (ofItems (dict.items.map fun item => (item.1, change item))).get? key =
        some value ↔
      ∃ old, dict.get? key = some old ∧ value = change (key, old) := by
  rw [← mem_items_iff, ofItems_map_items, List.mem_map]
  simp only [Prod.exists, dict.mem_items_iff, Prod.mk.injEq]
  constructor
  · rintro ⟨_, old, stored, rfl, rfl⟩
    exact ⟨old, stored, rfl⟩
  · rintro ⟨old, stored, rfl⟩
    exact ⟨key, old, stored, rfl, rfl⟩

end Dict

end Foundation
