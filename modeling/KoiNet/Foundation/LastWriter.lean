import Mathlib.Data.List.Perm.Basic
import Mathlib.Order.Lattice

/-!
# Last-writer-wins registers that skip equal contents

A register takes a later version only if its digest differs from the stored
one.  A version with the stored digest does not advance the stored stamp, so
the outcome can depend on the order of arrival.  It does not, and is the
digest of the newest version, exactly if every version with that digest is
newer than every version with another.
-/

namespace Foundation.LastWriter

variable {V T D : Type} [LinearOrder T] [DecidableEq D]
  (stamp : V → T) (digest : V → D)

/-- Whether a version replaces a stored one. -/
def Replaces (version stored : V) : Prop :=
  digest version ≠ digest stored ∧ stamp stored < stamp version

instance (version stored : V) :
    Decidable (Replaces stamp digest version stored) :=
  inferInstanceAs (Decidable (_ ∧ _))

/-- Offer a version to a register. -/
def offer (stored : Option V) (version : V) : Option V :=
  match stored with
  | none => some version
  | some old =>
      if Replaces stamp digest version old then some version else some old

/-- The register after the versions arrived in this order. -/
def settle (versions : List V) : Option V :=
  versions.foldl (offer stamp digest) none

/-- Every version with the digest is newer than every version without. -/
def Dominates (latest : D) (versions : List V) : Prop :=
  ∀ newer ∈ versions, digest newer = latest →
    ∀ older ∈ versions, digest older ≠ latest → stamp older < stamp newer

variable {stamp digest}

theorem offer_none (version : V) :
    offer stamp digest none version = some version :=
  rfl

theorem offer_replaces {version stored : V}
    (replaces : Replaces stamp digest version stored) :
    offer stamp digest (some stored) version = some version := by
  unfold offer
  exact if_pos replaces

theorem offer_keeps {version stored : V}
    (keeps : ¬Replaces stamp digest version stored) :
    offer stamp digest (some stored) version = some stored := by
  unfold offer
  exact if_neg keeps

omit [DecidableEq D] in
/-- A version that does not replace the stored one has its digest or is not
newer. -/
theorem not_replaces_iff {version stored : V} :
    ¬Replaces stamp digest version stored ↔
      digest version = digest stored ∨ stamp version ≤ stamp stored := by
  unfold Replaces
  rw [not_and_or, not_not, not_lt]

variable (stamp digest) in
/-- What is stored after an offer is not replaced by the same version. -/
theorem offer_settles (stored : Option V) (version : V) :
    ∃ result, offer stamp digest stored version = some result ∧
      ¬Replaces stamp digest version result := by
  have own : ¬Replaces stamp digest version version :=
    fun replaces => replaces.1 rfl
  cases stored with
  | none => exact ⟨version, rfl, own⟩
  | some old =>
      by_cases replaces : Replaces stamp digest version old
      · exact ⟨version, offer_replaces replaces, own⟩
      · exact ⟨old, offer_keeps replaces, replaces⟩

variable (stamp digest) in
theorem exists_offer (stored : V) (version : V) :
    ∃ result, offer stamp digest (some stored) version = some result ∧
      (result = version ∨ result = stored) := by
  by_cases replaces : Replaces stamp digest version stored
  · exact ⟨version, offer_replaces replaces, .inl rfl⟩
  · exact ⟨stored, offer_keeps replaces, .inr rfl⟩

theorem foldl_same {stored : V} {versions : List V}
    (same : ∀ version ∈ versions, digest version = digest stored) :
    versions.foldl (offer stamp digest) (some stored) = some stored := by
  induction versions with
  | nil => rfl
  | cons version rest induction =>
      have keeps : ¬Replaces stamp digest version stored :=
        fun replaces => replaces.1 (same version (by simp))
      rw [List.foldl_cons, offer_keeps keeps]
      exact induction fun later member => same later (by simp [member])

theorem foldl_forall {property : V → Prop} {versions : List V} {stored : V}
    (initial : property stored)
    (all : ∀ version ∈ versions, property version) :
    ∃ result, versions.foldl (offer stamp digest) (some stored) =
      some result ∧ property result := by
  induction versions generalizing stored with
  | nil => exact ⟨stored, rfl, initial⟩
  | cons version rest induction =>
      obtain ⟨between, offered, fromEither⟩ :=
        exists_offer stamp digest stored version
      have kept : property between := by
        rcases fromEither with rfl | rfl
        · exact all between (by simp)
        · exact initial
      rw [List.foldl_cons, offered]
      exact induction kept fun later member => all later (by simp [member])

theorem settle_mem {versions : List V} {result : V}
    (settled : settle stamp digest versions = some result) :
    result ∈ versions := by
  cases versions with
  | nil => cases settled
  | cons version rest =>
      have kept : ∃ last,
          rest.foldl (offer stamp digest) (some version) = some last ∧
            last ∈ version :: rest :=
        foldl_forall (by simp) fun later inRest =>
          List.mem_cons_of_mem _ inRest
      obtain ⟨last, reached, member⟩ := kept
      change rest.foldl (offer stamp digest) (some version) = some result
        at settled
      rw [reached] at settled
      cases settled
      exact member

section Dominates

variable {latest : D} {versions : List V}

theorem foldl_dominates (dominates : Dominates stamp digest latest versions)
    {stored : V} (known : stored ∈ versions)
    (current : digest stored = latest) {order : List V}
    (members : ∀ version ∈ order, version ∈ versions) :
    order.foldl (offer stamp digest) (some stored) = some stored := by
  induction order with
  | nil => rfl
  | cons version rest induction =>
      have keeps : ¬Replaces stamp digest version stored := by
        rintro ⟨different, newer⟩
        have older : stamp version < stamp stored := by
          apply dominates stored known current version (members _ (by simp))
          rw [← current]
          exact different
        exact lt_asymm newer older
      rw [List.foldl_cons, offer_keeps keeps]
      exact induction fun later member => members later (by simp [member])

private theorem foldl_reaches
    (dominates : Dominates stamp digest latest versions)
    {stored : Option V} (known : ∀ version, stored = some version →
      version ∈ versions)
    {order : List V} (members : ∀ version ∈ order, version ∈ versions)
    (arrives : ∃ version ∈ order, digest version = latest) :
    ∃ result, order.foldl (offer stamp digest) stored = some result ∧
      digest result = latest := by
  induction order generalizing stored with
  | nil =>
      obtain ⟨version, member, _⟩ := arrives
      cases member
  | cons version rest induction =>
      have first : version ∈ versions := members version (by simp)
      have later : ∀ version ∈ rest, version ∈ versions :=
        fun version member => members version (by simp [member])
      by_cases current : digest version = latest
      · -- From here on a version with the digest is stored, and stays.
        obtain ⟨kept, offered, keptKnown, keptCurrent⟩ :
            ∃ kept, offer stamp digest stored version = some kept ∧
              kept ∈ versions ∧ digest kept = latest := by
          cases stored with
          | none => exact ⟨version, rfl, first, current⟩
          | some old =>
              by_cases same : digest old = latest
              · have keeps : ¬Replaces stamp digest version old :=
                  fun replaces => replaces.1 (current.trans same.symm)
                exact ⟨old, offer_keeps keeps, known old rfl, same⟩
              · have replaces : Replaces stamp digest version old := by
                  constructor
                  · rw [current]
                    exact Ne.symm same
                  · exact dominates version first current old (known old rfl)
                      same
                exact ⟨version, offer_replaces replaces, first, current⟩
        rw [List.foldl_cons, offered,
          foldl_dominates dominates keptKnown keptCurrent later]
        exact ⟨kept, rfl, keptCurrent⟩
      · have arrivesLater : ∃ version ∈ rest, digest version = latest := by
          obtain ⟨found, member, foundCurrent⟩ := arrives
          rcases List.mem_cons.mp member with rfl | inRest
          · exact (current foundCurrent).elim
          · exact ⟨found, inRest, foundCurrent⟩
        rw [List.foldl_cons]
        refine induction ?_ later arrivesLater
        intro between offered
        cases stored with
        | none =>
            cases offered
            exact first
        | some old =>
            obtain ⟨result, chosen, fromEither⟩ :=
              exists_offer stamp digest old version
            rw [chosen] at offered
            cases offered
            rcases fromEither with rfl | rfl
            · exact first
            · exact known _ rfl

/-- In every order of arrival the dominating digest is stored last. -/
theorem settle_of_dominates
    (dominates : Dominates stamp digest latest versions)
    (present : ∃ version ∈ versions, digest version = latest)
    {order : List V} (permuted : order.Perm versions) :
    ∃ result, settle stamp digest order = some result ∧
      digest result = latest := by
  apply foldl_reaches dominates
  · intro version stored
    cases stored
  · exact fun version member => permuted.mem_iff.mp member
  · obtain ⟨version, member, current⟩ := present
    exact ⟨version, permuted.mem_iff.mpr member, current⟩

omit [LinearOrder T] [DecidableEq D] in
private theorem exists_perm_cons {first : V} {versions : List V}
    (member : first ∈ versions) :
    ∃ rest, (first :: rest).Perm versions := by
  obtain ⟨before, after, split⟩ := List.append_of_mem member
  rw [split]
  exact ⟨before ++ after, List.perm_middle.symm⟩

/-- Otherwise some order leaves another digest behind: first a version with
the digest that some other version is newer than, then the versions with the
same digest, which are skipped, then the newer one and the others. -/
theorem exists_order_of_not_dominates
    (distinct : ∀ left ∈ versions, ∀ right ∈ versions,
      stamp left = stamp right → left = right)
    (beaten : ¬Dominates stamp digest latest versions) :
    ∃ order, order.Perm versions ∧
      ∃ result, settle stamp digest order = some result ∧
        digest result ≠ latest := by
  simp only [Dominates, not_forall] at beaten
  obtain ⟨early, earlyIn, earlyCurrent, late, lateIn, lateOther, notOlder⟩ :=
    beaten
  have newer : stamp early < stamp late := by
    rcases lt_trichotomy (stamp late) (stamp early) with less | same | greater
    · exact (notOlder less).elim
    · rw [distinct late lateIn early earlyIn same] at lateOther
      exact (lateOther earlyCurrent).elim
    · exact greater
  let same := versions.filter fun version => digest version = latest
  let others := versions.filter fun version => !decide (digest version = latest)
  obtain ⟨sameRest, sameFirst⟩ : ∃ rest, (early :: rest).Perm same :=
    exists_perm_cons (by simp [same, earlyIn, earlyCurrent])
  obtain ⟨otherRest, otherFirst⟩ : ∃ rest, (late :: rest).Perm others :=
    exists_perm_cons (by simp [others, lateIn, lateOther])
  have skipped : ∀ version ∈ sameRest, digest version = digest early := by
    intro version member
    have inSame : version ∈ same :=
      sameFirst.mem_iff.mp (List.mem_cons_of_mem _ member)
    have current : digest version = latest := by
      simpa [same] using (List.mem_filter.mp inSame).2
    exact current.trans earlyCurrent.symm
  have different : ∀ version ∈ otherRest, digest version ≠ latest := by
    intro version member
    have inOthers : version ∈ others :=
      otherFirst.mem_iff.mp (List.mem_cons_of_mem _ member)
    simpa [others] using (List.mem_filter.mp inOthers).2
  have replaces : Replaces stamp digest late early := by
    constructor
    · rw [earlyCurrent]
      exact lateOther
    · exact newer
  refine ⟨(early :: sameRest) ++ (late :: otherRest), ?_, ?_⟩
  · exact (sameFirst.append otherFirst).trans
      (List.filter_append_perm _ versions)
  · unfold settle
    simp only [List.foldl_append, List.foldl_cons, offer_none]
    rw [foldl_same skipped, offer_replaces replaces]
    exact foldl_forall lateOther different

variable (stamp digest) in
/-- The order of arrival does not matter, and the digest is the one stored
last, exactly if the versions with the digest are the newest. -/
theorem settles_iff_dominates
    (distinct : ∀ left ∈ versions, ∀ right ∈ versions,
      stamp left = stamp right → left = right)
    (present : ∃ version ∈ versions, digest version = latest) :
    (∀ order, order.Perm versions →
        ∃ result, settle stamp digest order = some result ∧
          digest result = latest) ↔
      Dominates stamp digest latest versions := by
  constructor
  · intro settles
    by_contra beaten
    obtain ⟨order, permuted, result, settled, other⟩ :=
      exists_order_of_not_dominates distinct beaten
    obtain ⟨last, settledLast, current⟩ := settles order permuted
    rw [settled] at settledLast
    cases settledLast
    exact other current
  · intro dominates order permuted
    exact settle_of_dominates dominates present permuted

end Dominates

end Foundation.LastWriter
