import KoiNet.Pipeline.Freshness
import KoiNet.Storage.Processing

/-!
# Documents published by this node

A bundle that a component of this node pushes without a source is stored if it
replaces what the cache holds under its RID.  Over files that can fail that
takes more than the pipeline asks for: its file has to open, and the bundle has
to be read back from it as it was written.
-/

namespace KoiNet

open Foundation KnowledgePipeline

namespace Storage

variable (storage : Storage)

/-- Nothing is stored under the bundle's RID, or a bundle with another hash
and an older timestamp. -/
def Replaceable (cache : Cache) (bundle : Bundle) : Prop :=
  cache.read bundle.rid = none ∨
    ∃ previous, cache.read bundle.rid = some previous ∧
      previous.hash ≠ bundle.hash ∧
      storage.naive previous.timestamp = storage.naive bundle.timestamp ∧
      previous.timestamp < bundle.timestamp

/-- A bundle that is to be stored is stored; otherwise the cache stays. -/
structure Stores (before after : Cache) (bundle : Bundle) : Prop where
  stored : storage.Replaceable before bundle →
    after.read bundle.rid = some bundle
  unchanged : ¬storage.Replaceable before bundle → after = before

/-- The file of the bundle opens, and what is read back of it is the bundle. -/
def Keeps (bundle : Bundle) : Prop :=
  storage.Kept bundle (some bundle)

variable {storage} {node : Node} {bundle : Bundle} {state : NodeState}

theorem not_stores_self {cache : Cache}
    (replaceable : storage.Replaceable cache bundle) :
    ¬storage.Stores cache cache bundle := by
  intro stores
  have stored := stores.stored replaceable
  rcases replaceable with absent | ⟨previous, found, otherHash, _⟩
  · rw [absent] at stored
    cases stored
  · cases found.symm.trans stored
    exact otherHash rfl

theorem stores_self_iff {cache : Cache} :
    storage.Stores cache cache bundle ↔
      ¬storage.Replaceable cache bundle := by
  constructor
  · intro stores replaceable
    exact not_stores_self replaceable stores
  · intro stale
    exact
      { stored := fun replaceable => absurd replaceable stale
        unchanged := fun _ => rfl }

/-- Between times that compare, what is to be stored passes the manifest
test. -/
theorem replaceable_iff_fresh {cache : Cache}
    (comparable : ∀ previous, cache.read bundle.rid = some previous →
      ¬storage.Incomparable bundle.manifest previous.manifest) :
    storage.Replaceable cache bundle ↔
      Fresh cache bundle.rid bundle.manifest := by
  constructor
  · rintro (absent | ⟨previous, stored, otherHash, _, older⟩) other cached
    · rw [absent] at cached
      cases cached
    · cases stored.symm.trans cached
      exact BasicManifestHandler.isNewer_iff.mpr ⟨otherHash.symm, older⟩
  · intro fresh
    cases stored : cache.read bundle.rid with
    | none => exact .inl stored
    | some previous =>
        have newer := BasicManifestHandler.isNewer_iff.mp
          (fresh previous stored)
        refine .inr ⟨previous, stored, newer.1.symm, ?_, newer.2⟩
        by_contra apart
        exact comparable previous stored ⟨newer.1, Ne.symm apart⟩

private theorem push_untroubled
    (notEdge : bundle.rid.type ≠ .koiNetEdge)
    (opened : storage.opens bundle.rid = true)
    (comparable : ∀ previous, state.cache.read bundle.rid = some previous →
      ¬storage.Incomparable bundle.manifest previous.manifest) :
    ¬storage.Trouble node state (.fromBundle bundle none none) := by
  intro trouble
  cases trouble with
  | forgotten forget => cases forget
  | announced manifest between _ announced unopened =>
      change storage.opens bundle.rid = false at unopened
      rw [opened] at unopened
      cases unopened
  | incomparable manifest between previous _ announced cached incomparable =>
      cases announced with
      | own _ present =>
          cases present
          exact comparable previous cached incomparable
      | fetched _ _ _ _ absent => cases absent
  | source _ _ sender => cases sender
  | negotiated _ _ _ _ isEdge => exact notEdge isEdge

theorem bundleAdmits_document {kobj : KnowledgeObject} {cache : Cache}
    (notNode : kobj.rid.type ≠ .koiNetNode)
    (notEdge : kobj.rid.type ≠ .koiNetEdge) (contents : Contents) :
    BundleAdmits node cache kobj contents := by
  unfold BundleAdmits
  cases named : kobj.rid with
  | node nodeRid =>
      rw [named] at notNode
      exact absurd rfl notNode
  | edge edgeRid =>
      rw [named] at notEdge
      exact absurd rfl notEdge
  | other context reference => exact trivial

section Push

variable (registration : Registration)

private theorem push_untested {failure : Exc}
    (raised : (BasicManifestHandler.handle storage
      (.fromBundle bundle none none)).run state = (.error failure, state)) :
    ((storage.process node (registration.stored storage node)
      (.fromBundle bundle none none)).run state).2.cache = state.cache := by
  have passes : PassesRid node (.fromBundle bundle none none) :=
    fun own => own.2 rfl
  rw [process_of_untested registration passes (by simp
    [KnowledgeObject.fromBundle]) rfl raised]

/-- Where the manifest can be tested, what is left to go wrong is to lack
contents and not to be kept. -/
private theorem push_tested (notNode : bundle.rid.type ≠ .koiNetNode)
    (notEdge : bundle.rid.type ≠ .koiNetEdge)
    (opened : storage.opens bundle.rid = true)
    (comparable : ∀ previous, state.cache.read bundle.rid = some previous →
      ¬storage.Incomparable bundle.manifest previous.manifest) :
    storage.Stores state.cache
        ((storage.process node (registration.stored storage node)
          (.fromBundle bundle none none)).run state).2.cache bundle ↔
      ¬storage.Replaceable state.cache bundle ∨
        bundle.contents ≠ [] ∧ storage.Keeps bundle := by
  let kobj : KnowledgeObject := .fromBundle bundle none none
  have untroubled : ¬storage.Trouble node state kobj :=
    push_untroubled notEdge opened comparable
  have passes : PassesRid node kobj := fun own => own.2 rfl
  have notForget : kobj.eventType ≠ some .forget := by
    simp [kobj, KnowledgeObject.fromBundle]
  have notDeletes : ∀ deleted, ¬Deletes node state kobj deleted :=
    fun deleted deletes => notForget deletes.forget
  have neither : (∀ manifest written,
      ¬Arrives node state kobj manifest written) →
      ((storage.process node (registration.stored storage node) kobj).run
        state).2.cache = state.cache := by
    intro notArrives
    obtain ⟨result, settled, stable, _, ran⟩ :=
      process_of_neither registration untroubled notArrives notDeletes
    rw [ran]
    exact stable.cache
  by_cases replaceable : storage.Replaceable state.cache bundle
  · have fresh := (replaceable_iff_fresh comparable).mp replaceable
    by_cases empty : bundle.contents = []
    · rw [neither, stores_self_iff]
      · simp [replaceable, empty]
      · intro manifest written arrives
        obtain ⟨between, after, _, carried⟩ := arrives.offered
        cases carried with
        | own contents present nonempty =>
            cases present
            exact nonempty empty
        | fetched peer payload _ others _ sender => cases sender
    · have arrives : Arrives node state kobj bundle.manifest bundle :=
        { passes := passes
          notForget := notForget
          offered := .own rfl rfl empty
          fresh := fresh
          admitted := bundleAdmits_document notNode notEdge _ }
      have stores (after : Cache) (file : Option Bundle)
          (left : ∀ rid, after.read rid = if rid = bundle.rid then file
            else state.cache.read rid) :
          storage.Stores state.cache after bundle ↔ file = some bundle := by
        constructor
        · intro stores
          have stored := stores.stored replaceable
          rwa [left, if_pos rfl] at stored
        · rintro rfl
          exact
            { stored := fun _ => by rw [left, if_pos rfl]
              unchanged := fun stale => absurd replaceable stale }
      cases kept : storage.stores bundle with
      | ok file =>
          obtain ⟨settled, stable, ran⟩ := process_of_arrives registration
            untroubled arrives ⟨opened, kept⟩
          rw [ran, (publish_enqueues (registration.registry node) _ _).cache,
            stores _ file]
          · simp [replaceable, empty, Keeps, Kept, kept,
              show storage.opens bundle.manifest.rid = true from opened]
          · intro rid
            rw [← show settled.cache = state.cache from stable.cache]
            exact Cache.read_withFile _ _ _ _
      | error failure =>
          obtain ⟨settled, stable, ran⟩ := process_of_unserialised
            registration untroubled arrives kept rfl
          rw [ran, stores _ none]
          · simp [replaceable, Keeps, Kept, kept]
          · intro rid
            rw [← show settled.cache = state.cache from stable.cache]
            exact Cache.read_withFile _ _ _ _
  · rw [neither, stores_self_iff]
    · simp [replaceable]
    · intro manifest written arrives
      obtain ⟨between, after, announced, _⟩ := arrives.offered
      cases announced with
      | own _ present =>
          cases present
          exact replaceable
            ((replaceable_iff_fresh comparable).mpr arrives.fresh)
      | fetched _ _ _ _ absent => cases absent

/-- Pushing a bundle stores it as it should, unless it is to be stored and its
contents are empty or it is not kept. -/
theorem push_bundle_stores_iff {kobj : KnowledgeObject}
    (pushed : KobjQueue.normalize { bundle := some bundle } = .ok kobj)
    (notNode : bundle.rid.type ≠ .koiNetNode)
    (notEdge : bundle.rid.type ≠ .koiNetEdge) (state : NodeState) :
    storage.Stores state.cache
        ((storage.process node (registration.stored storage node) kobj).run
          state).2.cache bundle ↔
      ¬storage.Replaceable state.cache bundle ∨
        bundle.contents ≠ [] ∧ storage.Keeps bundle := by
  cases pushed
  cases opened : storage.opens bundle.rid with
  | false =>
      have unread : (BasicManifestHandler.handle storage
          (.fromBundle bundle none none)).run state =
            (.error .osError, state) := by
        apply Effect.run_bind_of_error
        rw [read_run]
        change (if storage.opens bundle.rid = true then _ else _) = _
        rw [opened]
        rfl
      rw [push_untested registration unread, stores_self_iff]
      have notKept : ¬storage.Keeps bundle := by
        intro kept
        cases opened.symm.trans kept.1
      simp [notKept]
  | true =>
      by_cases comparable : ∀ previous,
          state.cache.read bundle.rid = some previous →
          ¬storage.Incomparable bundle.manifest previous.manifest
      · exact push_tested registration notNode notEdge opened comparable
      · push Not at comparable
        obtain ⟨previous, cached, otherHash, apart⟩ := comparable
        have unordered : (BasicManifestHandler.handle storage
            (.fromBundle bundle none none)).run state =
              (.error .typeError, state) := by
          have found : (storage.read bundle.rid).run state =
              (.ok (some previous), state) := by
            rw [read_run, if_pos opened, cached]
          refine (Effect.run_bind_of_ok found _).trans ?_
          simp [KnowledgeObject.fromBundle, otherHash, notAfter, apart,
            Effect.run_bind]
        have stale : ¬storage.Replaceable state.cache bundle := by
          rintro (absent | ⟨other, stored, _, compares, _⟩)
          · rw [absent] at cached
            cases cached
          · cases cached.symm.trans stored
            exact apart compares.symm
        rw [push_untested registration unordered, stores_self_iff]
        simp [stale]

end Push

/-- A document is stored as JSON as it is. -/
theorem push_bundle_stores_document :
    let storage := Storage.json 255 (fun _ => true) fun _ => false
    storage.Stores .empty
      ((storage.process .standalone
          (Registration.listed.stored storage .standalone)
          (.fromBundle (documentBundle 1 "a") none none)).run
        (.fresh .empty)).2.cache (documentBundle 1 "a") :=
  (push_bundle_stores_iff Registration.listed rfl (by decide) (by decide)
    (.fresh .empty)).mpr (.inr ⟨by decide, rfl, rfl⟩)

/-- A bundle with empty contents is not stored although nothing is. -/
theorem push_empty_bundle_not_stored :
    let storage := Storage.json 255 (fun _ => true) fun _ => false
    ∃ kobj, KobjQueue.normalize
        { bundle := some { documentBundle 1 "a" with contents := [] } } =
          .ok kobj ∧
      ¬storage.Stores .empty
        ((storage.process .standalone
          (Registration.listed.stored storage .standalone) kobj).run
            (.fresh .empty)).2.cache
        { documentBundle 1 "a" with contents := [] } := by
  intro storage
  refine ⟨_, rfl, fun stores => ?_⟩
  have stored := stores.stored (.inl rfl)
  have absent : ((storage.process .standalone
      (Registration.listed.stored storage .standalone)
      (.fromBundle { documentBundle 1 "a" with contents := [] } none
        none)).run (.fresh .empty)).2.cache.read
          (documentBundle 1 "a").manifest.rid = none := rfl
  cases stored.symm.trans absent

end Storage

end KoiNet
