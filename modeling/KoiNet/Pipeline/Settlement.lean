import KoiNet.Pipeline.Frames
import KoiNet.Pipeline.Requests

/-!
# What processing does to the cache

Whether a knowledge object changes the cache is decided before the cache is
touched.  `Arrives` states on the object, the state and the answers of its
source when it reaches the cache write and with which bundle; `Deletes` when
it reaches the deletion.  In every other case the cache stays as it is.
-/

namespace KoiNet

open Foundation

/-- The manifest an object comes with, or the first one its source answers
for its RID; and the state in which processing goes on. -/
inductive Announced (node : Node) (kobj : KnowledgeObject)
    (state : NodeState) : Manifest → NodeState → Prop where
  | own (manifest : Manifest) :
      kobj.manifest = some manifest →
      Announced node kobj state manifest state
  | fetched (peer : KoiNetNode) (payload : ManifestsPayload)
      (manifest : Manifest) (others : List Manifest) :
      kobj.manifest = none → kobj.source = some peer →
      Answers node state peer .fetchManifests
        ({ rids := [kobj.rid] } : FetchManifests) payload →
      payload.manifests = manifest :: others →
      Announced node kobj state manifest (state.answered peer)

/-- The bundle of an object's own contents, or the first one its source
answers for its RID. -/
inductive Carried (node : Node) (kobj : KnowledgeObject)
    (manifest : Manifest) (state : NodeState) : Bundle → NodeState → Prop where
  | own (contents : Contents) :
      kobj.contents = some contents → contents ≠ [] →
      Carried node kobj manifest state { manifest, contents } state
  | fetched (peer : KoiNetNode) (payload : BundlesPayload)
      (bundle : Bundle) (others : List Bundle) :
      kobj.lacksContents = true → kobj.source = some peer →
      Answers node state peer .fetchBundles
        ({ rids := [kobj.rid] } : FetchBundles) payload →
      payload.bundles = bundle :: others →
      Carried node kobj manifest state bundle (state.answered peer)

/-- The object is announced by the manifest and then brings the bundle. -/
def Offered (node : Node) (state : NodeState) (kobj : KnowledgeObject)
    (manifest : Manifest) (bundle : Bundle) : Prop :=
  ∃ between after, Announced node kobj state manifest between ∧
    Carried node kobj manifest between bundle after

/-- The manifest test of `BasicManifestHandler`. -/
def Fresh (cache : Cache) (rid : RID) (manifest : Manifest) : Prop :=
  ∀ previous, cache.read rid = some previous →
    BasicManifestHandler.isNewer manifest previous.manifest = true

/-- The object gets past `BasicRidHandler`. -/
def PassesRid (node : Node) (kobj : KnowledgeObject) : Prop :=
  ¬(kobj.rid = .node node.rid ∧ kobj.source ≠ none)

/-- Processing the object reaches the Bundle chain with this bundle, after
testing this manifest. -/
structure Judged (node : Node) (state : NodeState) (kobj : KnowledgeObject)
    (manifest : Manifest) (bundle : Bundle) : Prop where
  passes : PassesRid node kobj
  notForget : kobj.eventType ≠ some .forget
  offered : Offered node state kobj manifest bundle
  fresh : Fresh state.cache kobj.rid manifest

/-- Processing the object reaches the cache write with this bundle. -/
structure Arrives (node : Node) (state : NodeState) (kobj : KnowledgeObject)
    (manifest : Manifest) (bundle : Bundle) : Prop
    extends Judged node state kobj manifest bundle where
  admitted : BundleAdmits node state.cache kobj bundle.contents

/-- Processing the object reaches the deletion of this bundle. -/
structure Deletes (node : Node) (state : NodeState) (kobj : KnowledgeObject)
    (bundle : Bundle) : Prop where
  passes : PassesRid node kobj
  forget : kobj.eventType = some .forget
  cached : state.cache.read kobj.rid = some bundle

namespace Announced

variable {node : Node} {kobj : KnowledgeObject} {state after : NodeState}
  {manifest : Manifest}

theorem cache (announced : Announced node kobj state manifest after) :
    after.cache = state.cache := by
  cases announced with
  | own => rfl
  | fetched => rfl

theorem functional {other : Manifest} {otherAfter : NodeState}
    (left : Announced node kobj state manifest after)
    (right : Announced node kobj state other otherAfter) :
    other = manifest ∧ otherAfter = after := by
  cases left with
  | own manifest present =>
      cases right with
      | own other otherPresent =>
          rw [present] at otherPresent
          cases otherPresent
          exact ⟨rfl, rfl⟩
      | fetched peer payload other others absent =>
          rw [present] at absent
          cases absent
  | fetched peer payload manifest others absent sender answers first =>
      cases right with
      | own other present =>
          rw [absent] at present
          cases present
      | fetched otherPeer otherPayload other rest _ otherSender otherAnswers
          otherFirst =>
          obtain ⟨samePeer, samePayload⟩ :=
            Answers.functional sender otherSender answers otherAnswers
          subst samePeer
          rw [samePayload, first] at otherFirst
          cases otherFirst
          exact ⟨rfl, rfl⟩

end Announced

namespace Carried

variable {node : Node} {kobj : KnowledgeObject} {manifest : Manifest}
  {state after : NodeState} {bundle : Bundle}

private theorem lacks_iff {kobj : KnowledgeObject} {contents : Contents}
    (present : kobj.contents = some contents) :
    kobj.lacksContents = true ↔ contents = [] := by
  unfold KnowledgeObject.lacksContents
  rw [present]
  exact List.isEmpty_iff

theorem cache (carried : Carried node kobj manifest state bundle after) :
    after.cache = state.cache := by
  cases carried with
  | own => rfl
  | fetched => rfl

theorem functional {other : Bundle} {otherAfter : NodeState}
    (left : Carried node kobj manifest state bundle after)
    (right : Carried node kobj manifest state other otherAfter) :
    other = bundle ∧ otherAfter = after := by
  cases left with
  | own contents present nonempty =>
      cases right with
      | own otherContents otherPresent =>
          rw [present] at otherPresent
          cases otherPresent
          exact ⟨rfl, rfl⟩
      | fetched peer payload other others lacks =>
          exact (nonempty ((lacks_iff present).mp lacks)).elim
  | fetched peer payload bundle others lacks sender answers first =>
      cases right with
      | own otherContents otherPresent nonempty =>
          exact (nonempty ((lacks_iff otherPresent).mp lacks)).elim
      | fetched otherPeer otherPayload other rest _ otherSender otherAnswers
          otherFirst =>
          obtain ⟨samePeer, samePayload⟩ :=
            Answers.functional sender otherSender answers otherAnswers
          subst samePeer
          rw [samePayload, first] at otherFirst
          cases otherFirst
          exact ⟨rfl, rfl⟩

end Carried

theorem Offered.of_own {node : Node} {state : NodeState}
    {kobj : KnowledgeObject} {manifest announced : Manifest}
    {contents : Contents} {bundle : Bundle}
    (hasManifest : kobj.manifest = some manifest)
    (hasContents : kobj.contents = some contents) (nonempty : contents ≠ [])
    (offered : Offered node state kobj announced bundle) :
    announced = manifest ∧ bundle = { manifest, contents } := by
  obtain ⟨between, after, found, carried⟩ := offered
  have own : Announced node kobj state manifest state := .own _ hasManifest
  obtain ⟨sameManifest, sameState⟩ := own.functional found
  subst sameManifest
  have ownCarried : Carried node kobj announced between
      { manifest := announced, contents } between :=
    .own contents hasContents nonempty
  exact ⟨rfl, (ownCarried.functional carried).1⟩

theorem Offered.own {node : Node} {state : NodeState}
    {kobj : KnowledgeObject} {manifest : Manifest} {contents : Contents}
    (hasManifest : kobj.manifest = some manifest)
    (hasContents : kobj.contents = some contents) (nonempty : contents ≠ []) :
    Offered node state kobj manifest { manifest, contents } :=
  ⟨state, state, .own manifest hasManifest,
    .own contents hasContents nonempty⟩

theorem Offered.of_internal {node : Node} {state : NodeState}
    {kobj : KnowledgeObject} {manifest : Manifest} {bundle : Bundle}
    (internal : kobj.source = none)
    (offered : Offered node state kobj manifest bundle) :
    kobj.manifest = some manifest ∧ kobj.contents = some bundle.contents ∧
      bundle.manifest = manifest := by
  obtain ⟨between, after, announced, carried⟩ := offered
  cases announced with
  | own _ hasManifest =>
      cases carried with
      | own contents hasContents _ => exact ⟨hasManifest, hasContents, rfl⟩
      | fetched peer _ _ _ _ sender =>
          rw [internal] at sender
          cases sender
  | fetched peer _ _ _ _ sender =>
      rw [internal] at sender
      cases sender

namespace Arrives

variable {node : Node} {state : NodeState} {kobj : KnowledgeObject}
  {manifest : Manifest} {bundle : Bundle}

/-- An object reaches the write with at most one bundle. -/
theorem functional {otherManifest : Manifest} {other : Bundle}
    (left : Arrives node state kobj manifest bundle)
    (right : Arrives node state kobj otherManifest other) :
    otherManifest = manifest ∧ other = bundle := by
  obtain ⟨between, after, announced, carried⟩ := left.offered
  obtain ⟨otherBetween, otherAfter, otherAnnounced, otherCarried⟩ :=
    right.offered
  obtain ⟨sameManifest, sameBetween⟩ := announced.functional otherAnnounced
  subst sameManifest
  subst sameBetween
  exact ⟨rfl, (carried.functional otherCarried).1⟩

theorem not_deletes {deleted : Bundle}
    (arrives : Arrives node state kobj manifest bundle) :
    ¬Deletes node state kobj deleted :=
  fun deletes => arrives.notForget deletes.forget

end Arrives

end KoiNet
