import KoiNet.Foundation.LastWriter
import KoiNet.Pipeline.Runs

/-!
# Versions of one RID in any order of arrival

For an RID that the protocol itself does not handle, the cache entry is a
last-writer-wins register: its stamp is the manifest's timestamp and its
digest the manifest's hash.
-/

namespace KoiNet

open Foundation KnowledgePipeline

/-- A NEW or UPDATE event with this bundle, as it is queued. -/
structure BringsVersion (bundle : Bundle) (kobj : KnowledgeObject) :
    Prop where
  rid : kobj.rid = bundle.manifest.rid
  typed : kobj.isTyped
  manifest : kobj.manifest = some bundle.manifest
  contents : kobj.contents = some bundle.contents

/-- A bundle that a version of this RID can be. -/
structure IsVersion (context reference : String) (bundle : Bundle) : Prop where
  rid : bundle.manifest.rid = .other context reference
  nonempty : bundle.contents ≠ []

/-- The event of one version is processed. -/
def VersionStep {node : Node} (registry : Registry node)
    (context reference : String) (bundle : Bundle) (before after : Cache) :
    Prop :=
  IsVersion context reference bundle ∧
    ∃ kobj, BringsVersion bundle kobj ∧
      CacheStep registry (fun _ _ => True) kobj before after

theorem BringsVersion.notForget {bundle : Bundle} {kobj : KnowledgeObject}
    (brings : BringsVersion bundle kobj) :
    kobj.eventType ≠ some .forget := by
  intro forget
  rcases brings.typed with typed | typed
  · rw [forget] at typed
    cases typed
  · rw [forget] at typed
    cases typed

/-- A version reaches the write exactly if it passes the manifest test. -/
theorem BringsVersion.arrives_iff {node : Node} {state : NodeState}
    {bundle written : Bundle} {kobj : KnowledgeObject} {manifest : Manifest}
    {context reference : String} (version : IsVersion context reference bundle)
    (brings : BringsVersion bundle kobj) :
    Arrives node state kobj manifest written ↔
      manifest = bundle.manifest ∧ written = bundle ∧
        Fresh state.cache bundle.manifest.rid bundle.manifest := by
  constructor
  · intro arrives
    obtain ⟨sameManifest, sameBundle⟩ := arrives.offered.of_own
      brings.manifest brings.contents version.nonempty
    refine ⟨sameManifest, sameBundle, ?_⟩
    rw [← brings.rid, ← sameManifest]
    exact arrives.fresh
  · rintro ⟨rfl, rfl, fresh⟩
    have named : kobj.rid = .other context reference :=
      brings.rid.trans version.rid
    refine
      { passes := ?_
        notForget := ?_
        offered :=
          Offered.own brings.manifest brings.contents version.nonempty
        fresh := ?_
        admitted := ?_ }
    · rintro ⟨self, _⟩
      rw [named] at self
      cases self
    · exact brings.notForget
    · rw [brings.rid]
      exact fresh
    · unfold BundleAdmits
      rw [named]
      trivial

/-- The cache entry is a last-writer-wins register. -/
theorem VersionStep.offers {node : Node} {registry : Registry node}
    {context reference : String} {bundle : Bundle} {before after : Cache}
    (step : VersionStep registry context reference bundle before after) :
    after.read (.other context reference) =
      LastWriter.offer Bundle.timestamp Bundle.hash
        (before.read (.other context reference)) bundle := by
  obtain ⟨version, kobj, brings, taken⟩ := step
  obtain ⟨state, rfl, _, effect⟩ := taken.effect
  cases effect with
  | write manifest written arrives =>
      obtain ⟨_, rfl, fresh⟩ := (brings.arrives_iff version).mp arrives
      rw [← version.rid, Cache.read_write_self]
      cases stored : state.cache.read written.manifest.rid with
      | none => rfl
      | some old =>
          have newer : LastWriter.Replaces Bundle.timestamp Bundle.hash
              written old := BasicManifestHandler.isNewer_iff.mp (fresh old stored)
          exact (LastWriter.offer_replaces newer).symm
  | delete deleted deletes => exact (brings.notForget deletes.forget).elim
  | nothing notArrives _ =>
      have stale : ¬Fresh state.cache bundle.manifest.rid bundle.manifest :=
        fun fresh => notArrives bundle.manifest bundle
          ((brings.arrives_iff version).mpr ⟨rfl, rfl, fresh⟩)
      rw [version.rid] at stale
      cases stored : state.cache.read (.other context reference) with
      | none =>
          refine (stale ?_).elim
          intro previous cached
          rw [stored] at cached
          cases cached
      | some old =>
          refine (LastWriter.offer_keeps ?_).symm
          intro replaces
          apply stale
          intro previous cached
          rw [stored] at cached
          cases cached
          exact BasicManifestHandler.isNewer_iff.mpr replaces

theorem versionTrace_settles {node : Node} {registry : Registry node}
    {context reference : String} {order : List Bundle} {first last : Cache}
    (unknown : first.read (.other context reference) = none)
    (trace : Trace (VersionStep registry context reference) order first last) :
    last.read (.other context reference) =
      LastWriter.settle Bundle.timestamp Bundle.hash order := by
  have settled : last.read (.other context reference) =
      order.foldl (LastWriter.offer Bundle.timestamp Bundle.hash)
        (first.read (.other context reference)) :=
    trace.view_eq_foldl fun step => step.offers
  rw [settled, unknown]
  rfl

theorem exists_versionTrace {node : Node} (registry : Registry node)
    {context reference : String} {order : List Bundle}
    (versions : ∀ bundle ∈ order, IsVersion context reference bundle)
    (first : Cache) :
    ∃ last, Trace (VersionStep registry context reference) order first
      last := by
  induction order generalizing first with
  | nil => exact ⟨first, .nil first⟩
  | cons bundle rest induction =>
      let kobj : KnowledgeObject :=
        .fromEvent (.fromBundle .new bundle) none
      have brings : BringsVersion bundle kobj :=
        { rid := rfl
          typed := .inl rfl
          manifest := rfl
          contents := rfl }
      obtain ⟨last, trace⟩ := induction
        (fun bundle member => versions bundle (by simp [member]))
        ((process node registry.handlers kobj).run (.fresh first)).2.cache
      exact ⟨last, .cons ⟨versions bundle (by simp), kobj, brings,
        .fresh first, rfl, trivial, rfl⟩ trace⟩

/-- The cached contents are those of the newest version after every order of
arrival exactly if every version with these contents is newer than every
version with other contents. -/
theorem converges_iff {node : Node} (registry : Registry node)
    {context reference : String} {versions : List Bundle} {newest : Bundle}
    (isVersion : ∀ bundle ∈ versions, IsVersion context reference bundle)
    (distinct : ∀ left ∈ versions, ∀ right ∈ versions,
      left.timestamp = right.timestamp → left = right)
    (hashed : ∀ left ∈ versions, ∀ right ∈ versions,
      left.hash = right.hash ↔ left.contents = right.contents)
    (known : newest ∈ versions) :
    (∀ order first last, order.Perm versions →
        first.read (.other context reference) = none →
        Trace (VersionStep registry context reference) order first last →
        ∃ bundle, last.read (.other context reference) = some bundle ∧
          bundle.contents = newest.contents) ↔
      ∀ newer ∈ versions, newer.contents = newest.contents →
        ∀ older ∈ versions, older.contents ≠ newest.contents →
          older.timestamp < newer.timestamp := by
  have settles := LastWriter.settles_iff_dominates Bundle.timestamp
    Bundle.hash distinct ⟨newest, known, rfl⟩
  have dominates :
      LastWriter.Dominates Bundle.timestamp Bundle.hash newest.hash
          versions ↔
        ∀ newer ∈ versions, newer.contents = newest.contents →
          ∀ older ∈ versions, older.contents ≠ newest.contents →
            older.timestamp < newer.timestamp := by
    constructor
    · intro dominates newer newerIn same older olderIn other
      apply dominates newer newerIn ((hashed _ newerIn _ known).mpr same) older
        olderIn
      intro sameHash
      exact other ((hashed _ olderIn _ known).mp sameHash)
    · intro newest newer newerIn same older olderIn other
      apply newest newer newerIn ((hashed _ newerIn _ known).mp same) older
        olderIn
      intro sameContents
      exact other ((hashed _ olderIn _ known).mpr sameContents)
  rw [← dominates, ← settles]
  constructor
  · intro converges order permuted
    obtain ⟨last, trace⟩ := exists_versionTrace registry
      (fun bundle member => isVersion bundle (permuted.mem_iff.mp member))
      .empty
    obtain ⟨bundle, cached, same⟩ :=
      converges order .empty last permuted rfl trace
    rw [versionTrace_settles rfl trace] at cached
    have member : bundle ∈ versions :=
      permuted.mem_iff.mp (LastWriter.settle_mem cached)
    exact ⟨bundle, cached, (hashed _ member _ known).mpr same⟩
  · intro settled order first last permuted unknown trace
    obtain ⟨bundle, reached, same⟩ := settled order permuted
    have member : bundle ∈ versions :=
      permuted.mem_iff.mp (LastWriter.settle_mem reached)
    refine ⟨bundle, ?_, (hashed _ member _ known).mp same⟩
    rw [versionTrace_settles unknown trace]
    exact reached

/-- A version of a document, with its content as its hash. -/
def documentVersion (timestamp : Timestamp) (content : String) : Bundle :=
  { manifest :=
      { rid := .other "orn:example" "document"
        timestamp := timestamp
        sha256Hash := content }
    contents := [("content", .str content)] }

theorem documentVersion_isVersion (timestamp : Timestamp) (content : String) :
    IsVersion "orn:example" "document" (documentVersion timestamp content) :=
  { rid := rfl
    nonempty := by simp [documentVersion] }

theorem documentVersion_hash_iff {left right : Timestamp}
    {leftContent rightContent : String} :
    (documentVersion left leftContent).hash =
        (documentVersion right rightContent).hash ↔
      (documentVersion left leftContent).contents =
        (documentVersion right rightContent).contents := by
  simp [documentVersion, Bundle.hash]

theorem converges_iff_two_versions :
    ∃ last bundle,
      Trace (VersionStep (Registry.listed .standalone) "orn:example"
        "document") [documentVersion 2 "d", documentVersion 1 "c"] .empty
        last ∧
      last.read (.other "orn:example" "document") = some bundle ∧
      bundle.contents = [("content", .str "d")] := by
  have isVersion : ∀ bundle ∈ [documentVersion 1 "c", documentVersion 2 "d"],
      IsVersion "orn:example" "document" bundle := by
    intro bundle member
    rcases List.mem_pair.mp member with rfl | rfl <;>
      exact documentVersion_isVersion _ _
  have converges := (converges_iff (.listed .standalone) isVersion
    (by
      intro left leftIn right rightIn same
      rcases List.mem_pair.mp leftIn with rfl | rfl <;>
        rcases List.mem_pair.mp rightIn with rfl | rfl <;>
          first
            | rfl
            | cases same)
    (by
      intro left leftIn right rightIn
      rcases List.mem_pair.mp leftIn with rfl | rfl <;>
        rcases List.mem_pair.mp rightIn with rfl | rfl <;>
          exact documentVersion_hash_iff)
    (show documentVersion 2 "d" ∈ _ by simp)).mpr
    (by
      intro newer newerIn same older olderIn other
      rcases List.mem_pair.mp newerIn with rfl | rfl
      · simp [documentVersion] at same
      · rcases List.mem_pair.mp olderIn with rfl | rfl
        · decide
        · simp at other)
  have reversed : [documentVersion 2 "d", documentVersion 1 "c"].Perm
      [documentVersion 1 "c", documentVersion 2 "d"] := .swap _ _ _
  obtain ⟨last, trace⟩ := exists_versionTrace (.listed .standalone)
    (fun bundle member => isVersion bundle (reversed.mem_iff.mp member))
    .empty
  obtain ⟨bundle, cached, same⟩ := converges _ .empty last reversed rfl trace
  exact ⟨last, bundle, trace, cached, same⟩

/-- The newest version restores the contents of the oldest.  Arriving right
after the oldest it is skipped, and the version between them then wins. -/
theorem versions_not_convergent :
    ¬∀ (node : Node) (registry : Registry node) (context reference : String)
      (versions : List Bundle) (newest : Bundle),
      (∀ bundle ∈ versions, IsVersion context reference bundle) →
      (∀ left ∈ versions, ∀ right ∈ versions,
        left.timestamp = right.timestamp → left = right) →
      (∀ left ∈ versions, ∀ right ∈ versions,
        left.hash = right.hash ↔ left.contents = right.contents) →
      newest ∈ versions →
      (∀ bundle ∈ versions, bundle.timestamp ≤ newest.timestamp) →
      ∀ order first last, order.Perm versions →
        first.read (.other context reference) = none →
        Trace (VersionStep registry context reference) order first last →
        ∃ bundle, last.read (.other context reference) = some bundle ∧
          bundle.contents = newest.contents := by
  intro always
  let oldest := documentVersion 1 "c"
  let between := documentVersion 2 "d"
  let newest := documentVersion 3 "c"
  have listed : ∀ {bundle : Bundle}, bundle ∈ [oldest, newest, between] →
      ∃ timestamp content, bundle = documentVersion timestamp content := by
    intro bundle member
    simp only [List.mem_cons, List.not_mem_nil, or_false] at member
    rcases member with rfl | rfl | rfl
    · exact ⟨1, "c", rfl⟩
    · exact ⟨3, "c", rfl⟩
    · exact ⟨2, "d", rfl⟩
  have isVersion : ∀ bundle ∈ [oldest, newest, between],
      IsVersion "orn:example" "document" bundle := by
    intro bundle member
    obtain ⟨timestamp, content, rfl⟩ := listed member
    exact documentVersion_isVersion timestamp content
  obtain ⟨last, trace⟩ := exists_versionTrace (.listed .standalone)
    isVersion .empty
  obtain ⟨bundle, cached, same⟩ := always .standalone (.listed _)
    "orn:example" "document" [oldest, newest, between] newest isVersion
    (by
      intro left leftIn right rightIn same
      simp only [List.mem_cons, List.not_mem_nil, or_false]
        at leftIn rightIn
      rcases leftIn with rfl | rfl | rfl <;>
        rcases rightIn with rfl | rfl | rfl <;>
          first
            | rfl
            | cases same)
    (by
      intro left leftIn right rightIn
      obtain ⟨leftTime, leftContent, rfl⟩ := listed leftIn
      obtain ⟨rightTime, rightContent, rfl⟩ := listed rightIn
      exact documentVersion_hash_iff)
    (by simp)
    (by
      intro bundle member
      simp only [List.mem_cons, List.not_mem_nil, or_false] at member
      rcases member with rfl | rfl | rfl <;> decide)
    _ .empty last (.refl _) rfl trace
  rw [versionTrace_settles rfl trace] at cached
  have settled : LastWriter.settle Bundle.timestamp Bundle.hash
      [oldest, newest, between] = some between := rfl
  rw [settled] at cached
  cases cached
  simp [between, newest, documentVersion] at same

end KoiNet
