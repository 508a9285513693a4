import KoiNet.Pipeline.Runs

/-!
# Cached node profiles and the keys their RIDs commit to

`SecureProfileHandler` compares a profile's public key with the hash in the
node's RID, but only for objects of event type NEW or UPDATE, and against the
object's own RID.  The invariant therefore rests on the sender for objects
without an event type and for bundles filed under another RID.
-/

namespace KoiNet

open Foundation

/-- The contents are a node profile whose public key hashes to the RID. -/
def KeyMatches (node : Node) (nodeRid : KoiNetNode) (contents : Contents) :
    Prop :=
  ∃ nodeProfile key,
    NodeProfile.modelValidate contents = some nodeProfile ∧
    nodeProfile.publicKey = some key ∧
    node.sha256Hash key = nodeRid.hash

/-- Every node entry of the cache holds such a profile. -/
def KeysMatch (node : Node) (cache : Cache) : Prop :=
  ∀ nodeRid file, cache.entry (.node nodeRid) = some file →
    ∃ bundle, file = some bundle ∧ KeyMatches node nodeRid bundle.contents

/-- Whatever the object writes under a node RID is either of an event type
that is checked, and about that node, or matches the RID anyway. -/
def KeyChecked (node : Node) (state : NodeState) (kobj : KnowledgeObject) :
    Prop :=
  ∀ manifest bundle, Arrives node state kobj manifest bundle →
    ∀ nodeRid, bundle.manifest.rid = .node nodeRid →
      (kobj.isTyped ∧ kobj.rid = .node nodeRid) ∨
        KeyMatches node nodeRid bundle.contents

theorem SecureProfileHandler.Admits.keyMatches {node : Node}
    {nodeRid : KoiNetNode} {contents : Contents}
    (admitted : SecureProfileHandler.Admits node nodeRid contents) :
    KeyMatches node nodeRid contents := by
  obtain ⟨nodeProfile, key, validated, stated, hashed, _⟩ := admitted
  exact ⟨nodeProfile, key, validated, stated, hashed⟩

namespace KeysMatch

variable {node : Node} {cache : Cache}

theorem delete (keys : KeysMatch node cache) (rid : RID) :
    KeysMatch node (cache.delete rid) := by
  intro nodeRid file filed
  rw [Cache.entry_delete] at filed
  split at filed
  · cases filed
  · exact keys nodeRid file filed

theorem write_iff (keys : KeysMatch node cache) (bundle : Bundle) :
    KeysMatch node (cache.write bundle) ↔
      ∀ nodeRid, bundle.manifest.rid = .node nodeRid →
        KeyMatches node nodeRid bundle.contents := by
  constructor
  · intro written nodeRid named
    have filed : (cache.write bundle).entry (.node nodeRid) =
        some (some bundle) := by
      rw [Cache.entry_write, if_pos named.symm]
    obtain ⟨found, same, matching⟩ := written nodeRid _ filed
    cases same
    exact matching
  · intro matching nodeRid file filed
    rw [Cache.entry_write] at filed
    split at filed
    · rename_i named
      cases filed
      exact ⟨bundle, rfl, matching nodeRid named.symm⟩
    · exact keys nodeRid file filed

end KeysMatch

open KnowledgePipeline in
theorem CacheEffect.keysMatch_iff {node : Node} {state : NodeState}
    {kobj : KnowledgeObject} {after : Cache}
    (keys : KeysMatch node state.cache)
    (effect : CacheEffect node state kobj after) :
    KeysMatch node after ↔ KeyChecked node state kobj := by
  cases effect with
  | write manifest bundle arrives =>
      rw [keys.write_iff]
      constructor
      · intro matching otherManifest other otherArrives nodeRid named
        obtain ⟨_, same⟩ := arrives.functional otherArrives
        subst same
        exact .inr (matching nodeRid named)
      · intro checked nodeRid named
        rcases checked manifest bundle arrives nodeRid named with
          ⟨typed, own⟩ | matching
        · have admitted := arrives.admitted
          unfold BundleAdmits at admitted
          rw [own] at admitted
          exact (admitted typed).keyMatches
        · exact matching
  | delete bundle deletes =>
      apply iff_of_true (keys.delete kobj.rid)
      intro manifest other arrives
      exact (arrives.not_deletes deletes).elim
  | nothing notArrives notDeletes =>
      apply iff_of_true keys
      intro manifest bundle arrives
      exact (notArrives manifest bundle arrives).elim

/-- Objects of a checked type that bring bundles about their own RID are
checked. -/
theorem keyChecked_of_typed {node : Node} {state : NodeState}
    {kobj : KnowledgeObject} (typed : kobj.isTyped)
    (names : ∀ manifest bundle, Offered node state kobj manifest bundle →
      bundle.manifest.rid = kobj.rid) :
    KeyChecked node state kobj := by
  intro manifest bundle arrives nodeRid named
  exact .inl ⟨typed, (names manifest bundle arrives.offered).symm.trans named⟩

theorem CacheStep.keysMatch {node : Node} {registry : Registry node}
    {allowed : NodeState → KnowledgeObject → Prop} {kobj : KnowledgeObject}
    {before after : Cache}
    (guards : ∀ state kobj, allowed state kobj → KeyChecked node state kobj)
    (keys : KeysMatch node before)
    (step : CacheStep registry allowed kobj before after) :
    KeysMatch node after := by
  obtain ⟨state, rfl, isAllowed, effect⟩ := step.effect
  exact (CacheEffect.keysMatch_iff keys effect).mpr
    (guards state kobj isAllowed)

/-- In every run over typed objects that bring bundles about their own RID,
every node entry of the cache matches its RID. -/
theorem keysMatch_of_typed {node : Node} {registry : Registry node}
    {kobjs : List KnowledgeObject} {first last : Cache}
    (trace : Trace
      (CacheStep registry fun state kobj => kobj.isTyped ∧
        ∀ manifest bundle, Offered node state kobj manifest bundle →
          bundle.manifest.rid = kobj.rid)
      kobjs first last)
    (initial : KeysMatch node first) : KeysMatch node last := by
  refine trace.invariant (fun keys step => step.keysMatch ?_ keys) initial
  intro state kobj allowed
  exact keyChecked_of_typed allowed.1 allowed.2

/-- In every run over other nodes' objects whose writes are checked, every
node entry of the cache matches its RID. -/
theorem keysMatch_of_trace {node : Node} {registry : Registry node}
    {kobjs : List KnowledgeObject} {first last : Cache}
    (trace : Trace
      (CacheStep registry fun state kobj =>
        kobj.source ≠ none ∧ KeyChecked node state kobj)
      kobjs first last)
    (initial : KeysMatch node first) : KeysMatch node last := by
  refine trace.invariant (fun keys step => step.keysMatch ?_ keys) initial
  intro state kobj allowed
  exact allowed.2

theorem keysMatch_empty (node : Node) : KeysMatch node .empty := by
  intro nodeRid file filed
  cases filed

/-- The profile of a node without a URL that states its public key. -/
def keyedProfile (publicKey : String) : Contents :=
  [("node_type", .str "PARTIAL"), ("public_key", .str publicKey)]

theorem keyedProfile_valid (publicKey : String) :
    NodeProfile.modelValidate (keyedProfile publicKey) =
      some
        { context := NodeProfile.defaultContext
          baseUrl := none
          nodeType := .partialNode
          provides := { event := [], state := [] }
          publicKey := some publicKey } := by
  rfl

theorem keysMatch_of_trace_announced_profile :
    ∃ (kobj : KnowledgeObject) (last : Cache),
      last.read kobj.rid ≠ none ∧ KeysMatch .standalone last := by
  let peer : KoiNetNode := { name := "peer", hash := "key" }
  let manifest : Manifest :=
    { rid := .node peer, timestamp := 0, sha256Hash := "" }
  let kobj : KnowledgeObject := .fromEvent
    (.fromBundle .new { manifest, contents := keyedProfile "key" })
    (some peer)
  let state : NodeState := .fresh .empty
  have checked : KeyChecked .standalone state kobj := by
    apply keyChecked_of_typed (.inl rfl)
    intro announced bundle offered
    obtain ⟨_, same⟩ := offered.of_own
      (show kobj.manifest = some manifest from rfl)
      (show kobj.contents = some (keyedProfile "key") from rfl) (by decide)
    subst same
    rfl
  have processed : Trace
      (CacheStep (Registry.listed .standalone) fun state kobj =>
        kobj.source ≠ none ∧ KeyChecked .standalone state kobj)
      [kobj] .empty _ :=
    .cons ⟨state, rfl, ⟨by decide, checked⟩, rfl⟩ (.nil _)
  have written : ((KnowledgePipeline.process .standalone
      (Registry.listed .standalone).handlers kobj).run
        state).2.cache.read kobj.rid =
      some { manifest, contents := keyedProfile "key" } := rfl
  refine ⟨kobj, _, ?_,
    keysMatch_of_trace processed (keysMatch_empty .standalone)⟩
  rw [written]
  simp

/-- A bundle that was fetched for a node RID has no event type when it is
queued, so its profile is written whatever its key. -/
theorem keysMatch_not_invariant :
    ¬∀ (node : Node) (registry : Registry node)
      (kobjs : List KnowledgeObject) (first last : Cache),
      Trace (CacheStep registry fun _ kobj => kobj.source ≠ none)
        kobjs first last →
      KeysMatch node first → KeysMatch node last := by
  intro always
  let peer : KoiNetNode := { name := "peer", hash := "key" }
  let manifest : Manifest :=
    { rid := .node peer, timestamp := 0, sha256Hash := "" }
  let kobj : KnowledgeObject := .fromBundle
    { manifest, contents := keyedProfile "stolen" } none (some peer)
  let state : NodeState := .fresh .empty
  have keys := always .standalone (.listed _) [kobj] .empty _
    (.cons ⟨state, rfl, by decide, rfl⟩ (.nil _)) (keysMatch_empty _)
  have filed : ((KnowledgePipeline.process .standalone
      (Registry.listed .standalone).handlers kobj).run
        state).2.cache.entry (.node peer) =
      some (some { manifest, contents := keyedProfile "stolen" }) := rfl
  obtain ⟨bundle, same, nodeProfile, key, validated, stated, hashed⟩ :=
    keys peer _ filed
  cases same
  rw [keyedProfile_valid] at validated
  cases validated
  cases stated
  revert hashed
  decide

end KoiNet
