import KoiNet.Pipeline.FetchFailures
import KoiNet.Pipeline.Runs
import KoiNet.Pipeline.Soundness

/-!
# Objects that cannot stop the worker

An exception that `process` raises ends the worker.  In a sound state none is
raised for an object whose source answers with something, whose contents fit
the models the Bundle handlers validate, and whose writes leave the cache
sound; and then the state stays sound.
-/

namespace KoiNet

open Foundation KnowledgePipeline

/-- A node profile that states a public key. -/
def StatesKey (contents : Contents) : Prop :=
  ∃ nodeProfile, NodeProfile.modelValidate contents = some nodeProfile ∧
    nodeProfile.publicKey ≠ none

/-- What the cached bundles of each type have to be. -/
def SoundContents (rid : RID) (contents : Contents) : Prop :=
  (∀ nodeRid, rid = .node nodeRid → SoundProfile contents) ∧
    ∀ edgeRid, rid = .edge edgeRid → IsEdgeProfile contents

/-- The object cannot make the worker raise. -/
structure Harmless (node : Node) (state : NodeState)
    (kobj : KnowledgeObject) : Prop where
  answered : ∀ outcome, MakesFetch node state kobj outcome → outcome ≠ .ok 0
  keyed : ∀ manifest bundle, Judged node state kobj manifest bundle →
    kobj.isTyped → ∀ nodeRid, kobj.rid = .node nodeRid →
      StatesKey bundle.contents
  negotiable : ∀ manifest bundle, Judged node state kobj manifest bundle →
    kobj.isTyped → kobj.source ≠ none → ∀ edgeRid, kobj.rid = .edge edgeRid →
      IsEdgeProfile bundle.contents
  written : ∀ manifest bundle, Arrives node state kobj manifest bundle →
    SoundContents bundle.manifest.rid bundle.contents
  published : ∀ manifest bundle, Arrives node state kobj manifest bundle →
    (∀ nodeRid, kobj.rid = .node nodeRid → SoundProfile bundle.contents) ∧
    (kobj.source = none → ∀ edgeRid, kobj.rid = .edge edgeRid →
      IsEdgeProfile bundle.contents)

section Settle

variable {node : Node} (registry : Registry node) {state : NodeState}
  {kobj : KnowledgeObject}

private theorem bundleChain_returns (sound : SoundCache node state.cache)
    {manifest : Manifest} {bundle : Bundle}
    (harmless : Harmless node state kobj)
    (judged : Judged node state kobj manifest bundle)
    {result : Except Exc (Option KnowledgeObject)}
    {complete after : NodeState} (cache : complete.cache = state.cache)
    (ran : (callHandlerChain .bundle registry.handlers
      (kobj.settled (state.cache.writeType kobj.rid) bundle)).run complete =
        (result, after)) :
    ∃ settled, result = .ok settled := by
  let final := kobj.settled (state.cache.writeType kobj.rid) bundle
  have hasManifest : final.manifest = some bundle.manifest := rfl
  have hasContents : final.contents = some bundle.contents := rfl
  by_cases typed : final.isTyped
  · cases named : kobj.rid with
    | other context reference =>
        have skipped := registry.bundleChain_skips final
          (by simp [final, KnowledgeObject.settled, named, RID.type])
          (by simp [final, KnowledgeObject.settled, named, RID.type]) complete
        cases ran.symm.trans skipped
        exact ⟨_, rfl⟩
    | node nodeRid =>
        obtain ⟨nodeProfile, validated, keyed⟩ :=
          harmless.keyed manifest bundle judged typed nodeRid named
        obtain ⟨key, stated⟩ := Option.ne_none_iff_exists'.mp keyed
        have isNode : final.rid = .node nodeRid := named
        have chained := registry.bundleChain_node isNode typed hasManifest
          hasContents complete
        cases ran.symm.trans chained
        unfold SecureProfileHandler.verdict
        rw [validated]
        dsimp only
        rw [stated]
        dsimp only
        split
        · exact ⟨_, rfl⟩
        · split
          · exact ⟨_, rfl⟩
          · exact ⟨_, rfl⟩
    | edge edgeRid =>
        have isEdge : final.rid = .edge edgeRid := named
        have step := EdgeNegotiationHandler.handle_step node hasManifest
          hasContents complete
        generalize handled :
          (EdgeNegotiationHandler.handle node final).run complete = ended
          at step
        obtain ⟨response, left⟩ := ended
        have chained := registry.bundleChain_edge isEdge typed hasManifest
          hasContents handled
        cases ran.symm.trans chained
        cases step with
        | malformed external malformed =>
            obtain ⟨edgeProfile, validated⟩ := harmless.negotiable manifest
              bundle judged typed external edgeRid named
            cases malformed.symm.trans validated
        | malformedPeer edgeProfile peerBundle _ _ _ _ known malformed =>
            rw [cache] at known
            obtain ⟨peerProfile, validated, _⟩ :=
              sound.nodes _ peerBundle known
            cases malformed.symm.trans validated
        | internal => exact ⟨_, rfl⟩
        | notProposed => exact ⟨_, rfl⟩
        | unknownPeer => exact ⟨_, rfl⟩
        | refused => exact ⟨_, rfl⟩
        | approved => exact ⟨_, rfl⟩
  · have skipped := registry.bundleChain_skips final
      (fun node => typed node.2) (fun edge => typed edge.2) complete
    cases ran.symm.trans skipped
    exact ⟨_, rfl⟩

private theorem manifestStep_returns (dependable : Dependable node)
    (sound : SoundCache node state.cache) (harmless : Harmless node state kobj)
    (passes : PassesRid node kobj)
    (notForget : kobj.eventType ≠ some .forget)
    {result : Except Exc (Option KnowledgeObject)} {after : NodeState}
    (step : ManifestStep node kobj state result after) :
    ∃ found, result = .ok found := by
  cases step with
  | found => exact ⟨_, rfl⟩
  | noSource => exact ⟨_, rfl⟩
  | unanswered => exact ⟨_, rfl⟩
  | emptyAnswer peer payload absent sender answers empty =>
      refine (harmless.answered _
        (.manifests peer passes notForget absent sender) ?_).elim
      rw [show RequestHandler.outcome node state peer .fetchManifests _ =
        .ok payload from answers]
      simp [Except.map, empty]
  | raised peer failure _ absent sender raised uncaught =>
      rcases outcome_of_sound dependable sound .fetchManifests
          ({ rids := [kobj.rid] } : FetchManifests) with
        ⟨payload, returned⟩ | ⟨error, refused⟩
      · cases raised.symm.trans returned
      · cases raised.symm.trans refused
        cases uncaught

private theorem contentsStep_returns (dependable : Dependable node)
    (sound : SoundCache node state.cache) (harmless : Harmless node state kobj)
    (passes : PassesRid node kobj)
    (notForget : kobj.eventType ≠ some .forget) {manifest : Manifest}
    {between : NodeState}
    (announced : Announced node kobj state manifest between)
    (fresh : Fresh state.cache kobj.rid manifest)
    {result : Except Exc (Option KnowledgeObject)} {after : NodeState}
    (step : ContentsStep node kobj manifest between result after) :
    ∃ found, result = .ok found := by
  cases step with
  | found => exact ⟨_, rfl⟩
  | noSource => exact ⟨_, rfl⟩
  | unanswered => exact ⟨_, rfl⟩
  | emptyAnswer peer payload lacks sender answers empty =>
      refine (harmless.answered _ (.bundles manifest between peer passes
        notForget announced fresh lacks sender) ?_).elim
      rw [show RequestHandler.outcome node between peer .fetchBundles _ =
        .ok payload from answers]
      simp [Except.map, empty]
  | raised peer failure _ lacks sender raised uncaught =>
      have soundBetween : SoundCache node between.cache := by
        rw [announced.cache]
        exact sound
      rcases outcome_of_sound dependable soundBetween .fetchBundles
          ({ rids := [kobj.rid] } : FetchBundles) with
        ⟨payload, returned⟩ | ⟨error, refused⟩
      · cases raised.symm.trans returned
      · cases raised.symm.trans refused
        cases uncaught

theorem settle_returns_of_harmless (dependable : Dependable node)
    (sound : SoundCache node state.cache)
    (harmless : Harmless node state kobj) :
    ∃ result after, (settle node registry.handlers kobj).run state =
      (.ok result, after) := by
  have step := settle_step registry kobj state
  generalize (settle node registry.handlers kobj).run state = ended
    at step ⊢
  obtain ⟨result, after⟩ := ended
  cases step with
  | blocked => exact ⟨_, _, rfl⟩
  | notCached => exact ⟨_, _, rfl⟩
  | deletes => exact ⟨_, _, rfl⟩
  | noManifest => exact ⟨_, _, rfl⟩
  | stale => exact ⟨_, _, rfl⟩
  | noContents => exact ⟨_, _, rfl⟩
  | manifestRaised failure _ passes notForget step =>
      obtain ⟨found, returned⟩ := manifestStep_returns dependable sound
        harmless passes notForget step
      cases returned
  | contentsRaised manifest between failure _ passes notForget announced fresh
      step =>
      obtain ⟨found, returned⟩ := contentsStep_returns dependable sound
        harmless passes notForget announced fresh step
      cases returned
  | judged manifest bundle between complete _ _ passes notForget announced
      fresh carried ran =>
      have judged : Judged node state kobj manifest bundle :=
        { passes := passes
          notForget := notForget
          offered := ⟨between, complete, announced, carried⟩
          fresh := fresh }
      obtain ⟨settled, returned⟩ := bundleChain_returns registry sound
        harmless judged (carried.cache.trans announced.cache) ran
      dsimp only at returned
      exact ⟨settled, after, by rw [returned]⟩

end Settle

/-- The states with this cache and a sound graph over it. -/
def SoundAt (node : Node) (cache : Cache) (state : NodeState) : Prop :=
  state.cache = cache ∧ SoundGraph node cache state.dg

section Publish

variable {node : Node} {cache : Cache}

private theorem completes_soundAt {α : Type} {body : NodeM α}
    {good : α → Prop}
    (completes : ∀ dg, SoundGraph node cache dg →
      Completes (At cache dg) body fun value state =>
        At cache dg state ∧ good value) :
    Completes (SoundAt node cache) body fun value state =>
      SoundAt node cache state ∧ good value := by
  intro state located
  obtain ⟨value, after, returned, kept, isGood⟩ :=
    completes state.dg located.2 state ⟨located.1, rfl⟩
  refine ⟨value, after, returned, ⟨kept.1, ?_⟩, isGood⟩
  rw [kept.2]
  exact located.2

private theorem publishable_carrying {kobj : KnowledgeObject}
    {contents : Contents} (publishable : Publishable kobj contents)
    (targets : List KoiNetNode) (previous : Option Bundle) :
    Publishable
      { kobj with networkTargets := targets, prevBundle := previous }
      contents :=
  { hasManifest := publishable.hasManifest
    hasContents := publishable.hasContents
    normalized := publishable.normalized
    node := publishable.node
    edge := publishable.edge }

theorem networkChain_completes (registry : Registry node)
    (dependable : Dependable node) (sound : SoundCache node cache)
    {kobj : KnowledgeObject} {contents : Contents}
    (publishable : Publishable kobj contents) :
    Completes (SoundAt node cache)
      (callHandlerChain .network registry.handlers kobj)
      fun result state => SoundAt node cache state ∧
        ∀ final, result = some final → Publishable final contents := by
  refine callHandlerChain_completes (Publishable · contents)
    (fun handler member called kobj publishable _ => ?_) kobj publishable
  apply completes_soundAt
  intro dg graph
  rcases registry.mem_handlers member with
    rfl | rfl | rfl | rfl | rfl | rfl | rfl
  · cases called
  · refine (basicNetworkOutputFilter_completes sound.valid graph publishable).mono
      (fun _ located => located) ?_
    rintro response state ⟨located, targets, rfl⟩
    refine ⟨located, ?_⟩
    rintro changed ⟨⟩
    exact publishable_carrying publishable targets _
  · cases called
  · cases called
  · refine (nodeContactHandler_completes dependable sound graph
      publishable).mono (fun _ located => located) ?_
    rintro response state ⟨located, rfl⟩
    refine ⟨located, ?_⟩
    rintro changed ⟨⟩
  · cases called
  · cases called

theorem finalChain_completes (registry : Registry node)
    (sound : SoundCache node cache) (kobj : KnowledgeObject) :
    Completes (SoundAt node cache)
      (callHandlerChain .final registry.handlers kobj)
      fun _ => SoundAt node cache := by
  refine (callHandlerChain_completes (fun _ => True)
    (fun handler member called kobj _ _ => ?_) kobj trivial).mono
      (fun _ located => located) fun _ _ ended => ended.1
  apply completes_soundAt
  intro dg graph
  rcases registry.mem_handlers member with
    rfl | rfl | rfl | rfl | rfl | rfl | rfl
  · cases called
  · cases called
  · cases called
  · refine (forgetNodeHandler_completes sound.valid kobj).mono
      (fun _ located => located) fun _ _ ended => ⟨ended.1, fun _ _ => trivial⟩
  · cases called
  · cases called
  · cases called

theorem broadcast_completes {kobj : KnowledgeObject}
    (normalized : kobj.normalizedEventType ≠ none) :
    Completes (SoundAt node cache) (broadcast kobj)
      fun _ => SoundAt node cache := by
  obtain ⟨eventType, chosen⟩ := Option.ne_none_iff_exists'.mp normalized
  obtain ⟨event, made⟩ := KnowledgeObject.normalizedEvent_of_some chosen
  refine .forEach fun target _ => .ofExcept_bind made ?_
  exact .modify fun _ located => located

/-- Publishing returns from a sound cache; a graph that is not rebuilt has to
be sound already. -/
theorem publish_completes (registry : Registry node)
    (dependable : Dependable node) (sound : SoundCache node cache)
    {kobj : KnowledgeObject} {contents : Contents}
    (publishable : Publishable kobj contents) :
    Completes
      (fun state => state.cache = cache ∧
        ((∃ context reference, kobj.rid = .other context reference) →
          SoundGraph node cache state.dg))
      (publish node registry.handlers kobj)
      fun _ => SoundAt node cache := by
  have regenerated : Completes
      (fun state => state.cache = cache ∧
        ((∃ context reference, kobj.rid = .other context reference) →
          SoundGraph node cache state.dg))
      (regenerate node kobj) fun _ => SoundAt node cache := by
    unfold regenerate
    by_cases changes :
        kobj.rid.type = .koiNetNode ∨ kobj.rid.type = .koiNetEdge
    · rw [if_pos changes]
      exact (generate_completes sound.valid).mono (fun _ given => given.1)
        fun _ _ built => built
    · rw [if_neg changes]
      refine .pure fun state given => ⟨given.1, given.2 ?_⟩
      cases named : kobj.rid with
      | node _ => exact (changes (.inl (by rw [named]; rfl))).elim
      | edge _ => exact (changes (.inr (by rw [named]; rfl))).elim
      | other context reference => exact ⟨context, reference, rfl⟩
  unfold publish
  apply Completes.bind regenerated
  intro _
  refine .bind_good
    (networkChain_completes registry dependable sound publishable)
    fun result final => ?_
  cases result with
  | none => exact .pure fun _ located => located
  | some passed =>
      have still := final passed rfl
      apply Completes.bind (broadcast_completes still.normalized)
      intro _
      apply Completes.bind (finalChain_completes registry sound passed)
      intro _
      exact .pure fun _ located => located

end Publish

section Process

variable {node : Node} {state : NodeState} {kobj : KnowledgeObject}

theorem SoundCache.write {cache : Cache} (sound : SoundCache node cache)
    {bundle : Bundle}
    (contents : SoundContents bundle.manifest.rid bundle.contents) :
    SoundCache node (cache.write bundle) := by
  constructor
  · exact Cache.read_write_ne_none sound.own bundle
  · intro nodeRid found cached
    rcases Cache.read_of_write cached with ⟨named, same⟩ | before
    · subst same
      exact contents.1 nodeRid named.symm
    · exact sound.nodes nodeRid found before
  · intro edgeRid found cached
    rcases Cache.read_of_write cached with ⟨named, same⟩ | before
    · subst same
      exact contents.2 edgeRid named.symm
    · exact sound.edges edgeRid found before

theorem SoundCache.delete {cache : Cache} (sound : SoundCache node cache)
    {rid : RID} (other : rid ≠ .node node.rid) :
    SoundCache node (cache.delete rid) := by
  constructor
  · rw [Cache.read_delete_ne cache (Ne.symm other)]
    exact sound.own
  · intro nodeRid found cached
    exact sound.nodes nodeRid found (Cache.read_of_delete cached)
  · intro edgeRid found cached
    exact sound.edges edgeRid found (Cache.read_of_delete cached)

theorem SoundGraph.write {cache : Cache}
    {dg : DiGraph KoiNetNode KoiNetEdge} (graph : SoundGraph node cache dg)
    (bundle : Bundle) : SoundGraph node (cache.write bundle) dg := by
  refine { graph with joined := ?_ }
  intro source target edgeRid joined
  exact Cache.read_write_ne_none (graph.joined source target edgeRid joined) _

theorem SoundGraph.delete {cache : Cache}
    {dg : DiGraph KoiNetNode KoiNetEdge} (graph : SoundGraph node cache dg)
    {context reference : String} :
    SoundGraph node (cache.delete (.other context reference)) dg := by
  refine { graph with joined := ?_ }
  intro source target edgeRid joined
  rw [Cache.read_delete_ne cache (by simp)]
  exact graph.joined source target edgeRid joined

theorem settled_publishable {eventType : EventType} {bundle : Bundle}
    (profile : ∀ nodeRid, kobj.rid = .node nodeRid →
      SoundProfile bundle.contents)
    (edge : kobj.source = none → ∀ edgeRid, kobj.rid = .edge edgeRid →
      IsEdgeProfile bundle.contents) :
    Publishable (kobj.settled eventType bundle) bundle.contents :=
  { hasManifest := by simp [KnowledgeObject.settled]
    hasContents := rfl
    normalized := by simp [KnowledgeObject.settled]
    node := profile
    edge := edge }

theorem applied_publishable {contents : Contents}
    (publishable : Publishable kobj contents) (cache : Cache) :
    Publishable (applied cache kobj) contents := by
  obtain ⟨previous, applied_eq⟩ := applied_eq cache kobj
  rw [applied_eq]
  exact publishable_carrying publishable kobj.networkTargets previous

end Process

/-- An object this node has queued for itself, about what it says it is
about. -/
structure Trusted (node : Node) (kobj : KnowledgeObject) : Prop where
  keepsOwn : kobj.eventType = some .forget → kobj.rid ≠ .node node.rid
  contents : ∀ manifest contents, kobj.manifest = some manifest →
    kobj.contents = some contents →
    manifest.rid = kobj.rid ∧ SoundContents kobj.rid contents ∧
      ∀ nodeRid, kobj.rid = .node nodeRid → StatesKey contents

theorem soundContents_edge {edgeRid : KoiNetEdge} {contents : Contents}
    (profile : IsEdgeProfile contents) :
    SoundContents (.edge edgeRid) contents := by
  constructor
  · rintro nodeRid ⟨⟩
  · intro _ _
    exact profile

theorem Queued.trusted {node : Node} {cache : Cache} {kobj : KnowledgeObject}
    (queued : Queued node cache kobj) (internal : kobj.source = none) :
    Trusted node kobj := by
  cases queued with
  | forget rid other =>
      refine { keepsOwn := fun _ => other, contents := ?_ }
      rintro manifest contents ⟨⟩
  | discovered => cases internal
  | proposal bundle edgeRid edgeProfile named filled _ =>
      refine { keepsOwn := ?_, contents := ?_ }
      · rintro ⟨⟩
      · rintro manifest contents ⟨⟩ ⟨⟩
        have profile : IsEdgeProfile bundle.contents :=
          ⟨edgeProfile, by rw [filled, EdgeProfile.modelValidate_modelDump]⟩
        change bundle.manifest.rid = bundle.manifest.rid ∧
          SoundContents bundle.manifest.rid bundle.contents ∧
            ∀ nodeRid, bundle.manifest.rid = .node nodeRid → _
        rw [named]
        refine ⟨rfl, soundContents_edge profile, ?_⟩
        rintro nodeRid ⟨⟩
  | approval edgeRid edgeProfile =>
      refine { keepsOwn := ?_, contents := ?_ }
      · rintro ⟨⟩
      · rintro manifest contents ⟨⟩ ⟨⟩
        refine ⟨rfl, soundContents_edge
          ⟨_, EdgeProfile.modelValidate_modelDump _⟩, ?_⟩
        rintro nodeRid ⟨⟩

/-- An object that fetches nothing is harmless if the bundle it brings is
about its own RID and sound, and states a key where it is a node's. -/
theorem harmless_of_offered {node : Node} {state : NodeState}
    {kobj : KnowledgeObject}
    (fetchesNothing : ∀ outcome, ¬MakesFetch node state kobj outcome)
    (offers : ∀ manifest bundle, Offered node state kobj manifest bundle →
      bundle.manifest.rid = kobj.rid ∧ SoundContents kobj.rid bundle.contents ∧
        ∀ nodeRid, kobj.rid = .node nodeRid → StatesKey bundle.contents) :
    Harmless node state kobj := by
  constructor
  · intro outcome fetch
    exact (fetchesNothing outcome fetch).elim
  · intro manifest bundle judged _
    exact (offers manifest bundle judged.offered).2.2
  · intro manifest bundle judged _ _
    exact (offers manifest bundle judged.offered).2.1.2
  · intro manifest bundle arrives
    obtain ⟨named, sound, _⟩ := offers manifest bundle arrives.offered
    rw [named]
    exact sound
  · intro manifest bundle arrives
    obtain ⟨_, sound, _⟩ := offers manifest bundle arrives.offered
    exact ⟨sound.1, fun _ => sound.2⟩

theorem Trusted.harmless {node : Node} {kobj : KnowledgeObject}
    (trusted : Trusted node kobj) (internal : kobj.source = none)
    (state : NodeState) : Harmless node state kobj := by
  apply harmless_of_offered
  · intro outcome fetch
    cases fetch with
    | manifests _ _ _ _ sender => rw [internal] at sender; cases sender
    | bundles _ _ _ _ _ _ _ _ sender => rw [internal] at sender; cases sender
  · intro manifest bundle offered
    obtain ⟨hasManifest, hasContents, same⟩ := offered.of_internal internal
    rw [same]
    exact trusted.contents manifest bundle.contents hasManifest hasContents

/-- The invariant of the runs in which other nodes' objects are harmless. -/
structure Operational (node : Node) (state : NodeState) : Prop where
  cache : SoundCache node state.cache
  graph : SoundGraph node state.cache state.dg
  queue : ∀ kobj ∈ state.kobjQueue, kobj.source = none → Trusted node kobj

/-- The profile of a full node. -/
def fullProfile (baseUrl publicKey : String) : Contents :=
  [("base_url", .str baseUrl), ("node_type", .str "FULL"),
    ("public_key", .str publicKey)]

theorem fullProfile_sound (baseUrl publicKey : String) :
    SoundProfile (fullProfile baseUrl publicKey) :=
  ⟨_, rfl, by simp⟩

/-- A node that has just cached its own profile is operational. -/
theorem operational_fresh {node : Node} {own : Bundle}
    (named : own.manifest.rid = .node node.rid)
    (sound : SoundProfile own.contents) :
    Operational node (.fresh (Cache.empty.write own)) := by
  refine ⟨⟨?_, ?_, ?_⟩, ⟨?_, .inl rfl⟩, ?_⟩
  · change (Cache.empty.write own).read _ ≠ none
    rw [Cache.read_write, if_pos named.symm]
    simp
  · intro nodeRid bundle cached
    change (Cache.empty.write own).read _ = _ at cached
    rw [Cache.read_write] at cached
    split at cached
    · cases cached
      exact sound
    · cases cached
  · intro edgeRid bundle cached
    change (Cache.empty.write own).read _ = _ at cached
    rw [Cache.read_write, named] at cached
    cases cached
  · intro source target edgeRid joined
    cases joined
  · intro queued member
    cases member

/-- A standalone node that has cached its own profile. -/
def NodeState.standalone : NodeState :=
  .fresh (Cache.empty.write
    { manifest :=
        { rid := .node Node.standalone.rid, timestamp := 0, sha256Hash := "" }
      contents := fullProfile "url" "h" })

end KoiNet
