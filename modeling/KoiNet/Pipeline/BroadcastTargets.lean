import KoiNet.Negotiation.EdgeBroadcast
import KoiNet.Pipeline.Fidelity
import KoiNet.Pipeline.OutwardEdges

/-!
# Whom the broadcast sends to

The output filter takes the other end of an internal edge object and the
nodes that the graph joins to this one by an edge that lists the object's
type, all but the node the object came from.  These are nodes to send to, but
for the edges that peers can store from this node to itself: nothing in the
filter or the graph sets them apart.
-/

namespace KoiNet

open Foundation Recorded

section Choosing

variable (node : Node) (source : Option KoiNetNode) (rid : RID)
  (bundle : Bundle)

/-- The edge has this node at one end and the other node at the other. -/
def OtherEnd (profile : EdgeProfile) (other : KoiNetNode) : Prop :=
  profile.source = node.rid ∧ profile.target = other ∨
    profile.source ≠ node.rid ∧ profile.target = node.rid ∧
      profile.source = other

/-- An internal edge object with the node at its other end. -/
def Involves (other : KoiNetNode) : Prop :=
  source = none ∧ ∃ edgeRid profile, rid = .edge edgeRid ∧
    EdgeProfile.modelValidate bundle.contents = some profile ∧
    OtherEnd node profile other

/-- The object is announced to subscribers: those of a type that this node
provides are, and the internal ones about this node and its edges. -/
inductive Announces : Prop where
  | provided :
      rid.type ∈ node.profile.provides.event → Announces
  | ownNode :
      source = none → rid = .node node.rid → Announces
  | ownEdge (other : KoiNetNode) :
      Involves node source rid bundle other → Announces

/-- The graph has an edge from this node that lists the object's type and
whose cached profile has the subscriber at its other end. -/
def Subscribes (state : NodeState) (subscriber : KoiNetNode) : Prop :=
  ∃ target edgeRid profile,
    state.dg.getEdgeData node.rid target = some edgeRid ∧
    state.cache.edgeProfile edgeRid = some profile ∧
    rid.type ∈ profile.ridTypes ∧
    (profile.target = node.rid ∧ profile.source = subscriber ∨
      profile.source = node.rid ∧ profile.target = subscriber)

/-- The target is not where the object came from; it is at the other end of
the object, or the object is announced and it subscribes to it. -/
structure Chosen (state : NodeState) (target : KoiNetNode) : Prop where
  notSource : source ≠ some target
  chosen : Involves node source rid bundle target ∨
    Announces node source rid bundle ∧ Subscribes node rid state target

variable {node : Node} {source : Option KoiNetNode} {rid : RID}
  {bundle : Bundle}

theorem Chosen.of_stable {before after : NodeState} {target : KoiNetNode}
    (chosen : Chosen node source rid bundle before target)
    (stable : Stable node before after) :
    Chosen node source rid bundle after target := by
  obtain ⟨notSource, chosen⟩ := chosen
  refine { notSource := notSource, chosen := ?_ }
  unfold Subscribes at *
  rw [stable.cache, stable.dg]
  exact chosen

end Choosing

section Neighbors

variable {node : Node} {state after : NodeState}

theorem collectNeighbors_returned {status : Option EdgeStatus}
    {allowedType : Option RIDType} {edges : List KoiNetEdge}
    {neighbors collected : List KoiNetNode}
    (returned : (NetworkGraph.collectNeighbors node status allowedType edges
      neighbors).run state = (.ok collected, after)) :
    ∀ neighbor ∈ collected, neighbor ∈ neighbors ∨
      ∃ edgeRid ∈ edges, ∃ profile,
        state.cache.edgeProfile edgeRid = some profile ∧
        NetworkGraph.neighborOf node status allowedType profile =
          some neighbor := by
  induction edges generalizing neighbors with
  | nil =>
      cases returned
      intro neighbor member
      exact .inl member
  | cons edgeRid rest induction =>
      have later : ∀ {found : List KoiNetNode},
          (NetworkGraph.collectNeighbors node status allowedType rest
            found).run state = (.ok collected, after) →
          ∀ neighbor ∈ collected, neighbor ∈ found ∨
            ∃ other ∈ edgeRid :: rest, ∃ profile,
              state.cache.edgeProfile other = some profile ∧
              NetworkGraph.neighborOf node status allowedType profile =
                some neighbor := by
        intro found ran neighbor member
        apply (induction ran neighbor member).imp_right
        intro edge
        obtain ⟨other, among, profile⟩ := edge
        exact ⟨other, List.mem_cons_of_mem _ among, profile⟩
      unfold NetworkGraph.collectNeighbors at returned
      rw [Effect.run_get_bind] at returned
      cases cached : state.cache.read (.edge edgeRid) with
      | none =>
          rw [cached] at returned
          exact later returned
      | some bundle =>
          rw [cached] at returned
          obtain ⟨profile, between, validated, returned⟩ :=
            Effect.run_bind_eq_ok_iff.mp returned
          rw [validateContents_run] at validated
          split at validated
          · rename_i found valid
            cases validated
            have read := Cache.edgeProfile_of_read cached valid
            split at returned
            · exact later returned
            · rename_i other near
              intro neighbor member
              rcases later returned neighbor member with known | edge
              · rcases List.mem_insert_iff.mp known with rfl | known
                · exact .inr ⟨edgeRid, by simp, profile, read, near⟩
                · exact .inl known
              · exact .inr edge
          · cases validated

/-- The nodes that are found by asking for the subscribers of a type. -/
theorem getNeighbors_returned {ridType : RIDType}
    {neighbors : List KoiNetNode}
    (returned : (NetworkGraph.getNeighbors node (some .outgoing) none
      (some ridType)).run state = (.ok neighbors, after)) :
    ∀ neighbor ∈ neighbors, ∃ target edgeRid profile,
      state.dg.getEdgeData node.rid target = some edgeRid ∧
      state.cache.edgeProfile edgeRid = some profile ∧
      NetworkGraph.neighborOf node none (some ridType) profile =
        some neighbor := by
  by_cases present : state.dg.edges.keys = [] ∨ node.rid ∈ state.dg.nodes
  · obtain ⟨edges, listed, among⟩ :=
      getEdges_run (some .outgoing) present
    unfold NetworkGraph.getNeighbors at returned
    rw [Effect.run_bind_of_ok listed] at returned
    intro neighbor member
    rcases collectNeighbors_returned returned neighbor member with
      empty | ⟨edgeRid, asked, profile, read, near⟩
    · cases empty
    · obtain ⟨source, target, named, adjoins⟩ := (among edgeRid).mp asked
      have isSource : source = node.rid := by
        simpa [Adjoins] using adjoins
      subst isSource
      exact ⟨target, edgeRid, profile, named, read, near⟩
  · obtain ⟨joined, absent⟩ := not_or.mp present
    have raised : ((NetworkGraph.getNeighbors node (some .outgoing) none
        (some ridType)).run state).1 = .error .networkXError :=
      getNeighbors_raises joined absent
    rw [returned] at raised
    cases raised

end Neighbors

namespace BasicNetworkOutputFilter

variable {node : Node} {kobj : KnowledgeObject} {bundle : Bundle}
  {state after : NodeState}

/-- Of an edge, the end that is not this node is added to the targets. -/
theorem otherEnd_added {profile : EdgeProfile}
    {given targets : List KoiNetNode} {involved : Bool}
    (returned : (if profile.source = node.rid then
        pure (given.insert profile.target, true)
      else if profile.target = node.rid then
        pure (given.insert profile.source, true)
      else
        pure (given, false) : NodeM (List KoiNetNode × Bool)).run state =
      (.ok (targets, involved), after)) :
    (∀ target ∈ targets, target ∈ given ∨ OtherEnd node profile target) ∧
      (involved = true → ∃ other, OtherEnd node profile other) := by
  have inserted : ∀ other, OtherEnd node profile other →
      ∀ target ∈ given.insert other,
        target ∈ given ∨ OtherEnd node profile target := by
    intro other ends target member
    rcases List.mem_insert_iff.mp member with rfl | known
    · exact .inr ends
    · exact .inl known
  split at returned
  · rename_i outgoing
    cases returned
    have ends : OtherEnd node profile profile.target := .inl ⟨outgoing, rfl⟩
    exact ⟨inserted _ ends, fun _ => ⟨_, ends⟩⟩
  · rename_i incoming
    split at returned
    · rename_i isTarget
      cases returned
      have ends : OtherEnd node profile profile.source :=
        .inr ⟨incoming, isTarget, rfl⟩
      exact ⟨inserted _ ends, fun _ => ⟨_, ends⟩⟩
    · cases returned
      exact ⟨fun target => .inl, fun involved => nomatch involved⟩

/-- Only the other end of an internal edge is added to the targets. -/
theorem involvement_involves (bundled : kobj.bundle = .ok bundle)
    {targets : List KoiNetNode} {involved : Bool}
    (returned : (involvement node kobj).run state =
      (.ok (targets, involved), after)) :
    (∀ target ∈ targets, target ∈ kobj.networkTargets ∨
        Involves node kobj.source kobj.rid bundle target) ∧
      (involved = true → Announces node kobj.source kobj.rid bundle) := by
  unfold involvement at returned
  by_cases internal : kobj.source = none
  · rw [if_pos internal] at returned
    cases named : kobj.rid with
    | node nodeRid =>
        rw [named] at returned
        cases returned
        refine ⟨fun target => .inl, fun own => .ownNode internal ?_⟩
        rw [of_decide_eq_true own]
    | other context reference =>
        rw [named] at returned
        cases returned
        exact ⟨fun target => .inl, fun involved => nomatch involved⟩
    | edge edgeRid =>
        rw [named, bundled] at returned
        dsimp only at returned
        rw [Effect.run_bind_of_ok (Effect.run_ofExcept _ state)] at returned
        obtain ⟨profile, _, validated, rest⟩ :=
          Effect.run_bind_eq_ok_iff.mp returned
        rw [validateContents_run] at validated
        split at validated
        · rename_i found valid
          cases validated
          obtain ⟨added, ended⟩ := otherEnd_added rest
          have involves : ∀ other, OtherEnd node profile other →
              Involves node kobj.source (.edge edgeRid) bundle other :=
            fun other ends => ⟨internal, edgeRid, profile, rfl, valid, ends⟩
          constructor
          · intro target member
            exact (added target member).imp_right (involves target)
          · intro own
            obtain ⟨other, ends⟩ := ended own
            exact .ownEdge other (involves other ends)
        · cases validated
  · rw [if_neg internal] at returned
    cases returned
    exact ⟨fun target => .inl, fun involved => nomatch involved⟩

theorem subscribers_subscribe {involved : Bool}
    (announced : involved = true → Announces node kobj.source kobj.rid bundle)
    {found : List KoiNetNode}
    (returned : (subscribers node kobj involved).run state =
      (.ok found, after)) :
    ∀ subscriber ∈ found, Announces node kobj.source kobj.rid bundle ∧
      Subscribes node kobj.rid state subscriber := by
  unfold subscribers at returned
  split at returned
  · rename_i asked
    intro subscriber member
    obtain ⟨target, edgeRid, profile, named, read, near⟩ :=
      getNeighbors_returned returned subscriber member
    obtain ⟨listed, ends⟩ := neighborOf_eq_some_iff.mp near
    refine ⟨?_, target, edgeRid, profile, named, read,
      listed.2 _ rfl, ends.imp_right And.right⟩
    rcases asked with provided | involved
    · exact .provided provided
    · exact announced involved
  · cases returned
    intro subscriber member
    cases member

theorem handle_chooses (bundled : kobj.bundle = .ok bundle)
    (given : ∀ target ∈ kobj.networkTargets,
      Chosen node kobj.source kobj.rid bundle state target)
    {response : HandlerResponse}
    (handled : (handle node kobj).run state = (.ok response, after)) :
    ∃ targets, response = .modified { kobj with networkTargets := targets } ∧
      ∀ target ∈ targets,
        Chosen node kobj.source kobj.rid bundle state target := by
  unfold handle at handled
  obtain ⟨⟨targets, involved⟩, between, decided, rest⟩ :=
    Effect.run_bind_eq_ok_iff.mp handled
  have kept : (Frame.unchanged id).Keeps (involvement node kobj) :=
    involvement_keeps kobj
  have same := kept state
  rw [decided] at same
  have same : between = state := same
  subst same
  obtain ⟨found, _, subscribed, rest⟩ := Effect.run_bind_eq_ok_iff.mp rest
  obtain ⟨ends, announced⟩ := involvement_involves bundled decided
  have subscribe := subscribers_subscribe announced subscribed
  cases rest
  refine ⟨_, rfl, fun target member => ?_⟩
  obtain ⟨among, notSource⟩ := mem_withoutSource.mp member
  refine { notSource := notSource, chosen := ?_ }
  rcases List.mem_union_iff.mp among with subscriber | early
  · exact .inr (subscribe target subscriber)
  · rcases ends target early with known | involves
    · exact (given target known).chosen
    · exact .inl involves

end BasicNetworkOutputFilter

/-- Nothing is pushed to any other target. -/
def targetsLedger (targets : List KoiNetNode) :
    Ledger NodeState PipelineAction :=
  .each fun action =>
    ∀ event target, action = .pushed event target → target ∈ targets

/-- What an object that reaches the cache brings or takes away, and the cache
after it. -/
inductive Enacts (node : Node) (state : NodeState) (kobj : KnowledgeObject) :
    Bundle → Cache → Prop where
  | written (manifest : Manifest) (bundle : Bundle) :
      Arrives node state kobj manifest bundle →
      Enacts node state kobj bundle (state.cache.write bundle)
  | forgotten (bundle : Bundle) :
      Deletes node state kobj bundle →
      Enacts node state kobj bundle (state.cache.delete kobj.rid)

/-- The graph that the targets are chosen with: that of the cache for a node
or an edge, the one there was for any other object. -/
inductive Regenerates (node : Node) (state : NodeState)
    (kobj : KnowledgeObject) (cache : Cache) :
    DiGraph KoiNetNode KoiNetEdge → Prop where
  | anew :
      kobj.rid.type = .koiNetNode ∨ kobj.rid.type = .koiNetEdge →
      cache.ReadableEdges →
      Regenerates node state kobj cache (graphOf node cache)
  | kept :
      ¬(kobj.rid.type = .koiNetNode ∨ kobj.rid.type = .koiNetEdge) →
      Regenerates node state kobj cache state.dg

namespace KnowledgePipeline

variable {node : Node} (registry : Registry node)

theorem networkChain_chooses {kobj last : KnowledgeObject} {bundle : Bundle}
    {state after : NodeState} (bundled : kobj.bundle = .ok bundle)
    (untargeted : kobj.networkTargets = [])
    (returned : (callHandlerChain .network registry.handlers kobj).run state =
      (.ok (some last), after)) :
    ∀ target ∈ last.networkTargets,
      Chosen node kobj.source kobj.rid bundle after target := by
  obtain ⟨actions, _, chain⟩ :=
    callHandlerChain_records .network registry.handlers kobj state []
  have targeted := chain.handsOn
    (fun other between => ∃ targets,
      other = { kobj with networkTargets := targets } ∧
      ∀ target ∈ targets,
        Chosen node kobj.source kobj.rid bundle between target)
    ?keep ⟨[], by rw [← untargeted], by simp⟩ returned
  · obtain ⟨targets, rfl, chosen⟩ := targeted
    exact chosen
  case keep =>
    intro handler member called other next between later response good ran
      passed
    obtain ⟨targets, rfl, chosen⟩ := good
    let targeted := { kobj with networkTargets := targets }
    have stillBundled : targeted.bundle = .ok bundle := bundled
    rcases registry.mem_handlers member with
      rfl | rfl | rfl | rfl | rfl | rfl | rfl
    · cases called
    · have filters : (stableFrame node).Keeps
          ((basicNetworkOutputFilter node).handle targeted) :=
        stable_of_quiet (basicNetworkOutputFilter_keeps targeted)
      have stable := filters between
      rw [ran] at stable
      obtain ⟨more, rfl, choices⟩ :=
        BasicNetworkOutputFilter.handle_chooses stillBundled chosen ran
      cases passed
      exact ⟨more, rfl, fun target member =>
        (choices target member).of_stable stable⟩
    · cases called
    · cases called
    · have contacts : (stableFrame node).Keeps
          ((nodeContactHandler node).handle targeted) :=
        stable_of_quiet (nodeContactHandler_quiet targeted)
      have stable := contacts between
      rw [ran] at stable
      rw [nodeContactHandler_response ran] at passed
      cases passed
      exact ⟨targets, rfl, fun target member =>
        (chosen target member).of_stable stable⟩
    · cases called
    · cases called

theorem broadcast_targetsLedger (kobj : KnowledgeObject) :
    (targetsLedger kobj.networkTargets).Keeps (Recording.broadcast kobj)
      (broadcast kobj) := by
  apply Ledger.keeps_forEach_mem
  intro target among
  apply Ledger.keeps_bind
  · exact Ledger.keeps_unrecorded (targetsLedger _).refl
  · intro event
    apply Ledger.keeps_noting
    · intro state value after _ action member event other pushed
      cases (List.mem_singleton.mp member).symm.trans pushed
      exact among
    · intro state failure after raised
      cases raised

/-- After the Network chain, only its targets are pushed to. -/
theorem rest_targets (last : KnowledgeObject) :
    (targetsLedger last.networkTargets).Keeps
      (do
        Recording.broadcast last
        let _ ← Recording.callHandlerChain .final registry.handlers last
        return ())
      (do
        broadcast last
        let _ ← callHandlerChain .final registry.handlers last
        return ()) := by
  apply Ledger.keeps_bind (broadcast_targetsLedger last)
  intro _
  refine Ledger.keeps_bind ?_ fun _ => Ledger.keeps_pure ()
  apply Ledger.keeps_each_mono (callHandlerChain_kinds .final _ last)
  rintro action kind event target rfl
  cases kind

theorem rest_stable (last : KnowledgeObject) :
    (stableFrame node).Keeps
      (do
        broadcast last
        let _ ← callHandlerChain .final registry.handlers last
        return ()) := by
  apply Frame.keeps_bind (broadcast_stable last)
  intro _
  exact Frame.keeps_bind (registry.chain_stable .final last)
    fun _ => Frame.keeps_pure ()

/-- Publishing pushes to the targets that the Network chain hands on. -/
theorem publish_targets (kobj : KnowledgeObject) :
    Records (Recording.publish node registry.handlers kobj)
      (publish node registry.handlers kobj) fun changed ended actions =>
        ∀ event target, .pushed event target ∈ actions →
          ∃ rebuilt last chosen,
            (regenerate node kobj).run changed = (.ok (), rebuilt) ∧
            (callHandlerChain .network registry.handlers kobj).run rebuilt =
              (.ok (some last), chosen) ∧
            target ∈ last.networkTargets ∧
            Stable node chosen ended.2 := by
  have silent := pushes_balances node registry.handlers fun _ => False
  unfold Recording.publish publish
  apply Records.unrecorded_bind
  · intro state failure after raised event target member
    cases member
  · intro _ _
    refine Records.bind (silent.chain .network kobj).ran
      (show ∀ passed, _ → Records _ _ fun chosen ended actions =>
        ∀ event target, .pushed event target ∈ actions →
          ∃ last, passed = some last ∧ target ∈ last.networkTargets ∧
            Stable node chosen ended.2 from ?_) ?_ ?_
    · intro passed _
      cases passed with
      | none =>
          apply Records.pure
          intro state event target member
          cases member
      | some last =>
          have sends := rest_targets registry last
          apply sends.ran.mono
          intro chosen actions among event target member
          exact ⟨last, rfl, among.2 _ member event target rfl,
            rest_stable registry last chosen⟩
    · intro between failure after actions quiet state _ event target member
      exact (quiet.2 event target member).elim
    · intro between passed chosen ended early late quiet among state
        regenerated event target member
      rcases List.mem_append.mp member with inEarly | inLate
      · exact (quiet.2 event target inEarly).elim
      · obtain ⟨last, rfl, sent, stable⟩ := among event target inLate
        exact ⟨between, last, chosen, regenerated, quiet.1, sent, stable⟩

/-- What is published has the RID, the source and the targets of the object,
and the bundle that it put into the cache or took out of it. -/
theorem applied_enacts {kobj settled applied : KnowledgeObject}
    {state between changed : NodeState}
    (decided : (settle node registry.handlers kobj).run state =
      (.ok (some settled), between))
    (changes : (applyToCache settled).run between =
      (.ok (some applied), changed)) :
    ∃ bundle, Enacts node state kobj bundle changed.cache ∧
      changed.dg = state.dg ∧ applied.bundle = .ok bundle ∧
      applied.rid = kobj.rid ∧ applied.source = kobj.source ∧
      applied.networkTargets = kobj.networkTargets := by
  have stable := settle_stable registry kobj state
  rw [decided] at stable
  have cache : between.cache = state.cache := stable.cache
  rcases settle_returns registry decided with
    ⟨manifest, bundle, arrives, rfl⟩ | ⟨bundle, deletes, rfl⟩
  · rw [applyToCache_write, cache] at changes
    cases changes
    obtain ⟨previous, same⟩ := applied_eq state.cache
      (kobj.settled (state.cache.writeType kobj.rid) bundle)
    rw [same]
    exact ⟨bundle, .written manifest bundle arrives, stable.dg, rfl, rfl, rfl,
      rfl⟩
  · rw [applyToCache_delete, cache] at changes
    cases changes
    exact ⟨bundle, .forgotten bundle deletes, stable.dg, rfl, rfl, rfl, rfl⟩

theorem regenerate_returned {kobj applied : KnowledgeObject}
    {state changed rebuilt : NodeState} (sameRid : applied.rid = kobj.rid)
    (dg : changed.dg = state.dg)
    (regenerated : (regenerate node applied).run changed =
      (.ok (), rebuilt)) :
    rebuilt.cache = changed.cache ∧
      Regenerates node state kobj changed.cache rebuilt.dg := by
  unfold regenerate at regenerated
  rw [sameRid] at regenerated
  by_cases graphed : kobj.rid.type = .koiNetNode ∨
      kobj.rid.type = .koiNetEdge
  · rw [if_pos graphed] at regenerated
    obtain ⟨readable, rfl⟩ := generate_returned regenerated
    exact ⟨rfl, .anew graphed readable⟩
  · rw [if_neg graphed] at regenerated
    cases regenerated
    rw [dg]
    exact ⟨rfl, .kept graphed⟩

/-- The broadcast of an object that came without targets has the targets that
the output filter chooses over the cache and the graph that the call leaves. -/
theorem process_targets (kobj : KnowledgeObject)
    (untargeted : kobj.networkTargets = []) :
    Records (Recording.process node registry.handlers kobj)
      (process node registry.handlers kobj) fun state ended actions =>
        ∀ event target, .pushed event target ∈ actions →
          ∃ bundle, Enacts node state kobj bundle ended.2.cache ∧
            Regenerates node state kobj ended.2.cache ended.2.dg ∧
            Chosen node kobj.source kobj.rid bundle ended.2 target := by
  apply (process_publishes registry kobj (publish_targets registry)).mono
  intro state actions pushes event target member
  obtain ⟨settled, between, applied, changed, late, decided, changes, sends,
    among⟩ := pushes event target member
  obtain ⟨rebuilt, last, chosen, regenerated, passed, sent, stable⟩ :=
    sends event target among
  obtain ⟨bundle, enacts, dg, bundled, rid, source, targets⟩ :=
    applied_enacts registry decided changes
  obtain ⟨cache, regenerates⟩ := regenerate_returned rid dg regenerated
  have chained := registry.chain_stable .network applied rebuilt
  rw [passed] at chained
  have choice := networkChain_chooses registry bundled
    (targets.trans untargeted) passed target sent
  rw [rid, source] at choice
  have sameCache := (stable.cache.trans chained.cache).trans cache
  have sameGraph := stable.dg.trans chained.dg
  rw [sameCache, sameGraph]
  exact ⟨bundle, enacts, regenerates, choice.of_stable stable⟩

end KnowledgePipeline

/-- Not this node and not where the object came from, but at the end of a
cached edge from this node that lists the object's type, or at the other end
of an internal edge object. -/
structure Permitted (node : Node) (state : NodeState) (kobj : KnowledgeObject)
    (cache : Cache) (target : KoiNetNode) : Prop where
  notSelf : target ≠ node.rid
  notSource : kobj.source ≠ some target
  concerned :
    (∃ edgeRid profile, cache.edgeProfile edgeRid = some profile ∧
      profile.source = node.rid ∧ profile.target = target ∧
      kobj.rid.type ∈ profile.ridTypes) ∨
    ∃ bundle, Enacts node state kobj bundle cache ∧
      Involves node kobj.source kobj.rid bundle target

/-- Processing the object sends its event to permitted targets only. -/
def PermittedBroadcast {node : Node} (registry : Registry node)
    (state : NodeState) (kobj : KnowledgeObject) : Prop :=
  ∃ actions,
    (KnowledgePipeline.Recording.process node registry.handlers kobj).run
        { state := state, actions := [] } =
      (((KnowledgePipeline.process node registry.handlers kobj).run state).1,
        { state :=
            ((KnowledgePipeline.process node registry.handlers kobj).run
              state).2
          actions := actions }) ∧
    ∀ event target, .pushed event target ∈ actions →
      Permitted node state kobj
        ((KnowledgePipeline.process node registry.handlers kobj).run
          state).2.cache target

/-- This node is not at both ends of an internal edge object, and if the
object is announced and did not come from this node, then what the graph has
from this node is no edge to itself that lists the object's type. -/
structure Loopless (node : Node) (state : NodeState)
    (kobj : KnowledgeObject) : Prop where
  object : ∀ bundle cache dg, Enacts node state kobj bundle cache →
    Regenerates node state kobj cache dg →
    ¬Involves node kobj.source kobj.rid bundle node.rid
  subscribers : ∀ bundle cache dg, Enacts node state kobj bundle cache →
    Regenerates node state kobj cache dg →
    Announces node kobj.source kobj.rid bundle →
    kobj.source ≠ some node.rid →
    ∀ target edgeRid profile,
      dg.getEdgeData node.rid target = some edgeRid →
      cache.edgeProfile edgeRid = some profile →
      profile.source = node.rid → profile.target = node.rid →
      kobj.rid.type ∉ profile.ridTypes

section Permitting

variable {node : Node} {state after : NodeState} {kobj : KnowledgeObject}
  {bundle : Bundle} {target : KoiNetNode}

theorem Loopless.notSelf (loopless : Loopless node state kobj)
    (enacts : Enacts node state kobj bundle after.cache)
    (regenerates : Regenerates node state kobj after.cache after.dg)
    (chosen : Chosen node kobj.source kobj.rid bundle after target) :
    target ≠ node.rid := by
  rintro rfl
  rcases chosen.chosen with involves | ⟨announces, subscribes⟩
  · exact loopless.object bundle _ _ enacts regenerates involves
  · obtain ⟨other, edgeRid, profile, named, read, listed, ends⟩ := subscribes
    have loop : profile.source = node.rid ∧ profile.target = node.rid := by
      rcases ends with ⟨isTarget, isSource⟩ | loop
      · exact ⟨isSource, isTarget⟩
      · exact loop
    exact loopless.subscribers bundle _ _ enacts regenerates announces
      chosen.notSource other edgeRid profile named read loop.1 loop.2 listed

theorem Chosen.permitted
    (chosen : Chosen node kobj.source kobj.rid bundle after target)
    (enacts : Enacts node state kobj bundle after.cache)
    (outward : Outward node after) (notSelf : target ≠ node.rid) :
    Permitted node state kobj after.cache target := by
  refine
    { notSelf := notSelf
      notSource := chosen.notSource
      concerned := ?_ }
  rcases chosen.chosen with involves | ⟨_, subscribes⟩
  · exact .inr ⟨bundle, enacts, involves⟩
  · obtain ⟨other, edgeRid, profile, named, read, listed, ends⟩ := subscribes
    rcases ends with ⟨isTarget, isSource⟩ | ⟨isSource, isTarget⟩
    · have turned := outward other edgeRid profile named read isTarget
      exact absurd (isSource.symm.trans turned) notSelf
    · exact .inl ⟨edgeRid, profile, read, isSource, isTarget, listed⟩

end Permitting

/-- In every run from a graph that has yet to be generated, with whatever is
cached, in which no object turns an edge of this node around, an object that
no edge from this node to itself stands in the way of is sent to permitted
targets only. -/
theorem permittedBroadcast_of_run {node : Node} (registry : Registry node)
    {first state : NodeState} (ungenerated : first.dg = DiGraph.empty)
    (run : Run (NetworkStep registry (KeepsOutward node)) first state)
    {kobj : KnowledgeObject} (untargeted : kobj.networkTargets = [])
    (keeps : KeepsOutward node state kobj)
    (loopless : Loopless node state kobj) :
    PermittedBroadcast registry state kobj := by
  have outward : Outward node
      ((KnowledgePipeline.process node registry.handlers kobj).run state).2 :=
    KnowledgePipeline.process_outward registry
      (outward_of_run ungenerated run) keeps
  obtain ⟨actions, ran, targets⟩ :=
    KnowledgePipeline.process_targets registry kobj untargeted state []
  refine ⟨actions, ran, fun event target member => ?_⟩
  obtain ⟨bundle, enacts, regenerates, chosen⟩ := targets event target member
  exact chosen.permitted enacts outward
    (loopless.notSelf enacts regenerates chosen)

theorem loopless_ownEdge :
    Loopless .standalone (.fresh .empty) ownEdge := by
  have brings : ∀ {bundle cache},
      Enacts .standalone (.fresh .empty) ownEdge bundle cache →
      bundle.contents =
          (edgeTo { name := "peer", hash := "key" } .proposed).modelDump ∧
        cache = Cache.empty.write bundle := by
    intro bundle cache enacts
    cases enacts with
    | written manifest bundle arrives =>
        obtain ⟨_, contents, _⟩ := Offered.of_internal rfl arrives.offered
        exact ⟨(Option.some.inj contents).symm, rfl⟩
    | forgotten bundle deletes => cases deletes.forget
  have elsewhere : ∀ profile,
      EdgeProfile.modelValidate
          (edgeTo { name := "peer", hash := "key" } .proposed).modelDump =
        some profile → profile.target ≠ Node.standalone.rid := by
    intro profile valid
    rw [EdgeProfile.modelValidate_modelDump] at valid
    cases valid
    decide
  constructor
  · intro bundle cache dg enacts _ involves
    obtain ⟨_, edgeRid, profile, _, valid, ends⟩ := involves
    rw [(brings enacts).1] at valid
    rcases ends with ⟨_, isTarget⟩ | ⟨other, _, isSource⟩
    · exact elsewhere profile valid isTarget
    · exact other isSource
  · intro bundle cache dg enacts _ _ _ target edgeRid profile _ read _
      isTarget
    obtain ⟨contents, rfl⟩ := brings enacts
    obtain ⟨stored, cached, valid⟩ := Cache.edgeProfile_eq_some_iff.mp read
    rcases Cache.read_of_write cached with ⟨_, rfl⟩ | empty
    · rw [contents] at valid
      exact (elsewhere profile valid isTarget).elim
    · cases empty

theorem permittedBroadcast_of_run_ownEdge :
    PermittedBroadcast (Registry.listed .standalone) (.fresh .empty)
      ownEdge := by
  have started : Run (NetworkStep (Registry.listed .standalone)
      (KeepsOutward .standalone)) (.fresh .empty) (.fresh .empty) :=
    .tail (.refl _) (.start (.fresh .empty))
  have keeps : KeepsOutward .standalone (.fresh .empty) ownEdge :=
    fun _ _ _ notGraphed => absurd (.inr rfl) notGraphed
  exact permittedBroadcast_of_run (Registry.listed .standalone) rfl started
    rfl keeps loopless_ownEdge

/-- An approved edge from the standalone node to itself that lists edges, as
a peer sends it. -/
def sentLoop : KnowledgeObject :=
  .fromBundle
    (edgeEntry { id := "loop" }
      { edgeTo Node.standalone.rid .approved with ridTypes := [.koiNetEdge] })
    none (some { name := "peer", hash := "key" })

/-- Once the edge of a peer from the standalone node to itself is stored, the
node sends the event about another edge to itself. -/
theorem sentLoop_misleads_broadcast :
    ¬∀ (node : Node) (registry : Registry node) (first state : NodeState),
      first.dg = DiGraph.empty →
      Run (NetworkStep registry fun _ _ => True) first state →
      ∀ kobj : KnowledgeObject, kobj.networkTargets = [] →
        PermittedBroadcast registry state kobj := by
  intro always
  let registry := Registry.listed .standalone
  let looped : NodeState := ((KnowledgePipeline.process .standalone
    registry.handlers sentLoop).run (.fresh .empty)).2
  have run : Run (NetworkStep registry fun _ _ => True) (.fresh .empty)
      looped :=
    .tail (.refl _) (.work (.fresh .empty) sentLoop trivial)
  obtain ⟨actions, ran, permitted⟩ :=
    always .standalone registry (.fresh .empty) looped rfl run ownEdge rfl
  have recorded := congrArg (fun ended => ended.2.actions) ran
  dsimp only at recorded
  have pushed : ∃ event, actions[7]? =
      some (.pushed event Node.standalone.rid) := by
    rw [← recorded]
    exact ⟨_, rfl⟩
  obtain ⟨event, pushed⟩ := pushed
  exact (permitted event _ (List.mem_of_getElem? pushed)).notSelf rfl

end KoiNet
