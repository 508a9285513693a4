import KoiNet.Foundation.Gossip
import KoiNet.Pipeline.Convergence
import KoiNet.Pipeline.Documents
import KoiNet.Pipeline.Neighbors
import KoiNet.Storage.Files

/-!
# Working on one version of a document

A version is a bundle about an RID that the protocol itself does not handle,
complete and not empty.  Working on a version either changes nothing, because
the cached one is not older, or writes it and sends it to those who subscribe
to its type, all but the node that it came from.
-/

namespace KoiNet

open Foundation KnowledgePipeline

/-- Versions wait for the worker with the node that they came from. -/
abbrev WaitingVersion : Type := Gossip.Waiting KoiNetNode Bundle

abbrev SentVersion : Type := Gossip.Message KoiNetNode Bundle

/-- The version that an object brings complete. -/
def KnowledgeObject.version (kobj : KnowledgeObject) : Option WaitingVersion :=
  match kobj.rid, kobj.manifest, kobj.contents with
  | .other context reference, some manifest, some contents =>
      if manifest.rid = .other context reference ∧ contents.isEmpty = false ∧
          kobj.eventType ≠ some .forget ∧ kobj.networkTargets = [] then
        some { source := kobj.source, version := { manifest, contents } }
      else none
  | _, _, _ => none

/-- The version that a queued event brings to its target. -/
def QueuedEvent.version (queued : QueuedEvent) : Option SentVersion :=
  (KnowledgeObject.fromEvent queued.event none).version.map fun waiting =>
    { target := queued.target, version := waiting.version }

/-- A bundle that can be a version of some document. -/
def Bundle.IsDocument (bundle : Bundle) : Prop :=
  ∃ context reference, IsVersion context reference bundle

section Versions

variable {kobj : KnowledgeObject} {waiting : WaitingVersion}

/-- An object brings a version as it is. -/
theorem KnowledgeObject.version_eq_some_iff :
    kobj.version = some waiting ↔
      waiting.version.IsDocument ∧
        kobj.rid = waiting.version.manifest.rid ∧
        kobj.manifest = some waiting.version.manifest ∧
        kobj.contents = some waiting.version.contents ∧
        kobj.eventType ≠ some .forget ∧ kobj.networkTargets = [] ∧
        kobj.source = waiting.source := by
  constructor
  · intro brings
    unfold KnowledgeObject.version at brings
    split at brings
    · rename_i context reference manifest contents named hasManifest
        hasContents
      split at brings
      · rename_i complete
        obtain ⟨sameRid, nonempty, notForget, untargeted⟩ := complete
        cases brings
        refine ⟨⟨context, reference, sameRid, ?_⟩, ?_, hasManifest,
          hasContents, notForget, untargeted, rfl⟩
        · intro empty
          dsimp only at empty
          rw [empty] at nonempty
          cases nonempty
        · exact named.trans sameRid.symm
      · cases brings
    · cases brings
  · intro brings
    obtain ⟨⟨context, reference, version⟩, named, hasManifest, hasContents,
      notForget, untargeted, sender⟩ := brings
    have nonempty : waiting.version.contents.isEmpty = false := by
      simpa using version.nonempty
    unfold KnowledgeObject.version
    rw [named, hasManifest, hasContents, version.rid, sender]
    dsimp only
    rw [if_pos ⟨version.rid, nonempty, notForget, untargeted⟩]

theorem version_fromBundle {bundle : Bundle} (document : bundle.IsDocument)
    {eventType : Option EventType} (notForget : eventType ≠ some .forget)
    (source : Option KoiNetNode) :
    (KnowledgeObject.fromBundle bundle eventType source).version =
      some { source, version := bundle } :=
  KnowledgeObject.version_eq_some_iff.mpr
    ⟨document, rfl, rfl, rfl, notForget, rfl, rfl⟩

theorem version_fromEvent (event : Event) (source : Option KoiNetNode) :
    (KnowledgeObject.fromEvent event source).version =
      (KnowledgeObject.fromEvent event none).version.map fun waiting =>
        { waiting with source } := by
  unfold KnowledgeObject.version KnowledgeObject.fromEvent
  dsimp only
  split
  · split
    · rfl
    · rfl
  · rfl

theorem version_of_written {bundle : Bundle} (document : bundle.IsDocument)
    {eventType : EventType} (notForget : eventType ≠ .forget)
    (target : KoiNetNode) :
    ({ event := .fromBundle eventType bundle, target } : QueuedEvent).version =
      some { target, version := bundle } := by
  have brought : (KnowledgeObject.fromEvent (.fromBundle eventType bundle)
      none).version = some { source := none, version := bundle } :=
    KnowledgeObject.version_eq_some_iff.mpr
      ⟨document, rfl, rfl, rfl, fun forget => notForget
        (Option.some.inj forget), rfl, rfl⟩
  unfold QueuedEvent.version
  rw [brought]
  rfl

end Versions

/-- The nodes to which an object of the type is sent. -/
def audience (node : Node) (state : NodeState) (ridType : RIDType) :
    Except Exc (List KoiNetNode) :=
  if ridType ∈ node.profile.provides.event then
    ((NetworkGraph.getNeighbors node (some .outgoing) none
      (some ridType)).run state).1
  else
    .ok []

section Audience

variable {node : Node} {state other : NodeState} {ridType : RIDType}

theorem collectNeighbors_congr
    (sameEdges : ∀ edgeRid, other.cache.read (.edge edgeRid) =
      state.cache.read (.edge edgeRid))
    (status : Option EdgeStatus) (allowedType : Option RIDType)
    (edges : List KoiNetEdge) (neighbors : List KoiNetNode) :
    ((NetworkGraph.collectNeighbors node status allowedType edges
        neighbors).run other).1 =
      ((NetworkGraph.collectNeighbors node status allowedType edges
        neighbors).run state).1 := by
  induction edges generalizing neighbors with
  | nil => rfl
  | cons edgeRid rest induction =>
      unfold NetworkGraph.collectNeighbors
      rw [Effect.run_get_bind, Effect.run_get_bind, sameEdges]
      cases state.cache.read (.edge edgeRid) with
      | none => exact induction neighbors
      | some bundle =>
          dsimp only
          rw [Effect.run_bind, Effect.run_bind, validateContents_run,
            validateContents_run]
          cases EdgeProfile.modelValidate bundle.contents with
          | none => rfl
          | some profile =>
              dsimp only
              cases NetworkGraph.neighborOf node status allowedType
                  profile with
              | none => exact induction neighbors
              | some neighbor => exact induction _

theorem adjacentEdges_congr (wanted : Bool)
    (dg : DiGraph KoiNetNode KoiNetEdge)
    (adjacent : Option (List (KoiNetNode × KoiNetNode)))
    (state other : NodeState) :
    ∃ result,
      (NetworkGraph.adjacentEdges wanted dg adjacent).run state =
          (result, state) ∧
        (NetworkGraph.adjacentEdges wanted dg adjacent).run other =
          (result, other) := by
  unfold NetworkGraph.adjacentEdges
  split
  · split
    · exact ⟨_, rfl, rfl⟩
    · exact ⟨_, rfl, rfl⟩
  · exact ⟨_, rfl, rfl⟩

theorem getEdges_congr (sameGraph : other.dg = state.dg)
    (direction : Option Direction) :
    ∃ result,
      (NetworkGraph.getEdges node direction).run state = (result, state) ∧
        (NetworkGraph.getEdges node direction).run other =
          (result, other) := by
  unfold NetworkGraph.getEdges
  rw [Effect.run_get_bind, Effect.run_get_bind, sameGraph]
  obtain ⟨outgoing, here, there⟩ := adjacentEdges_congr
    (direction = none || direction = some .outgoing) state.dg
    (state.dg.outEdges node.rid) state other
  rw [Effect.run_bind, Effect.run_bind, here, there]
  cases outgoing with
  | error failure => exact ⟨_, rfl, rfl⟩
  | ok outEdges =>
      obtain ⟨incoming, here, there⟩ := adjacentEdges_congr
        (direction = none || direction = some .incoming) state.dg
        (state.dg.inEdges node.rid) state other
      dsimp only
      rw [Effect.run_bind, Effect.run_bind, here, there]
      cases incoming with
      | error failure => exact ⟨_, rfl, rfl⟩
      | ok inEdges => exact ⟨_, rfl, rfl⟩

/-- Who subscribes is a matter of the graph and the cached edges. -/
theorem getNeighbors_congr (sameGraph : other.dg = state.dg)
    (sameEdges : ∀ edgeRid, other.cache.read (.edge edgeRid) =
      state.cache.read (.edge edgeRid))
    (direction : Option Direction) (status : Option EdgeStatus)
    (allowedType : Option RIDType) :
    ((NetworkGraph.getNeighbors node direction status allowedType).run
        other).1 =
      ((NetworkGraph.getNeighbors node direction status allowedType).run
        state).1 := by
  obtain ⟨edges, here, there⟩ := getEdges_congr sameGraph direction
  unfold NetworkGraph.getNeighbors
  rw [Effect.run_bind, Effect.run_bind, here, there]
  cases edges with
  | error failure => rfl
  | ok edges =>
      exact collectNeighbors_congr sameEdges status allowedType edges []

theorem audience_congr (sameGraph : other.dg = state.dg)
    (sameEdges : ∀ edgeRid, other.cache.read (.edge edgeRid) =
      state.cache.read (.edge edgeRid)) :
    audience node other ridType = audience node state ridType := by
  unfold audience
  rw [getNeighbors_congr sameGraph sameEdges]

/-- Writing a document changes nobody's subscription. -/
theorem audience_write {bundle : Bundle} (document : bundle.IsDocument) :
    audience node { state with cache := state.cache.write bundle } ridType =
      audience node state ridType := by
  have sameEdges : ∀ edgeRid,
      (state.cache.write bundle).read (.edge edgeRid) =
        state.cache.read (.edge edgeRid) := by
    intro edgeRid
    obtain ⟨context, reference, version⟩ := document
    apply Cache.read_write_ne
    rw [version.rid]
    simp
  exact audience_congr rfl sameEdges

theorem exists_audience (valid : ValidCache node state.cache)
    (graph : SoundGraph node state.cache state.dg) (ridType : RIDType) :
    ∃ found, audience node state ridType = .ok found := by
  unfold audience
  split
  · obtain ⟨found, after, ran, _⟩ := getNeighbors_completes valid graph
      (some .outgoing) none (some ridType) state ⟨rfl, rfl⟩
    rw [ran]
    exact ⟨found, rfl⟩
  · exact ⟨[], rfl⟩

end Audience

section Work

variable {node : Node} {state : NodeState} {kobj : KnowledgeObject}
  {waiting : WaitingVersion} {found : List KoiNetNode}

theorem union_nil_of_nodup (distinct : found.Nodup) : found ∪ [] = found := by
  induction found with
  | nil => rfl
  | cons head rest induction =>
      obtain ⟨absent, restDistinct⟩ := List.nodup_cons.mp distinct
      rw [List.cons_union, induction restDistinct]
      exact List.insert_of_not_mem absent

theorem getNeighbors_unchanged (direction : Option Direction)
    (status : Option EdgeStatus) (allowedType : Option RIDType) :
    ((NetworkGraph.getNeighbors node direction status allowedType).run
      state).2 = state := by
  have kept : (Frame.unchanged id).Keeps (NetworkGraph.getNeighbors node
      direction status allowedType) :=
    getNeighbors_keeps direction status allowedType
  exact kept state

/-- The output filter addresses a document to those who subscribe to its
type. -/
theorem outputFilter_document {context reference : String}
    (isDocument : kobj.rid = .other context reference)
    (untargeted : kobj.networkTargets = [])
    (subscribed : audience node state kobj.rid.type = .ok found) :
    (BasicNetworkOutputFilter.handle node kobj).run state =
      (.ok (.modified
        { kobj with
          networkTargets :=
            BasicNetworkOutputFilter.withoutSource kobj.source found }),
        state) := by
  have uninvolved : (BasicNetworkOutputFilter.involvement node kobj).run
      state = (.ok ([], false), state) := by
    unfold BasicNetworkOutputFilter.involvement
    rw [isDocument, untargeted]
    split <;> rfl
  have asked : (BasicNetworkOutputFilter.subscribers node kobj false).run
      state = (.ok found, state) ∧ found.Nodup := by
    unfold BasicNetworkOutputFilter.subscribers
    unfold audience at subscribed
    by_cases provided : kobj.rid.type ∈ node.profile.provides.event
    · rw [if_pos provided] at subscribed
      rw [if_pos (.inl provided)]
      have ran : (NetworkGraph.getNeighbors node (some .outgoing) none
          (some kobj.rid.type)).run state = (.ok found, state) :=
        Prod.ext subscribed (getNeighbors_unchanged _ _ _)
      exact ⟨ran, getNeighbors_nodup ran⟩
    · rw [if_neg provided] at subscribed
      cases subscribed
      rw [if_neg (by simp [provided])]
      exact ⟨rfl, List.nodup_nil⟩
  unfold BasicNetworkOutputFilter.handle
  rw [Effect.run_bind_of_ok uninvolved]
  dsimp only
  rw [Effect.run_bind_of_ok asked.1, union_nil_of_nodup asked.2]
  rfl

variable (registry : Registry node)

/-- A version that passes the manifest test is cached and sent on. -/
theorem process_version_fresh (brings : kobj.version = some waiting)
    (fresh : Fresh state.cache waiting.version.manifest.rid
      waiting.version.manifest)
    (subscribed : audience node state waiting.version.manifest.rid.type =
      .ok found) :
    (process node registry.handlers kobj).run state =
      (.ok (),
        ({ state with
            cache := state.cache.write waiting.version } : NodeState).sending
          (.fromBundle (state.cache.writeType waiting.version.manifest.rid)
            waiting.version)
          (BasicNetworkOutputFilter.withoutSource waiting.source found)) := by
  obtain ⟨document, named, hasManifest, hasContents, notForget, untargeted,
    sender⟩ := KnowledgeObject.version_eq_some_iff.mp brings
  obtain ⟨context, reference, isVersion⟩ := id document
  have isDocument : kobj.rid = .other context reference :=
    named.trans isVersion.rid
  have passes : PassesRid node kobj := by
    intro self
    rw [isDocument] at self
    cases self.1
  have settled : (settle node registry.handlers kobj).run state =
      (.ok (some (kobj.settled (state.cache.writeType kobj.rid)
        waiting.version)), state) :=
    settle_document registry isDocument passes notForget
      (.own _ hasManifest) (named ▸ fresh)
      (.own _ hasContents isVersion.nonempty)
  obtain ⟨previous, applies⟩ := applied_eq state.cache
    (kobj.settled (state.cache.writeType kobj.rid) waiting.version)
  let written : NodeState :=
    { state with cache := state.cache.write waiting.version }
  let decided :=
    kobj.settled (state.cache.writeType kobj.rid) waiting.version
  let object : KnowledgeObject := { decided with prevBundle := previous }
  have sameAudience : audience node written object.rid.type = .ok found := by
    change audience node written kobj.rid.type = _
    rw [audience_write document, named]
    exact subscribed
  have objectRid : object.rid = .other context reference := isDocument
  have filtered := outputFilter_document objectRid untargeted sameAudience
  have made : object.normalizedEvent = .ok (.fromBundle
      (state.cache.writeType kobj.rid) waiting.version) := by
    have event : (applied state.cache decided).normalizedEvent = _ :=
      applied_event named.symm state.cache
    rw [applies] at event
    exact event
  have notNode := notNode_of_document objectRid
  have chained := networkChain_filters registry notNode
    (by
      intro changed modified
      cases modified
      rfl) filtered
  rw [process_of_settled registry settled, applies]
  have published := publish_targeted registry notNode
    (regenerate_document objectRid written) chained made
  rw [← named, ← sender]
  exact published

theorem process_version_stale (brings : kobj.version = some waiting)
    (stale : ¬Fresh state.cache waiting.version.manifest.rid
      waiting.version.manifest) :
    (process node registry.handlers kobj).run state = (.ok (), state) := by
  obtain ⟨document, named, hasManifest, _, notForget, _, _⟩ :=
    KnowledgeObject.version_eq_some_iff.mp brings
  obtain ⟨context, reference, isVersion⟩ := document
  have passes : PassesRid node kobj := by
    intro self
    rw [named, isVersion.rid] at self
    cases self.1
  rw [← named] at stale
  exact process_of_stale registry passes notForget hasManifest stale

end Work

section Files

variable {storage : Storage} {node : Node} {state : NodeState}
  {kobj : KnowledgeObject} {waiting : WaitingVersion}

/-- The files keep the bundle as it is, and its time states an offset. -/
structure Storage.Preserves (storage : Storage) (bundle : Bundle) : Prop where
  kept : storage.Kept bundle (some bundle)
  offset : storage.naive bundle.manifest.timestamp = false

/-- Files that preserve the version and the cached one make no difference. -/
theorem process_version_eq (registration : Registration)
    (brings : kobj.version = some waiting)
    (preserves : storage.Preserves waiting.version)
    (held : ∀ previous,
      state.cache.read waiting.version.manifest.rid = some previous →
        storage.Preserves previous) :
    (storage.process node (registration.stored storage node) kobj).run state =
      (process node (registration.registry node).handlers kobj).run
        state := by
  obtain ⟨⟨context, reference, isVersion⟩, named, hasManifest, hasContents,
    notForget, _, _⟩ := KnowledgeObject.version_eq_some_iff.mp brings
  have opens : storage.opens kobj.rid = true := by
    rw [named]
    exact preserves.kept.1
  have full : kobj.lacksContents = false := by
    unfold KnowledgeObject.lacksContents
    rw [hasContents]
    simpa using isVersion.nonempty
  have own : ∀ {manifest between}, Announced node kobj state manifest between →
      manifest = waiting.version.manifest := by
    intro manifest between announced
    cases announced with
    | own _ has => exact Option.some.inj (has.symm.trans hasManifest)
    | fetched _ _ _ _ missing =>
        rw [hasManifest] at missing
        cases missing
  apply Storage.process_eq registration
  · intro trouble
    cases trouble with
    | forgotten forget _ => exact notForget forget
    | announced _ _ _ _ unopened =>
        rw [opens] at unopened
        cases unopened
    | incomparable manifest between previous _ announced cached apart =>
        apply apart.2
        rw [own announced, preserves.offset,
          (held previous (named ▸ cached)).offset]
    | source peer _ _ lacks _ =>
        rcases lacks with missing | empty
        · rw [hasManifest] at missing
          cases missing
        · rw [full] at empty
          cases empty
    | negotiated _ _ _ _ edge _ _ _ _ =>
        rw [named, isVersion.rid] at edge
        cases edge
  · intro manifest bundle arrives
    obtain ⟨between, after, announced, carried⟩ := arrives.offered
    have same : bundle = waiting.version := by
      cases carried with
      | own contents has _ =>
          cases hasContents.symm.trans has
          rw [own announced]
      | fetched _ _ _ _ lacks =>
          rw [full] at lacks
          cases lacks
    rw [same]
    exact preserves.kept

end Files

end KoiNet
