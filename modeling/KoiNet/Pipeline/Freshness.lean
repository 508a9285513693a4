import KoiNet.Pipeline.Runs

/-!
# Each write supersedes what it replaces

The manifest test is passed by the announced manifest, while a fetched bundle
is written with a manifest of its own.  The bundles written under one RID
between two FORGETs supersede each other as long as the manifest that comes
with a bundle passes the test whenever the announced one does.
-/

namespace KoiNet

open Foundation

namespace KnowledgePipeline

/-- What processing an object does to the cache. -/
inductive CacheAction where
  | write (bundle : Bundle)
  | delete (rid : RID)

def CacheAction.apply (action : CacheAction) (cache : Cache) : Cache :=
  match action with
  | .write bundle => cache.write bundle
  | .delete rid => cache.delete rid

/-- The action that follows the stages up to the Bundle chain. -/
def cacheAction (settled : Except Exc (Option KnowledgeObject)) :
    Option CacheAction :=
  match settled with
  | .ok (some kobj) =>
      match kobj.normalizedEventType, kobj.bundle with
      | some .forget, _ => some (.delete kobj.rid)
      | some _, .ok bundle => some (.write bundle)
      | _, _ => none
  | _ => none

/-- The cache action of one object. -/
def actionOf {node : Node} (registry : Registry node) (state : NodeState)
    (kobj : KnowledgeObject) : Option CacheAction :=
  cacheAction ((settle node registry.handlers kobj).run state).1

variable {node : Node} (registry : Registry node)

theorem actionOf_arrives {state : NodeState} {kobj : KnowledgeObject}
    {manifest : Manifest} {bundle : Bundle}
    (arrives : Arrives node state kobj manifest bundle) :
    actionOf registry state kobj = some (.write bundle) := by
  unfold actionOf
  rw [settle_arrives registry arrives]
  unfold Cache.writeType
  cases (state.cache.read kobj.rid).isSome with
  | true => rfl
  | false => rfl

theorem actionOf_deletes {state : NodeState} {kobj : KnowledgeObject}
    {bundle : Bundle} (deletes : Deletes node state kobj bundle) :
    actionOf registry state kobj = some (.delete kobj.rid) := by
  unfold actionOf
  rw [settle_forget registry deletes.passes deletes.forget, deletes.cached]
  rfl

theorem actionOf_neither {state : NodeState} {kobj : KnowledgeObject}
    (notArrives : ∀ manifest bundle,
      ¬Arrives node state kobj manifest bundle)
    (notDeletes : ∀ bundle, ¬Deletes node state kobj bundle) :
    actionOf registry state kobj = none := by
  unfold actionOf
  generalize ran : (settle node registry.handlers kobj).run state = ended
  obtain ⟨result, after⟩ := ended
  rcases result with failure | _ | final
  · rfl
  · rfl
  · exact (settle_of_neither registry notArrives notDeletes ran).elim

/-- Processing an object changes the cache by its action. -/
theorem process_cache (state : NodeState) (kobj : KnowledgeObject) :
    ((process node registry.handlers kobj).run state).2.cache =
      match actionOf registry state kobj with
      | some action => action.apply state.cache
      | none => state.cache := by
  have effect := process_cacheEffect registry kobj state
  generalize ((process node registry.handlers kobj).run state).2.cache = after
    at effect
  cases effect with
  | write manifest bundle arrives =>
      rw [actionOf_arrives registry arrives]
      rfl
  | delete bundle deletes =>
      rw [actionOf_deletes registry deletes]
      rfl
  | nothing notArrives notDeletes =>
      rw [actionOf_neither registry notArrives notDeletes]

end KnowledgePipeline

open KnowledgePipeline

/-- A strictly newer bundle with another hash. -/
def Supersedes (newer older : Bundle) : Prop :=
  older.timestamp < newer.timestamp ∧ newer.hash ≠ older.hash

/-- The bundles written under an RID since its last FORGET, newest first. -/
def record (rid : RID) (action : Option CacheAction)
    (written : List Bundle) : List Bundle :=
  match action with
  | some (.write bundle) =>
      if bundle.manifest.rid = rid then bundle :: written else written
  | some (.delete deleted) => if deleted = rid then [] else written
  | none => written

/-- Process one object and record what it does to an RID. -/
def RecordedStep {node : Node} (registry : Registry node)
    (allowed : NodeState → KnowledgeObject → Prop) (rid : RID)
    (kobj : KnowledgeObject) (before after : Cache × List Bundle) : Prop :=
  ∃ state : NodeState, state.cache = before.1 ∧ allowed state kobj ∧
    after.1 = ((process node registry.handlers kobj).run state).2.cache ∧
    after.2 = record rid (actionOf registry state kobj) before.2

/-- What the object is offered with names its RID. -/
def NamesRid (node : Node) (state : NodeState) (kobj : KnowledgeObject) :
    Prop :=
  ∀ manifest bundle, Offered node state kobj manifest bundle →
    manifest.rid = kobj.rid ∧ bundle.manifest.rid = kobj.rid

/-- The manifest that comes with the bundle passes the manifest test if the
announced one does. -/
def BringsFresh (node : Node) (state : NodeState) (kobj : KnowledgeObject) :
    Prop :=
  ∀ manifest bundle, Offered node state kobj manifest bundle →
    Fresh state.cache kobj.rid manifest →
    Fresh state.cache kobj.rid bundle.manifest

/-- What is fetched comes with the manifest that was announced. -/
def BringsAnnounced (node : Node) (state : NodeState)
    (kobj : KnowledgeObject) : Prop :=
  ∀ manifest bundle, Offered node state kobj manifest bundle →
    bundle.manifest = manifest

theorem BringsAnnounced.bringsFresh {node : Node} {state : NodeState}
    {kobj : KnowledgeObject} (brings : BringsAnnounced node state kobj) :
    BringsFresh node state kobj := by
  intro manifest bundle offered fresh
  rw [brings manifest bundle offered]
  exact fresh

/-- The history of an RID: each bundle supersedes the one it replaced, and
the newest is the one that is stored. -/
structure Superseding (rid : RID) (history : Cache × List Bundle) : Prop where
  chain : history.2.IsChain Supersedes
  stored : history.2.head? = history.1.read rid

theorem Fresh.supersedes {cache : Cache} {rid : RID} {bundle old : Bundle}
    (fresh : Fresh cache rid bundle.manifest)
    (stored : cache.read rid = some old) : Supersedes bundle old := by
  have newer := BasicManifestHandler.isNewer_iff.mp (fresh old stored)
  exact ⟨newer.2, newer.1⟩

theorem RecordedStep.mono {node : Node} {registry : Registry node}
    {allowed weaker : NodeState → KnowledgeObject → Prop} {rid : RID}
    {kobj : KnowledgeObject} {before after : Cache × List Bundle}
    (step : RecordedStep registry allowed rid kobj before after)
    (included : ∀ state kobj, allowed state kobj → weaker state kobj) :
    RecordedStep registry weaker rid kobj before after := by
  obtain ⟨state, cache, isAllowed, rest⟩ := step
  exact ⟨state, cache, included state kobj isAllowed, rest⟩

namespace Superseding

variable {rid : RID} {cache : Cache} {written : List Bundle}

theorem initial (rid : RID) (cache : Cache) :
    Superseding rid (cache, (cache.read rid).toList) := by
  cases stored : cache.read rid with
  | none => exact { chain := .nil, stored := stored.symm }
  | some bundle =>
      exact { chain := .singleton bundle, stored := stored.symm }

theorem write (superseding : Superseding rid (cache, written))
    {bundle : Bundle} (fresh : Fresh cache bundle.manifest.rid bundle.manifest) :
    Superseding rid
      (cache.write bundle, record rid (some (.write bundle)) written) := by
  unfold record
  dsimp only
  by_cases named : bundle.manifest.rid = rid
  · subst named
    rw [if_pos rfl]
    constructor
    · cases written with
      | nil => exact .singleton bundle
      | cons old rest =>
          have stored : cache.read bundle.manifest.rid = some old :=
            superseding.stored.symm
          exact .cons_cons (fresh.supersedes stored) superseding.chain
    · exact (Cache.read_write_self cache bundle).symm
  · rw [if_neg named]
    constructor
    · exact superseding.chain
    · rw [Cache.read_write_ne cache bundle (Ne.symm named)]
      exact superseding.stored

theorem delete (superseding : Superseding rid (cache, written))
    (deleted : RID) :
    Superseding rid
      (cache.delete deleted, record rid (some (.delete deleted)) written) := by
  unfold record
  dsimp only
  by_cases named : deleted = rid
  · subst named
    rw [if_pos rfl]
    constructor
    · exact .nil
    · exact (Cache.read_delete_self cache deleted).symm
  · rw [if_neg named]
    constructor
    · exact superseding.chain
    · rw [Cache.read_delete_ne cache (Ne.symm named)]
      exact superseding.stored

theorem step {node : Node} {registry : Registry node}
    {kobj : KnowledgeObject} {before after : Cache × List Bundle}
    (superseding : Superseding rid before)
    (step : RecordedStep registry (fun state kobj =>
      NamesRid node state kobj ∧ BringsFresh node state kobj) rid kobj before
        after) :
    Superseding rid after := by
  obtain ⟨cache, written⟩ := before
  obtain ⟨afterCache, afterWritten⟩ := after
  obtain ⟨state, rfl, ⟨names, brings⟩, rfl, rfl⟩ := step
  dsimp only
  rw [process_cache]
  by_cases arrives : ∃ manifest bundle,
      Arrives node state kobj manifest bundle
  · obtain ⟨manifest, bundle, arrives⟩ := arrives
    rw [actionOf_arrives registry arrives]
    have named := (names manifest bundle arrives.offered).2
    have fresh := brings manifest bundle arrives.offered arrives.fresh
    rw [← named] at fresh
    exact superseding.write fresh
  · by_cases deletes : ∃ bundle, Deletes node state kobj bundle
    · obtain ⟨bundle, deletes⟩ := deletes
      rw [actionOf_deletes registry deletes]
      exact superseding.delete kobj.rid
    · rw [actionOf_neither registry
        (fun manifest bundle found => arrives ⟨manifest, bundle, found⟩)
        (fun bundle found => deletes ⟨bundle, found⟩)]
      exact superseding

end Superseding

/-- In every run over objects that are offered with what names their RID, and
whose bundles come with the manifest that was announced, each bundle written
under an RID since its last FORGET supersedes the one before. -/
theorem superseding_of_announced {node : Node} {registry : Registry node}
    {rid : RID} {kobjs : List KnowledgeObject} {first last : Cache}
    {written : List Bundle}
    (trace : Trace
      (RecordedStep registry (fun state kobj =>
        NamesRid node state kobj ∧ BringsAnnounced node state kobj) rid)
      kobjs (first, (first.read rid).toList) (last, written)) :
    Superseding rid (last, written) := by
  have fresh : Trace (RecordedStep registry (fun state kobj =>
      NamesRid node state kobj ∧ BringsFresh node state kobj) rid)
      kobjs (first, (first.read rid).toList) (last, written) :=
    trace.mono fun step => step.mono fun _ _ allowed =>
      ⟨allowed.1, allowed.2.bringsFresh⟩
  exact fresh.invariant (fun superseding step => superseding.step step)
    (.initial rid first)

/-- In every run over objects that are offered with what names their RID,
and whose bundles come with a manifest that passes the test, each bundle
written under an RID since its last FORGET supersedes the one before. -/
theorem superseding_of_trace {node : Node} {registry : Registry node}
    {rid : RID} {kobjs : List KnowledgeObject} {first last : Cache}
    {written : List Bundle}
    (trace : Trace
      (RecordedStep registry (fun state kobj =>
        NamesRid node state kobj ∧ BringsFresh node state kobj) rid)
      kobjs (first, (first.read rid).toList) (last, written)) :
    Superseding rid (last, written) := by
  exact trace.invariant (fun superseding step => superseding.step step)
    (.initial rid first)

/-- A node whose peer answers every request for bundles with these. -/
def bundleReader (bundles : List Bundle) : Node :=
  { Node.standalone with
    config :=
      { Node.standalone.config with
        firstContact :=
          { rid := some { name := "peer", hash := "key" }
            url := some "url" } }
    answer := fun _ _ _ path _ =>
      match path with
      | .fetchBundles => .received (.ok { bundles := bundles })
      | _ => .unreachable }

def documentBundle (timestamp : Timestamp) (content : String) : Bundle :=
  { manifest :=
      { rid := .other "orn:example" "document"
        timestamp := timestamp
        sha256Hash := content }
    contents := [("content", .str content)] }

/-- The peer announces a version of the document by its manifest. -/
def announcement (bundle : Bundle) : KnowledgeObject :=
  .fromEvent (.fromManifest .update bundle.manifest)
    (some { name := "peer", hash := "key" })

theorem offered_announcement {timestamp : Timestamp} {content : String}
    {announced answer bundle : Bundle} {manifest : Manifest}
    (offered : Offered (bundleReader [answer])
      (.fresh (Cache.empty.write (documentBundle timestamp content)))
      (announcement announced) manifest bundle) :
    manifest = announced.manifest ∧ bundle = answer := by
  obtain ⟨between, after, found, carried⟩ := offered
  cases found with
  | own _ present =>
      cases present
      cases carried with
      | own contents present _ => cases present
      | fetched peer payload _ others _ sender answers listed =>
          cases sender
          cases answers
          cases listed
          exact ⟨rfl, rfl⟩
  | fetched _ _ _ _ absent => cases absent

theorem superseding_of_trace_announced_bundle :
    ∃ last, Superseding (.other "orn:example" "document")
      (last, [documentBundle 3 "c", documentBundle 2 "b"]) := by
  let node := bundleReader [documentBundle 3 "c"]
  let state : NodeState :=
    .fresh (Cache.empty.write (documentBundle 2 "b"))
  have names : NamesRid node state (announcement (documentBundle 3 "c")) := by
    intro manifest bundle offered
    obtain ⟨rfl, rfl⟩ := offered_announcement offered
    exact ⟨rfl, rfl⟩
  have brings :
      BringsAnnounced node state (announcement (documentBundle 3 "c")) := by
    intro manifest bundle offered
    obtain ⟨rfl, rfl⟩ := offered_announcement offered
    rfl
  have trace : Trace
      (RecordedStep (Registry.listed node) (fun state kobj =>
        NamesRid node state kobj ∧ BringsFresh node state kobj)
        (.other "orn:example" "document"))
      [announcement (documentBundle 3 "c")]
      (state.cache, [documentBundle 2 "b"])
      (_, [documentBundle 3 "c", documentBundle 2 "b"]) :=
    .cons ⟨state, rfl, ⟨names, brings.bringsFresh⟩, rfl, rfl⟩ (.nil _)
  exact ⟨_, superseding_of_trace trace⟩

/-- The manifest of a new version is announced, and the request for its
bundle is answered with a version that is older than the stored one. -/
theorem writes_not_superseding :
    ¬∀ (node : Node) (registry : Registry node) (rid : RID)
      (kobjs : List KnowledgeObject) (first last : Cache)
      (written : List Bundle),
      Trace (RecordedStep registry (NamesRid node) rid) kobjs
        (first, (first.read rid).toList) (last, written) →
      Superseding rid (last, written) := by
  intro always
  let node := bundleReader [documentBundle 1 "a"]
  let state : NodeState :=
    .fresh (Cache.empty.write (documentBundle 2 "b"))
  have names : NamesRid node state (announcement (documentBundle 3 "c")) := by
    intro manifest bundle offered
    obtain ⟨rfl, rfl⟩ := offered_announcement offered
    exact ⟨rfl, rfl⟩
  have superseding := always node (.listed node)
    (.other "orn:example" "document") [announcement (documentBundle 3 "c")]
    state.cache _ [documentBundle 1 "a", documentBundle 2 "b"]
    (.cons ⟨state, rfl, names, rfl, rfl⟩ (.nil _))
  cases superseding.chain with
  | cons_cons supersedes =>
      exact absurd supersedes.1 (by decide)

end KoiNet
