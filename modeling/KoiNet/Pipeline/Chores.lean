import KoiNet.Foundation.Worklist
import KoiNet.Negotiation.EdgeObjects
import KoiNet.Pipeline.Contact

/-!
# What a node queues on its own account

Two kinds of objects about edges: an edge of a forgotten node that is to be
forgotten as well, and an edge that is proposed to a provider.  Over a valid
cache neither can stop the worker nor queue anything further, so working
through them is a fold over the cache.
-/

namespace KoiNet

open Foundation KnowledgePipeline

/-- `q.get()`, where nothing is put into the queue any more. -/
def KobjQueue.take (state : NodeState) :
    Option (KnowledgeObject × NodeState) :=
  match state.kobjQueue with
  | [] => none
  | kobj :: rest => some (kobj, state.withQueue rest)

/-- The worker empties the queue. -/
def Settles {node : Node} (registry : Registry node) :
    NodeState → NodeState → Prop :=
  Drains KobjQueue.take (process node registry.handlers)

theorem take_of_cons {state : NodeState} {kobj : KnowledgeObject}
    {rest : List KnowledgeObject} (queue : state.kobjQueue = kobj :: rest) :
    KobjQueue.take state = some (kobj, state.withQueue rest) := by
  unfold KobjQueue.take
  rw [queue]

namespace Cache

variable (cache : Cache)

/-- The cache after a FORGET object. -/
def forget (rid : RID) : Cache :=
  match cache.read rid with
  | none => cache
  | some _ => cache.delete rid

/-- The cache after a bundle that only has to pass the manifest test. -/
def offer (bundle : Bundle) : Cache :=
  match cache.read bundle.manifest.rid with
  | none => cache.write bundle
  | some previous =>
      if BasicManifestHandler.isNewer bundle.manifest previous.manifest then
        cache.write bundle
      else cache

variable {cache}

theorem offer_newer {bundle : Bundle}
    (newer : Fresh cache bundle.manifest.rid bundle.manifest) :
    cache.offer bundle = cache.write bundle := by
  unfold offer
  cases cached : cache.read bundle.manifest.rid with
  | none => rfl
  | some previous => exact if_pos (newer previous cached)

theorem offer_stale {bundle : Bundle}
    (stale : ¬Fresh cache bundle.manifest.rid bundle.manifest) :
    cache.offer bundle = cache := by
  unfold offer
  cases cached : cache.read bundle.manifest.rid with
  | none =>
      refine (stale fun previous found => ?_).elim
      cases cached.symm.trans found
  | some previous =>
      refine if_neg fun newer => stale fun other found => ?_
      cases cached.symm.trans found
      exact newer

theorem forget_of_absent {rid : RID} (absent : cache.read rid = none) :
    cache.forget rid = cache := by
  unfold forget
  rw [absent]

theorem forget_of_cached {rid : RID} {bundle : Bundle}
    (cached : cache.read rid = some bundle) :
    cache.forget rid = cache.delete rid := by
  unfold forget
  rw [cached]

theorem read_forget (rid other : RID) :
    (cache.forget rid).read other =
      if other = rid then none else cache.read other := by
  cases cached : cache.read rid with
  | some bundle =>
      rw [forget_of_cached cached]
      exact read_delete cache rid other
  | none =>
      rw [forget_of_absent cached]
      split
      · rename_i same
        rw [same, cached]
      · rfl

end Cache

theorem ValidCache.forget_node {node : Node} {cache : Cache}
    {peer : KoiNetNode} (valid : ValidCache node cache)
    (other : peer ≠ node.rid) :
    ValidCache node (cache.forget (.node peer)) := by
  cases cached : cache.read (.node peer) with
  | none =>
      rw [Cache.forget_of_absent cached]
      exact valid
  | some bundle =>
      rw [Cache.forget_of_cached cached]
      exact valid.delete_node other

inductive Chore where
  | forget (rid : RID)
  | propose (proposal : Proposal) (clockReads : Nat)

namespace Chore

variable (node : Node)

def kobj : Chore → KnowledgeObject
  | forget rid => .fromRid rid (some .forget) none
  | propose proposal clockReads =>
      .fromBundle (proposal.bundle node clockReads) none none

/-- The cache after the chore. -/
def apply (cache : Cache) : Chore → Cache
  | forget rid => cache.forget rid
  | propose proposal clockReads =>
      cache.offer (proposal.bundle node clockReads)

def isProposal : Chore → Bool
  | forget _ => false
  | propose _ _ => true

/-- Only edges are forgotten; a node may have been forgotten before. -/
def Fits (cache : Cache) : Chore → Prop
  | forget (.edge _) => True
  | forget rid => cache.read rid = none
  | propose _ _ => True

end Chore

/-- The proposal passes the manifest test. -/
def Proposal.Newer (node : Node) (cache : Cache) (proposal : Proposal)
    (clockReads : Nat) : Prop :=
  Fresh cache (.edge proposal.rid) (proposal.bundle node clockReads).manifest

section Apply

variable {node : Node} {cache : Cache} {proposal : Proposal}
  {clockReads : Nat}

theorem Proposal.Newer.offered
    (newer : proposal.Newer node cache clockReads) :
    cache.offer (proposal.bundle node clockReads) =
      cache.write (proposal.bundle node clockReads) :=
  Cache.offer_newer newer

theorem Proposal.offered_of_stale
    (stale : ¬proposal.Newer node cache clockReads) :
    cache.offer (proposal.bundle node clockReads) = cache :=
  Cache.offer_stale stale

theorem proposal_contents :
    ValidContents (proposal.bundle node clockReads).manifest.rid
      (proposal.bundle node clockReads).contents := by
  constructor
  · intro nodeRid isNode
    cases isNode
  · intro edgeRid isEdge
    exact ⟨proposal.profile, proposal.profile.modelValidate_modelDump⟩

theorem ValidCache.apply (valid : ValidCache node cache) {chore : Chore}
    (fits : chore.Fits cache) : ValidCache node (chore.apply node cache) := by
  cases chore with
  | forget rid =>
      change ValidCache node (cache.forget rid)
      cases cached : cache.read rid with
      | none =>
          rw [Cache.forget_of_absent cached]
          exact valid
      | some bundle =>
          rw [Cache.forget_of_cached cached]
          apply valid.delete
          intro own
          rw [own] at fits cached
          cases fits.symm.trans cached
  | propose proposal clockReads =>
      dsimp only [Chore.apply]
      by_cases newer : proposal.Newer node cache clockReads
      · rw [newer.offered]
        exact valid.write proposal_contents
      · rw [Proposal.offered_of_stale newer]
        exact valid

theorem entry_apply {chore : Chore} (fits : chore.Fits cache) {rid : RID}
    (notEdge : rid.type ≠ .koiNetEdge) :
    (chore.apply node cache).entry rid = cache.entry rid := by
  cases chore with
  | forget other =>
      change (cache.forget other).entry rid = cache.entry rid
      cases cached : cache.read other with
      | none => rw [Cache.forget_of_absent cached]
      | some bundle =>
          rw [Cache.forget_of_cached cached, Cache.entry_delete, if_neg]
          intro same
          subst same
          cases rid with
          | edge edgeRid => exact notEdge rfl
          | node nodeRid => cases fits.symm.trans cached
          | other context reference => cases fits.symm.trans cached
  | propose proposal clockReads =>
      dsimp only [Chore.apply]
      by_cases newer : proposal.Newer node cache clockReads
      · rw [newer.offered, Cache.entry_write, if_neg]
        intro same
        rw [same] at notEdge
        exact notEdge rfl
      · rw [Proposal.offered_of_stale newer]

theorem read_apply {chore : Chore} (fits : chore.Fits cache) {rid : RID}
    (notEdge : rid.type ≠ .koiNetEdge) :
    (chore.apply node cache).read rid = cache.read rid :=
  congrArg Option.join (entry_apply fits notEdge)

theorem Chore.Fits.apply {chore other : Chore} (fits : chore.Fits cache)
    (otherFits : other.Fits cache) : other.Fits (chore.apply node cache) := by
  cases other with
  | propose proposal clockReads => exact trivial
  | forget rid =>
      cases rid with
      | edge edgeRid => exact trivial
      | node nodeRid =>
          have same : (chore.apply node cache).read (.node nodeRid) = _ :=
            read_apply fits (by simp [RID.type])
          exact same.trans otherFits
      | other context reference =>
          have same : (chore.apply node cache).read
              (.other context reference) = _ :=
            read_apply fits (by simp [RID.type])
          exact same.trans otherFits

end Apply

section Process

variable {node : Node} (registry : Registry node) {state : NodeState}

theorem process_uncached {rid : RID} (absent : state.cache.read rid = none) :
    (process node registry.handlers (Chore.kobj node (.forget rid))).run
      state = (.ok (), state) := by
  have passes : PassesRid node (Chore.kobj node (.forget rid)) :=
    fun own => own.2 rfl
  have named : (Chore.kobj node (.forget rid)).rid = rid := rfl
  have settled := settle_forget registry passes rfl state
  rw [named, absent] at settled
  unfold process
  rw [Effect.run_bind_of_ok settled]
  rfl

end Process

end KoiNet
