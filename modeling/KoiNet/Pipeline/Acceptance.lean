import KoiNet.Pipeline.Freshness
import KoiNet.Pipeline.ProfileKeys
import KoiNet.Pipeline.Recording

/-!
# Which bundles are written

What a call of the pipeline writes is what `Arrives` describes.  For the
profile of another node that is compared with when it should be written: if
the bundle is newer than what is stored, its key is that of the node and it
does not claim this node's URL.
-/

namespace KoiNet

open Foundation Recorded

/-- Nothing is stored under the bundle's RID, or a bundle with another hash
and an older timestamp. -/
def Replaceable (cache : Cache) (bundle : Bundle) : Prop :=
  cache.read bundle.manifest.rid = none ∨
    ∃ previous, cache.read bundle.manifest.rid = some previous ∧
      previous.hash ≠ bundle.hash ∧ previous.timestamp < bundle.timestamp

theorem replaceable_iff_fresh {cache : Cache} {bundle : Bundle} :
    Replaceable cache bundle ↔
      Fresh cache bundle.manifest.rid bundle.manifest := by
  constructor
  · rintro (absent | ⟨previous, stored, otherHash, older⟩) other cached
    · rw [absent] at cached
      cases cached
    · cases stored.symm.trans cached
      exact BasicManifestHandler.isNewer_iff.mpr ⟨otherHash.symm, older⟩
  · intro fresh
    cases stored : cache.read bundle.manifest.rid with
    | none => exact .inl stored
    | some previous =>
        have newer := BasicManifestHandler.isNewer_iff.mp
          (fresh previous stored)
        exact .inr ⟨previous, stored, newer.1.symm, newer.2⟩

namespace KnowledgePipeline

section Steady

variable {node : Node} {handlers : List KnowledgeHandler}

end Steady

section Process

variable {node : Node} (registry : Registry node)

/-- Processing the object writes the bundle. -/
def Writes (state : NodeState) (kobj : KnowledgeObject) (bundle : Bundle) :
    Prop :=
  .wrote bundle ∈ ((Recording.process node registry.handlers kobj).run
    { state := state, actions := [] }).2.actions

end Process

end KnowledgePipeline

open KnowledgePipeline

variable {node : Node} (registry : Registry node)

section Profiles

variable {event : Event} {peer sender : KoiNetNode} {bundle : Bundle}
  {profile : NodeProfile}

/-- An event that is no FORGET, about a node, with the bundle of its
profile. -/
structure Event.BringsProfile (event : Event) (peer : KoiNetNode)
    (bundle : Bundle) (profile : NodeProfile) : Prop where
  isNode : event.rid = .node peer
  notForget : event.eventType ≠ .forget
  hasManifest : event.manifest = some bundle.manifest
  hasContents : event.contents = some bundle.contents
  named : bundle.manifest.rid = event.rid
  valid : NodeProfile.modelValidate bundle.contents = some profile

/-- A profile that states no URL claims none. -/
def ClaimsUrl (node : Node) (profile : NodeProfile) : Prop :=
  ∃ url, profile.baseUrl = some url ∧ node.profile.baseUrl = some url

/-- The profile of another node is to be written. -/
structure Acceptable (node : Node) (cache : Cache) (peer : KoiNetNode)
    (bundle : Bundle) (profile : NodeProfile) : Prop where
  keyMatches : KeyMatches node peer bundle.contents
  replaceable : Replaceable cache bundle
  unclaimed : ¬ClaimsUrl node profile

theorem Event.BringsProfile.nonempty
    (brings : event.BringsProfile peer bundle profile) :
    bundle.contents ≠ [] := by
  intro empty
  have valid := brings.valid
  rw [empty] at valid
  cases valid

end Profiles

end KoiNet
