import KoiNet.Pipeline.CacheEffect

/-!
# Fetches that obtain nothing

A manifest or bundle that the object lacks is fetched from its source.  A
`RequestError` ends the pipeline quietly.  A list without any item raises an
`IndexError`, and whatever else the request raises passes through.
-/

namespace KoiNet

open Foundation

namespace KnowledgePipeline

/-- A fetch that processing the object makes, with the number of items it is
answered with or the exception it raises. -/
inductive MakesFetch (node : Node) (state : NodeState)
    (kobj : KnowledgeObject) : Except Exc Nat → Prop where
  | manifests (peer : KoiNetNode) :
      PassesRid node kobj → kobj.eventType ≠ some .forget →
      kobj.manifest = none → kobj.source = some peer →
      MakesFetch node state kobj
        ((RequestHandler.outcome node state peer .fetchManifests
          ({ rids := [kobj.rid] } : FetchManifests)).map
            fun payload => payload.manifests.length)
  | bundles (manifest : Manifest) (between : NodeState) (peer : KoiNetNode) :
      PassesRid node kobj → kobj.eventType ≠ some .forget →
      Announced node kobj state manifest between →
      Fresh state.cache kobj.rid manifest →
      kobj.lacksContents = true → kobj.source = some peer →
      MakesFetch node state kobj
        ((RequestHandler.outcome node between peer .fetchBundles
          ({ rids := [kobj.rid] } : FetchBundles)).map
            fun payload => payload.bundles.length)

/-- How a stage ends whose fetch obtains nothing. -/
def unobtained {α : Type} (outcome : Except Exc Nat) :
    Except Exc (Option α) :=
  match outcome with
  | .ok _ => .error .indexError
  | .error (.request _) => .ok none
  | .error failure => .error failure

section Stages

variable {node : Node} {kobj : KnowledgeObject} {state : NodeState}
  {peer : KoiNetNode}

end Stages

variable {node : Node} (registry : Registry node)

theorem MakesFetch.passes {kobj : KnowledgeObject} {state : NodeState}
    {outcome : Except Exc Nat}
    (fetch : MakesFetch node state kobj outcome) : PassesRid node kobj := by
  cases fetch with
  | manifests _ passes => exact passes
  | bundles _ _ _ passes => exact passes

theorem MakesFetch.notForget {kobj : KnowledgeObject} {state : NodeState}
    {outcome : Except Exc Nat}
    (fetch : MakesFetch node state kobj outcome) :
    kobj.eventType ≠ some .forget := by
  cases fetch with
  | manifests _ _ notForget => exact notForget
  | bundles _ _ _ _ notForget => exact notForget

end KnowledgePipeline

end KoiNet
