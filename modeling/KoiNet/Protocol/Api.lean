import KoiNet.Protocol.KnowledgeObject

/-!
# API models and paths

`Path.Request` and `Path.Response` are the request and response columns of
`API_MODEL_MAP`; a broadcast has no response model.
-/

namespace KoiNet

structure PollEvents where
  limit : Int := 0

structure FetchRids where
  ridTypes : List RIDType := []

structure FetchManifests where
  ridTypes : List RIDType := []
  rids : List RID := []

structure FetchBundles where
  rids : List RID

structure RidsPayload where
  rids : List RID

structure ManifestsPayload where
  manifests : List Manifest
  notFound : List RID := []

structure BundlesPayload where
  bundles : List Bundle
  notFound : List RID := []
  deferred : List RID := []

structure EventsPayload where
  events : List Event

inductive Path where
  | broadcastEvents
  | pollEvents
  | fetchRids
  | fetchManifests
  | fetchBundles
  deriving DecidableEq, Repr

def Path.str : Path → String
  | .broadcastEvents => "/events/broadcast"
  | .pollEvents => "/events/poll"
  | .fetchRids => "/rids/fetch"
  | .fetchManifests => "/manifests/fetch"
  | .fetchBundles => "/bundles/fetch"

abbrev Path.Request : Path → Type
  | .broadcastEvents => EventsPayload
  | .pollEvents => PollEvents
  | .fetchRids => FetchRids
  | .fetchManifests => FetchManifests
  | .fetchBundles => FetchBundles

abbrev Path.Response : Path → Type
  | .broadcastEvents => Unit
  | .pollEvents => EventsPayload
  | .fetchRids => RidsPayload
  | .fetchManifests => ManifestsPayload
  | .fetchBundles => BundlesPayload

end KoiNet
