import KoiNet.Components.RequestHandler

/-!
# Handshakes

A node introduces itself with a FORGET and a NEW event about itself, to reset
the target's cache in case it already knows the node.
-/

namespace KoiNet

open Foundation

namespace Handshaker

/-- The events of a handshake. -/
def events (rid : KoiNetNode) (own : Bundle) : List Event :=
  [.fromRid .forget (.node rid), .fromBundle .new own]

def handshakeWith (node : Node) (target : KoiNetNode) : NodeM Unit := do
  let state ← Effect.get
  match state.cache.read (.node node.rid) with
  -- `Event.from_bundle(bundle=None)`
  | none => Effect.raise .attributeError
  | some own =>
      RequestHandler.broadcastEvents node target (events node.rid own)

end Handshaker

end KoiNet
