import KoiNet.Components.Graph
import KoiNet.Components.RequestHandler
import KoiNet.Foundation.Part

/-!
# Polling

A node without a server asks its neighbors for the events that they have
buffered for it.  How a neighbor answers is an argument here, and the state of
the node may be a part of a larger one, in which the neighbor's state changes
as well.
-/

namespace KoiNet

open Foundation

/-- What `except ProtocolError` catches. -/
def Exc.isProtocolError : Exc → Bool
  | .protocol _ => true
  | _ => false

def RequestHandler.pollEvents (node : Node) (peer : KoiNetNode) :
    NodeM EventsPayload :=
  makeRequest node peer .pollEvents ({} : PollEvents)

namespace NetworkResolver

section Neighbors

variable (node : Node)

/-- The full nodes among the cached ones, after those found before. -/
def collectFull :
    List KoiNetNode → List KoiNetNode → NodeM (List KoiNetNode)
  | [], neighbors => pure neighbors
  | nodeRid :: rest, neighbors => do
      let state ← Effect.get
      match state.cache.read (.node nodeRid) with
      | none => collectFull rest neighbors
      | some nodeBundle =>
          let nodeProfile ←
            nodeBundle.validateContents NodeProfile.modelValidate
          if nodeProfile.nodeType ≠ .full then
            collectFull rest neighbors
          else
            collectFull rest (neighbors ++ [nodeRid])

/-- The neighbors that are polled, or else the first contact. -/
def pollTargets : NodeM (List KoiNetNode) := do
  let found ← NetworkGraph.getNeighbors node none none none
  let neighbors ← collectFull found []
  if neighbors.isEmpty then
    return node.config.firstContact.rid.toList
  else
    return neighbors

end Neighbors

variable {σ : Type} (part : Part σ NodeState) (node : Node)
  (pollEvents : KoiNetNode → Effect Exc σ EventsPayload)

/-- Nothing if the neighbor cannot be reached, or refuses or is refused. -/
def pollNode (nodeRid : KoiNetNode) : Effect Exc σ (Option (List Event)) :=
  Effect.tryExcept
    (do
      let payload ← pollEvents nodeRid
      return some payload.events)
    (fun failure => failure.isRequestError || failure.isProtocolError)
    (pure none)

def pollEach : List KoiNetNode → Dict KoiNetNode (List Event) →
    Effect Exc σ (Dict KoiNetNode (List Event))
  | [], eventDict => pure eventDict
  | nodeRid :: rest, eventDict => do
      match ← pollNode pollEvents nodeRid with
      | none => pollEach rest eventDict
      | some events => pollEach rest (eventDict.set nodeRid events)

def pollNeighbors : Effect Exc σ (Dict KoiNetNode (List Event)) := do
  let targets ← part.within (pollTargets node)
  pollEach pollEvents targets Dict.empty

end NetworkResolver

namespace NodePoller

variable {σ : Type} (part : Part σ NodeState) (node : Node)
  (pollEvents : KoiNetNode → Effect Exc σ EventsPayload)

/-- Queue what a neighbor has answered. -/
def pushAll (polled : KoiNetNode × List Event) : NodeM Unit :=
  Effect.forEach polled.2 fun event =>
    KobjQueue.push (.fromEvent event (some polled.1))

def poll : Effect Exc σ Unit := do
  let eventDict ← NetworkResolver.pollNeighbors part node pollEvents
  Effect.forEach eventDict.items fun polled => part.within (pushAll polled)

end NodePoller

end KoiNet
