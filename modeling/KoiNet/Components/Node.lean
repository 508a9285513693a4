import KoiNet.Components.Cache
import KoiNet.Foundation.DiGraph
import KoiNet.Foundation.Effect
import KoiNet.Protocol.Api
import KoiNet.Protocol.Profile

/-!
# A node, its state and its surroundings

`Node` is what does not change while a node runs: its configuration, the
hash functions, its clock, the order in which its file system lists a
directory, and how its peers answer requests.  The answer to a request may
depend on everything the node has done so far, so it is a function of the
whole state.  `NodeState` is what the components share and change.
-/

namespace KoiNet

open Foundation

structure NodeContact where
  rid : Option KoiNetNode := none
  url : Option String := none

structure EventWorkerConfig where
  maxBufLen : Int := 5
  maxWaitTime : Timestamp := 1

structure KoiNetConfig where
  nodeRid : KoiNetNode
  nodeProfile : NodeProfile
  ridTypesOfInterest : Option (List RIDType) := some [.koiNetNode]
  firstContact : NodeContact := {}
  eventWorker : EventWorkerConfig := {}

structure QueuedEvent where
  event : Event
  target : KoiNetNode

structure NodeState where
  cache : Cache
  dg : DiGraph KoiNetNode KoiNetEdge
  kobjQueue : List KnowledgeObject
  eventQueue : List QueuedEvent
  timeoutCounter : Dict KoiNetNode Nat
  clockReads : Nat
  requests : Nat

/-- The state with another queue of knowledge objects. -/
def NodeState.withQueue (state : NodeState) (queue : List KnowledgeObject) :
    NodeState :=
  { state with kobjQueue := queue }

@[simp] theorem NodeState.withQueue_cache (state : NodeState)
    (queue : List KnowledgeObject) :
    (state.withQueue queue).cache = state.cache :=
  rfl

@[simp] theorem NodeState.withQueue_dg (state : NodeState)
    (queue : List KnowledgeObject) :
    (state.withQueue queue).dg = state.dg :=
  rfl

@[simp] theorem NodeState.withQueue_kobjQueue (state : NodeState)
    (queue : List KnowledgeObject) :
    (state.withQueue queue).kobjQueue = queue :=
  rfl

/-- A node that has just been started with this cache. -/
def NodeState.fresh (cache : Cache) : NodeState :=
  { cache := cache
    dg := DiGraph.empty
    kobjQueue := []
    eventQueue := []
    timeoutCounter := Dict.empty
    clockReads := 0
    requests := 0 }

/-- How an HTTP exchange ends: no connection, an error status (already
mapped to the exception it raises), or a successful status with whatever
decoding and validating its body gives. -/
inductive Outcome (α : Type) where
  | unreachable
  | rejected (error : RequestError)
  | received (result : Except Exc α)

/-- The order in which the file system lists a directory. -/
structure Listing where
  order : List RID → List RID
  perm : ∀ rids, (order rids).Perm rids

structure Node where
  config : KoiNetConfig
  sha256Hash : String → String
  sha256HashJson : Contents → String
  now : Nat → Timestamp
  listdir : Listing
  answer : NodeState → String → KoiNetNode → (path : Path) →
    path.Request → Outcome path.Response

namespace Node

/-- `identity.rid`. -/
def rid (node : Node) : KoiNetNode :=
  node.config.nodeRid

/-- `identity.profile`. -/
def profile (node : Node) : NodeProfile :=
  node.config.nodeProfile

/-- A node without a network: no peer answers it. -/
def isolated (config : KoiNetConfig) (sha256Hash : String → String)
    (sha256HashJson : Contents → String) : Node :=
  { config := config
    sha256Hash := sha256Hash
    sha256HashJson := sha256HashJson
    now := fun reads => reads
    listdir := { order := id, perm := fun rids => .refl rids }
    answer := fun _ _ _ _ _ => .unreachable }

/-- A full node without a network whose hashes are its arguments. -/
def standalone : Node :=
  isolated
    { nodeRid := { name := "own", hash := "h" }
      nodeProfile :=
        { context := NodeProfile.defaultContext
          baseUrl := some "url"
          nodeType := .full
          provides := { event := [], state := [] }
          publicKey := some "h" } }
    id fun _ => ""

end Node

/-- Python code running inside a node. -/
abbrev NodeM (α : Type) : Type := Effect Exc NodeState α

/-- `bundle.validate_contents(Model)`. -/
def Bundle.validateContents {α : Type} (bundle : Bundle)
    (modelValidate : Contents → Option α) : NodeM α :=
  match modelValidate bundle.contents with
  | some model => pure model
  | none => Effect.raise .validationError

/-- `Bundle.generate`, which stamps the bundle with the current time. -/
def Bundle.generate (node : Node) (rid : RID) (contents : Contents) :
    NodeM Bundle := do
  let state ← Effect.get
  Effect.modify fun state => { state with clockReads := state.clockReads + 1 }
  let manifest : Manifest :=
    { rid := rid
      timestamp := node.now state.clockReads
      sha256Hash := node.sha256HashJson contents }
  return { manifest, contents }

/-- The arguments of `KobjQueue.push`. -/
structure KobjQueue.Arguments where
  rid : Option RID := none
  manifest : Option Manifest := none
  bundle : Option Bundle := none
  event : Option Event := none
  kobj : Option KnowledgeObject := none
  eventType : Option EventType := none
  source : Option KoiNetNode := none

/-- The knowledge object that `push` queues for its arguments. -/
def KobjQueue.normalize (arguments : KobjQueue.Arguments) :
    Except Exc KnowledgeObject :=
  match arguments with
  | { rid := some rid, eventType, source, .. } =>
      .ok (.fromRid rid eventType source)
  | { manifest := some manifest, eventType, source, .. } =>
      .ok (.fromManifest manifest eventType source)
  | { bundle := some bundle, eventType, source, .. } =>
      .ok (.fromBundle bundle eventType source)
  | { event := some event, source, .. } => .ok (.fromEvent event source)
  | { kobj := some kobj, .. } => .ok kobj
  | _ => .error .valueError

def KobjQueue.push (kobj : KnowledgeObject) : NodeM Unit :=
  Effect.modify fun state =>
    { state with kobjQueue := state.kobjQueue ++ [kobj] }

def EventQueue.push (event : Event) (target : KoiNetNode) : NodeM Unit :=
  Effect.modify fun state =>
    { state with eventQueue := state.eventQueue ++ [{ event, target }] }

/-- `Cache.list_rids`. -/
def Cache.list (node : Node) (ridTypes : List RIDType) : NodeM (List RID) := do
  let state ← Effect.get
  return state.cache.listRids node.listdir.order ridTypes

theorem KobjQueue.pushEach_run {ι : Type} (made : ι → KnowledgeObject)
    (items : List ι) (state : NodeState) :
    (Effect.forEach items fun item => KobjQueue.push (made item)).run state =
      (.ok (), state.withQueue (state.kobjQueue ++ items.map made)) := by
  induction items generalizing state with
  | nil => simp [NodeState.withQueue]
  | cons item rest induction =>
      have pushed : (KobjQueue.push (made item)).run state =
          (.ok (), state.withQueue (state.kobjQueue ++ [made item])) := rfl
      rw [Effect.forEach, Effect.run_bind_of_ok pushed, induction]
      simp [NodeState.withQueue]

theorem validateContents_run {α : Type} {bundle : Bundle}
    {modelValidate : Contents → Option α} {state : NodeState} :
    (bundle.validateContents modelValidate).run state =
      match modelValidate bundle.contents with
      | some model => (.ok model, state)
      | none => (.error .validationError, state) := by
  unfold Bundle.validateContents
  cases modelValidate bundle.contents <;> rfl

theorem validateContents_some {α : Type} {bundle : Bundle}
    {modelValidate : Contents → Option α} {model : α} {state : NodeState}
    (valid : modelValidate bundle.contents = some model) :
    (bundle.validateContents modelValidate).run state = (.ok model, state) := by
  rw [validateContents_run, valid]

end KoiNet
