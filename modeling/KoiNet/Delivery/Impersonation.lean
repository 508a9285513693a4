import KoiNet.Delivery.Polling
import KoiNet.Foundation.Execution

/-!
# Impersonation

Anyone can post anything to a server, repeat what was posted before and get at
its cache through the other components.  As long as nobody else can sign with
the key of a node, what the server queues from this node is in a payload that
the node has signed for the server, and its poll buffer only loses events if
the node has signed a poll for the server.
-/

namespace KoiNet

open Foundation

/-- Only a broadcast queues anything. -/
theorem ResponseHandler.respond_queue (node : Node) (path : Path)
    (payload : path.Request) (source : KoiNetNode) (state : EventWorkerState)
    (other : path ≠ .broadcastEvents) :
    ((respond node path payload source).run state).2.node.kobjQueue =
      state.node.kobjQueue := by
  by_cases polls : path = .pollEvents
  · subst polls
    rfl
  · obtain ⟨_, responded⟩ :=
      respond_reads node payload source state other polls
    rw [responded]

/-- No other text has the hash in the RID of the peer. -/
def Medium.Peer.Distinct {medium : Medium} (peer : medium.Peer) : Prop :=
  ∀ key, medium.sha256Hash key = peer.node.rid.hash →
    key = PublicKey.toDer medium.library
      (medium.library.publicKey peer.privKey)

/-- Nobody is vouched for as the author but with the author's signature. -/
theorem Vouched.verified {medium : Medium} {author server : medium.Peer}
    {T : Type} {eventsPayload : T → Option EventsPayload}
    {modelDumpJson : UnsignedEnvelope T → String} {cache : Cache}
    {req : SignedEnvelope T} {publicKey : String}
    (vouched : Vouched server.node medium.library.toCryptography eventsPayload
      modelDumpJson cache req publicKey)
    (distinct : author.Distinct) (source : req.sourceNode = author.node.rid) :
    req.verifyWith medium.library.toCryptography modelDumpJson
      (medium.library.publicKey author.privKey) = .ok () := by
  obtain ⟨hashes, pubKey, loaded, verified⟩ := vouched.signed
  rw [source, server.hashes] at hashes
  rw [distinct publicKey hashes, fromDer_toDer (author.signs [])] at loaded
  cases loaded
  exact verified

/-- A server with the texts that the author has signed, the objects that
requests have queued and the events that requests have taken from the poll
buffer of the author. -/
structure Exposure where
  server : EventWorkerState
  signed : List String
  queued : List KnowledgeObject
  taken : List Event

inductive ExposureAction where
  /-- The author signs anything. -/
  | signs (text : String)
  /-- Anyone posts anything. -/
  | posts (path : Path) (body : String)
  /-- The other components of the server do anything. -/
  | changes (server : EventWorkerState)

namespace Exposure

variable {medium : Medium} (author server : medium.Peer)

def opened (state : EventWorkerState) : Exposure :=
  { server := state
    signed := []
    queued := []
    taken := [] }

def act (exposure : Exposure) : ExposureAction → Exposure
  | .signs text => { exposure with signed := exposure.signed ++ [text] }
  | .posts path body =>
      let before := exposure.server
      let after := (NodeServer.endpoint medium server path body before).2
      let pending := before.pollEventBuf.pending author.node.rid
      let left := after.pollEventBuf.pending author.node.rid
      { exposure with
        server := after
        queued := exposure.queued ++
          after.node.kobjQueue.drop before.node.kobjQueue.length
        taken := exposure.taken ++
          pending.take (pending.length - left.length) }
  | .changes state => { exposure with server := state }

/-- What verifies as the author's has been signed by the author. -/
def Unforged (signed : List String) : ExposureAction → Prop
  | .posts path body => ∀ req,
      (medium.requestText path).decode body = some req →
      req.verifyWith medium.library.toCryptography (medium.dumpRequest path)
        (medium.library.publicKey author.privKey) = .ok () →
      medium.dumpRequest path req.unsigned ∈ signed
  | _ => True

def Step (action : ExposureAction) (before after : Exposure) : Prop :=
  Unforged author before.signed action ∧
    after = before.act author server action

/-- The author has signed this payload for the server. -/
def Authorised (signed : List String) (path : Path) (payload : path.Request) :
    Prop :=
  medium.dumpRequest path
    { payload := payload
      sourceNode := author.node.rid
      targetNode := server.node.rid } ∈ signed

/-- What has been done in the author's name has been signed by the author. -/
structure Genuine (exposure : Exposure) : Prop where
  queued : ∀ kobj ∈ exposure.queued, kobj.source = some author.node.rid →
    ∃ payload : EventsPayload, ∃ event ∈ payload.events,
      kobj = Medium.queuedFrom author event ∧
      Authorised author server exposure.signed .broadcastEvents payload
  taken : exposure.taken ≠ [] → ∃ payload : PollEvents,
    Authorised author server exposure.signed .pollEvents payload

variable {author server} {action : ExposureAction} {before after : Exposure}

theorem Genuine.mono (genuine : Genuine author server before)
    (queued : after.queued = before.queued) (taken : after.taken = before.taken)
    (signed : before.signed ⊆ after.signed) : Genuine author server after := by
  constructor
  · intro kobj member source
    rw [queued] at member
    obtain ⟨payload, event, among, same, authorised⟩ :=
      genuine.queued kobj member source
    exact ⟨payload, event, among, same, signed authorised⟩
  · intro some
    rw [taken] at some
    obtain ⟨payload, authorised⟩ := genuine.taken some
    exact ⟨payload, signed authorised⟩

/-- A request that has been vouched for in the author's name has been signed by
the author. -/
theorem Unforged.authorised {path : Path} {body : String}
    {req : SignedEnvelope path.Request} {cache : Cache} {publicKey : String}
    {signed : List String}
    (unforged : Unforged author signed (.posts path body))
    (distinct : author.Distinct)
    (read : (medium.requestText path).decode body = some req)
    (vouched : Vouched server.node medium.library.toCryptography
      path.requestEvents (medium.dumpRequest path) cache req publicKey)
    (source : req.sourceNode = author.node.rid) :
    Authorised author server signed path req.payload := by
  have member := unforged req read (vouched.verified distinct source)
  unfold SignedEnvelope.unsigned at member
  rw [source, vouched.addressed] at member
  exact member

/-- What a request queues and takes in the author's name has been signed by the
author. -/
theorem Genuine.posts {path : Path} {body : String}
    (genuine : Genuine author server before) (distinct : author.Distinct)
    (unforged : Unforged author before.signed (.posts path body)) :
    Genuine author server (before.act author server (.posts path body)) := by
  rcases NodeServer.endpoint_cases server path body before.server with
    unchanged | ⟨req, publicKey, response, read, vouched, responded⟩
  · refine genuine.mono ?_ ?_ (List.Subset.refl _)
    · simp [act, unchanged]
    · simp [act, unchanged]
  · have authorised := unforged.authorised distinct read vouched
    constructor
    · intro kobj member source
      rcases List.mem_append.mp member with earlier | queued
      · exact genuine.queued kobj earlier source
      · by_cases broadcasts : path = .broadcastEvents
        · subst broadcasts
          rw [ResponseHandler.respond_broadcast] at responded
          have queue := congrArg
            (fun ended => ended.2.node.kobjQueue) responded
          dsimp only [NodeState.withQueue] at queue
          rw [← queue, List.drop_left] at queued
          obtain ⟨event, among, rfl⟩ := List.mem_map.mp queued
          have isAuthor : req.sourceNode = author.node.rid :=
            Option.some.inj source
          refine ⟨req.payload, event, among, ?_, authorised isAuthor⟩
          rw [isAuthor]
          rfl
        · have same := ResponseHandler.respond_queue server.node path
            req.payload req.sourceNode before.server broadcasts
          rw [responded] at same
          dsimp only at same
          rw [same, List.drop_length] at queued
          cases queued
    · intro some
      obtain ⟨taken, split, polls⟩ := ResponseHandler.respond_takes
        server.node path req.payload req.sourceNode author.node.rid
        before.server
      rw [responded] at split
      by_cases earlier : before.taken = []
      · have now : taken ≠ [] := by
          rintro rfl
          apply some
          unfold act
          dsimp only
          rw [earlier, split]
          simp
        obtain ⟨rfl, source⟩ := polls now
        exact ⟨req.payload, authorised source⟩
      · exact genuine.taken earlier

theorem Step.genuine (genuine : Genuine author server before)
    (distinct : author.Distinct)
    (step : Step author server action before after) :
    Genuine author server after := by
  obtain ⟨unforged, rfl⟩ := step
  cases action with
  | signs text =>
      exact genuine.mono rfl rfl (List.subset_append_left _ _)
  | posts path body => exact genuine.posts distinct unforged
  | changes state => exact genuine.mono rfl rfl (List.Subset.refl _)

/-- In every run in which nobody but the author signs with the author's key,
what requests have queued in the author's name is in payloads that the author
has signed for the server, and requests have only taken events from the
author's poll buffer if the author has signed a poll for the server. -/
theorem genuine_of_trace {actions : List ExposureAction}
    {state : EventWorkerState} {last : Exposure} (distinct : author.Distinct)
    (trace : Trace (Step author server) actions (opened state) last) :
    Genuine author server last := by
  have initial : Genuine author server (opened state) :=
    { queued := fun _ member => by cases member
      taken := fun some => absurd rfl some }
  exact trace.invariant (fun genuine step => step.genuine genuine distinct)
    initial

namespace Parting

open Acquaintance

def envelope : UnsignedEnvelope EventsPayload :=
  { payload := { events := [farewell] }
    sourceNode := newcomer.node.rid
    targetNode := acquaintance.node.rid }

def body : String :=
  match Acquaintance.medium.posted newcomer acquaintance.node.rid
      .broadcastEvents envelope.payload with
    | .ok body => body
    | .error _ => ""

theorem body_posted :
    Acquaintance.medium.posted newcomer acquaintance.node.rid .broadcastEvents
        envelope.payload = .ok body ∧
      ∃ req,
        (Acquaintance.medium.requestText .broadcastEvents).decode body =
          some req ∧
        req.unsigned = envelope := by
  obtain ⟨req, created, contents, _, read⟩ :=
    farewell_legible.envelope (.request .broadcastEvents)
  have created : SecureManager.createEnvelope newcomer.node
      Acquaintance.medium.library newcomer.privKey
      (Acquaintance.medium.dumpRequest .broadcastEvents) envelope.payload
      acquaintance.node.rid = .ok req := created
  have posted : Acquaintance.medium.posted newcomer acquaintance.node.rid
      .broadcastEvents envelope.payload =
        .ok ((Acquaintance.medium.requestText .broadcastEvents).encode
          req) := by
    unfold Medium.posted
    rw [created]
    rfl
  unfold body
  rw [posted]
  exact ⟨rfl, req, read, contents⟩

def signs : ExposureAction :=
  .signs (Acquaintance.medium.dumpRequest .broadcastEvents envelope)

/-- Someone else may have caught the request on its way. -/
def posts : ExposureAction :=
  .posts .broadcastEvents body

def start : Exposure :=
  opened (withCache (Cache.empty.write Newcomer.bundle))

def signed : Exposure :=
  start.act newcomer acquaintance signs

def posted : Exposure :=
  signed.act newcomer acquaintance posts

theorem queued : posted.queued = [Medium.queuedFrom newcomer farewell] := by
  have delivered := Medium.deliver_arrived
    ⟨farewell_legible, .cached rfl rfl⟩
    (ResponseHandler.respond_broadcast node envelope.payload newcomer.node.rid
      start.server)
  unfold Medium.deliver at delivered
  rw [show Acquaintance.medium.posted newcomer acquaintance.node.rid
    .broadcastEvents { events := [farewell] } = .ok body from
      body_posted.1] at delivered
  have after : (NodeServer.endpoint Acquaintance.medium acquaintance
      .broadcastEvents body start.server).2 = _ :=
    congrArg Prod.snd delivered
  unfold posted posts act
  dsimp only
  rw [show signed.server = start.server from rfl, after]
  rfl

theorem distinct : newcomer.Distinct := by
  intro key same
  exact same.trans (by decide)

theorem unforged : Unforged newcomer signed.signed posts := by
  obtain ⟨_, sent, read, contents⟩ := body_posted
  intro req decoded _
  cases read.symm.trans decoded
  rw [contents]
  exact List.mem_singleton.mpr rfl

theorem trace :
    Trace (Step newcomer acquaintance) [signs, posts] start posted :=
  .cons ⟨trivial, rfl⟩ (.cons ⟨unforged, rfl⟩ (.nil _))

end Parting

theorem genuine_of_trace_parting :
    Parting.posted.queued =
        [Medium.queuedFrom Acquaintance.newcomer Acquaintance.farewell] ∧
      Genuine Acquaintance.newcomer Acquaintance.acquaintance Parting.posted :=
  ⟨Parting.queued, genuine_of_trace Parting.distinct Parting.trace⟩

end Exposure

end KoiNet
