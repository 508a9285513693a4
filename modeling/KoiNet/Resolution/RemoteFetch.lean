import KoiNet.Pipeline.Frames
import KoiNet.Resolution.Dereferencing
import KoiNet.Security.RemoteCalls

/-!
# Dereferencing among servers

A node asks the providers it knows one after another over the network.  It
finds what the first of them has in its cache, of those that listen where it
posts and whose replies arrive.
-/

namespace KoiNet

open Foundation

/-- A server in some state, and what becomes of requests to it. -/
structure Site (medium : Medium) where
  peer : medium.Peer
  state : EventWorkerState
  fate : Fate

/-- The servers of a network by their RIDs. -/
structure Directory (medium : Medium) where
  site : KoiNetNode → Option (Site medium)
  named : ∀ {rid found}, site rid = some found → found.peer.node.rid = rid

section Servers

variable {medium : Medium}

namespace Site

variable (site : Site medium) (client : medium.Peer) (cache : Cache)

/-- A request of a client with this cache gets there and back. -/
def Answers : Prop :=
  site.fate = .answered ∧
    medium.Posts client site.peer cache .fetchBundles

instance : Decidable (site.Answers client cache) :=
  inferInstanceAs (Decidable (_ ∧ _))

/-- What the server sends for a RID. -/
def sends (rid : RID) : BundlesPayload :=
  { bundles := (ResponseHandler.readBundles site.state.node.cache [rid]).1
    notFound := (ResponseHandler.readBundles site.state.node.cache [rid]).2 }

/-- What a client can get from the server. -/
def offers (rid : RID) : Option Bundle :=
  if site.Answers client cache then site.state.node.cache.read rid else none

end Site

namespace Directory

variable (directory : Directory medium) (client : medium.Peer)

/-- The client in the network of these servers. -/
def among : Node :=
  { client.node with
    answer := fun state url peer path request =>
      match directory.site peer with
      | none => .unreachable
      | some site =>
          (medium.wire client site.peer site.fate site.state).exchange
            medium.library.toCryptography client.node state url peer path
            request }

/-- What a client with this cache can get from a node. -/
def offered (cache : Cache) (rid : RID) (peer : KoiNetNode) :
    Option (Bundle × KoiNetNode) :=
  ((directory.site peer).bind fun site => site.offers client cache rid).map
    fun bundle => (bundle, peer)

/-- The first node from which the client can get a bundle. -/
def first (cache : Cache) (rid : RID) (peers : List KoiNetNode) :
    Option (Bundle × KoiNetNode) :=
  peers.findSome? (directory.offered client cache rid)

/-- The profiles of the nodes that are asked state a URL, and those that answer
know the client and are understood by it. -/
structure Serves (cache : Cache) (rid : RID) (peers : List KoiNetNode) :
    Prop where
  addressed : ∀ peer ∈ peers, peer ≠ client.node.rid ∧
    ∃ url, RequestHandler.resolve client.node cache peer = .ok (some url)
  asked : ∀ peer ∈ peers, ∀ site, directory.site peer = some site →
    site.Answers client cache →
    Medium.Arrives (Path.fetchBundles.requestEnvelope medium.leaves) client
      site.peer site.state.node.cache ({ rids := [rid] } : FetchBundles)
  told : ∀ peer ∈ peers, ∀ site, directory.site peer = some site →
    site.Answers client cache →
    ∀ model, Path.fetchBundles.responseEnvelope medium.leaves = some model →
      Medium.Arrives model site.peer client cache (site.sends rid)

theorem Serves.tail {directory : Directory medium} {client : medium.Peer}
    {cache : Cache} {rid : RID} {peer : KoiNetNode} {rest : List KoiNetNode}
    (serves : directory.Serves client cache rid (peer :: rest)) :
    directory.Serves client cache rid rest :=
  { addressed := fun later member =>
      serves.addressed later (List.mem_cons_of_mem peer member)
    asked := fun later member =>
      serves.asked later (List.mem_cons_of_mem peer member)
    told := fun later member =>
      serves.told later (List.mem_cons_of_mem peer member) }

end Directory

namespace Directory

variable {directory : Directory medium} {client : medium.Peer}
  {state : NodeState} {rid : RID} {peer : KoiNetNode}

section Request

variable {site : Site medium}

theorem outcome_answered (found : directory.site peer = some site)
    (answers : site.Answers client state.cache)
    (asked : Medium.Arrives (Path.fetchBundles.requestEnvelope medium.leaves)
      client site.peer site.state.node.cache ({ rids := [rid] } : FetchBundles))
    (told : ∀ model,
      Path.fetchBundles.responseEnvelope medium.leaves = some model →
        Medium.Arrives model site.peer client state.cache (site.sends rid)) :
    RequestHandler.outcome (directory.among client) state peer .fetchBundles
        ({ rids := [rid] } : FetchBundles) =
      .ok (site.sends rid) := by
  obtain rfl := directory.named found
  have among : RequestHandler.outcome (directory.among client) state
      site.peer.node.rid .fetchBundles ({ rids := [rid] } : FetchBundles) =
        RequestHandler.outcome (client.node.over medium.library.toCryptography
          (medium.wire client site.peer site.fate site.state)) state
          site.peer.node.rid .fetchBundles
          ({ rids := [rid] } : FetchBundles) := by
    unfold RequestHandler.outcome Directory.among Node.over
    simp only [found]
    rfl
  have responded : (ResponseHandler.respond site.peer.node .fetchBundles
      ({ rids := [rid] } : FetchBundles) client.node.rid).run site.state =
        (.ok (some (site.sends rid)), site.state) := rfl
  obtain ⟨text, replied, unwrapped⟩ := Medium.unwrap_arrived site.fate
    site.state rfl rfl rfl (told _ rfl)
  rw [among, Medium.outcome_reached answers.2.reaches, if_pos answers.1,
    Medium.deliver_arrived asked responded]
  exact (congrArg (fun reply => RequestHandler.received
    ((medium.wire client site.peer site.fate site.state).ended
      medium.library.toCryptography client.node state .fetchBundles reply))
        replied).trans unwrapped

theorem outcome_unanswered (other : peer ≠ client.node.rid) {url : String}
    (resolved : RequestHandler.resolve client.node state.cache peer =
      .ok (some url))
    (silent : ∀ site, directory.site peer = some site →
      ¬site.Answers client state.cache) (request : FetchBundles) :
    RequestHandler.outcome (directory.among client) state peer .fetchBundles
      request = .error (.request .transport) := by
  have among : RequestHandler.resolve (directory.among client) state.cache
      peer = .ok (some url) := resolved
  have differs : peer ≠ (directory.among client).rid := other
  unfold RequestHandler.outcome
  rw [if_neg differs, among]
  dsimp only
  unfold Directory.among
  dsimp only
  cases found : directory.site peer with
  | none => rfl
  | some site =>
      obtain rfl := directory.named found
      have lost : ¬(some (url ++ Path.fetchBundles.str) =
          site.peer.node.profile.baseUrl.map (· ++ Path.fetchBundles.str) ∧
            site.fate = .answered) := by
        rintro ⟨listens, answered⟩
        refine silent site found ⟨answered, other, url, ?_, listens⟩
        rw [resolved]
        rfl
      have posted : (medium.wire client site.peer site.fate site.state).post
          state (url ++ Path.fetchBundles.str) site.peer.node.rid .fetchBundles
          request = .noConnection :=
        if_neg lost
      dsimp only
      rw [Wire.exchange_eq, posted]
      rfl

end Request

theorem fetchBundles_quiet (node : Node) (peer : KoiNetNode) (rids : List RID) :
    (quietFrame node).Keeps (RequestHandler.fetchBundles node peer rids) :=
  makeRequest_quiet peer .fetchBundles _

/-- The request to one node, with what it offers. -/
theorem fetchBundles_run {cache : Cache} (same : state.cache = cache)
    {peers : List KoiNetNode} (member : peer ∈ peers)
    (serves : directory.Serves client cache rid peers) :
    ∃ after, Quiet (directory.among client) state after ∧
      ((∃ payload, (RequestHandler.fetchBundles (directory.among client) peer
            [rid]).run state = (.ok payload, after) ∧
          payload.bundles =
            ((directory.offered client cache rid peer).map Prod.fst).toList) ∨
        (RequestHandler.fetchBundles (directory.among client) peer
            [rid]).run state = (.error (.request .transport), after) ∧
          directory.offered client cache rid peer = none) := by
  subst same
  obtain ⟨after, ran, _⟩ := RequestHandler.makeRequest_run
    (directory.among client) state peer .fetchBundles
    ({ rids := [rid] } : FetchBundles)
  have quiet := fetchBundles_quiet (directory.among client) peer [rid] state
  have ran : (RequestHandler.fetchBundles (directory.among client) peer
    [rid]).run state = _ := ran
  rw [ran] at quiet
  refine ⟨after, quiet, ?_⟩
  by_cases answering : ∃ site, directory.site peer = some site ∧
      site.Answers client state.cache
  · obtain ⟨site, found, answers⟩ := answering
    rw [outcome_answered found answers (serves.asked peer member site found
      answers) (serves.told peer member site found answers)] at ran
    refine .inl ⟨_, ran, ?_⟩
    unfold offered Site.offers Site.sends ResponseHandler.readBundles
    rw [found]
    simp only [Option.bind_some, if_pos answers]
    cases stored : site.state.node.cache.read rid <;> simp [stored]
  · have silent : ∀ site, directory.site peer = some site →
        ¬site.Answers client state.cache :=
      fun site found answers => answering ⟨site, found, answers⟩
    obtain ⟨other, url, resolved⟩ := serves.addressed peer member
    rw [outcome_unanswered other resolved silent] at ran
    refine .inr ⟨ran, ?_⟩
    unfold offered
    cases found : directory.site peer with
    | none => rfl
    | some site =>
        unfold Site.offers
        simp [if_neg (silent site found)]

theorem offered_sender {cache : Cache} {bundle : Bundle} {sender : KoiNetNode}
    (gives : directory.offered client cache rid peer = some (bundle, sender)) :
    peer = sender := by
  obtain ⟨_, _, same⟩ := Option.map_eq_some_iff.mp gives
  exact congrArg Prod.snd same

theorem fetchFirst_first {cache : Cache} {peers : List KoiNetNode}
    (same : state.cache = cache) (serves : directory.Serves client cache rid
      peers) (earlier : Option KoiNetNode) :
    ∃ source after, (NetworkResolver.fetchFirst (directory.among client) rid
        peers earlier).run state =
        (.ok ((directory.first client cache rid peers).map Prod.fst, source),
          after) ∧
      (∀ bundle sender, directory.first client cache rid peers =
        some (bundle, sender) → source = some sender) ∧
      Quiet (directory.among client) state after := by
  induction peers generalizing state earlier with
  | nil =>
      refine ⟨earlier, state, rfl, ?_, (quietFrame _).refl state⟩
      intro bundle sender nothing
      cases nothing
  | cons peer rest induction =>
      obtain ⟨between, quiet, asked⟩ :=
        fetchBundles_run same List.mem_cons_self serves
      obtain ⟨source, after, fetched, sent, later⟩ :=
        induction (quiet.cache.trans same) serves.tail (some peer)
      have whole := (quietFrame (directory.among client)).trans quiet later
      rw [Effector.fetchFirst_cons_run]
      unfold first
      rw [List.findSome?_cons]
      cases gives : directory.offered client cache rid peer with
      | none =>
          refine ⟨source, after, ?_, sent, whole⟩
          rcases asked with ⟨payload, returned, bundles⟩ | ⟨failed, _⟩
          · rw [gives] at bundles
            rw [returned]
            dsimp only
            rw [show payload.bundles = [] from bundles]
            exact fetched
          · rw [failed]
            exact fetched
      | some found =>
          obtain ⟨bundle, sender⟩ := found
          obtain rfl := offered_sender gives
          rcases asked with ⟨payload, returned, bundles⟩ | ⟨_, nothing⟩
          · rw [gives] at bundles
            rw [returned]
            dsimp only
            rw [show payload.bundles = [bundle] from bundles]
            refine ⟨some peer, between, rfl, ?_, quiet⟩
            intro other otherSender same
            cases same
            rfl
          · cases gives.symm.trans nothing

open Effector

/-- Looking a bundle up that is neither cached nor handled gives what the
first provider offers. -/
theorem lookUp_first {derefHandlers : List DerefHandler} {refreshCache : Bool}
    (missed : refreshCache = true ∨ state.cache.read rid = none)
    (unhandled : derefHandlers.find? (fun handler =>
      handler.ridTypes.contains rid.type) = none)
    (readable : Readable client.node state.cache)
    (serves : directory.Serves client state.cache rid
      (providers client.node rid.type state.cache)) :
    ∃ after, Quiet (directory.among client) state after ∧
      (lookUp (directory.among client) derefHandlers rid refreshCache
        true).run state =
        (.ok ((directory.first client state.cache rid
          (providers client.node rid.type state.cache)).map fun found =>
            (found.1, .inr (some found.2))), after) := by
  obtain ⟨source, after, fetched, sent, quiet⟩ :=
    fetchFirst_first rfl serves none
  have nothing : (tryHandler derefHandlers rid).run state =
      (.ok none, state) := by
    unfold tryHandler
    rw [unhandled]
    rfl
  refine ⟨after, quiet, ?_⟩
  unfold lookUp
  rw [missed_iff] at missed
  rw [orElse, Effect.run_bind_of_ok tryCache_run, missed]
  dsimp only [Option.map_none]
  rw [orElse, Effect.run_bind_of_ok nothing]
  unfold onlyIf
  have readable : Readable (directory.among client) state.cache := readable
  rw [if_pos rfl, tryNetwork_run readable]
  rw [show (NetworkResolver.fetchFirst (directory.among client) rid
    (providers (directory.among client) rid.type state.cache) none).run state =
      _ from fetched]
  dsimp only
  cases gives : directory.first client state.cache rid
      (providers client.node rid.type state.cache) with
  | none => rfl
  | some found =>
      rw [sent found.1 found.2 gives]
      rfl

/-- Dereferencing over the network returns what the first of the providers
that can be reached has in its cache, and queues it with this provider as its
source. -/
theorem deref_first (directory : Directory medium) (client : medium.Peer)
    (derefHandlers : List DerefHandler) (wait : NodeM Unit) (rid : RID)
    (refreshCache handleResult writeThrough : Bool) (state : NodeState)
    (missed : refreshCache = true ∨ state.cache.read rid = none)
    (unhandled : derefHandlers.find? (fun handler =>
      handler.ridTypes.contains rid.type) = none)
    (readable : Readable client.node state.cache)
    (serves : directory.Serves client state.cache rid
      (providers client.node rid.type state.cache)) :
    let found := (directory.first client state.cache rid
      (providers client.node rid.type state.cache)).map fun found =>
        (found.1, Origin.network found.2)
    ∃ between, Quiet (directory.among client) state between ∧
      (deref (directory.among client) derefHandlers wait rid refreshCache true
        handleResult writeThrough).run state =
        if writeThrough ∧ announced handleResult found ≠ [] then
          (wait >>= fun _ => pure (found.map Prod.fst)).run
            (queued handleResult (found, between))
        else
          (.ok (found.map Prod.fst), queued handleResult (found, between)) := by
  intro found
  obtain ⟨between, quiet, looked⟩ :=
    lookUp_first missed unhandled readable serves
  have looked : (lookUp (directory.among client) derefHandlers rid
      refreshCache true).run state =
        (.ok ((found, between).1.map sourced), (found, between).2) := by
    rw [looked, Option.map_map]
    rfl
  exact ⟨between, quiet, deref_run handleResult writeThrough looked⟩

end Directory

end Servers

namespace Provision

open Acquaintance (sealed label label_sealed script parses)

def rid : RID :=
  .node Newcomer.rid

def request : FetchBundles :=
  { rids := [rid] }

def payload : BundlesPayload :=
  { bundles := [Newcomer.bundle] }

def requestModel : EnvelopeModel FetchBundles :=
  Path.fetchBundles.requestEnvelope Acquaintance.leaves

def payloadModel : EnvelopeModel BundlesPayload :=
  { payload := BundlesPayload.json Acquaintance.leaves
    leavesFaithful := BundlesPayload.LeavesFaithful Acquaintance.leaves
    events := Path.fetchBundles.responseEvents }

/-- The acquaintance, which provides the state of nodes. -/
def node : Node :=
  { Acquaintance.node with
    config :=
      { Acquaintance.node.config with
        nodeProfile :=
          { Acquaintance.node.config.nodeProfile with
            provides := { event := [], state := [.koiNetNode] } } } }

def messages : List Json :=
  [sealed requestModel Newcomer.node [0, 0, 0] request Acquaintance.node.rid,
    sealed payloadModel node [4, 16, 65] payload Newcomer.rid]

theorem messages_labels : (messages.map label).Nodup := by
  unfold messages
  simp only [List.map_cons, List.map_nil]
  rw [label_sealed _ _ _ _ _ (by decide), label_sealed _ _ _ _ _ (by decide)]
  decide

def medium : Medium :=
  { Acquaintance.medium with text := script messages }

def client : medium.Peer :=
  Acquaintance.newcomer.rewritten (script messages)

/-- The client has been introduced to the provider. -/
def site : Site medium :=
  { peer :=
      Medium.Peer.rewritten { Acquaintance.acquaintance with node := node }
        (script messages)
    state := Acquaintance.withCache (Cache.empty.write Newcomer.bundle)
    fate := .answered }

def directory : Directory medium :=
  { site := fun peer => if peer = Acquaintance.node.rid then some site else none
    named := fun {peer found} isFound => by
      split at isFound
      · rename_i same
        obtain rfl := Option.some.inj isFound
        exact same.symm
      · cases isFound }

/-- The profile of the provider. -/
def profile : Bundle :=
  { manifest := Acquaintance.bundle.manifest
    contents := Acquaintance.bundle.contents ++
      [("provides", .dict [("state", .list [.ridType .koiNetNode])])] }

def state : NodeState :=
  .fresh (Cache.empty.write profile)

theorem listed : Effector.providers client.node rid.type state.cache =
    [Acquaintance.node.rid] :=
  rfl

theorem request_legible :
    Medium.Legible requestModel client site.peer request :=
  { decodes := fun other member => by
      cases List.mem_singleton.mp member
      rfl
    source := rfl
    target := rfl
    parses := parses messages_labels List.mem_cons_self }

theorem payload_legible :
    Medium.Legible payloadModel site.peer client payload :=
  { decodes :=
      { bundles := fun bundle member => by
          cases List.mem_singleton.mp member
          exact
            { manifest := ⟨rfl, rfl⟩
              contents := rfl }
        notFound := fun _ member => by cases member
        deferred := fun _ member => by cases member }
    source := rfl
    target := rfl
    parses := parses messages_labels
      (List.mem_cons_of_mem _ List.mem_cons_self) }

theorem readable : Effector.Readable client.node state.cache := by
  intro nodeRid member _
  cases List.mem_singleton.mp member
  exact ⟨_, rfl⟩

theorem found_site {found : Site medium}
    (isFound : directory.site Acquaintance.node.rid = some found) :
    found = site := by
  unfold directory at isFound
  dsimp only at isFound
  rw [if_pos rfl] at isFound
  exact (Option.some.inj isFound).symm

theorem serves : directory.Serves client state.cache rid
    [Acquaintance.node.rid] :=
  { addressed := fun peer member => by
      cases List.mem_singleton.mp member
      exact ⟨by decide, "url", rfl⟩
    asked := fun peer member found isFound _ => by
      cases List.mem_singleton.mp member
      obtain rfl := found_site isFound
      exact ⟨request_legible, .cached rfl rfl⟩
    told := fun peer member found isFound _ model isModel => by
      cases List.mem_singleton.mp member
      obtain rfl := found_site isFound
      cases isModel
      exact ⟨payload_legible, .cached rfl rfl⟩ }

theorem offered : directory.first client state.cache rid
    [Acquaintance.node.rid] =
      some (Newcomer.bundle, Acquaintance.node.rid) :=
  rfl

end Provision

/-- The client fetches its own profile from the provider. -/
theorem Directory.deref_first_provision :
    ∃ between, Quiet (Provision.directory.among Provision.client)
        Provision.state between ∧
      (Effector.deref (Provision.directory.among Provision.client) []
        (pure ()) Provision.rid false true true false).run Provision.state =
        (.ok (some Newcomer.bundle),
          between.withQueue (between.kobjQueue ++
            [.fromBundle Newcomer.bundle none
              (some Acquaintance.node.rid)])) := by
  have serves := Provision.serves
  rw [← Provision.listed] at serves
  obtain ⟨between, quiet, ran⟩ := deref_first Provision.directory
    Provision.client [] (pure ()) Provision.rid false true false
    Provision.state (.inr rfl) rfl Provision.readable serves
  rw [Provision.listed, Provision.offered, if_neg (by simp)] at ran
  exact ⟨between, quiet, ran⟩

end KoiNet
