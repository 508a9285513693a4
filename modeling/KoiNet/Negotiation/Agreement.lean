import KoiNet.Negotiation.Phases

/-!
# What two nodes hold when they have negotiated an edge

From two nodes that agree on their edge, or on having none, a proposal of the
subscriber leads through the phases to one of four ends.  In three of them the
nodes agree again; a refused change to an existing edge leaves it with the
provider only.
-/

namespace KoiNet

open Foundation Frame

namespace Negotiation

variable (negotiation : Negotiation)

/-- The subscriber has just queued this proposal, in a state in which both
nodes hold `old` and nothing else about the edge is pending. -/
structure Starts (old : Option Bundle) (proposal : Bundle)
    (first : Parties) : Prop where
  acquainted : negotiation.Acquainted first
  proposes : ∃ (available : List RIDType) (before between : NodeState),
    before.edgeView negotiation.provider.rid negotiation.edgeRid =
      { held := old, queued := [], sent := [] } ∧
    (NodeContactHandler.proposal negotiation.subscriber
      negotiation.provider.rid available).run before =
        (.ok (some proposal), between) ∧
    first.subscriber = between.withQueue
      (between.kobjQueue ++ [.fromBundle proposal none none])
  named : proposal.manifest.rid = .edge negotiation.edgeRid
  provider : negotiation.providerView first =
    { held := old, queued := [], sent := [] }
  joins : ∀ previous edgeProfile, old = some previous →
    EdgeProfile.modelValidate previous.contents = some edgeProfile →
    edgeProfile.source = negotiation.provider.rid ∧
      edgeProfile.target = negotiation.subscriber.rid

/-- Both hold the same edge, or neither holds one. -/
def Agree (parties : Parties) : Prop :=
  parties.subscriber.cache.read (.edge negotiation.edgeRid) =
    parties.provider.cache.read (.edge negotiation.edgeRid)

/-- Both hold the same edge, and it is approved. -/
def Approved (parties : Parties) : Prop :=
  ∃ bundle edgeProfile,
    parties.subscriber.cache.read (.edge negotiation.edgeRid) =
      some bundle ∧
    parties.provider.cache.read (.edge negotiation.edgeRid) = some bundle ∧
    EdgeProfile.modelValidate bundle.contents = some edgeProfile ∧
    edgeProfile.status = .approved

/-- The edge the proposal was to change is left with the provider only. -/
def LeftWithProvider (old : Option Bundle) (parties : Parties) : Prop :=
  old ≠ none ∧
    parties.subscriber.cache.read (.edge negotiation.edgeRid) = none ∧
    parties.provider.cache.read (.edge negotiation.edgeRid) = old

/-- Every approval the provider generates from now on is newer than the
proposal. -/
def ApprovesLater (proposal : Bundle) (edgeProfile : EdgeProfile)
    (parties : Parties) : Prop :=
  ∀ clockReads, parties.provider.clockReads ≤ clockReads →
    NewerThan (some proposal)
      (negotiation.approval edgeProfile clockReads).manifest

/-- A run of these steps that leaves nothing about the proposed edge
pending. -/
structure DrainedRun (step : Parties → Parties → Prop) (old : Option Bundle)
    (proposal : Bundle) (first last : Parties) : Prop where
  starts : negotiation.Starts old proposal first
  run : Run step first last
  drained : negotiation.Drained last

/-- The invariant of the runs of a negotiation. -/
structure Underway (old : Option Bundle) (proposal : Bundle)
    (edgeProfile : EdgeProfile) (start : Nat) (parties : Parties) :
    Prop where
  sound : negotiation.Sound parties
  acquainted : negotiation.Acquainted parties
  clockReads : start ≤ parties.provider.clockReads
  phase : negotiation.Phase old proposal edgeProfile start
    (negotiation.subscriberView parties) (negotiation.providerView parties)

end Negotiation

namespace Negotiation

variable {negotiation : Negotiation} {old : Option Bundle}
  {proposal : Bundle} {edgeProfile : EdgeProfile} {start : Nat}

theorem Starts.underway {first : Parties}
    (starts : negotiation.Starts old proposal first)
    (sound : negotiation.Sound first) :
    ∃ edgeProfile, negotiation.Proposes proposal edgeProfile ∧
      negotiation.Underway old proposal edgeProfile first.provider.clockReads
        first := by
  obtain ⟨available, before, between, quiet, returned, queued⟩ :=
    starts.proposes
  obtain ⟨edgeRid, edgeProfile, named, contents, status, ends⟩ :=
    proposal_ends returned
  cases RID.edge.inj (starts.named.symm.trans named)
  have joined : edgeProfile.source = negotiation.provider.rid ∧
      edgeProfile.target = negotiation.subscriber.rid := by
    rcases ends with ends | ⟨previous, previousProfile, cached, valid,
      source, target⟩
    · exact ends
    · have held := congrArg EdgeView.held quiet
      rw [source, target]
      exact starts.joins previous previousProfile (held.symm.trans cached)
        valid
  have kept : between.edgeView negotiation.provider.rid negotiation.edgeRid =
      before.edgeView negotiation.provider.rid negotiation.edgeRid := by
    have unmoved : (unchanged fun state => NodeState.edgeView state
        negotiation.provider.rid negotiation.edgeRid).Keeps
          (NodeContactHandler.proposal negotiation.subscriber
            negotiation.provider.rid available) :=
      proposal_keeps (fun _ _ => rfl) _ _
    have same := unmoved before
    rw [returned] at same
    exact same
  have view : negotiation.subscriberView first =
      { held := old
        queued := [.fromBundle proposal none none]
        sent := [] } := by
    unfold subscriberView
    rw [queued, NodeState.edgeView_push, kept, quiet, if_pos]
    · rfl
    · exact starts.named
  refine ⟨edgeProfile, ?_, ?_⟩
  · exact
      { named := named
        contents := contents
        source := joined.1
        target := joined.2
        status := status }
  · refine
      { sound := sound
        acquainted := starts.acquainted
        clockReads := Nat.le_refl _
        phase := ?_ }
    rw [view, starts.provider]
    exact .proposed

namespace Underway

variable {before after : Parties}

/-- What both nodes retain keeps the invariant, if the phase is kept. -/
private theorem advance
    (underway : negotiation.Underway old proposal edgeProfile start before)
    (subscriber : Retains negotiation.subscriber negotiation.provider.rid
      before.subscriber after.subscriber)
    (provider : Retains negotiation.provider negotiation.subscriber.rid
      before.provider after.provider)
    (phase : negotiation.Phase old proposal edgeProfile start
      (negotiation.subscriberView after) (negotiation.providerView after)) :
    negotiation.Underway old proposal edgeProfile start after :=
  { sound :=
      { subscriber := subscriber.sound underway.sound.subscriber
        provider := provider.sound underway.sound.provider }
    acquainted := provider.knows _ underway.acquainted
    clockReads := Nat.le_trans underway.clockReads provider.clockReads
    phase := phase }

theorem step (proposes : negotiation.Proposes proposal edgeProfile)
    (underway : negotiation.Underway old proposal edgeProfile start before)
    (step : negotiation.UndisturbedStep before after) :
    negotiation.Underway old proposal edgeProfile start after := by
  have phase := underway.phase
  unfold subscriberView providerView at phase
  cases step with
  | subscriber before after provider work =>
      have provides : Retains negotiation.provider negotiation.subscriber.rid
          provider provider := .of_same rfl (Nat.le_refl _)
      cases work with
      | work kobj rest queue undisturbed =>
          by_cases about : kobj.rid = .edge negotiation.edgeRid
          · rw [NodeState.edgeView_pop queue about] at phase
            have sound : SoundCache negotiation.subscriber
                (before.withQueue rest).cache := underway.sound.subscriber
            obtain ⟨worked, retains⟩ :=
              phase.subscriber_works proposes rfl sound
            exact underway.advance retains.of_popped provides worked
          · have unrelated := undisturbed about
            rw [← NodeState.edgeView_drop queue about,
              ← unrelated.view] at phase
            exact underway.advance unrelated.of_popped provides phase
      | elsewhere _ unrelated =>
          rw [← unrelated.view] at phase
          exact underway.advance unrelated.toRetains provides phase
  | provider before after subscriber work =>
      have subscribes : Retains negotiation.subscriber negotiation.provider.rid
          subscriber subscriber := .of_same rfl (Nat.le_refl _)
      cases work with
      | work kobj rest queue undisturbed =>
          by_cases about : kobj.rid = .edge negotiation.edgeRid
          · rw [NodeState.edgeView_pop queue about] at phase
            have sound : SoundCache negotiation.provider
                (before.withQueue rest).cache := underway.sound.provider
            obtain ⟨worked, retains⟩ :=
              phase.provider_works proposes rfl sound underway.acquainted
                underway.clockReads
            exact underway.advance subscribes retains.of_popped worked
          · have unrelated := undisturbed about
            rw [← NodeState.edgeView_drop queue about,
              ← unrelated.view] at phase
            exact underway.advance subscribes unrelated.of_popped phase
      | elsewhere _ unrelated =>
          rw [← unrelated.view] at phase
          exact underway.advance subscribes unrelated.toRetains phase
  | toProvider event before after provider sends =>
      refine underway.advance (sends.retains _)
        (.of_same rfl (Nat.le_refl _)) ?_
      rw [sends.view] at phase
      unfold subscriberView providerView
      rw [NodeState.edgeView_receiving]
      by_cases about : event.rid = .edge negotiation.edgeRid
      · rw [if_pos about] at phase
        rw [if_pos about]
        exact phase.toProvider
      · rw [if_neg about] at phase
        rw [if_neg about, List.append_nil]
        exact phase
  | toSubscriber event before after subscriber sends =>
      refine underway.advance (.of_same rfl (Nat.le_refl _))
        (sends.retains _) ?_
      rw [sends.view] at phase
      unfold subscriberView providerView
      rw [NodeState.edgeView_receiving]
      by_cases about : event.rid = .edge negotiation.edgeRid
      · rw [if_pos about] at phase
        rw [if_pos about]
        exact phase.toSubscriber
      · rw [if_neg about] at phase
        rw [if_neg about, List.append_nil]
        exact phase

end Underway

/-- How a negotiation ends. -/
inductive Ends (old : Option Bundle) (proposal : Bundle)
    (edgeProfile : EdgeProfile) (start : Nat) :
    Option Bundle → Option Bundle → Prop where
  | dropped :
      ¬NewerThan old proposal.manifest →
      Ends old proposal edgeProfile start old old
  | withdrawn :
      ¬negotiation.Acceptable edgeProfile →
      Ends old proposal edgeProfile start none old
  | unratified (clockReads : Nat) :
      start ≤ clockReads →
      ¬NewerThan (some proposal)
        (negotiation.approval edgeProfile clockReads).manifest →
      Ends old proposal edgeProfile start (some proposal) (some proposal)
  | agreed (clockReads : Nat) :
      Ends old proposal edgeProfile start
        (some (negotiation.approval edgeProfile clockReads))
        (some (negotiation.approval edgeProfile clockReads))

theorem Phase.ends {subscriberView providerView : EdgeView}
    (phase : negotiation.Phase old proposal edgeProfile start subscriberView
      providerView)
    (idle : subscriberView.queued = [] ∧ subscriberView.sent = [] ∧
      providerView.queued = [] ∧ providerView.sent = []) :
    negotiation.Ends old proposal edgeProfile start subscriberView.held
      providerView.held := by
  obtain ⟨subscriberQueued, subscriberSent, providerQueued, providerSent⟩ :=
    idle
  cases phase with
  | proposed => cases subscriberQueued
  | dropped stale => exact .dropped stale
  | offered => cases subscriberSent
  | received => cases providerQueued
  | refused => cases providerSent
  | recalled => cases subscriberQueued
  | withdrawn unacceptable => exact .withdrawn unacceptable
  | approved => cases providerQueued
  | unratified clockReads later stale =>
      exact .unratified clockReads later stale
  | ratified => cases providerSent
  | returned => cases subscriberQueued
  | agreed clockReads => exact .agreed clockReads

/-- Every run that leaves nothing pending has come to one of the ends. -/
theorem ends_of_run {first last : Parties}
    (run : negotiation.DrainedRun negotiation.UndisturbedStep old proposal
      first last)
    (sound : negotiation.Sound first) :
    ∃ edgeProfile, negotiation.Proposes proposal edgeProfile ∧
      negotiation.Ends old proposal edgeProfile first.provider.clockReads
        (last.subscriber.cache.read (.edge negotiation.edgeRid))
        (last.provider.cache.read (.edge negotiation.edgeRid)) := by
  obtain ⟨edgeProfile, proposes, underway⟩ := run.starts.underway sound
  have reached : negotiation.Underway old proposal edgeProfile
      first.provider.clockReads last :=
    run.run.invariant (fun underway step => underway.step proposes step)
      underway
  exact ⟨edgeProfile, proposes, reached.phase.ends run.drained⟩

end Negotiation

/-- When everything about a proposed edge has been dealt with, the two nodes
agree on it, unless the provider has refused to change an edge that both of
them held.  They hold it approved if it is acceptable, newer than the edge
they held, and older than every approval the provider's clock can stamp. -/
theorem negotiation_agrees {negotiation : Negotiation} {old : Option Bundle}
    {proposal : Bundle} {edgeProfile : EdgeProfile} {first last : Parties}
    (run : negotiation.DrainedRun negotiation.UndisturbedStep old proposal
      first last)
    (sound : negotiation.Sound first)
    (proposed : EdgeProfile.modelValidate proposal.contents =
      some edgeProfile) :
    (negotiation.Agree last ∨
      (¬negotiation.Acceptable edgeProfile ∧
        negotiation.LeftWithProvider old last)) ∧
    (negotiation.Acceptable edgeProfile →
      NewerThan old proposal.manifest →
      negotiation.ApprovesLater proposal edgeProfile first →
      negotiation.Approved last) := by
  obtain ⟨found, proposes, ends⟩ := Negotiation.ends_of_run run sound
  have same : edgeProfile = found := by
    rw [proposes.contents, EdgeProfile.modelValidate_modelDump] at proposed
    exact (Option.some.inj proposed).symm
  subst same
  unfold Negotiation.Agree Negotiation.LeftWithProvider Negotiation.Approved
  generalize last.subscriber.cache.read (.edge negotiation.edgeRid) =
    subscriberHolds at ends ⊢
  generalize last.provider.cache.read (.edge negotiation.edgeRid) =
    providerHolds at ends ⊢
  cases ends with
  | dropped stale => exact ⟨.inl rfl, fun _ newer => (stale newer).elim⟩
  | withdrawn unacceptable =>
      refine ⟨?_, fun acceptable => (unacceptable acceptable).elim⟩
      by_cases had : old = none
      · exact .inl had.symm
      · exact .inr ⟨unacceptable, had, rfl, rfl⟩
  | unratified clockReads later stale =>
      refine ⟨.inl rfl, fun _ _ approvesLater => ?_⟩
      exact (stale (approvesLater clockReads later)).elim
  | agreed clockReads =>
      refine ⟨.inl rfl, fun _ _ _ => ?_⟩
      exact ⟨_, { edgeProfile with status := .approved }, rfl, rfl,
        EdgeProfile.modelValidate_modelDump _, rfl⟩

/-- Two nodes, the edge they both held, and what may stand in the way of their
negotiation. -/
structure Scenario where
  nodeType : NodeType := .full
  subscriberNow : Nat → Timestamp := fun reads => reads
  providerNow : Nat → Timestamp := fun reads => reads + 1
  old : Option (EdgeStatus × Timestamp) := none
  brokenEdge : Bool := false
  forgotten : Bool := false

namespace Scenario

def subscriberRid : KoiNetNode :=
  { name := "subscriber", hash := "key" }

def providerRid : KoiNetNode :=
  { name := "provider", hash := "key" }

def edgeRid : KoiNetEdge :=
  { id := "edge" }

def edgeProfile (status : EdgeStatus) (ridTypes : List RIDType) :
    EdgeProfile :=
  { context := EdgeProfile.defaultContext
    source := providerRid
    target := subscriberRid
    edgeType := .webhook
    status := status
    ridTypes := ridTypes }

/-- A hash that tells the edges of the scenarios apart. -/
def digest (contents : Contents) : String :=
  match EdgeProfile.modelValidate contents with
  | none => "no edge"
  | some edgeProfile =>
      match edgeProfile.status, edgeProfile.ridTypes with
      | .proposed, [] => "proposed"
      | .proposed, _ => "proposed, with types"
      | .approved, [] => "approved"
      | .approved, _ => "approved, with types"

def edgeBundle (edgeProfile : EdgeProfile) (timestamp : Timestamp) : Bundle :=
  { manifest :=
      { rid := .edge edgeRid
        timestamp := timestamp
        sha256Hash := digest edgeProfile.modelDump }
    contents := edgeProfile.modelDump }

def profileContents : NodeType → Contents
  | .full => fullProfile "url" "key"
  | .partialNode => [("node_type", .str "PARTIAL")]

def profileBundle (rid : KoiNetNode) (nodeType : NodeType) : Bundle :=
  { manifest := { rid := .node rid, timestamp := 0, sha256Hash := "node" }
    contents := profileContents nodeType }

def nodeOf (rid : KoiNetNode) (nodeType : NodeType)
    (now : Nat → Timestamp) : Node :=
  { config :=
      { nodeRid := rid
        nodeProfile :=
          { context := NodeProfile.defaultContext
            baseUrl := some "url"
            nodeType := nodeType
            provides := { event := [.other "document"], state := [] }
            publicKey := some "key" } }
    sha256Hash := fun _ => "edge"
    sha256HashJson := digest
    now := now
    listdir := { order := id, perm := fun rids => .refl rids }
    answer := fun _ _ _ _ _ => .unreachable }

variable (scenario : Scenario)

theorem different : subscriberRid ≠ providerRid := by decide

def negotiation : Negotiation :=
  { subscriber :=
      nodeOf subscriberRid scenario.nodeType scenario.subscriberNow
    provider := nodeOf providerRid .full scenario.providerNow
    subscriberHandlers := .listed _
    providerHandlers := .listed _
    different := different
    edgeRid := edgeRid }

def oldBundle : Option Bundle :=
  scenario.old.map fun edge => edgeBundle (edgeProfile edge.1 []) edge.2

def proposal : Bundle :=
  edgeBundle (edgeProfile .proposed [.other "document"])
    (scenario.subscriberNow 0)

/-- The profiles of both nodes. -/
def profiles : Cache :=
  (Cache.empty.write (profileBundle subscriberRid scenario.nodeType)).write
    (profileBundle providerRid .full)

/-- The profiles of both nodes and the edge they both hold. -/
def cache : Cache :=
  match scenario.oldBundle with
  | none => scenario.profiles
  | some old => scenario.profiles.write old

def dg : DiGraph KoiNetNode KoiNetEdge :=
  match scenario.old with
  | none => DiGraph.empty
  | some _ => DiGraph.empty.addEdge providerRid subscriberRid edgeRid

/-- Another edge, whose contents are no edge profile. -/
def brokenBundle : Bundle :=
  { manifest :=
      { rid := .edge { id := "broken" }
        timestamp := 0
        sha256Hash := "no edge" }
    contents := [] }

/-- The subscriber before it proposes the edge. -/
def before : NodeState :=
  { NodeState.fresh
      (if scenario.brokenEdge then scenario.cache.write brokenBundle
        else scenario.cache) with
    dg := scenario.dg }

/-- What the proposal gives, and the state it leaves. -/
def proposed : Except Exc (Option Bundle) × NodeState :=
  (NodeContactHandler.proposal scenario.negotiation.subscriber
    scenario.negotiation.provider.rid [.other "document"]).run scenario.before

def first : Parties :=
  { subscriber := scenario.proposed.2.withQueue
      (scenario.proposed.2.kobjQueue ++
        [.fromBundle scenario.proposal none none])
    provider :=
      { NodeState.fresh scenario.cache with
        kobjQueue :=
          if scenario.forgotten then
            [.fromRid (.node subscriberRid) (some .forget) none]
          else [] } }

variable {scenario : Scenario}

theorem starts
    (returned : scenario.proposed.1 = .ok (some scenario.proposal)) :
    scenario.negotiation.Starts scenario.oldBundle scenario.proposal
      scenario.first := by
  refine
    { acquainted := ?_
      proposes := ⟨[.other "document"], scenario.before, scenario.proposed.2,
        ?_, Prod.ext returned rfl, rfl⟩
      named := rfl
      provider := ?_
      joins := ?_ }
  all_goals
    clear returned
    obtain ⟨nodeType, _, _, old, brokenEdge, forgotten⟩ := scenario
  · cases old <;> cases nodeType <;> exact ⟨_, _, rfl, rfl, rfl⟩
  · cases old <;> cases brokenEdge <;> rfl
  · cases old <;> cases forgotten <;> rfl
  · rintro previous previousProfile held valid
    cases old with
    | none => cases held
    | some edge =>
        cases held
        cases valid.symm.trans (EdgeProfile.modelValidate_modelDump _)
        exact ⟨rfl, rfl⟩

theorem profileContents_sound (nodeType : NodeType) :
    SoundProfile (profileContents nodeType) := by
  cases nodeType with
  | full => exact fullProfile_sound _ _
  | partialNode => exact ⟨_, rfl, by simp⟩

private theorem profiles_sound {node : Node}
    (own : node.rid = subscriberRid ∨ node.rid = providerRid) :
    SoundCache node scenario.profiles := by
  constructor
  · rcases own with own | own
    · rw [own]
      simp [profiles, Cache.read_write, profileBundle, different]
    · rw [own]
      simp [profiles, Cache.read_write, profileBundle]
  · intro nodeRid bundle cached
    unfold profiles at cached
    rw [Cache.read_write, Cache.read_write] at cached
    split at cached
    · cases cached
      exact profileContents_sound .full
    · split at cached
      · cases cached
        exact profileContents_sound scenario.nodeType
      · cases cached
  · intro edgeRid bundle cached
    unfold profiles at cached
    rw [Cache.read_write, Cache.read_write] at cached
    split at cached
    · rename_i isNode
      cases isNode
    · split at cached
      · rename_i isNode
        cases isNode
      · cases cached

private theorem cache_sound {node : Node}
    (own : node.rid = subscriberRid ∨ node.rid = providerRid) :
    SoundCache node scenario.cache := by
  unfold cache
  cases held : scenario.oldBundle with
  | none => exact profiles_sound own
  | some old =>
      obtain ⟨edge, _, rfl⟩ := Option.map_eq_some_iff.mp held
      apply (profiles_sound own).write
      exact soundContents_edge ⟨_, EdgeProfile.modelValidate_modelDump _⟩

theorem sound (intact : scenario.brokenEdge = false) :
    scenario.negotiation.Sound scenario.first := by
  have kept : scenario.proposed.2.cache = scenario.before.cache :=
    (proposal_quiet _ _ scenario.before).cache
  refine { subscriber := ?_, provider := cache_sound (.inr rfl) }
  change SoundCache _ scenario.proposed.2.cache
  rw [kept]
  unfold before
  rw [intact]
  exact cache_sound (.inl rfl)

/-- The status of the edge in a cache. -/
def heldStatus (state : NodeState) : Option EdgeStatus := do
  let bundle ← state.cache.read (.edge edgeRid)
  let edgeProfile ← EdgeProfile.modelValidate bundle.contents
  return edgeProfile.status

/-- The states of the edge in both caches, if these moves leave nothing about
it pending. -/
def endsWith (scenario : Scenario) (guard : KnowledgeObject → Bool)
    (moves : List Negotiation.Move) :
    Option (Option EdgeStatus × Option EdgeStatus) := do
  let last ← moves.foldlM (scenario.negotiation.play guard) scenario.first
  if scenario.negotiation.Drained last then
    return (heldStatus last.subscriber, heldStatus last.provider)
  else
    none

theorem run_of_endsWith {guard : KnowledgeObject → Bool}
    {moves : List Negotiation.Move} {subscriber provider : Option EdgeStatus}
    {subscriberAllowed providerAllowed : NodeState → KnowledgeObject → Prop}
    (returned : scenario.proposed.1 = .ok (some scenario.proposal))
    (subscriberGuarded : ∀ state kobj, guard kobj = true →
      subscriberAllowed state kobj)
    (providerGuarded : ∀ state kobj, guard kobj = true →
      providerAllowed state kobj)
    (ended : scenario.endsWith guard moves = some (subscriber, provider)) :
    ∃ last, scenario.negotiation.DrainedRun
        (scenario.negotiation.Step subscriberAllowed providerAllowed)
        scenario.oldBundle scenario.proposal scenario.first last ∧
      heldStatus last.subscriber = subscriber ∧
      heldStatus last.provider = provider := by
  obtain ⟨last, played, rest⟩ := Option.bind_eq_some_iff.mp ended
  split at rest
  · rename_i drained
    cases rest
    refine ⟨last, ?_, rfl, rfl⟩
    exact
      { starts := starts returned
        run :=
          Negotiation.run_of_plays subscriberGuarded providerGuarded played
        drained := drained }
  · cases rest

/-- Processing only objects about the edge disturbs no negotiation. -/
def aboutEdge (kobj : KnowledgeObject) : Bool :=
  kobj.rid = .edge edgeRid

theorem undisturbed_of_endsWith {moves : List Negotiation.Move}
    {subscriber provider : Option EdgeStatus}
    (returned : scenario.proposed.1 = .ok (some scenario.proposal))
    (ended : scenario.endsWith aboutEdge moves = some (subscriber, provider)) :
    ∃ last, scenario.negotiation.DrainedRun
        scenario.negotiation.UndisturbedStep scenario.oldBundle
        scenario.proposal scenario.first last ∧
      heldStatus last.subscriber = subscriber ∧
      heldStatus last.provider = provider :=
  run_of_endsWith returned
    (fun _ _ passed other => (other (of_decide_eq_true passed)).elim)
    (fun _ _ passed other => (other (of_decide_eq_true passed)).elim) ended

theorem heldStatus_of_agree {last : Parties}
    (agree : scenario.negotiation.Agree last) :
    heldStatus last.subscriber = heldStatus last.provider := by
  have same : last.subscriber.cache.read (.edge edgeRid) =
      last.provider.cache.read (.edge edgeRid) := agree
  unfold heldStatus
  rw [same]

theorem heldStatus_of_approved {last : Parties}
    (approved : scenario.negotiation.Approved last) :
    heldStatus last.subscriber = some .approved := by
  obtain ⟨bundle, edgeProfile, held, _, valid, status⟩ := approved
  have reads : last.subscriber.cache.read (.edge edgeRid) = some bundle :=
    held
  unfold heldStatus
  rw [reads]
  simp [valid, status]

/-- What the subscriber proposes in every scenario. -/
def offer : EdgeProfile :=
  edgeProfile .proposed [.other "document"]

theorem offer_valid : EdgeProfile.modelValidate scenario.proposal.contents =
    some offer :=
  EdgeProfile.modelValidate_modelDump offer

theorem offer_acceptable (full : scenario.nodeType = .full) :
    scenario.negotiation.Acceptable offer := by
  constructor
  · intro ridType offered
    cases List.mem_singleton.mp offered
    exact List.mem_cons_self
  · rintro ⟨_, isPartial⟩
    cases full.symm.trans isPartial

theorem approvesLater
    (ahead : ∀ clockReads,
      scenario.subscriberNow 0 < scenario.providerNow clockReads) :
    scenario.negotiation.ApprovesLater scenario.proposal offer
      scenario.first := by
  rintro clockReads _ previous ⟨⟩
  rw [BasicManifestHandler.isNewer_iff]
  refine ⟨?_, ahead clockReads⟩
  change "approved, with types" ≠ "proposed, with types"
  decide

/-- A new edge between two full nodes. -/
def accepted : Scenario :=
  {}

/-- The provider's clock is behind the subscriber's. -/
def behind : Scenario :=
  { subscriberNow := fun reads => reads + 10 }

/-- The subscriber has become a partial node, and its edge is a webhook. -/
def refusedChange : Scenario :=
  { nodeType := .partialNode
    old := some (.approved, -1) }

/-- The edge that is to be changed is as new as the proposal. -/
def stale : Scenario :=
  { old := some (.proposed, 0) }

/-- The subscriber holds another edge that is not an edge profile. -/
def unsound : Scenario :=
  { brokenEdge := true }

/-- The provider is about to forget the subscriber. -/
def disturbed : Scenario :=
  { forgotten := true }

end Scenario

section Runs

open Negotiation.Move Scenario

theorem negotiation_agrees_accepted :
    ∃ last, accepted.negotiation.DrainedRun
        accepted.negotiation.UndisturbedStep none accepted.proposal
        accepted.first last ∧
      accepted.negotiation.Agree last ∧
      accepted.negotiation.Approved last := by
  have ended : accepted.endsWith aboutEdge
      [subscriberWorks, toProvider, providerWorks, providerWorks,
        toSubscriber, subscriberWorks] =
      some (some .approved, some .approved) := by
    decide +kernel
  obtain ⟨last, run, _⟩ := undisturbed_of_endsWith rfl ended
  obtain ⟨agree, approved⟩ :=
    negotiation_agrees run (sound rfl) offer_valid
  refine ⟨last, run, ?_, ?_⟩
  · rcases agree with agree | ⟨refused, _⟩
    · exact agree
    · exact (refused (offer_acceptable rfl)).elim
  · refine approved (offer_acceptable rfl) ?_ (approvesLater fun reads => ?_)
    · rintro previous ⟨⟩
    · change (0 : Int) < reads + 1
      omega

/-- Every run of these steps to its end, from a start that is as `given`,
ends as `ending` says. -/
def Ensures (step : Negotiation → Parties → Parties → Prop)
    (given : Negotiation → Option Bundle → Bundle → EdgeProfile → Parties →
      Prop)
    (ending : Negotiation → Option Bundle → Parties → Prop) : Prop :=
  ∀ negotiation old proposal edgeProfile first last,
    negotiation.DrainedRun (step negotiation) old proposal first last →
    EdgeProfile.modelValidate proposal.contents = some edgeProfile →
    given negotiation old proposal edgeProfile first →
    ending negotiation old last

/-- A refused change to an edge that both nodes held leaves them with
different caches. -/
theorem refused_change_disagrees :
    ¬Ensures Negotiation.UndisturbedStep
      (fun negotiation _ _ _ first => negotiation.Sound first)
      (fun negotiation _ last => negotiation.Agree last) := by
  intro always
  have ended : refusedChange.endsWith aboutEdge
      [subscriberWorks, toProvider, providerWorks, toSubscriber,
        subscriberWorks] = some (none, some .approved) := by
    decide +kernel
  obtain ⟨last, run, subscriber, provider⟩ :=
    undisturbed_of_endsWith rfl ended
  have agree := heldStatus_of_agree
    (always _ _ _ _ _ _ run offer_valid (sound rfl))
  rw [subscriber, provider] at agree
  cases agree

/-- An approval stamped by a clock that is behind is not written. -/
theorem approval_needs_later_clock :
    ¬Ensures Negotiation.UndisturbedStep
      (fun negotiation old proposal edgeProfile first =>
        negotiation.Sound first ∧ negotiation.Acceptable edgeProfile ∧
          NewerThan old proposal.manifest)
      (fun negotiation _ last => negotiation.Approved last) := by
  intro always
  have ended : behind.endsWith aboutEdge
      [subscriberWorks, toProvider, providerWorks, providerWorks] =
      some (some .proposed, some .proposed) := by
    decide +kernel
  obtain ⟨last, run, subscriber, _⟩ := undisturbed_of_endsWith rfl ended
  have newer : NewerThan behind.oldBundle behind.proposal.manifest := by
    rintro previous ⟨⟩
  have approved := heldStatus_of_approved (always _ _ _ _ _ _ run offer_valid
    ⟨sound rfl, offer_acceptable rfl, newer⟩)
  rw [subscriber] at approved
  cases approved

/-- A proposal that is not newer than the edge it is to change is dropped. -/
theorem approval_needs_newer_proposal :
    ¬Ensures Negotiation.UndisturbedStep
      (fun negotiation _ proposal edgeProfile first =>
        negotiation.Sound first ∧ negotiation.Acceptable edgeProfile ∧
          negotiation.ApprovesLater proposal edgeProfile first)
      (fun negotiation _ last => negotiation.Approved last) := by
  intro always
  have ended : stale.endsWith aboutEdge [subscriberWorks] =
      some (some .proposed, some .proposed) := by
    decide +kernel
  obtain ⟨last, run, subscriber, _⟩ := undisturbed_of_endsWith rfl ended
  have later : stale.negotiation.ApprovesLater stale.proposal offer
      stale.first := by
    apply approvesLater
    intro reads
    change (0 : Int) < reads + 1
    omega
  have approved := heldStatus_of_approved (always _ _ _ _ _ _ run offer_valid
    ⟨sound rfl, offer_acceptable rfl, later⟩)
  rw [subscriber] at approved
  cases approved

/-- A malformed edge in the subscriber's cache keeps it from sending its
proposal. -/
theorem agreement_needs_sound_caches :
    ¬Ensures Negotiation.UndisturbedStep (fun _ _ _ _ _ => True)
      (fun negotiation old last =>
        negotiation.Agree last ∨ negotiation.LeftWithProvider old last) := by
  intro always
  have ended : unsound.endsWith aboutEdge [subscriberWorks] =
      some (some .proposed, none) := by
    decide +kernel
  obtain ⟨last, run, subscriber, provider⟩ :=
    undisturbed_of_endsWith rfl ended
  rcases always _ _ _ _ _ _ run offer_valid trivial with agree | ⟨had, _⟩
  · have same := heldStatus_of_agree agree
    rw [subscriber, provider] at same
    cases same
  · exact had rfl

/-- A provider that forgets the subscriber in the meantime does not answer its
proposal. -/
theorem agreement_needs_undisturbed_steps :
    ¬Ensures Negotiation.AnyStep
      (fun negotiation _ _ _ first => negotiation.Sound first)
      (fun negotiation old last =>
        negotiation.Agree last ∨ negotiation.LeftWithProvider old last) := by
  intro always
  have ended : disturbed.endsWith (fun _ => true)
      [providerWorks, subscriberWorks, toProvider, providerWorks] =
      some (some .proposed, none) := by
    decide +kernel
  obtain ⟨last, run, subscriber, provider⟩ :=
    run_of_endsWith rfl (fun _ _ _ => trivial) (fun _ _ _ => trivial) ended
  rcases always _ _ _ _ _ _ run offer_valid (sound rfl) with
    agree | ⟨had, _⟩
  · have same := heldStatus_of_agree agree
    rw [subscriber, provider] at same
    cases same
  · exact had rfl

/-- Two nodes need not end up with the same edge, nor with an approved one,
and each condition under which they do is needed. -/
theorem negotiation_not_agreement :
    ¬Ensures Negotiation.UndisturbedStep
      (fun negotiation _ _ _ first => negotiation.Sound first)
      (fun negotiation _ last => negotiation.Agree last) ∧
    ¬Ensures Negotiation.UndisturbedStep
      (fun negotiation old proposal edgeProfile first =>
        negotiation.Sound first ∧ negotiation.Acceptable edgeProfile ∧
          NewerThan old proposal.manifest)
      (fun negotiation _ last => negotiation.Approved last) ∧
    ¬Ensures Negotiation.UndisturbedStep
      (fun negotiation _ proposal edgeProfile first =>
        negotiation.Sound first ∧ negotiation.Acceptable edgeProfile ∧
          negotiation.ApprovesLater proposal edgeProfile first)
      (fun negotiation _ last => negotiation.Approved last) ∧
    ¬Ensures Negotiation.UndisturbedStep (fun _ _ _ _ _ => True)
      (fun negotiation old last =>
        negotiation.Agree last ∨ negotiation.LeftWithProvider old last) ∧
    ¬Ensures Negotiation.AnyStep
      (fun negotiation _ _ _ first => negotiation.Sound first)
      (fun negotiation old last =>
        negotiation.Agree last ∨ negotiation.LeftWithProvider old last) :=
  ⟨refused_change_disagrees, approval_needs_later_clock,
    approval_needs_newer_proposal, agreement_needs_sound_caches,
    agreement_needs_undisturbed_steps⟩

end Runs

end KoiNet
