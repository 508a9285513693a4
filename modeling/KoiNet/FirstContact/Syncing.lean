import KoiNet.FirstContact.Consistency
import KoiNet.FirstContact.Creating

/-!
# Synchronizing

`sync` creates what nodes of the network are missing on disk, the first contact
before the others, and gives every node the first contact.  Where the first
contact was initialised before, the others have it already; where it is created
by the call itself, the loop has to get to them.
-/

namespace KoiNet

open Foundation

namespace NetworkInterface

section Conditions

variable {Raised : Type} (env : InterfaceEnvironment Raised)
  (earlier : List KoiNetNode) (network : NetworkInterface)

/-- The config a node has or is created with. -/
def ownConfig (node : NodeInterface) : Option BaseNodeConfig :=
  match network.node node with
  | some config => some config
  | none => (env.nodeClass node).toOption

/-- The loop of `sync` goes on behind this node: it is initialised or can be
created, and its config can be saved with the first contact. -/
structure CanSync (source : BaseNodeConfig) (node : NodeInterface) : Prop where
  creatable : network.node node = none →
    node.name ∉ network.directories ∧
      ∀ other ∈ network.nodes, other.name = node.name → other = node
  mkdir : node.name ∉ network.directories → env.mkdir node.name = .ok ()
  saves : ∃ config, network.ownConfig env node = some config ∧
    env.saveNode node (applyFirstContact source config) = .ok ()

/-- No node is created with the RID of an earlier first contact; and if the
first contact itself is created, the loop gets to every node that is
initialised. -/
structure SyncPropagates : Prop where
  nonempty : network.config.firstContact ≠ some ""
  clean : network.config.firstContact = none →
    ∀ node ∈ network.nodes, network.node node = none →
    node.name ∉ network.directories →
    ∀ config, env.nodeClass node = .ok config →
    ∀ rid ∈ earlier, config.firstContact.rid ≠ some rid
  reached : ∀ fcNode source, network.getFirstContact = some fcNode →
    network.node fcNode = none → fcNode.name ∉ network.directories →
    env.mkdir fcNode.name = .ok () → env.nodeClass fcNode = .ok source →
    ∀ node ∈ network.nodes, node ≠ fcNode → network.node node ≠ none →
      (node.name ∉ network.directories → env.mkdir node.name = .ok ()) ∧
      Reached (fun other => other = fcNode ∨ CanSync env network source other)
        node network.nodes

end Conditions

section Rounds

variable {Raised : Type} {env : InterfaceEnvironment Raised}
  {earlier : List KoiNetNode} {network after : NetworkInterface}
  {node fcNode : NodeInterface}

theorem applyTo_cases (env : InterfaceEnvironment Raised)
    (network : NetworkInterface) (fcNode node : NodeInterface) :
    (((applyTo env fcNode node).run network).2 = network ∧
        (node = fcNode ∨ network.node fcNode = none ∨
          network.node node = none)) ∨
      (node ≠ fcNode ∧ ∃ source config, network.node fcNode = some source ∧
        network.node node = some config ∧
        (applyTo env fcNode node).run network =
          ((env.saveNode node (applyFirstContact source config)).mapError
              .raised,
            network.setNode node (applyFirstContact source config))) := by
  unfold applyTo
  by_cases same : node = fcNode
  · rw [if_pos same]
    exact .inl ⟨rfl, .inl same⟩
  · rw [if_neg same]
    cases sourced : network.node fcNode with
    | none =>
        rw [run_mutateFrom_none (.inl sourced)]
        exact .inl ⟨rfl, .inr (.inl rfl)⟩
    | some source =>
        cases initialized : network.node node with
        | none =>
            rw [run_mutateFrom_none (.inr initialized)]
            exact .inl ⟨rfl, .inr (.inr rfl)⟩
        | some config =>
            rw [run_mutateFrom sourced initialized]
            exact .inr ⟨same, source, config, rfl, rfl, rfl⟩

theorem applyTo_members (env : InterfaceEnvironment Raised)
    (network : NetworkInterface) (fcNode node : NodeInterface) :
    ((applyTo env fcNode node).run network).2.nodes = network.nodes ∧
      ((applyTo env fcNode node).run network).2.config = network.config := by
  rcases applyTo_cases env network fcNode node with ⟨same, _⟩ | applied
  · rw [same]
    exact ⟨rfl, rfl⟩
  · obtain ⟨_, _, _, _, _, run⟩ := applied
    rw [run]
    exact ⟨rfl, rfl⟩

theorem syncNode_members (env : InterfaceEnvironment Raised)
    (fcNode : Option NodeInterface)
    (node : NodeInterface) :
    (Frame.unchanged fun network : NetworkInterface =>
      (network.nodes, network.config)).Keeps (syncNode env fcNode node) := by
  apply Frame.keeps_bind
  · intro network
    obtain ⟨nodes, config⟩ := (createMissing_cases env network node).members
    exact Prod.ext nodes config
  · intro _
    cases fcNode with
    | none => exact Frame.keeps_pure ()
    | some fcNode =>
        intro network
        obtain ⟨nodes, config⟩ := applyTo_members env network fcNode node
        exact Prod.ext nodes config

/-- The first contact is contacted like this, and the node knows it. -/
def Follows (fcNode : NodeInterface) (contact : NodeContact)
    (node : NodeInterface) (network : NetworkInterface) : Prop :=
  (∃ source, network.node fcNode = some source ∧ source.contact = contact) ∧
    ∀ config, network.node node = some config → config.firstContact = contact

theorem applyTo_follows {contact : NodeContact} {source : BaseNodeConfig}
    (sourced : network.node fcNode = some source)
    (own : source.contact = contact) (different : node ≠ fcNode) :
    Follows fcNode contact node ((applyTo env fcNode node).run network).2 := by
  rcases applyTo_cases env network fcNode node with ⟨same, reason⟩ | applied
  · rw [same]
    refine ⟨⟨source, sourced, own⟩, ?_⟩
    intro config initialized
    rcases reason with equal | noSource | noNode
    · exact (different equal).elim
    · cases noSource.symm.trans sourced
    · cases noNode.symm.trans initialized
  · obtain ⟨_, first, config, firstSourced, initialized, run⟩ := applied
    rw [run]
    refine ⟨⟨source, (if_neg (Ne.symm different)).trans sourced, own⟩, ?_⟩
    intro now stored
    rw [← Option.some.inj ((if_pos rfl).symm.trans stored), ← own,
      Option.some.inj (sourced.symm.trans firstSourced)]
    rfl

theorem applyTo_others (env : InterfaceEnvironment Raised)
    (network : NetworkInterface) (fcNode : NodeInterface)
    {other : NodeInterface} (different : other ≠ node) :
    ((applyTo env fcNode node).run network).2.node other =
      network.node other := by
  rcases applyTo_cases env network fcNode node with ⟨same, _⟩ | applied
  · rw [same]
  · obtain ⟨_, _, _, _, _, run⟩ := applied
    rw [run]
    exact if_neg different

/-- The first contact itself is never changed by a round. -/
theorem applyTo_source (env : InterfaceEnvironment Raised)
    (network : NetworkInterface) (fcNode node : NodeInterface) :
    ((applyTo env fcNode node).run network).2.node fcNode =
      network.node fcNode := by
  rcases applyTo_cases env network fcNode node with ⟨same, _⟩ | applied
  · rw [same]
  · obtain ⟨different, _, _, _, _, run⟩ := applied
    rw [run]
    exact if_neg (Ne.symm different)

theorem syncNode_follows {contact : NodeContact} (different : node ≠ fcNode)
    (other : NodeInterface) :
    (Frame.preserving (Follows fcNode contact node)).Keeps
      (syncNode env (some fcNode) other) := by
  intro current given
  obtain ⟨⟨source, sourced, own⟩, follows⟩ := given
  have created := createMissing_cases env current other
  unfold syncNode
  dsimp only
  rw [Effect.run_bind]
  generalize (createMissing env other).run current = ended at created
  obtain ⟨result, middle⟩ := ended
  have sourcedNow := created.kept sourced
  cases result with
  | error failure =>
      refine ⟨⟨source, sourcedNow, own⟩, ?_⟩
      intro config initialized
      cases before : current.node node with
      | some old =>
          rw [Option.some.inj (initialized.symm.trans (created.kept before))]
          exact follows old before
      | none =>
          by_cases same : node = other
          · subst other
            obtain ⟨returned, _⟩ := created.new_of_none before initialized
            cases returned
          · rw [created.others same, before] at initialized
            cases initialized
  | ok value =>
      dsimp only
      by_cases same : node = other
      · subst other
        exact applyTo_follows sourcedNow own different
      · refine ⟨⟨source, (applyTo_source env middle fcNode other).trans
          sourcedNow, own⟩, ?_⟩
        intro config initialized
        rw [applyTo_others env middle fcNode same,
          created.others same] at initialized
        exact follows config initialized

theorem applyTo_absent (node : NodeInterface) :
    (Frame.preserving (Absent env fcNode)).Keeps
      (applyTo env fcNode node) := by
  intro current absent
  rcases applyTo_cases env current fcNode node with ⟨same, _⟩ | applied
  · rw [same]
    exact absent
  · obtain ⟨_, _, _, sourced, _⟩ := applied
    cases absent.1.symm.trans sourced

theorem syncNode_absent (node : NodeInterface) :
    (Frame.preserving (Absent env fcNode)).Keeps
      (syncNode env (some fcNode) node) := by
  apply Frame.keeps_bind
  · exact createMissing_absent node
  · intro _
    exact applyTo_absent node

theorem syncNode_onlyCreated (before : NetworkInterface)
    (node : NodeInterface) :
    (Frame.preserving (OnlyCreated env before)).Keeps
      (syncNode env none node) := by
  apply Frame.keeps_bind
  · exact createMissing_onlyCreated before node
  · intro _
    exact Frame.keeps_pure ()

/-- Where the loop has got to after the first contact was created. -/
structure Syncing (env : InterfaceEnvironment Raised)
    (before : NetworkInterface) (fcNode : NodeInterface)
    (source : BaseNodeConfig) (after : NetworkInterface) : Prop where
  source : ∃ now, after.node fcNode = some now ∧
    now.contact = source.contact
  kept : ∀ {node}, after.node node = none → before.node node = none
  configs : ∀ {node config}, node ≠ fcNode → after.node node = some config →
    ∃ own, before.ownConfig env node = some own ∧
      ∀ other, applyFirstContact other config = applyFirstContact other own
  present : fcNode.name ∈ after.directories
  directories : ∀ name ∈ before.directories, name ∈ after.directories
  shared : ∀ node ∈ before.nodes, after.node node = none →
    node.name ∈ after.directories → node.name ∈ before.directories ∨
      ∃ other ∈ before.nodes, other ≠ node ∧ other.name = node.name

theorem Syncing.addDirectory {source : BaseNodeConfig}
    (syncing : Syncing env network fcNode source after)
    (listed : node ∈ network.nodes) {config : BaseNodeConfig}
    (initialized : after.node node = some config) :
    Syncing env network fcNode source (after.addDirectory node.name) := by
  constructor
  · exact syncing.source
  · exact syncing.kept
  · exact syncing.configs
  · exact List.mem_cons_of_mem _ syncing.present
  · intro name present
    exact List.mem_cons_of_mem _ (syncing.directories name present)
  · intro other member missing present
    rcases List.mem_cons.mp present with same | before
    · right
      refine ⟨node, listed, ?_, same.symm⟩
      intro equal
      subst other
      cases missing.symm.trans initialized
    · exact syncing.shared other member missing before

theorem Syncing.setNode {source config : BaseNodeConfig}
    (syncing : Syncing env network fcNode source after)
    (different : node ≠ fcNode)
    (same : ∃ own, network.ownConfig env node = some own ∧
      ∀ other, applyFirstContact other config =
        applyFirstContact other own) :
    Syncing env network fcNode source (after.setNode node config) := by
  have others {other : NodeInterface} (isOther : other ≠ node) :
      (after.setNode node config).node other = after.node other :=
    if_neg isOther
  have own : (after.setNode node config).node node = some config := if_pos rfl
  constructor
  · obtain ⟨now, sourced, contact⟩ := syncing.source
    exact ⟨now, (others (Ne.symm different)).trans sourced, contact⟩
  · intro other missing
    by_cases equal : other = node
    · subst other
      cases own.symm.trans missing
    · rw [others equal] at missing
      exact syncing.kept missing
  · intro other stored isOther initialized
    by_cases equal : other = node
    · subst other
      rw [← Option.some.inj (own.symm.trans initialized)]
      exact same
    · rw [others equal] at initialized
      exact syncing.configs isOther initialized
  · exact syncing.present
  · exact syncing.directories
  · intro other member missing
    by_cases equal : other = node
    · subst other
      cases own.symm.trans missing
    · rw [others equal] at missing
      exact syncing.shared other member missing

/-- A node of the network that is there or can be created is there after its
turn to be created. -/
theorem Syncing.createMissing {source : BaseNodeConfig}
    (syncing : Syncing env network fcNode source after)
    (listed : node ∈ network.nodes) (different : node ≠ fcNode)
    (creatable : network.node node = none →
      node.name ∉ network.directories ∧
        ∀ other ∈ network.nodes, other.name = node.name → other = node)
    (made : node.name ∉ network.directories → env.mkdir node.name = .ok ())
    (owned : ∃ own, network.ownConfig env node = some own) :
    ∃ middle config, (createMissing env node).run after = (.ok (), middle) ∧
      Syncing env network fcNode source middle ∧
      middle.node node = some config := by
  have created := createMissing_cases env after node
  generalize (NetworkInterface.createMissing env node).run after = ended
    at created
  obtain ⟨result, middle⟩ := ended
  dsimp only at created
  obtain ⟨own, owned⟩ := owned
  have built (missing : after.node node = none) :
      env.nodeClass node = .ok own := by
    unfold ownConfig at owned
    rw [syncing.kept missing] at owned
    cases built : env.nodeClass node with
    | ok config =>
        rw [built] at owned
        exact congrArg Except.ok (Option.some.inj owned)
    | error exc =>
        rw [built] at owned
        cases owned
  cases created with
  | present present =>
      cases initialized : after.node node with
      | some config => exact ⟨after, config, rfl, syncing, initialized⟩
      | none =>
          obtain ⟨absent, unique⟩ := creatable (syncing.kept initialized)
          rcases syncing.shared node listed initialized present with
            before | ⟨other, member, isOther, sameName⟩
          · exact (absent before).elim
          · exact (isOther (unique other member sameName)).elim
  | refused absent raised =>
      have missing : node.name ∉ network.directories := by
        intro before
        exact absent (syncing.directories _ before)
      cases (made missing).symm.trans raised
  | @again config _ initialized =>
      exact ⟨_, config, rfl, syncing.addDirectory listed initialized,
        initialized⟩
  | @created config _ _ missing given =>
      have same : config = own :=
        Except.ok.inj (given.symm.trans (built missing))
      have stored : (after.setNode node config).node node = some config :=
        if_pos rfl
      have next := syncing.setNode different
        ⟨own, owned, fun _ => congrArg _ same⟩
      exact ⟨_, config, rfl, next.addDirectory listed stored, stored⟩
  | deleted _ missing given => cases given.symm.trans (built missing)
  | remains _ missing given => cases given.symm.trans (built missing)

theorem Syncing.round {source : BaseNodeConfig} (listed : node ∈ network.nodes)
    (passes : node = fcNode ∨ CanSync env network source node) :
    Completes (Syncing env network fcNode source)
      (syncNode env (some fcNode) node)
      fun _ => Syncing env network fcNode source := by
  intro current syncing
  unfold syncNode
  dsimp only
  by_cases same : node = fcNode
  · subst node
    have present : fcNode.existsIn current := syncing.present
    refine ⟨(), current, ?_, syncing⟩
    unfold NetworkInterface.createMissing applyTo
    rw [Effect.run_bind, Effect.run_get_bind, if_pos present, if_pos rfl]
    rfl
  · have can := passes.resolve_left same
    obtain ⟨own, owned, saves⟩ := can.saves
    obtain ⟨middle, config, returned, next, initialized⟩ :=
      syncing.createMissing listed same can.creatable can.mkdir ⟨own, owned⟩
    obtain ⟨now, sourced, contact⟩ := next.source
    obtain ⟨_, sameOwn, sameApplied⟩ := next.configs same initialized
    rw [Option.some.inj (sameOwn.symm.trans owned)] at sameApplied
    have applied : applyFirstContact now config =
        applyFirstContact source own := by
      rw [sameApplied]
      change { own with firstContact := now.contact } =
        { own with firstContact := source.contact }
      rw [contact]
    rw [Effect.run_bind_of_ok returned]
    unfold applyTo
    rw [if_neg same, run_mutateFrom sourced initialized, applied, saves]
    refine ⟨(), _, rfl, next.setNode same ⟨own, owned, ?_⟩⟩
    intro other
    rfl

theorem Syncing.follows {source : BaseNodeConfig}
    (syncing : Syncing env network fcNode source after)
    (listed : node ∈ network.nodes) (different : node ≠ fcNode)
    (initialized : network.node node ≠ none)
    (made : node.name ∉ network.directories → env.mkdir node.name = .ok ()) :
    Follows fcNode source.contact node
      ((syncNode env (some fcNode) node).run after).2 := by
  have owned : ∃ own, network.ownConfig env node = some own := by
    unfold ownConfig
    cases stored : network.node node with
    | some config => exact ⟨config, rfl⟩
    | none => exact (initialized stored).elim
  obtain ⟨middle, config, returned, next, _⟩ := syncing.createMissing listed
    different (fun missing => (initialized missing).elim) made owned
  obtain ⟨now, sourced, contact⟩ := next.source
  unfold syncNode
  dsimp only
  rw [Effect.run_bind_of_ok returned]
  exact applyTo_follows sourced contact different

theorem run_syncNodes (fcNode : Option NodeInterface)
    (network : NetworkInterface) :
    (syncNodes env fcNode).run network =
      (Effect.forEach network.nodes (syncNode env fcNode)).run network :=
  rfl

theorem syncNodes_keeps {fcNode : Option NodeInterface}
    {frame : Frame NetworkInterface}
    (rounds : ∀ node, frame.Keeps (syncNode env fcNode node)) :
    frame.Keeps (syncNodes env fcNode) := by
  intro network
  rw [run_syncNodes]
  exact Frame.keeps_forEach rounds network.nodes network

theorem syncNodes_members (env : InterfaceEnvironment Raised)
    (fcNode : Option NodeInterface) (before : NetworkInterface) :
    ((syncNodes env fcNode).run before).2.nodes = before.nodes ∧
      ((syncNodes env fcNode).run before).2.config = before.config := by
  have kept := syncNodes_keeps (syncNode_members env fcNode) before
  exact ⟨congrArg Prod.fst kept, congrArg Prod.snd kept⟩

/-- A network with the same nodes and setting is consistent if the nodes agree
with the first contact, should it be initialised. -/
theorem Consistent.of_agreement
    (found : network.getFirstContact = some fcNode)
    (members : after.nodes = network.nodes ∧ after.config = network.config)
    (agrees : ∀ source, after.node fcNode = some source →
      ∀ node ∈ network.nodes, node ≠ fcNode →
      ∀ config, after.node node = some config →
        config.firstContact = source.contact) :
    after.Consistent earlier := by
  obtain ⟨nodes, config⟩ := members
  obtain ⟨name, named, _, resolved⟩ := getFirstContact_eq_some found
  constructor
  · intro other first source isNamed isResolved sourced node member different
      target initialized
    rw [config] at isNamed
    have sameName : name = other :=
      Option.some.inj (named.symm.trans isNamed)
    subst other
    unfold resolveNode at isResolved
    rw [nodes] at isResolved member
    obtain rfl : fcNode = first :=
      Option.some.inj (resolved.symm.trans isResolved)
    exact agrees source sourced node member different target initialized
  · intro unset
    rw [config] at unset
    cases unset.symm.trans named

theorem Follows.agrees {contact : NodeContact} {source : BaseNodeConfig}
    (follows : Follows fcNode contact node after)
    (sourced : after.node fcNode = some source) (config : BaseNodeConfig)
    (initialized : after.node node = some config) :
    config.firstContact = source.contact := by
  obtain ⟨⟨first, found, own⟩, given⟩ := follows
  rw [given config initialized, ← own,
    Option.some.inj (found.symm.trans sourced)]

/-- Without a first contact, `sync` only creates nodes. -/
theorem sync_alone (consistent : network.Consistent earlier)
    (propagates : SyncPropagates env earlier network)
    (alone : network.getFirstContact = none) :
    Consistent earlier ((syncNodes env none).run network).2 := by
  obtain ⟨nodes, config⟩ := syncNodes_members env none network
  have only : OnlyCreated env network
      ((syncNodes env none).run network).2 := by
    apply syncNodes_keeps (syncNode_onlyCreated network)
    exact
      { directories := fun _ present => present
        kept := fun initialized => initialized
        new := fun missing initialized => by
          cases missing.symm.trans initialized }
  generalize ((syncNodes env none).run network).2 = after
    at nodes config only
  constructor
  · intro name fcNode source named resolved
    rw [config] at named
    unfold resolveNode at resolved
    rw [nodes] at resolved
    have nonempty : name ≠ "" := by
      intro empty
      subst name
      exact propagates.nonempty named
    unfold getFirstContact at alone
    rw [named] at alone
    dsimp only at alone
    rw [if_neg nonempty] at alone
    cases alone.symm.trans resolved
  · intro unset node member target initialized rid isEarlier
    rw [config] at unset
    rw [nodes] at member
    cases stored : network.node node with
    | some old =>
        rw [Option.some.inj (initialized.symm.trans (only.kept stored))]
        exact consistent.unset unset node member old stored rid isEarlier
    | none =>
        obtain ⟨absent, built⟩ := only.new stored initialized
        exact propagates.clean unset node member stored absent target built rid
          isEarlier

/-- A first contact that is created is there when the loop begins. -/
theorem Syncing.start {source : BaseNodeConfig}
    (listed : fcNode ∈ network.nodes) (missing : network.node fcNode = none) :
    Syncing env network fcNode source
      ((network.addDirectory fcNode.name).setNode fcNode source) := by
  have others {other : NodeInterface} (different : other ≠ fcNode) :
      ((network.addDirectory fcNode.name).setNode fcNode source).node other =
        network.node other := if_neg different
  constructor
  · exact ⟨source, if_pos rfl, rfl⟩
  · intro other absent
    by_cases same : other = fcNode
    · rw [same]
      exact missing
    · rw [← others same]
      exact absent
  · intro other config different initialized
    rw [others different] at initialized
    refine ⟨config, ?_, fun _ => rfl⟩
    unfold ownConfig
    rw [initialized]
  · exact List.mem_cons_self
  · intro name present
    exact List.mem_cons_of_mem _ present
  · intro other member absent present
    rcases List.mem_cons.mp present with same | before
    · right
      refine ⟨fcNode, listed, ?_, same.symm⟩
      intro equal
      subst other
      cases absent.symm.trans (if_pos rfl)
    · exact .inl before

section Named

variable {middle : NetworkInterface}

/-- The loop leaves the network consistent if every node follows the first
contact behind it, should that be initialised. -/
theorem syncNodes_consistent (found : network.getFirstContact = some fcNode)
    (members : middle.nodes = network.nodes ∧ middle.config = network.config)
    (follows : ∀ source,
      ((syncNodes env (some fcNode)).run middle).2.node fcNode = some source →
      ∀ node ∈ network.nodes, node ≠ fcNode → ∃ contact,
        Follows fcNode contact node
          ((syncNodes env (some fcNode)).run middle).2) :
    Consistent earlier ((syncNodes env (some fcNode)).run middle).2 := by
  obtain ⟨nodes, config⟩ := syncNodes_members env (some fcNode) middle
  apply Consistent.of_agreement found
  · exact ⟨nodes.trans members.1, config.trans members.2⟩
  · intro source sourced node member different
    obtain ⟨contact, given⟩ := follows source sourced node member different
    exact given.agrees sourced

/-- Where the first contact cannot be created, the loop changes no config. -/
theorem syncNodes_absent (found : network.getFirstContact = some fcNode)
    (members : middle.nodes = network.nodes ∧ middle.config = network.config)
    (absent : Absent env fcNode middle) :
    Consistent earlier ((syncNodes env (some fcNode)).run middle).2 := by
  apply syncNodes_consistent found members
  intro source sourced
  have still : Absent env fcNode
      ((syncNodes env (some fcNode)).run middle).2 :=
    syncNodes_keeps syncNode_absent middle absent
  cases still.1.symm.trans sourced

/-- Where it was created, every other node follows it behind the loop: the
nodes that were initialised because the loop gets to them, the others because
they are created in it. -/
theorem syncNodes_created {source : BaseNodeConfig}
    (propagates : SyncPropagates env earlier network)
    (found : network.getFirstContact = some fcNode)
    (missing : network.node fcNode = none)
    (absent : fcNode.name ∉ network.directories)
    (made : env.mkdir fcNode.name = .ok ())
    (built : env.nodeClass fcNode = .ok source) (member : node ∈ network.nodes)
    (different : node ≠ fcNode) :
    Follows fcNode source.contact node ((syncNodes env (some fcNode)).run
      ((network.addDirectory fcNode.name).setNode fcNode source)).2 := by
  obtain ⟨name, _, _, resolved⟩ := getFirstContact_eq_some found
  have listed : fcNode ∈ network.nodes := List.mem_of_find?_eq_some resolved
  cases stored : network.node node with
  | none =>
      apply syncNodes_keeps (syncNode_follows different)
      refine ⟨⟨source, if_pos rfl, rfl⟩, ?_⟩
      intro config initialized
      cases ((if_neg different).trans stored).symm.trans initialized
  | some config =>
      have initialized : network.node node ≠ none := by
        rw [stored]
        exact Option.some_ne_none config
      obtain ⟨own, reached⟩ := propagates.reached fcNode source found missing
        absent made built node member different initialized
      have rounds : ∀ other ∈ network.nodes, (other = fcNode ∨
            CanSync env network source other) →
          Completes (Syncing env network fcNode source)
            (syncNode env (some fcNode) other)
            fun _ => Syncing env network fcNode source := by
        intro other inNetwork passes
        exact Syncing.round inNetwork passes
      rw [run_syncNodes]
      apply Completes.forEach_reached reached rounds
      · intro current syncing
        exact syncing.follows member different initialized own
      · exact syncNode_follows different
      · exact Syncing.start listed missing

/-- However the first contact was to be created: if that raised, the network is
consistent, and otherwise it is so behind the loop. -/
theorem createMissing_consistent (consistent : network.Consistent earlier)
    (propagates : SyncPropagates env earlier network)
    (found : network.getFirstContact = some fcNode)
    {result : Except (InterfaceFailure Raised) Unit}
    (created : CreatedMissing env network fcNode result middle) :
    (∀ failure, result = .error failure → middle.Consistent earlier) ∧
      (result = .ok () →
        Consistent earlier ((syncNodes env (some fcNode)).run middle).2) := by
  have members := created.members
  cases sourced : network.node fcNode with
  | some source =>
      obtain ⟨name, named, _, resolved⟩ := getFirstContact_eq_some found
      -- the others have the first contact already
      have follows : ∀ node ∈ network.nodes, node ≠ fcNode →
          Follows fcNode source.contact node middle := by
        intro node member different
        refine ⟨⟨source, created.kept sourced, rfl⟩, ?_⟩
        rw [created.others different]
        exact consistent.named named resolved sourced node member different
      constructor
      · intro _ _
        apply Consistent.of_agreement found members
        intro now stored node member different
        exact (follows node member different).agrees stored
      · intro _
        apply syncNodes_consistent found members
        intro _ _ node member different
        exact ⟨_, syncNodes_keeps (syncNode_follows different) middle
          (follows node member different)⟩
  | none =>
      have aborted (missing : middle.node fcNode = none) :
          middle.Consistent earlier := by
        apply Consistent.of_agreement found members
        intro source stored
        cases missing.symm.trans stored
      cases created with
      | present present =>
          constructor
          · intro _ raised
            cases raised
          · intro _
            exact syncNodes_absent found members
              ⟨sourced, fun _ _ => present⟩
      | refused =>
          constructor
          · intro _ _
            exact aborted sourced
          · intro returned
            cases returned
      | again _ initialized => cases sourced.symm.trans initialized
      | @created source absent made _ built =>
          constructor
          · intro _ raised
            cases raised
          · intro _
            apply syncNodes_consistent found members
            intro _ _ node member different
            exact ⟨_, syncNodes_created propagates found sourced absent made
              built member different⟩
      | deleted _ _ built =>
          constructor
          · intro _ raised
            cases raised
          · intro _
            apply syncNodes_absent found members
            refine ⟨sourced, ?_⟩
            intro config given
            cases built.symm.trans given
      | remains =>
          constructor
          · intro _ _
            exact aborted sourced
          · intro returned
            cases returned

end Named

theorem sync_consistent (consistent : network.Consistent earlier)
    (propagates : SyncPropagates env earlier network) :
    Consistent earlier ((sync env).run network).2 := by
  unfold sync
  rw [Effect.run_get_bind]
  cases found : network.getFirstContact with
  | none => exact sync_alone consistent propagates found
  | some fcNode =>
      have created := createMissing_cases env network fcNode
      obtain ⟨aborted, completed⟩ :=
        createMissing_consistent consistent propagates found created
      dsimp only
      rw [Effect.run_bind]
      generalize (createMissing env fcNode).run network = ended
        at aborted completed
      obtain ⟨result, middle⟩ := ended
      cases result with
      | error failure => exact aborted failure rfl
      | ok value => exact completed rfl

end Rounds

end NetworkInterface

end KoiNet
