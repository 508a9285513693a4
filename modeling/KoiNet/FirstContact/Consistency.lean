import KoiNet.FirstContact.Calls

/-!
# Consistency of the first contact

The first contact is one setting with a copy in the config of every node.  The
copies agree with the setting as long as each call gets to the nodes it has to
change; what that takes of a call is a condition on the network before it.
Here the calls are those that set and unset the first contact.
-/

namespace KoiNet

open Foundation

namespace NetworkInterface

/-- No initialised node of the network has one of these RIDs as its first
contact. -/
def Clean (earlier : List KoiNetNode) (network : NetworkInterface) : Prop :=
  ∀ node ∈ network.nodes, ∀ config, network.node node = some config →
    ∀ rid ∈ earlier, config.firstContact.rid ≠ some rid

/-- If the network names a first contact, every other initialised node has its
RID and base URL; if it names none, no initialised node has one of the RIDs of
earlier first contacts. -/
structure Consistent (earlier : List KoiNetNode) (network : NetworkInterface) :
    Prop where
  named : ∀ {name fcNode source},
    network.config.firstContact = some name →
    network.resolveNode name = some fcNode →
    network.node fcNode = some source →
    ∀ node ∈ network.nodes, node ≠ fcNode →
    ∀ config, network.node node = some config →
      config.firstContact = source.contact
  unset : network.config.firstContact = none → network.Clean earlier

theorem Consistent.of_unset {earlier : List KoiNetNode}
    {network : NetworkInterface} (unset : network.config.firstContact = none)
    (clean : network.Clean earlier) : network.Consistent earlier := by
  constructor
  · intro name fcNode source named
    cases named.symm.trans unset
  · intro _
    exact clean

/-- As long as a first contact is named, the earlier ones do not matter. -/
theorem Consistent.of_named {earlier others : List KoiNetNode}
    {network : NetworkInterface} {name : String}
    (consistent : network.Consistent earlier)
    (named : network.config.firstContact = some name) :
    network.Consistent others := by
  constructor
  · exact consistent.named
  · intro unset
    cases named.symm.trans unset

theorem getFirstContact_eq_some {network : NetworkInterface}
    {fcNode : NodeInterface} (found : network.getFirstContact = some fcNode) :
    ∃ name, network.config.firstContact = some name ∧ name ≠ "" ∧
      network.resolveNode name = some fcNode := by
  unfold getFirstContact at found
  cases named : network.config.firstContact with
  | none =>
      rw [named] at found
      cases found
  | some name =>
      rw [named] at found
      by_cases empty : name = ""
      · simp [empty] at found
      · exact ⟨name, rfl, empty, by simpa [empty] using found⟩

section Calls

variable {Raised : Type} (env : InterfaceEnvironment Raised)
  (earlier : List KoiNetNode) (network : NetworkInterface)
  (fcNode : NodeInterface)

/-- The loop of `unset_first_contact` runs to its end. -/
def Unsets : Prop :=
  env.saveNetwork (network.nameFirstContact none).config = .ok () ∧
    ∀ node ∈ network.nodes, Passes env clearFirstContact fcNode network node

/-- Whatever node has the RID of an earlier first contact has the RID of the
node that is unset, which is initialised, and the loop gets to it. -/
def Clears : Prop :=
  ∀ node ∈ network.nodes, ∀ config, network.node node = some config →
    ∀ rid ∈ earlier, config.firstContact.rid = some rid →
      env.saveNetwork (network.nameFirstContact none).config = .ok () ∧
      (∃ source, network.node fcNode = some source ∧
        source.nodeRid = some rid) ∧
      Reached (Passes env clearFirstContact fcNode network) node network.nodes

/-- The name of the new first contact names no other node, and the loop of
`set_first_contact` gets to every other initialised node. -/
structure Stores : Prop where
  unique : ∀ other, network.resolveNode fcNode.name = some other →
    other = fcNode
  reached : ∀ node ∈ network.nodes, node ≠ fcNode → network.node node ≠ none →
    env.saveNetwork (network.nameFirstContact (some fcNode.name)).config =
        .ok () ∧
      Reached (fun other => other = fcNode ∨
        Passes env applyFirstContact fcNode network other) node network.nodes

def UnsetPropagates : Prop :=
  ∀ name, network.config.firstContact = some name → name ≠ "" →
    Clears env earlier network fcNode

def SetPropagates : Prop :=
  ∀ source, network.node fcNode = some source →
    source.nodeProfile.nodeType ≠ .partialNode →
    network.getFirstContact ≠ some fcNode →
    (∀ prevFcNode, network.getFirstContact = some prevFcNode →
      ¬ Unsets env network prevFcNode →
      Clears env earlier network prevFcNode) ∧
    ((∀ prevFcNode, network.getFirstContact = some prevFcNode →
      Unsets env network prevFcNode) →
      Stores env network fcNode)

end Calls

section Calls

variable {Raised : Type} {env : InterfaceEnvironment Raised}
  {earlier : List KoiNetNode} {network : NetworkInterface}
  {node fcNode : NodeInterface}

theorem unsetFirstContact_clean {name : String}
    (named : network.config.firstContact = some name) (nonempty : name ≠ "")
    (clears : Clears env earlier network fcNode) :
    Clean earlier ((unsetFirstContact env fcNode).run network).2 := by
  have changed := unsetFirstContact_changes env fcNode named nonempty
  intro node member config found rid isEarlier carried
  rw [changed.nodes] at member
  rcases changed.partly node with same | ⟨source, old, sourced, stored, new⟩
  · have initialized : network.node node = some config := same.symm.trans found
    obtain ⟨saved, ⟨source, sourced, own⟩, reached⟩ :=
      clears node member config initialized rid isEarlier carried
    have cleared := unsetFirstContact_cleared named nonempty saved reached
      sourced initialized
    have equal : config = clearFirstContact source config :=
      Option.some.inj (found.symm.trans cleared)
    rw [equal] at carried
    exact (clearFirstContact_rid carried).2 own
  · have equal : config = clearFirstContact source old :=
      Option.some.inj (found.symm.trans new)
    rw [equal] at carried
    obtain ⟨before, other⟩ := clearFirstContact_rid carried
    obtain ⟨_, ⟨first, firstSourced, own⟩, _⟩ :=
      clears node member old stored rid isEarlier before
    have sameSource : first = source :=
      Option.some.inj (firstSourced.symm.trans sourced)
    exact other (sameSource ▸ own)

theorem unsetFirstContact_unset (env : InterfaceEnvironment Raised)
    (fcNode : NodeInterface) {name : String}
    (named : network.config.firstContact = some name) (nonempty : name ≠ "") :
    ((unsetFirstContact env fcNode).run network).2.config.firstContact =
      none := by
  rw [(unsetFirstContact_changes env fcNode named nonempty).config]
  rfl

theorem unsetFirstContact_consistent
    (consistent : network.Consistent earlier)
    (propagates : UnsetPropagates env earlier network fcNode) :
    Consistent earlier ((unsetFirstContact env fcNode).run network).2 := by
  by_cases unnamed : ∀ name, network.config.firstContact = some name →
      name = ""
  · rw [run_unsetFirstContact_of_unnamed unnamed]
    exact consistent
  · simp only [not_forall] at unnamed
    obtain ⟨name, named, nonempty⟩ := unnamed
    apply Consistent.of_unset
    · exact unsetFirstContact_unset env fcNode named nonempty
    · exact unsetFirstContact_clean named nonempty
        (propagates name named nonempty)

/-- What the call needs is needed: otherwise some node keeps a RID that it
should have lost. -/
theorem unsetFirstContact_consistent_iff
    (consistent : network.Consistent earlier) :
    Consistent earlier ((unsetFirstContact env fcNode).run network).2 ↔
      UnsetPropagates env earlier network fcNode := by
  constructor
  · intro afterwards name named nonempty node member config stored rid
      isEarlier carried
    have changed := unsetFirstContact_changes env fcNode named nonempty
    have clean := afterwards.unset
      (unsetFirstContact_unset env fcNode named nonempty)
    have listed : node ∈ ((unsetFirstContact env fcNode).run network
        ).2.nodes := by
      rw [changed.nodes]
      exact member
    have differs : ((unsetFirstContact env fcNode).run network).2.node node ≠
        network.node node := by
      intro same
      exact clean node listed config (same.trans stored) rid isEarlier carried
    obtain ⟨saved, reached⟩ := reached_of_unsetFirstContact named nonempty
      differs
    refine ⟨saved, ?_, reached⟩
    rcases changed.partly node with same | ⟨source, old, sourced, found, new⟩
    · exact (differs same).elim
    · have equal : old = config := Option.some.inj (found.symm.trans stored)
      subst old
      refine ⟨source, sourced, ?_⟩
      by_cases cleared : config.firstContact.rid = source.nodeRid
      · exact cleared.symm.trans carried
      · unfold clearFirstContact at new
        rw [if_neg cleared] at new
        exact (differs (new.trans found.symm)).elim
  · exact unsetFirstContact_consistent consistent

theorem storeFirstContact_consistent
    (stores : Stores env network fcNode) {source : BaseNodeConfig}
    (sourced : network.node fcNode = some source) :
    Consistent earlier ((storeFirstContact env fcNode).run network).2 := by
  have changed := storeFirstContact_changes env fcNode network
  have name : ((storeFirstContact env fcNode).run network
      ).2.config.firstContact = some fcNode.name := by
    rw [changed.config]
    rfl
  constructor
  · intro named other now isNamed resolved found node member different config
      initialized
    have sameName : fcNode.name = named :=
      Option.some.inj (name.symm.trans isNamed)
    subst named
    unfold resolveNode at resolved
    rw [changed.nodes] at resolved member
    have sameNode := stores.unique other resolved
    subst other
    have contact : now.contact = source.contact := by
      rcases changed.partly fcNode with same | ⟨first, old, _, stored, new⟩
      · rw [Option.some.inj (found.symm.trans (same.trans sourced))]
      · rw [Option.some.inj (found.symm.trans new),
          Option.some.inj (sourced.symm.trans stored)]
        rfl
    cases stored : network.node node with
    | none =>
        have still := changed.node_none.mpr stored
        cases still.symm.trans initialized
    | some old =>
        obtain ⟨saved, reached⟩ := stores.reached node member different (by
          rw [stored]
          exact Option.some_ne_none old)
        have applied := storeFirstContact_applied saved reached different
          sourced stored
        rw [Option.some.inj (initialized.symm.trans applied), contact]
        rfl
  · intro unset
    rw [name] at unset
    cases unset

/-- What the second part needs is the same once the previous first contact is
unset. -/
theorem Stores.of_changed {prevFcNode : NodeInterface}
    {after : NetworkInterface}
    (changed : Changed clearFirstContact prevFcNode
      (network.nameFirstContact none) after)
    (stores : Stores env network fcNode) : Stores env after fcNode := by
  have config : after.nameFirstContact (some fcNode.name) =
      { network.nameFirstContact (some fcNode.name) with
        node := after.node
        directories := after.directories } := by
    unfold nameFirstContact
    rw [changed.config, changed.nodes]
    rfl
  constructor
  · intro other resolved
    unfold resolveNode at resolved
    rw [changed.nodes] at resolved
    exact stores.unique other resolved
  · intro node member different initialized
    rw [changed.nodes] at member
    have before : network.node node ≠ none := by
      intro none
      exact initialized (changed.node_none.mpr none)
    obtain ⟨saved, reached⟩ := stores.reached node member different before
    rw [config, changed.nodes]
    refine ⟨saved, reached.mono ?_⟩
    intro other passes
    rcases passes with same | ⟨source, target, sourced, stored, saves⟩
    · exact .inl same
    · right
      obtain ⟨sourceNow, sourceFound, contact, _⟩ := changed.cleared sourced
      obtain ⟨targetNow, targetFound, _, sameApplied⟩ := changed.cleared stored
      refine ⟨sourceNow, targetNow, sourceFound, targetFound, ?_⟩
      have applied : applyFirstContact sourceNow targetNow =
          applyFirstContact source target := by
        rw [sameApplied]
        change { target with firstContact := sourceNow.contact } =
          { target with firstContact := source.contact }
        rw [contact]
      rw [applied]
      exact saves

theorem run_config {config : BaseNodeConfig}
    (initialized : network.node node = some config) :
    (node.config : InterfaceM Raised BaseNodeConfig).run network =
      (.ok config, network) := by
  unfold NodeInterface.config
  rw [Effect.run_get_bind, initialized]
  rfl

/-- If the previous first contact cannot be unset, no new one is stored. -/
theorem replaceFirstContact_consistent {prevFcNode : NodeInterface}
    {source : BaseNodeConfig} (sourced : network.node fcNode = some source)
    (found : network.getFirstContact = some prevFcNode)
    (clears : ¬ Unsets env network prevFcNode →
      Clears env earlier network prevFcNode)
    (stores : Unsets env network prevFcNode → Stores env network fcNode) :
    Consistent earlier
      ((unsetFirstContact env prevFcNode >>= fun _ =>
        storeFirstContact env fcNode).run network).2 := by
  obtain ⟨name, named, nonempty, _⟩ := getFirstContact_eq_some found
  have returns := unsetFirstContact_returns_iff env prevFcNode named nonempty
  have changed := unsetFirstContact_changes env prevFcNode named nonempty
  have unset := unsetFirstContact_unset env prevFcNode named nonempty
  have clean := fun clears : Clears env earlier network prevFcNode =>
    unsetFirstContact_clean named nonempty clears
  rw [Effect.run_bind]
  generalize (unsetFirstContact env prevFcNode).run network = ended
    at returns changed unset clean
  obtain ⟨result, after⟩ := ended
  cases result with
  | error failure =>
      have stopped : ¬ Unsets env network prevFcNode := by
        intro unsets
        cases returns.mpr unsets
      exact .of_unset unset (clean (clears stopped))
  | ok value =>
      have unsets : Unsets env network prevFcNode := returns.mp rfl
      obtain ⟨now, sourcedNow, _⟩ := changed.cleared sourced
      exact storeFirstContact_consistent ((stores unsets).of_changed changed)
        sourcedNow

theorem setFirstContact_consistent
    (consistent : network.Consistent earlier)
    (propagates : SetPropagates env earlier network fcNode) :
    Consistent earlier ((setFirstContact env fcNode).run network).2 := by
  unfold setFirstContact
  cases sourced : network.node fcNode with
  | none =>
      unfold NodeInterface.config
      simp only [Effect.run_bind, Effect.run_get, sourced, Effect.run_raise]
      exact consistent
  | some source =>
      rw [Effect.run_bind_of_ok (run_config sourced)]
      by_cases partialNode : source.nodeProfile.nodeType = .partialNode
      · rw [if_pos partialNode]
        exact consistent
      · have given := propagates source sourced partialNode
        rw [if_neg partialNode, Effect.run_get_bind]
        cases found : network.getFirstContact with
        | none =>
            obtain ⟨_, stores⟩ := given (by simp [found])
            apply storeFirstContact_consistent _ sourced
            apply stores
            intro prevFcNode other
            cases found.symm.trans other
        | some prevFcNode =>
            dsimp only
            by_cases same : prevFcNode = fcNode
            · rw [if_pos same]
              exact consistent
            · obtain ⟨clears, stores⟩ := given (by simp [found, same])
              rw [if_neg same]
              apply replaceFirstContact_consistent sourced found
              · exact clears prevFcNode found
              · intro unsets
                apply stores
                intro other otherFound
                rw [Option.some.inj (otherFound.symm.trans found)]
                exact unsets

end Calls

end NetworkInterface

end KoiNet
