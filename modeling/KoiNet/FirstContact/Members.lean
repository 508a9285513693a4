import KoiNet.FirstContact.Consistency

/-!
# Adding and removing nodes

A node that is added gets the first contact of the network, and a node that is
removed is unset if it was the first contact.
-/

namespace KoiNet

open Foundation

namespace NetworkInterface

section Conditions

variable {Raised : Type} (env : InterfaceEnvironment Raised)
  (earlier : List KoiNetNode) (network : NetworkInterface)
  (node : NodeInterface)

/-- An empty name is taken for no first contact; without a first contact, the
added node must not bring the RID of an earlier one; with one, the network's
config must be saved before the node gets it; and a node that the setting names
once it is added must be what the others have. -/
structure AddPropagates : Prop where
  nonempty : network.config.firstContact ≠ some ""
  clean : network.config.firstContact = none →
    ∀ config, network.node node = some config →
    ∀ rid ∈ earlier, config.firstContact.rid ≠ some rid
  saved : ∀ fcNode, network.getFirstContact = some fcNode → node ≠ fcNode →
    env.saveNetwork (network.listNode node).config = .ok () ∨
      ∀ source config, network.node fcNode = some source →
        network.node node = some config →
        config.firstContact = source.contact
  named : network.config.firstContact = some node.name →
    network.resolveNode node.name = none →
    ∀ source, network.node node = some source →
    ∀ other ∈ network.nodes, ∀ config, network.node other = some config →
      config.firstContact = source.contact

/-- The network once the node is neither listed nor in its config. -/
def without : NetworkInterface :=
  if node.name ∈ network.config.nodes.keys then
    (network.unlistNode node).deleteModule node
  else network.unlistNode node

/-- The module of the node is deleted, and that is saved. -/
def Forgets : Prop :=
  node.name ∈ network.config.nodes.keys →
    env.saveNetwork (network.without node).config = .ok ()

/-- Removing the first contact unsets it; where that is not reached, its name
must not name another node. -/
structure RemovePropagates : Prop where
  unsets : node ∈ network.nodes →
    network.config.firstContact = some node.name →
    Forgets env network node → node.name ≠ "" →
    Clears env earlier (network.without node) node
  unique : node ∈ network.nodes →
    network.config.firstContact = some node.name →
    ¬ (Forgets env network node ∧ node.name ≠ "") →
    ∀ other, (network.without node).resolveNode node.name = some other →
      network.resolveNode node.name = some other

end Conditions

section Members

variable {Raised : Type} {env : InterfaceEnvironment Raised}
  {earlier : List KoiNetNode} {network after : NetworkInterface}
  {node : NodeInterface}

/-- What `add_node` makes of a network: it is aborted by the save, there is no
first contact, one of the two nodes is not initialised, or the node is given
the first contact. -/
inductive Added (env : InterfaceEnvironment Raised)
    (network : NetworkInterface) (node : NodeInterface) :
    NetworkInterface → Prop where
  | aborted :
      env.saveNetwork (network.listNode node).config ≠ .ok () →
      Added env network node (network.listNode node)
  | alone :
      (network.listNode node).getFirstContact = none →
      Added env network node (network.listNode node)
  | missing {fcNode : NodeInterface} :
      (network.listNode node).getFirstContact = some fcNode →
      network.node fcNode = none ∨ network.node node = none →
      Added env network node (network.listNode node)
  | applied {fcNode : NodeInterface} {source config : BaseNodeConfig} :
      (network.listNode node).getFirstContact = some fcNode →
      network.node fcNode = some source →
      network.node node = some config →
      Added env network node
        ((network.listNode node).setNode node
          (applyFirstContact source config))

theorem addNode_cases (env : InterfaceEnvironment Raised)
    (network : NetworkInterface) (node : NodeInterface) :
    Added env network node ((addNode env node).run network).2 := by
  unfold addNode
  rw [Effect.run_modify_bind]
  cases saved : env.saveNetwork (network.listNode node).config with
  | error exc =>
      rw [saveToYaml_bind_of_error saved]
      exact .aborted (by simp [saved])
  | ok value =>
      rw [saveToYaml_bind_of_ok saved, Effect.run_get_bind]
      cases found : (network.listNode node).getFirstContact with
      | none => exact .alone found
      | some fcNode =>
          dsimp only
          cases sourced : (network.listNode node).node fcNode with
          | none =>
              rw [run_mutateFrom_none (.inl sourced)]
              exact .missing found (.inl sourced)
          | some source =>
              cases initialized : (network.listNode node).node node with
              | none =>
                  rw [run_mutateFrom_none (.inr initialized)]
                  exact .missing found (.inr initialized)
              | some config =>
                  rw [run_mutateFrom sourced initialized]
                  exact .applied found sourced initialized

theorem resolveNode_listNode (network : NetworkInterface)
    (node : NodeInterface) (name : String) :
    (network.listNode node).resolveNode name =
      (network.resolveNode name).or
        (if node.name = name then some node else none) := by
  unfold resolveNode listNode
  simp only [List.find?_append, List.find?_singleton, decide_eq_true_eq]

theorem resolveNode_listNode_of_some {fcNode : NodeInterface} {name : String}
    (resolved : network.resolveNode name = some fcNode)
    (node : NodeInterface) :
    (network.listNode node).resolveNode name = some fcNode := by
  rw [resolveNode_listNode, resolved]
  rfl

theorem getFirstContact_listNode_of_some {fcNode : NodeInterface}
    {name : String} (named : network.config.firstContact = some name)
    (nonempty : name ≠ "") (resolved : network.resolveNode name = some fcNode)
    (node : NodeInterface) :
    (network.listNode node).getFirstContact = some fcNode := by
  have still : (network.listNode node).config.firstContact = some name := named
  unfold getFirstContact
  rw [still]
  dsimp only
  rw [if_neg nonempty, resolveNode_listNode_of_some resolved]

/-- A network with one node more is consistent if that node agrees with the
first contact there was, and the others with the one there may be now. -/
theorem Consistent.of_listed (consistent : network.Consistent earlier)
    (nodes : after.nodes = network.nodes ++ [node])
    (firstContact : after.config.firstContact = network.config.firstContact)
    (others : ∀ other, other ≠ node → after.node other = network.node other)
    (own : ∀ now, after.node node = some now → ∃ config,
      network.node node = some config ∧ now.contact = config.contact)
    (clean : network.config.firstContact = none →
      ∀ now, after.node node = some now →
      ∀ rid ∈ earlier, now.firstContact.rid ≠ some rid)
    (agrees : ∀ {name fcNode source now},
      network.config.firstContact = some name →
      network.resolveNode name = some fcNode → node ≠ fcNode →
      network.node fcNode = some source → after.node node = some now →
      now.firstContact = source.contact)
    (named : network.config.firstContact = some node.name →
      network.resolveNode node.name = none →
      ∀ source, network.node node = some source →
      ∀ other ∈ network.nodes, ∀ config, network.node other = some config →
        config.firstContact = source.contact) :
    after.Consistent earlier := by
  have listed (other : NodeInterface) (member : other ∈ after.nodes) :
      other = node ∨ other ∈ network.nodes := by
    rw [nodes, List.mem_append, List.mem_singleton] at member
    exact member.symm
  constructor
  · intro name fcNode now isNamed resolved sourced other member different
      config initialized
    rw [firstContact] at isNamed
    have found : (network.listNode node).resolveNode name = some fcNode := by
      unfold resolveNode at resolved
      rw [nodes] at resolved
      exact resolved
    rw [resolveNode_listNode] at found
    cases before : network.resolveNode name with
    | some first =>
        rw [before] at found
        obtain rfl : first = fcNode := Option.some.inj found
        have source : ∃ source, network.node first = some source ∧
            now.contact = source.contact := by
          by_cases same : first = node
          · subst first
            exact own now sourced
          · exact ⟨now, (others first same).symm.trans sourced, rfl⟩
        obtain ⟨source, sourcedBefore, contact⟩ := source
        rw [contact]
        by_cases isNew : other = node
        · subst other
          exact agrees isNamed before different sourcedBefore initialized
        · rw [others other isNew] at initialized
          exact consistent.named isNamed before sourcedBefore other
            ((listed other member).resolve_left isNew) different config
            initialized
    | none =>
        rw [before, Option.none_or] at found
        split at found
        · rename_i sameName
          obtain rfl : node = fcNode := Option.some.inj found
          subst name
          obtain ⟨source, sourcedBefore, contact⟩ := own now sourced
          rw [others other different] at initialized
          rw [contact]
          exact named isNamed before source sourcedBefore other
            ((listed other member).resolve_left different) config initialized
        · cases found
  · intro unset other member config initialized
    rw [firstContact] at unset
    by_cases isNew : other = node
    · subst other
      exact clean unset config initialized
    · rw [others other isNew] at initialized
      exact consistent.unset unset other
        ((listed other member).resolve_left isNew) config initialized

theorem Consistent.listNode (consistent : network.Consistent earlier)
    (propagates : AddPropagates env earlier network node)
    (agrees : ∀ {name fcNode source config},
      network.config.firstContact = some name →
      network.resolveNode name = some fcNode → node ≠ fcNode →
      network.node fcNode = some source → network.node node = some config →
      config.firstContact = source.contact) :
    (network.listNode node).Consistent earlier := by
  refine consistent.of_listed rfl rfl (fun _ _ => rfl) ?_ propagates.clean
    agrees propagates.named
  intro now stored
  exact ⟨now, stored, rfl⟩

theorem addNode_consistent (consistent : network.Consistent earlier)
    (propagates : AddPropagates env earlier network node) :
    Consistent earlier ((addNode env node).run network).2 := by
  have nonempty {name : String}
      (named : network.config.firstContact = some name) : name ≠ "" := by
    intro empty
    subst name
    exact propagates.nonempty named
  have added := addNode_cases env network node
  generalize ((addNode env node).run network).2 = after at added
  cases added with
  | aborted raised =>
      apply consistent.listNode propagates
      intro name fcNode source config named resolved different
      have found : network.getFirstContact = some fcNode := by
        unfold getFirstContact
        rw [named]
        dsimp only
        rw [if_neg (nonempty named), resolved]
      rcases propagates.saved fcNode found different with saved | agrees
      · exact (raised saved).elim
      · exact agrees source config
  | alone none =>
      apply consistent.listNode propagates
      intro name fcNode source config named resolved
      have found := getFirstContact_listNode_of_some named (nonempty named)
        resolved node
      cases none.symm.trans found
  | missing given uninitialized =>
      apply consistent.listNode propagates
      intro name fcNode source config named resolved different sourced stored
      have found := getFirstContact_listNode_of_some named (nonempty named)
        resolved node
      rw [Option.some.inj (given.symm.trans found)] at uninitialized
      rcases uninitialized with noSource | noNode
      · cases noSource.symm.trans sourced
      · cases noNode.symm.trans stored
  | @applied given source config found sourced initialized =>
      obtain ⟨name, named, _, _⟩ := getFirstContact_eq_some found
      have own : ∀ now, ((network.listNode node).setNode node
          (applyFirstContact source config)).node node = some now →
          now = applyFirstContact source config := by
        intro now stored
        exact (Option.some.inj ((if_pos rfl).symm.trans stored)).symm
      refine consistent.of_listed rfl rfl ?_ ?_ ?_ ?_ propagates.named
      · intro other different
        exact if_neg different
      · intro now stored
        rw [own now stored]
        exact ⟨config, initialized, rfl⟩
      · intro unset
        cases unset.symm.trans named
      · intro name fcNode first now isNamed resolved different firstSourced
          stored
        have same := getFirstContact_listNode_of_some isNamed
          (nonempty isNamed) resolved node
        obtain rfl : given = fcNode := Option.some.inj (found.symm.trans same)
        rw [own now stored, Option.some.inj (firstSourced.symm.trans sourced)]
        rfl

@[simp] theorem without_nodes (network : NetworkInterface)
    (node : NodeInterface) :
    (network.without node).nodes = network.nodes.erase node := by
  unfold without
  split
  · rfl
  · rfl

@[simp] theorem without_firstContact (network : NetworkInterface)
    (node : NodeInterface) :
    (network.without node).config.firstContact =
      network.config.firstContact := by
  unfold without
  split
  · rfl
  · rfl

@[simp] theorem without_node (network : NetworkInterface)
    (node : NodeInterface) : (network.without node).node = network.node := by
  unfold without
  split
  · rfl
  · rfl

theorem find?_erase {ι : Type} [DecidableEq ι] {accepts : ι → Bool} {item : ι}
    (rejected : accepts item = false) (items : List ι) :
    (items.erase item).find? accepts = items.find? accepts := by
  induction items with
  | nil => rfl
  | cons head rest induction =>
      by_cases same : head = item
      · subst head
        simp [rejected]
      · have kept : (head :: rest).erase item = head :: rest.erase item := by
          simp [same]
        rw [kept, List.find?_cons, List.find?_cons, induction]

theorem resolveNode_without {name : String} (different : node.name ≠ name) :
    (network.without node).resolveNode name = network.resolveNode name := by
  unfold resolveNode
  rw [without_nodes]
  apply find?_erase
  simp [different]

theorem Consistent.without (consistent : network.Consistent earlier)
    (unique : network.config.firstContact = some node.name →
      ∀ other, (network.without node).resolveNode node.name = some other →
        network.resolveNode node.name = some other) :
    (network.without node).Consistent earlier := by
  constructor
  · intro name fcNode source named resolved sourced other member different
      config initialized
    rw [without_firstContact] at named
    rw [without_node] at sourced initialized
    rw [without_nodes] at member
    have before : network.resolveNode name = some fcNode := by
      by_cases same : node.name = name
      · subst name
        exact unique named fcNode resolved
      · rw [← resolveNode_without same]
        exact resolved
    exact consistent.named named before sourced other
      (List.mem_of_mem_erase member) different config initialized
  · intro unset other member config initialized
    rw [without_firstContact] at unset
    rw [without_node] at initialized
    rw [without_nodes] at member
    exact consistent.unset unset other (List.mem_of_mem_erase member) config
      initialized

theorem run_forgetModule (env : InterfaceEnvironment Raised)
    (network : NetworkInterface) (node : NodeInterface) :
    ((forgetModule env node).run (network.unlistNode node)).2 =
        network.without node ∧
      (((forgetModule env node).run (network.unlistNode node)).1 = .ok () ↔
        Forgets env network node) := by
  unfold forgetModule Forgets without
  rw [Effect.run_get_bind]
  by_cases listed : node.name ∈ network.config.nodes.keys
  · have still : node.name ∈ (network.unlistNode node).config.nodes.keys :=
      listed
    rw [if_pos still, if_pos listed, Effect.run_modify_bind]
    unfold saveToYaml InterfaceM.external
    rw [Effect.run_get_bind, Effect.run_ofExcept]
    cases saved : env.saveNetwork
        ((network.unlistNode node).deleteModule node).config with
    | ok value => simp [Except.mapError, listed]
    | error exc => simp [Except.mapError, listed]
  · have still : node.name ∉ (network.unlistNode node).config.nodes.keys :=
      listed
    rw [if_neg still, if_neg listed]
    simp [listed]

theorem removeNode_consistent (consistent : network.Consistent earlier)
    (propagates : RemovePropagates env earlier network node) :
    Consistent earlier ((removeNode env node).run network).2 := by
  unfold removeNode
  rw [Effect.run_get_bind]
  by_cases member : node ∈ network.nodes
  · rw [if_pos member, Effect.run_modify_bind, Effect.run_bind]
    obtain ⟨state, returns⟩ := run_forgetModule env network node
    generalize (forgetModule env node).run (network.unlistNode node) = ended
      at state returns
    obtain ⟨result, after⟩ := ended
    subst state
    cases result with
    | error failure =>
        apply consistent.without
        intro named
        apply propagates.unique member named
        intro forgets
        cases returns.mpr forgets.1
    | ok value =>
        have forgets : Forgets env network node := returns.mp rfl
        dsimp only
        rw [Effect.run_get_bind, without_firstContact]
        by_cases named : network.config.firstContact = some node.name
        · rw [if_pos named]
          have still : (network.without node).config.firstContact =
              some node.name := (without_firstContact network node).trans named
          by_cases empty : node.name = ""
          · rw [run_unsetFirstContact_of_unnamed]
            · apply consistent.without
              intro _
              apply propagates.unique member named
              exact fun given => given.2 empty
            · intro name isNamed
              rw [← Option.some.inj (still.symm.trans isNamed), empty]
          · apply Consistent.of_unset
            · exact unsetFirstContact_unset env node still empty
            · exact unsetFirstContact_clean still empty
                (propagates.unsets member named forgets empty)
        · rw [if_neg named]
          apply consistent.without
          intro given
          exact (named given).elim
  · rw [if_neg member]
    exact consistent

end Members

end NetworkInterface

end KoiNet
