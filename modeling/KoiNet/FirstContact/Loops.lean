import KoiNet.Interfaces.Network

/-!
# Loops over the configs of a network

What the loops of the network interface do to the configs of its nodes, also
when one of their rounds raises: the nodes up to there are changed, the others
are as before.
-/

namespace KoiNet

open Foundation

/-- Where the node of this config is contacted. -/
def BaseNodeConfig.contact (config : BaseNodeConfig) : NodeContact :=
  { rid := config.nodeRid, url := config.nodeProfile.baseUrl }

namespace NetworkInterface

/-- The change reads what it does not write, so making it again changes
nothing. -/
structure Copies
    (change : BaseNodeConfig → BaseNodeConfig → BaseNodeConfig) : Prop where
  stable : ∀ source target, change (change source target) = change target
  settled : ∀ source target,
    change source (change source target) = change source target

theorem copies_applyFirstContact : Copies applyFirstContact := by
  constructor
  · intro source target
    rfl
  · intro source target
    rfl

theorem clearFirstContact_nodeRid (source target : BaseNodeConfig) :
    (clearFirstContact source target).nodeRid = target.nodeRid := by
  unfold clearFirstContact
  split
  · rfl
  · rfl

theorem copies_clearFirstContact : Copies clearFirstContact := by
  constructor
  · intro source target
    have same := clearFirstContact_nodeRid source target
    generalize clearFirstContact source target = cleared at same
    funext other
    unfold clearFirstContact
    rw [same]
  · intro source target
    by_cases cleared : target.firstContact.rid = source.nodeRid
    · simp [clearFirstContact, cleared]
    · simp [clearFirstContact, cleared]

theorem clearFirstContact_rid {source target : BaseNodeConfig}
    {rid : KoiNetNode}
    (carried : (clearFirstContact source target).firstContact.rid = some rid) :
    target.firstContact.rid = some rid ∧ source.nodeRid ≠ some rid := by
  unfold clearFirstContact at carried
  split at carried
  · cases carried
  · rename_i different
    refine ⟨carried, ?_⟩
    intro same
    exact different (carried.trans same.symm)

theorem contact_clearFirstContact (source target : BaseNodeConfig) :
    (clearFirstContact source target).contact = target.contact := by
  unfold clearFirstContact
  split
  · rfl
  · rfl

/-- Applying a first contact leaves nothing of what was cleared. -/
theorem applyFirstContact_clearFirstContact
    (other source target : BaseNodeConfig) :
    applyFirstContact source (clearFirstContact other target) =
      applyFirstContact source target := by
  unfold clearFirstContact
  split
  · rfl
  · rfl

section Rounds

variable {Raised : Type} {env : InterfaceEnvironment Raised}
  {change : BaseNodeConfig → BaseNodeConfig → BaseNodeConfig}
  {source node : NodeInterface} {before after : NetworkInterface}

/-- The node is initialised and its config can be saved as it is changed. -/
def Passes (env : InterfaceEnvironment Raised)
    (change : BaseNodeConfig → BaseNodeConfig → BaseNodeConfig)
    (source : NodeInterface) (network : NetworkInterface)
    (node : NodeInterface) : Prop :=
  ∃ sourceConfig config, network.node source = some sourceConfig ∧
    network.node node = some config ∧
    env.saveNode node (change sourceConfig config) = .ok ()

/-- Some configs were changed, and nothing else. -/
structure Changed
    (change : BaseNodeConfig → BaseNodeConfig → BaseNodeConfig)
    (source : NodeInterface) (before after : NetworkInterface) : Prop where
  nodes : after.nodes = before.nodes
  config : after.config = before.config
  partly : ∀ node, after.node node = before.node node ∨
    ∃ sourceConfig config, before.node source = some sourceConfig ∧
      before.node node = some config ∧
      after.node node = some (change sourceConfig config)

theorem Changed.refl (network : NetworkInterface) :
    Changed change source network network :=
  { nodes := rfl
    config := rfl
    partly := fun _ => .inl rfl }

theorem Changed.node_none (changed : Changed change source before after) :
    after.node node = none ↔ before.node node = none := by
  rcases changed.partly node with same | ⟨_, _, _, old, new⟩
  · rw [same]
  · simp [old, new]

theorem Changed.source_eq (copies : Copies change)
    (changed : Changed change source before after)
    {sourceConfig : BaseNodeConfig}
    (sourced : before.node source = some sourceConfig) :
    ∃ current, after.node source = some current ∧
      change current = change sourceConfig := by
  rcases changed.partly source with same | ⟨first, config, found, old, new⟩
  · exact ⟨sourceConfig, same.trans sourced, rfl⟩
  · have equal : config = sourceConfig :=
      Option.some.inj (old.symm.trans sourced)
    refine ⟨_, new, ?_⟩
    rw [copies.stable, equal]

theorem Changed.target_eq (copies : Copies change)
    (changed : Changed change source before after)
    {sourceConfig config : BaseNodeConfig}
    (sourced : before.node source = some sourceConfig)
    (initialized : before.node node = some config) :
    ∃ current, after.node node = some current ∧
      change sourceConfig current = change sourceConfig config := by
  rcases changed.partly node with same | ⟨first, old, found, stored, new⟩
  · exact ⟨config, same.trans initialized, rfl⟩
  · have sameSource : first = sourceConfig :=
      Option.some.inj (found.symm.trans sourced)
    have sameConfig : old = config :=
      Option.some.inj (stored.symm.trans initialized)
    subst first
    subst old
    exact ⟨_, new, copies.settled _ _⟩

/-- Of what may be cleared, a first contact depends on nothing. -/
theorem Changed.cleared
    (changed : Changed clearFirstContact source before after)
    {config : BaseNodeConfig} (initialized : before.node node = some config) :
    ∃ current, after.node node = some current ∧
      current.contact = config.contact ∧
      ∀ other, applyFirstContact other current =
        applyFirstContact other config := by
  rcases changed.partly node with same | ⟨first, old, _, stored, new⟩
  · exact ⟨config, same.trans initialized, rfl, fun _ => rfl⟩
  · have equal : old = config :=
      Option.some.inj (stored.symm.trans initialized)
    subst old
    exact ⟨_, new, contact_clearFirstContact _ _, fun other =>
      applyFirstContact_clearFirstContact _ other _⟩

theorem run_mutateFrom {sourceConfig config : BaseNodeConfig}
    (sourced : before.node source = some sourceConfig)
    (initialized : before.node node = some config) :
    (mutateFrom env source change node).run before =
      ((env.saveNode node (change sourceConfig config)).mapError .raised,
        before.setNode node (change sourceConfig config)) := by
  unfold mutateFrom NodeInterface.mutateConfig NodeInterface.config
  simp [Effect.run_bind, sourced, initialized, InterfaceM.external]

theorem run_mutateFrom_none
    (missing : before.node source = none ∨ before.node node = none) :
    (mutateFrom env source change node).run before =
      (.error .nodeNotInitialized, before) := by
  unfold mutateFrom NodeInterface.mutateConfig NodeInterface.config
  cases stored : before.node node with
  | none => simp [Effect.run_bind, stored]
  | some config =>
      have sourceMissing : before.node source = none := by
        rcases missing with noSource | noNode
        · exact noSource
        · cases noNode.symm.trans stored
      simp [Effect.run_bind, stored, sourceMissing]

theorem mutateFrom_changes (copies : Copies change)
    (before : NetworkInterface) (node : NodeInterface) :
    (Frame.preserving (Changed change source before)).Keeps
      (mutateFrom env source change node) := by
  intro current changed
  cases sourced : before.node source with
  | none =>
      rw [run_mutateFrom_none (.inl (changed.node_none.mpr sourced))]
      exact changed
  | some sourceConfig =>
      cases initialized : before.node node with
      | none =>
          rw [run_mutateFrom_none (.inr (changed.node_none.mpr initialized))]
          exact changed
      | some config =>
          obtain ⟨now, found, sameSource⟩ := changed.source_eq copies sourced
          obtain ⟨old, stored, sameConfig⟩ :=
            changed.target_eq copies sourced initialized
          rw [run_mutateFrom found stored]
          refine
            { nodes := changed.nodes
              config := changed.config
              partly := ?_ }
          intro other
          change (if other = node then some _ else current.node other) = _ ∨
            ∃ _ _, _ ∧ _ ∧ (if other = node then some _ else _) = _
          by_cases same : other = node
          · subst other
            rw [if_pos rfl, sameSource, sameConfig]
            exact .inr ⟨sourceConfig, config, sourced, initialized, rfl⟩
          · rw [if_neg same]
            exact changed.partly other

theorem forEach_changes {body : NodeInterface → InterfaceM Raised Unit}
    (rounds : ∀ node,
      (Frame.preserving (Changed change source before)).Keeps (body node))
    (nodes : List NodeInterface) :
    Changed change source before ((Effect.forEach nodes body).run before).2 :=
  Frame.keeps_forEach rounds nodes before (Changed.refl before)

/-- The round of a node changes it, whether or not its config is saved. -/
theorem mutateFrom_changed (copies : Copies change)
    (changed : Changed change source before after)
    {sourceConfig config : BaseNodeConfig}
    (sourced : before.node source = some sourceConfig)
    (initialized : before.node node = some config) :
    ((mutateFrom env source change node).run after).2.node node =
      some (change sourceConfig config) := by
  obtain ⟨now, found, sameSource⟩ := changed.source_eq copies sourced
  obtain ⟨old, stored, sameConfig⟩ :=
    changed.target_eq copies sourced initialized
  rw [run_mutateFrom found stored, sameSource, sameConfig]
  exact if_pos rfl

/-- Some configs were changed, and this one as given. -/
def ChangedTo
    (change : BaseNodeConfig → BaseNodeConfig → BaseNodeConfig)
    (source : NodeInterface) (before : NetworkInterface) (node : NodeInterface)
    (config : BaseNodeConfig) (after : NetworkInterface) : Prop :=
  Changed change source before after ∧ after.node node = some config

/-- A node that is changed stays so. -/
theorem mutateFrom_settled (copies : Copies change)
    {sourceConfig config : BaseNodeConfig}
    (sourced : before.node source = some sourceConfig)
    (initialized : before.node node = some config) (other : NodeInterface) :
    (Frame.preserving (ChangedTo change source before node
      (change sourceConfig config))).Keeps
      (mutateFrom env source change other) := by
  intro current given
  obtain ⟨changed, settled⟩ := given
  refine ⟨mutateFrom_changes copies before other current changed, ?_⟩
  by_cases same : other = node
  · rw [same]
    exact mutateFrom_changed copies changed sourced initialized
  · cases stored : current.node other with
    | none =>
        rw [run_mutateFrom_none (.inr stored)]
        exact settled
    | some config =>
        obtain ⟨now, found, _⟩ := changed.source_eq copies sourced
        rw [run_mutateFrom found stored]
        exact (if_neg (Ne.symm same)).trans settled

theorem mutateFrom_returns_iff (copies : Copies change)
    (changed : Changed change source before after) :
    ((mutateFrom env source change node).run after).1 = .ok () ↔
      Passes env change source before node := by
  unfold Passes
  cases sourced : before.node source with
  | none =>
      rw [run_mutateFrom_none (.inl (changed.node_none.mpr sourced))]
      simp
  | some sourceConfig =>
      cases initialized : before.node node with
      | none =>
          rw [run_mutateFrom_none (.inr (changed.node_none.mpr initialized))]
          simp
      | some config =>
          obtain ⟨now, found, sameSource⟩ := changed.source_eq copies sourced
          obtain ⟨old, stored, sameConfig⟩ :=
            changed.target_eq copies sourced initialized
          rw [run_mutateFrom found stored, sameSource, sameConfig]
          cases saved : env.saveNode node (change sourceConfig config) with
          | ok value => simp [Except.mapError, saved]
          | error exc => simp [Except.mapError, saved]

theorem mutateFrom_completes (copies : Copies change)
    (passes : Passes env change source before node) :
    Completes (Changed change source before)
      (mutateFrom env source change node)
      fun _ => Changed change source before := by
  intro current changed
  refine ⟨(), ((mutateFrom env source change node).run current).2, ?_,
    mutateFrom_changes copies before node current changed⟩
  rw [← (mutateFrom_returns_iff copies changed).mpr passes]

theorem reached_of_changed (copies : Copies change) {nodes : List NodeInterface}
    (changed : Changed change source before after)
    (differs : ((Effect.forEach nodes (mutateFrom env source change)).run
      after).2.node node ≠ after.node node) :
    Reached (Passes env change source before) node nodes := by
  induction nodes generalizing after with
  | nil => exact (differs rfl).elim
  | cons head rest induction =>
      by_cases first : head = node
      · rw [first]
        exact .here rest
      · have others : ((mutateFrom env source change head).run
            after).2.node node = after.node node := by
          cases sourced : after.node source with
          | none => rw [run_mutateFrom_none (.inl sourced)]
          | some sourceConfig =>
              cases initialized : after.node head with
              | none => rw [run_mutateFrom_none (.inr initialized)]
              | some config =>
                  rw [run_mutateFrom sourced initialized]
                  exact if_neg (Ne.symm first)
        have next : Changed change source before
            ((mutateFrom env source change head).run after).2 :=
          mutateFrom_changes copies before head after changed
        have passes : ((mutateFrom env source change head).run after).1 =
            .ok () ↔ Passes env change source before head :=
          mutateFrom_returns_iff copies changed
        rw [Effect.forEach, Effect.run_bind] at differs
        generalize (mutateFrom env source change head).run after = ended
          at differs others next passes
        obtain ⟨result, middle⟩ := ended
        dsimp only at others next passes
        cases result with
        | error failure => exact (differs others).elim
        | ok value =>
            apply Reached.later (passes.mp rfl)
            apply induction next
            rw [others]
            exact differs

end Rounds

end NetworkInterface

end KoiNet
