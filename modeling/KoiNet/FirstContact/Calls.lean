import KoiNet.FirstContact.Loops

/-!
# Storing and unsetting the first contact

Both calls change the network's own config first, and then the configs of the
nodes in a loop.  Whether or not they return, the nodes that the loop gets to
are changed.
-/

namespace KoiNet

open Foundation

namespace NetworkInterface

variable {Raised : Type} {env : InterfaceEnvironment Raised}
  {network : NetworkInterface} {node fcNode : NodeInterface}

theorem saveToYaml_bind_of_ok {α : Type}
    (saved : env.saveNetwork network.config = .ok ())
    (next : Unit → InterfaceM Raised α) :
    (saveToYaml env >>= next).run network = (next ()).run network := by
  unfold saveToYaml InterfaceM.external
  simp [Effect.run_bind, saved, Except.mapError]

theorem saveToYaml_bind_of_error {α : Type} {exc : Raised}
    (raised : env.saveNetwork network.config = .error exc)
    (next : Unit → InterfaceM Raised α) :
    (saveToYaml env >>= next).run network =
      (.error (.raised exc), network) := by
  unfold saveToYaml InterfaceM.external
  simp [Effect.run_bind, raised, Except.mapError]

section Unset

variable {name : String}

theorem run_unsetFirstContact
    (named : network.config.firstContact = some name) (nonempty : name ≠ "") :
    (unsetFirstContact env fcNode).run network =
      (saveToYaml env >>= fun _ => Effect.get >>= fun current =>
        Effect.forEach current.nodes
          (mutateFrom env fcNode clearFirstContact)).run
        (network.nameFirstContact none) := by
  unfold unsetFirstContact
  rw [Effect.run_get_bind, named]
  dsimp only
  rw [if_neg nonempty]
  rfl

theorem run_unsetFirstContact_of_unnamed
    (unnamed : ∀ name, network.config.firstContact = some name → name = "") :
    (unsetFirstContact env fcNode).run network = (.ok (), network) := by
  unfold unsetFirstContact
  rw [Effect.run_get_bind]
  cases named : network.config.firstContact with
  | none => rfl
  | some name =>
      dsimp only
      rw [if_pos (unnamed name named)]
      rfl

theorem unsetFirstContact_changes (env : InterfaceEnvironment Raised)
    (fcNode : NodeInterface)
    (named : network.config.firstContact = some name) (nonempty : name ≠ "") :
    Changed clearFirstContact fcNode (network.nameFirstContact none)
      ((unsetFirstContact env fcNode).run network).2 := by
  rw [run_unsetFirstContact named nonempty]
  cases saved : env.saveNetwork (network.nameFirstContact none).config with
  | error exc =>
      rw [saveToYaml_bind_of_error saved]
      exact Changed.refl _
  | ok value =>
      rw [saveToYaml_bind_of_ok saved, Effect.run_get_bind]
      exact forEach_changes
        (mutateFrom_changes copies_clearFirstContact _) network.nodes

theorem unsetFirstContact_cleared
    (named : network.config.firstContact = some name) (nonempty : name ≠ "")
    (saved : env.saveNetwork (network.nameFirstContact none).config = .ok ())
    (reached : Reached (Passes env clearFirstContact fcNode network) node
      network.nodes)
    {source config : BaseNodeConfig} (sourced : network.node fcNode = some source)
    (initialized : network.node node = some config) :
    ((unsetFirstContact env fcNode).run network).2.node node =
      some (clearFirstContact source config) := by
  rw [run_unsetFirstContact named nonempty, saveToYaml_bind_of_ok saved,
    Effect.run_get_bind]
  have settled : ChangedTo clearFirstContact fcNode
      (network.nameFirstContact none) node (clearFirstContact source config)
      ((Effect.forEach network.nodes
        (mutateFrom env fcNode clearFirstContact)).run
          (network.nameFirstContact none)).2 := by
    have goesOn : ∀ other ∈ network.nodes,
        Passes env clearFirstContact fcNode network other →
        Completes (Changed clearFirstContact fcNode
            (network.nameFirstContact none))
          (mutateFrom env fcNode clearFirstContact other)
          fun _ => Changed clearFirstContact fcNode
            (network.nameFirstContact none) := by
      intro other _ passes
      exact mutateFrom_completes copies_clearFirstContact passes
    apply Completes.forEach_reached reached goesOn
    · intro current changed
      exact ⟨mutateFrom_changes copies_clearFirstContact _ node current changed,
        mutateFrom_changed copies_clearFirstContact changed sourced
          initialized⟩
    · exact mutateFrom_settled copies_clearFirstContact sourced initialized
    · exact Changed.refl _
  exact settled.2

theorem reached_of_unsetFirstContact
    (named : network.config.firstContact = some name) (nonempty : name ≠ "")
    (differs : ((unsetFirstContact env fcNode).run network).2.node node ≠
      network.node node) :
    env.saveNetwork (network.nameFirstContact none).config = .ok () ∧
      Reached (Passes env clearFirstContact fcNode network) node
        network.nodes := by
  rw [run_unsetFirstContact named nonempty] at differs
  cases saved : env.saveNetwork (network.nameFirstContact none).config with
  | error exc =>
      rw [saveToYaml_bind_of_error saved] at differs
      exact (differs rfl).elim
  | ok value =>
      rw [saveToYaml_bind_of_ok saved, Effect.run_get_bind] at differs
      refine ⟨rfl, ?_⟩
      have reached := reached_of_changed copies_clearFirstContact
        (Changed.refl (network.nameFirstContact none)) differs
      exact reached.mono fun _ passes => passes

theorem unsetFirstContact_returns_iff (env : InterfaceEnvironment Raised)
    (fcNode : NodeInterface)
    (named : network.config.firstContact = some name) (nonempty : name ≠ "") :
    ((unsetFirstContact env fcNode).run network).1 = .ok () ↔
      env.saveNetwork (network.nameFirstContact none).config = .ok () ∧
        ∀ node ∈ network.nodes,
          Passes env clearFirstContact fcNode network node := by
  rw [run_unsetFirstContact named nonempty]
  cases saved : env.saveNetwork (network.nameFirstContact none).config with
  | error exc =>
      rw [saveToYaml_bind_of_error saved]
      simp
  | ok value =>
      have ends : ∀ node ∈ network.nodes, ∀ current,
          Changed clearFirstContact fcNode (network.nameFirstContact none)
            current →
          (((mutateFrom env fcNode clearFirstContact node).run current).1 =
              .ok () ↔
            Passes env clearFirstContact fcNode network node) := by
        intro node _ current changed
        exact (mutateFrom_returns_iff copies_clearFirstContact changed).trans
          Iff.rfl
      have kept : ∀ node ∈ network.nodes, ∀ current,
          Changed clearFirstContact fcNode (network.nameFirstContact none)
            current →
          Changed clearFirstContact fcNode (network.nameFirstContact none)
            ((mutateFrom env fcNode clearFirstContact node).run current).2 := by
        intro node _
        exact mutateFrom_changes copies_clearFirstContact _ node
      have loop := Effect.forEach_returns_iff kept ends (Changed.refl _)
      rw [saveToYaml_bind_of_ok saved, Effect.run_get_bind]
      simp only [true_and]
      exact loop

end Unset

section Store

theorem applyTo_changes (before : NetworkInterface) (node : NodeInterface) :
    (Frame.preserving (Changed applyFirstContact fcNode before)).Keeps
      (applyTo env fcNode node) := by
  unfold applyTo
  split
  · exact Frame.keeps_pure ()
  · exact mutateFrom_changes copies_applyFirstContact before node

theorem storeFirstContact_changes (env : InterfaceEnvironment Raised)
    (fcNode : NodeInterface) (network : NetworkInterface) :
    Changed applyFirstContact fcNode
      (network.nameFirstContact (some fcNode.name))
      ((storeFirstContact env fcNode).run network).2 := by
  unfold storeFirstContact
  rw [Effect.run_modify_bind]
  cases saved : env.saveNetwork
      (network.nameFirstContact (some fcNode.name)).config with
  | error exc =>
      rw [saveToYaml_bind_of_error saved]
      exact Changed.refl _
  | ok value =>
      rw [saveToYaml_bind_of_ok saved, Effect.run_get_bind]
      exact forEach_changes (applyTo_changes _) network.nodes

theorem storeFirstContact_applied
    (saved : env.saveNetwork
      (network.nameFirstContact (some fcNode.name)).config = .ok ())
    (reached : Reached (fun other => other = fcNode ∨
      Passes env applyFirstContact fcNode network other) node network.nodes)
    (different : node ≠ fcNode) {source config : BaseNodeConfig}
    (sourced : network.node fcNode = some source)
    (initialized : network.node node = some config) :
    ((storeFirstContact env fcNode).run network).2.node node =
      some (applyFirstContact source config) := by
  unfold storeFirstContact
  rw [Effect.run_modify_bind, saveToYaml_bind_of_ok saved, Effect.run_get_bind]
  have settled : ChangedTo applyFirstContact fcNode
      (network.nameFirstContact (some fcNode.name)) node
      (applyFirstContact source config)
      ((Effect.forEach network.nodes (applyTo env fcNode)).run
        (network.nameFirstContact (some fcNode.name))).2 := by
    have goesOn : ∀ other ∈ network.nodes, (other = fcNode ∨
          Passes env applyFirstContact fcNode network other) →
        Completes (Changed applyFirstContact fcNode
            (network.nameFirstContact (some fcNode.name)))
          (applyTo env fcNode other)
          fun _ => Changed applyFirstContact fcNode
            (network.nameFirstContact (some fcNode.name)) := by
      intro other _ passes
      unfold applyTo
      by_cases same : other = fcNode
      · rw [if_pos same]
        exact Completes.pure fun _ changed => changed
      · rw [if_neg same]
        exact mutateFrom_completes copies_applyFirstContact
          (passes.resolve_left same)
    apply Completes.forEach_reached reached goesOn
    · intro current changed
      refine ⟨applyTo_changes _ node current changed, ?_⟩
      unfold applyTo
      rw [if_neg different]
      exact mutateFrom_changed copies_applyFirstContact changed sourced
        initialized
    · intro other
      unfold applyTo
      have sourcedStill : (network.nameFirstContact (some fcNode.name)).node
          fcNode = some source := sourced
      split
      · exact Frame.keeps_pure ()
      · exact mutateFrom_settled copies_applyFirstContact sourcedStill
          initialized other
    · exact Changed.refl _
  exact settled.2

end Store

end NetworkInterface

end KoiNet
