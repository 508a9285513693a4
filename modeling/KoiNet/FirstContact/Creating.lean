import KoiNet.FirstContact.Calls

/-!
# Creating nodes

`sync` creates what has no directory.  Creating a node fails in several ways;
whatever the way, initialised nodes stay as they are, and directories are only
added.
-/

namespace KoiNet

open Foundation

namespace NetworkInterface

variable {Raised : Type} {env : InterfaceEnvironment Raised}
  {network after : NetworkInterface} {node : NodeInterface}

/-- How `createMissing` ends. -/
inductive CreatedMissing (env : InterfaceEnvironment Raised)
    (network : NetworkInterface) (node : NodeInterface) :
    Except (InterfaceFailure Raised) Unit → NetworkInterface → Prop where
  | present : node.name ∈ network.directories →
      CreatedMissing env network node (.ok ()) network
  | refused {exc : Raised} : node.name ∉ network.directories →
      env.mkdir node.name = .error exc →
      CreatedMissing env network node (.error (.raised exc)) network
  | again {config : BaseNodeConfig} : node.name ∉ network.directories →
      network.node node = some config →
      CreatedMissing env network node (.ok ())
        (network.addDirectory node.name)
  | created {config : BaseNodeConfig} : node.name ∉ network.directories →
      env.mkdir node.name = .ok () → network.node node = none →
      env.nodeClass node = .ok config →
      CreatedMissing env network node (.ok ())
        ((network.addDirectory node.name).setNode node config)
  | deleted {exc : Raised} : node.name ∉ network.directories →
      network.node node = none → env.nodeClass node = .error exc →
      CreatedMissing env network node (.ok ())
        ((network.addDirectory node.name).removeDirectory node.name)
  | remains {exc failure : Raised} : node.name ∉ network.directories →
      network.node node = none → env.nodeClass node = .error exc →
      CreatedMissing env network node (.error (.raised failure))
        (network.addDirectory node.name)

theorem run_mkdir (env : InterfaceEnvironment Raised) {name : String}
    (absent : name ∉ network.directories) :
    (NodeInterface.mkdir env name).run network =
      match env.mkdir name with
      | .ok _ => (.ok (), network.addDirectory name)
      | .error exc => (.error (.raised exc), network) := by
  unfold NodeInterface.mkdir InterfaceM.external
  rw [Effect.run_get_bind, if_neg absent, Effect.run_bind]
  cases env.mkdir name with
  | ok value => rfl
  | error exc => rfl

theorem run_init (env : InterfaceEnvironment Raised)
    (network : NetworkInterface) (node : NodeInterface) :
    (node.init env).run network =
      (.ok (), match network.node node, env.nodeClass node with
        | none, .ok config => network.setNode node config
        | _, _ => network) := by
  unfold NodeInterface.init
  rw [Effect.run_get_bind]
  cases network.node node with
  | some config => rfl
  | none =>
      cases env.nodeClass node with
      | ok config => rfl
      | error exc => rfl

theorem run_delete (env : InterfaceEnvironment Raised)
    (network : NetworkInterface) (node : NodeInterface) :
    (node.delete env).run network =
      match env.rmtree node.name with
      | .ok _ => (.ok (), network.removeDirectory node.name)
      | .error exc => (.error (.raised exc), network) := by
  unfold NodeInterface.delete InterfaceM.external
  rw [Effect.run_bind]
  cases env.rmtree node.name with
  | ok value => rfl
  | error exc => rfl

theorem createMissing_cases (env : InterfaceEnvironment Raised)
    (network : NetworkInterface) (node : NodeInterface) :
    CreatedMissing env network node ((createMissing env node).run network).1
      ((createMissing env node).run network).2 := by
  unfold createMissing
  rw [Effect.run_get_bind]
  by_cases present : node.existsIn network
  · rw [if_pos present]
    exact .present present
  · have absent : node.name ∉ network.directories := present
    rw [if_neg present]
    unfold NodeInterface.create
    rw [Effect.run_bind, run_mkdir env absent]
    cases made : env.mkdir node.name with
    | error exc => exact .refused absent made
    | ok value =>
        dsimp only
        rw [Effect.run_bind, run_init]
        cases initialized : (network.addDirectory node.name).node node with
        | some config =>
            dsimp only
            rw [Effect.run_get_bind, initialized]
            exact .again absent initialized
        | none =>
            cases built : env.nodeClass node with
            | ok config =>
                have own : ((network.addDirectory node.name).setNode node
                    config).node node = some config := if_pos rfl
                dsimp only
                rw [Effect.run_get_bind, own]
                exact .created absent made initialized built
            | error exc =>
                dsimp only
                rw [Effect.run_get_bind, initialized]
                dsimp only
                rw [run_delete]
                cases env.rmtree node.name with
                | ok value => exact .deleted absent initialized built
                | error failure => exact .remains absent initialized built

namespace CreatedMissing

variable {result : Except (InterfaceFailure Raised) Unit}

theorem members (created : CreatedMissing env network node result after) :
    after.nodes = network.nodes ∧ after.config = network.config := by
  cases created with
  | present => exact ⟨rfl, rfl⟩
  | refused => exact ⟨rfl, rfl⟩
  | again => exact ⟨rfl, rfl⟩
  | created => exact ⟨rfl, rfl⟩
  | deleted => exact ⟨rfl, rfl⟩
  | remains => exact ⟨rfl, rfl⟩

theorem others (created : CreatedMissing env network node result after)
    {other : NodeInterface} (different : other ≠ node) :
    after.node other = network.node other := by
  cases created with
  | present => rfl
  | refused => rfl
  | again => rfl
  | created => exact if_neg different
  | deleted => rfl
  | remains => rfl

theorem kept (created : CreatedMissing env network node result after)
    {other : NodeInterface} {config : BaseNodeConfig}
    (initialized : network.node other = some config) :
    after.node other = some config := by
  by_cases same : other = node
  · subst other
    cases created with
    | present => exact initialized
    | refused => exact initialized
    | again => exact initialized
    | created _ _ missing => cases missing.symm.trans initialized
    | deleted => exact initialized
    | remains => exact initialized
  · rw [created.others same]
    exact initialized

/-- Only a node whose directory was missing is new, with the config that its
class gives it. -/
theorem new_of_none (created : CreatedMissing env network node result after)
    (missing : network.node node = none) {config : BaseNodeConfig}
    (initialized : after.node node = some config) :
    result = .ok () ∧ node.name ∉ network.directories ∧
      env.nodeClass node = .ok config := by
  cases created with
  | present => cases missing.symm.trans initialized
  | refused => cases missing.symm.trans initialized
  | again _ stored => cases missing.symm.trans stored
  | created absent _ _ built =>
      have own := Option.some.inj ((if_pos rfl).symm.trans initialized)
      exact ⟨rfl, absent, own ▸ built⟩
  | deleted => cases missing.symm.trans initialized
  | remains => cases missing.symm.trans initialized

theorem directories (created : CreatedMissing env network node result after)
    {name : String} (present : name ∈ network.directories) :
    name ∈ after.directories := by
  cases created with
  | present => exact present
  | refused => exact present
  | again => exact List.mem_cons_of_mem _ present
  | created => exact List.mem_cons_of_mem _ present
  | deleted absent =>
      have different : name ≠ node.name := by
        intro same
        exact absent (same ▸ present)
      simp [removeDirectory, addDirectory, present, different]
  | remains => exact List.mem_cons_of_mem _ present

end CreatedMissing

/-- The node is not initialised, and creating what is missing does not change
that. -/
def Absent (env : InterfaceEnvironment Raised) (node : NodeInterface)
    (network : NetworkInterface) : Prop :=
  network.node node = none ∧
    ∀ config, env.nodeClass node = .ok config →
      node.name ∈ network.directories

theorem createMissing_absent (other : NodeInterface) :
    (Frame.preserving (Absent env node)).Keeps (createMissing env other) := by
  intro current given
  obtain ⟨missing, present⟩ := given
  have created := createMissing_cases env current other
  constructor
  · by_cases same : node = other
    · subst other
      cases now : ((createMissing env node).run current).2.node node with
      | none => rfl
      | some config =>
          obtain ⟨_, absent, built⟩ := created.new_of_none missing now
          exact (absent (present config built)).elim
    · rw [created.others same]
      exact missing
  · intro config built
    exact created.directories (present config built)

/-- Nodes whose directories were missing have been created, and nothing else
has happened to any config. -/
structure OnlyCreated (env : InterfaceEnvironment Raised)
    (before after : NetworkInterface) : Prop where
  directories : ∀ name ∈ before.directories, name ∈ after.directories
  kept : ∀ {node config}, before.node node = some config →
    after.node node = some config
  new : ∀ {node config}, before.node node = none →
    after.node node = some config →
    node.name ∉ before.directories ∧ env.nodeClass node = .ok config

theorem createMissing_onlyCreated (before : NetworkInterface)
    (node : NodeInterface) :
    (Frame.preserving (OnlyCreated env before)).Keeps
      (createMissing env node) := by
  intro current only
  have created := createMissing_cases env current node
  constructor
  · intro name present
    exact created.directories (only.directories name present)
  · intro other config initialized
    exact created.kept (only.kept initialized)
  · intro other config missing initialized
    by_cases same : other = node
    · subst other
      cases stored : current.node node with
      | some old =>
          rw [Option.some.inj (initialized.symm.trans (created.kept stored))]
          exact only.new missing stored
      | none =>
          obtain ⟨_, absent, built⟩ := created.new_of_none stored initialized
          refine ⟨?_, built⟩
          intro present
          exact absent (only.directories _ present)
    · rw [created.others same] at initialized
      exact only.new missing initialized

end NetworkInterface

end KoiNet
