import KoiNet.FirstContact.Members
import KoiNet.FirstContact.Syncing
import KoiNet.Foundation.Execution

/-!
# Runs of a network interface

A session calls a network interface over and over; a call that raises ends
early, and what it has changed stays.  As long as every call gets to the nodes
it has to change, the first contact is consistent throughout.
-/

namespace KoiNet

open Foundation

/-- A network, and the RIDs of the nodes that were set as its first contact. -/
structure Session where
  network : NetworkInterface
  earlier : List KoiNetNode

/-- The RID of the node that the call has set as first contact. -/
def NetworkCall.sets (after : NetworkInterface) : NetworkCall →
    List KoiNetNode
  | .setFirstContact fcNode =>
      if after.config.firstContact = some fcNode.name then
        ((after.node fcNode).bind BaseNodeConfig.nodeRid).toList
      else []
  | _ => []

namespace Session

variable {Raised : Type}

/-- The network is left as the call leaves it, whether it returns or raises. -/
def perform (env : InterfaceEnvironment Raised) (session : Session)
    (call : NetworkCall) : Session :=
  let after := ((call.effect env).run session.network).2
  { network := after
    earlier := call.sets after ++ session.earlier }

def Consistent (session : Session) : Prop :=
  session.network.Consistent session.earlier

/-- The call gets to the nodes it has to change. -/
def Propagates (env : InterfaceEnvironment Raised) (session : Session) :
    NetworkCall → Prop
  | .addNode node =>
      NetworkInterface.AddPropagates env session.earlier session.network node
  | .removeNode node =>
      NetworkInterface.RemovePropagates env session.earlier session.network
        node
  | .setFirstContact fcNode =>
      NetworkInterface.SetPropagates env session.earlier session.network fcNode
  | .unsetFirstContact fcNode =>
      NetworkInterface.UnsetPropagates env session.earlier session.network
        fcNode
  | .sync =>
      NetworkInterface.SyncPropagates env session.earlier session.network

/-- Every call meets an environment of its own. -/
def PropagatingStep (action : InterfaceEnvironment Raised × NetworkCall)
    (session next : Session) : Prop :=
  session.Propagates action.1 action.2 ∧
    next = session.perform action.1 action.2

theorem effect_consistent {env : InterfaceEnvironment Raised}
    {session : Session} {call : NetworkCall}
    (consistent : session.Consistent)
    (propagates : session.Propagates env call) :
    ((call.effect env).run session.network).2.Consistent session.earlier := by
  cases call with
  | addNode node =>
      exact NetworkInterface.addNode_consistent consistent propagates
  | removeNode node =>
      exact NetworkInterface.removeNode_consistent consistent propagates
  | setFirstContact fcNode =>
      exact NetworkInterface.setFirstContact_consistent consistent propagates
  | unsetFirstContact fcNode =>
      exact NetworkInterface.unsetFirstContact_consistent consistent propagates
  | sync => exact NetworkInterface.sync_consistent consistent propagates

theorem perform_consistent {env : InterfaceEnvironment Raised}
    {session : Session} {call : NetworkCall}
    (consistent : session.Consistent)
    (propagates : session.Propagates env call) :
    (session.perform env call).Consistent := by
  have kept := effect_consistent consistent propagates
  unfold perform Consistent
  dsimp only
  generalize ((call.effect env).run session.network).2 = after at kept
  cases call with
  | setFirstContact fcNode =>
      by_cases named : after.config.firstContact = some fcNode.name
      · exact kept.of_named named
      · unfold NetworkCall.sets
        dsimp only
        rw [if_neg named]
        exact kept
  | addNode node => exact kept
  | removeNode node => exact kept
  | unsetFirstContact fcNode => exact kept
  | sync => exact kept

/-- If every call gets to the nodes it has to change, the first contact stays
consistent. -/
theorem firstContact_consistent
    {actions : List (InterfaceEnvironment Raised × NetworkCall)}
    {start final : Session}
    (run : Trace PropagatingStep actions start final)
    (initial : start.Consistent) : final.Consistent := by
  refine run.invariant ?_ initial
  intro action session next consistent step
  obtain ⟨propagates, same⟩ := step
  rw [same]
  exact perform_consistent consistent propagates

end Session

namespace Trio

def rid (name : String) : KoiNetNode :=
  { name := name, hash := name }

/-- A full node that has not been given a first contact. -/
def config (name : String) : BaseNodeConfig :=
  { nodeRid := some (rid name)
    nodeProfile :=
      { context := NodeProfile.defaultContext
        baseUrl := some ("http://" ++ name)
        nodeType := .full
        provides := { event := [], state := [] }
        publicKey := none } }

def interface (id : Nat) (name : String) : NodeInterface :=
  { id := id, name := name, moduleName := "trio" }

def first : NodeInterface :=
  interface 0 "first"

def second : NodeInterface :=
  interface 1 "second"

def third : NodeInterface :=
  interface 2 "third"

/-- Nothing outside the interfaces raises. -/
def env : InterfaceEnvironment Unit :=
  { saveNetwork := fun _ => .ok ()
    saveNode := fun _ _ => .ok ()
    mkdir := fun _ => .ok ()
    fileExists := ()
    rmtree := fun _ => .ok ()
    nodeClass := fun node => .ok (config node.name) }

/-- An empty network, and these node interfaces are initialised. -/
def start (initialized : List NodeInterface) : Session :=
  { network :=
      { NetworkInterface.empty with
        node := fun node =>
          if node ∈ initialized then some (config node.name) else none }
    earlier := [] }

def calls : List NetworkCall :=
  [.addNode first, .addNode second, .addNode third, .setFirstContact first]

/-- The calls one after the other. -/
def performed (initialized : List NodeInterface) : Session :=
  calls.foldl (Session.perform env) (start initialized)

theorem start_consistent (initialized : List NodeInterface) :
    (start initialized).Consistent := by
  apply NetworkInterface.Consistent.of_unset rfl
  intro node member
  cases member

theorem propagates_addNode {session : Session} (node : NodeInterface)
    (unset : session.network.config.firstContact = none)
    (fresh : session.earlier = []) :
    session.Propagates env (.addNode node) := by
  have alone : session.network.getFirstContact = none := by
    unfold NetworkInterface.getFirstContact
    rw [unset]
  constructor
  · rw [unset]
    exact (Option.some_ne_none _).symm
  · intro _ config _ rid isEarlier
    rw [fresh] at isEarlier
    cases isEarlier
  · intro fcNode found
    cases alone.symm.trans found
  · intro named
    cases unset.symm.trans named

/-- The three nodes after they were added. -/
def added : Session :=
  (calls.take 3).foldl (Session.perform env) (start [first, second, third])

theorem propagates_setFirstContact :
    added.Propagates env (.setFirstContact first) := by
  intro source sourced full other
  constructor
  · intro prevFcNode found
    cases found
  · intro _
    constructor
    · intro named resolved
      exact (Option.some.inj resolved).symm
    · intro node member different initialized
      refine ⟨rfl, ?_⟩
      have listed : node = first ∨ node = second ∨ node = third := by
        simpa using (show node ∈ [first, second, third] from member)
      rcases listed with isFirst | isSecond | isThird
      · exact (different isFirst).elim
      · rw [isSecond]
        exact .later (.inl rfl) (.here _)
      · rw [isThird]
        apply Reached.later (.inl rfl)
        apply Reached.later
        · exact .inr ⟨config "first", config "second", rfl, rfl, rfl⟩
        · exact .here _

end Trio

/-- With all three nodes initialised, the first contact gets to each. -/
theorem firstContact_consistent_trio :
    (Trio.performed [Trio.first, Trio.second, Trio.third]).Consistent := by
  have run : Trace Session.PropagatingStep
      (Trio.calls.map fun call => (Trio.env, call))
      (Trio.start [Trio.first, Trio.second, Trio.third])
      (Trio.performed [Trio.first, Trio.second, Trio.third]) := by
    apply Trace.cons ⟨Trio.propagates_addNode _ rfl rfl, rfl⟩
    apply Trace.cons ⟨Trio.propagates_addNode _ rfl rfl, rfl⟩
    apply Trace.cons ⟨Trio.propagates_addNode _ rfl rfl, rfl⟩
    apply Trace.cons ⟨Trio.propagates_setFirstContact, rfl⟩
    exact .nil _
  exact Session.firstContact_consistent run (Trio.start_consistent _)

/-- The second node is not initialised: the loop is aborted there, and the
third node never hears of the first contact that is stored. -/
theorem setFirstContact_aborted :
    (Trio.start [Trio.first, Trio.third]).Consistent ∧
      ¬ (Trio.performed [Trio.first, Trio.third]).Consistent := by
  refine ⟨Trio.start_consistent _, ?_⟩
  intro consistent
  have named : (Trio.performed [Trio.first, Trio.third]
      ).network.config.firstContact = some "first" := rfl
  have agrees : ({} : NodeContact) = (Trio.config "first").contact :=
    consistent.named named rfl rfl Trio.third (by decide) (by decide)
      (Trio.config "third") rfl
  cases congrArg NodeContact.rid agrees

end KoiNet
