import KoiNet.Components.Node

/-!
# The network interface

A network is a list of node interfaces and a config file of its own.  One
setting, the first contact, is copied into the config of every node.  A node
interface is an object with a name; the node behind it may not be initialised,
and then everything that asks for it raises an exception.
-/

namespace KoiNet

open Foundation

/-- A node interface; `id` is the identity of the object, and the other
attributes do not change. -/
structure NodeInterface where
  id : Nat
  name : String
  moduleName : String
  deriving DecidableEq, Repr

/-- What the interfaces read and write of a node's config.  The RID is missing
until a key has been generated. -/
structure BaseNodeConfig where
  nodeRid : Option KoiNetNode
  nodeProfile : NodeProfile
  firstContact : NodeContact := {}

structure KoiNetworkConfig where
  firstContact : Option String := none
  nodes : Dict String String := Dict.empty

/-- What a call runs into outside the interfaces: files and directories, and
the class of a node. -/
structure InterfaceEnvironment (Raised : Type) where
  saveNetwork : KoiNetworkConfig → Except Raised Unit
  saveNode : NodeInterface → BaseNodeConfig → Except Raised Unit
  mkdir : String → Except Raised Unit
  fileExists : Raised
  rmtree : String → Except Raised Unit
  /-- `self.node_class(root_dir=Path(self.name))`. -/
  nodeClass : NodeInterface → Except Raised BaseNodeConfig

inductive InterfaceFailure (Raised : Type) where
  | raised (exc : Raised)
  | nodeNotInitialized
  /-- `list.remove` finds no such item. -/
  | valueError
  deriving DecidableEq

/-- The network interface, and what its calls share with the node interfaces:
the nodes that are initialised and the directories that exist. -/
structure NetworkInterface where
  nodes : List NodeInterface
  config : KoiNetworkConfig
  node : NodeInterface → Option BaseNodeConfig
  directories : List String

namespace NetworkInterface

def empty : NetworkInterface :=
  { nodes := []
    config := {}
    node := fun _ => none
    directories := [] }

def setNode (network : NetworkInterface) (node : NodeInterface)
    (config : BaseNodeConfig) : NetworkInterface :=
  { network with
    node := fun other =>
      if other = node then some config else network.node other }

/-- The node is listed, and its module is in the config. -/
def listNode (network : NetworkInterface) (node : NodeInterface) :
    NetworkInterface :=
  { network with
    nodes := network.nodes ++ [node]
    config :=
      { network.config with
        nodes := network.config.nodes.set node.name node.moduleName } }

def unlistNode (network : NetworkInterface) (node : NodeInterface) :
    NetworkInterface :=
  { network with nodes := network.nodes.erase node }

/-- `del self.config.nodes[node.name]`. -/
def deleteModule (network : NetworkInterface) (node : NodeInterface) :
    NetworkInterface :=
  { network with
    config :=
      { network.config with nodes := network.config.nodes.erase node.name } }

def addDirectory (network : NetworkInterface) (name : String) :
    NetworkInterface :=
  { network with directories := name :: network.directories }

def removeDirectory (network : NetworkInterface) (name : String) :
    NetworkInterface :=
  { network with directories := network.directories.filter (· ≠ name) }

def nameFirstContact (network : NetworkInterface) (name : Option String) :
    NetworkInterface :=
  { network with config := { network.config with firstContact := name } }

end NetworkInterface

variable {Raised : Type}

abbrev InterfaceM (Raised α : Type) : Type :=
  Effect (InterfaceFailure Raised) NetworkInterface α

/-- A call outside the interfaces. -/
def InterfaceM.external {α : Type} (result : Except Raised α) :
    InterfaceM Raised α :=
  Effect.ofExcept (result.mapError .raised)

variable (env : InterfaceEnvironment Raised)

namespace NodeInterface

/-- `self.node.config`. -/
def config (node : NodeInterface) : InterfaceM Raised BaseNodeConfig := do
  match (← Effect.get).node node with
  | some config => return config
  | none => Effect.raise .nodeNotInitialized

/-- `exists`: the directory is there. -/
def existsIn (network : NetworkInterface) (node : NodeInterface) : Prop :=
  node.name ∈ network.directories

instance (network : NetworkInterface) (node : NodeInterface) :
    Decidable (node.existsIn network) :=
  inferInstanceAs (Decidable (node.name ∈ network.directories))

/-- What the class of the node raises is printed and dropped. -/
def init (node : NodeInterface) : InterfaceM Raised Unit := do
  match (← Effect.get).node node with
  | some _ => return ()
  | none =>
      match env.nodeClass node with
      | .ok config => Effect.modify fun network => network.setNode node config
      | .error _ => return ()

/-- `os.mkdir`. -/
def mkdir (name : String) : InterfaceM Raised Unit := do
  if name ∈ (← Effect.get).directories then
    Effect.raise (.raised env.fileExists)
  else
    InterfaceM.external (env.mkdir name)
    Effect.modify fun network => network.addDirectory name

def delete (node : NodeInterface) : InterfaceM Raised Unit := do
  InterfaceM.external (env.rmtree node.name)
  Effect.modify fun network => network.removeDirectory node.name

def create (node : NodeInterface) : InterfaceM Raised Unit := do
  mkdir env node.name
  node.init env
  match (← Effect.get).node node with
  | some _ => return ()
  | none => node.delete env

/-- `with node.mutate_config() as config: body`; the config is saved unless
the body raises. -/
def mutateConfig (node : NodeInterface)
    (body : BaseNodeConfig → InterfaceM Raised BaseNodeConfig) :
    InterfaceM Raised Unit := do
  let config ← node.config
  let mutated ← body config
  Effect.modify fun network => network.setNode node mutated
  InterfaceM.external (env.saveNode node mutated)

end NodeInterface

namespace NetworkInterface

/-- The first node with this name. -/
def resolveNode (network : NetworkInterface) (name : String) :
    Option NodeInterface :=
  network.nodes.find? fun node => node.name = name

/-- `if not self.config.first_contact: return`, an empty name included. -/
def getFirstContact (network : NetworkInterface) : Option NodeInterface :=
  match network.config.firstContact with
  | none => none
  | some name => if name = "" then none else network.resolveNode name

def applyFirstContact (source target : BaseNodeConfig) : BaseNodeConfig :=
  { target with
    firstContact :=
      { rid := source.nodeRid, url := source.nodeProfile.baseUrl } }

/-- What `unset_first_contact` does to one config. -/
def clearFirstContact (source target : BaseNodeConfig) : BaseNodeConfig :=
  if target.firstContact.rid = source.nodeRid then
    { target with firstContact := { rid := none, url := none } }
  else target

/-- `self.config.save_to_yaml()`. -/
def saveToYaml : InterfaceM Raised Unit := do
  InterfaceM.external (env.saveNetwork (← Effect.get).config)

/-- `with node.mutate_config() as config`, where the body reads the config of
another node and changes this one. -/
def mutateFrom (source : NodeInterface)
    (change : BaseNodeConfig → BaseNodeConfig → BaseNodeConfig)
    (node : NodeInterface) : InterfaceM Raised Unit :=
  node.mutateConfig env fun config => do
    return change (← source.config) config

def addNode (node : NodeInterface) : InterfaceM Raised Unit := do
  Effect.modify fun network => network.listNode node
  saveToYaml env
  match (← Effect.get).getFirstContact with
  | none => return ()
  | some fcNode => mutateFrom env fcNode applyFirstContact node

def unsetFirstContact (fcNode : NodeInterface) : InterfaceM Raised Unit := do
  match (← Effect.get).config.firstContact with
  | none => return ()
  | some name =>
      if name = "" then
        return ()
      else
        Effect.modify fun network => network.nameFirstContact none
        saveToYaml env
        Effect.forEach (← Effect.get).nodes
          (mutateFrom env fcNode clearFirstContact)

/-- `if node.name in self.config.nodes: del self.config.nodes[node.name]`. -/
def forgetModule (node : NodeInterface) : InterfaceM Raised Unit := do
  if node.name ∈ (← Effect.get).config.nodes.keys then
    Effect.modify fun network => network.deleteModule node
    saveToYaml env
  else
    return ()

def removeNode (node : NodeInterface) : InterfaceM Raised Unit := do
  if node ∈ (← Effect.get).nodes then
    Effect.modify fun network => network.unlistNode node
    forgetModule env node
    if (← Effect.get).config.firstContact = some node.name then
      unsetFirstContact env node
    else
      return ()
  else
    Effect.raise .valueError

/-- Copy the setting to a node, unless it is the first contact itself. -/
def applyTo (fcNode node : NodeInterface) : InterfaceM Raised Unit := do
  if node = fcNode then return ()
  else mutateFrom env fcNode applyFirstContact node

/-- The part of `set_first_contact` after the previous one is unset. -/
def storeFirstContact (fcNode : NodeInterface) : InterfaceM Raised Unit := do
  Effect.modify fun network => network.nameFirstContact (some fcNode.name)
  saveToYaml env
  Effect.forEach (← Effect.get).nodes (applyTo env fcNode)

def setFirstContact (fcNode : NodeInterface) : InterfaceM Raised Unit := do
  let config ← fcNode.config
  if config.nodeProfile.nodeType = .partialNode then
    return ()
  else
    match (← Effect.get).getFirstContact with
    | none => storeFirstContact env fcNode
    | some prevFcNode =>
        if prevFcNode = fcNode then
          return ()
        else
          unsetFirstContact env prevFcNode
          storeFirstContact env fcNode

/-- `if not node.exists(): node.create()`. -/
def createMissing (node : NodeInterface) : InterfaceM Raised Unit := do
  if node.existsIn (← Effect.get) then return ()
  else node.create env

/-- One round of the loop of `sync`. -/
def syncNode (fcNode : Option NodeInterface) (node : NodeInterface) :
    InterfaceM Raised Unit := do
  createMissing env node
  match fcNode with
  | none => return ()
  | some fcNode => applyTo env fcNode node

/-- The loop of `sync`. -/
def syncNodes (fcNode : Option NodeInterface) : InterfaceM Raised Unit := do
  Effect.forEach (← Effect.get).nodes (syncNode env fcNode)

def sync : InterfaceM Raised Unit := do
  let fcNode := (← Effect.get).getFirstContact
  match fcNode with
  | none => pure ()
  | some fcNode => createMissing env fcNode
  syncNodes env fcNode

end NetworkInterface

/-- The calls that change which node is whose first contact. -/
inductive NetworkCall where
  | addNode (node : NodeInterface)
  | removeNode (node : NodeInterface)
  | setFirstContact (fcNode : NodeInterface)
  | unsetFirstContact (fcNode : NodeInterface)
  | sync

def NetworkCall.effect : NetworkCall → InterfaceM Raised Unit
  | .addNode node => NetworkInterface.addNode env node
  | .removeNode node => NetworkInterface.removeNode env node
  | .setFirstContact fcNode => NetworkInterface.setFirstContact env fcNode
  | .unsetFirstContact fcNode => NetworkInterface.unsetFirstContact env fcNode
  | .sync => NetworkInterface.sync env

end KoiNet
