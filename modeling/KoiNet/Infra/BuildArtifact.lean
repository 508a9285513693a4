import KoiNet.Foundation.Effect
import KoiNet.Foundation.TopoSort
import KoiNet.Infra.Component

/-!
# Build artifacts

How the init, start and stop graphs of an assembler and the orders of its
components are computed.  The declared dependency sets are the state of the
computation: filtering one updates the set on the function object in place,
and the update outlives the build, also one that raises.
-/

namespace KoiNet

open Foundation

inductive BuildError where
  | cycle (nodes : List String)
  | missingComponent (name : String)
  deriving DecidableEq, Repr

/-- The text of a set of names. -/
def reprSet (names : List String) : String :=
  "\x7b" ++ ", ".intercalate (names.map fun name => "'" ++ name ++ "'") ++
    "\x7d"

def BuildError.message : BuildError → String
  | .cycle nodes =>
      "Found cycle in dependency graph, the following nodes could not be " ++
        "ordered: " ++ reprSet nodes
  | .missingComponent name =>
      "Couldn't find required component '" ++ name ++ "'"

abbrev BuildM (α : Type) : Type := Effect BuildError Declarations α

structure BuildArtifact where
  compDict : Dict String Component
  compTypes : Dict String CompType
  initGraph : AdjList String
  startGraph : AdjList String
  stopGraph : AdjList String
  initOrder : List String
  startOrder : List String
  stopOrder : List String

namespace BuildArtifact

/-- `name.startswith("_")`. -/
def isPrivate (name : String) : Bool :=
  name.toList.head? = some '_'

/-- The components of the assembler and its base classes, those of a subclass
in place of those of the same name in its bases. -/
def collectComponents (assembler : Assembler) : Dict String Component :=
  Dict.ofItems (assembler.mro.reverse.flatMap fun base =>
    base.items.filterMap fun item =>
      if isPrivate item.1 then none
      else item.2.map fun comp => (item.1, comp))

variable (compDict : Dict String Component)

def resolveTypes : Dict String CompType :=
  Dict.ofItems (compDict.items.map fun item => (item.1, item.2.type))

/-- The components among a singleton's parameters. -/
def initDependencies (comp : Component) : OrderedSet String :=
  match comp.type with
  | .singleton => (OrderedSet.ofList comp.parameters).within compDict.keys
  | .object => .empty

def buildInitGraph : AdjList String :=
  Dict.ofItems (compDict.items.map fun item =>
    (item.1, initDependencies compDict item.2))

/-- `start_components` or `stop_components`: every component with a method of
this name, whatever its type. -/
def componentsWith (name : MethodName) : List String :=
  (compDict.items.filter fun item => (item.2.method name).isSome).map Prod.fst

/-- The dependencies declared on the method, those that are not among the
components removed from the declared set itself. -/
def declaredDependencies (components : List String) (method : Method)
    (default : OrderedSet String) : BuildM (OrderedSet String) :=
  Effect.get >>= fun declarations =>
  match declarations.get? method with
  | none => pure (default.within components)
  | some dependencies =>
      if dependencies.isSubset components then
        pure dependencies
      else
        Effect.modify (fun declarations =>
          declarations.set method (dependencies.within components)) >>=
          fun _ =>
        pure (dependencies.within components)

/-- The entries of a start or stop graph for these components. -/
def methodEntries (name : MethodName) (components : List String)
    (default : String → OrderedSet String) :
    List (String × Component) → BuildM (List (String × OrderedSet String))
  | [] => pure []
  | (compName, comp) :: rest =>
      match comp.type, comp.method name with
      | .singleton, some method =>
          declaredDependencies components method (default compName) >>=
            fun dependencies =>
          methodEntries name components default rest >>= fun entries =>
          pure ((compName, dependencies) :: entries)
      | _, _ => methodEntries name components default rest

def methodGraph (name : MethodName) (default : String → OrderedSet String) :
    BuildM (AdjList String) :=
  methodEntries name (componentsWith compDict name) default
      compDict.items >>= fun entries =>
  pure (Dict.ofItems entries)

def buildStartGraph : BuildM (AdjList String) :=
  methodGraph compDict .start fun _ => .empty

variable (iteration : Iteration String)

/-- Stop methods without declared dependencies depend on what the start of
their component is a dependency of. -/
def buildStopGraph (startGraph : AdjList String) : BuildM (AdjList String) :=
  methodGraph compDict .stop (startGraph.reverse iteration).neighbors

def topoSort (adj : AdjList String) : Except BuildError (List String) :=
  let ordering := adj.sorted iteration
  if ordering.length = adj.keys.length then
    .ok ordering
  else
    .error (.cycle (adj.keys.filter (· ∉ ordering)))

def build (assembler : Assembler) : BuildM BuildArtifact :=
  let compDict := collectComponents assembler
  let initGraph := buildInitGraph compDict
  Effect.ofExcept (topoSort iteration initGraph) >>= fun initOrder =>
  buildStartGraph compDict >>= fun startGraph =>
  Effect.ofExcept (topoSort iteration startGraph) >>= fun startOrder =>
  buildStopGraph compDict iteration startGraph >>= fun stopGraph =>
  Effect.ofExcept (topoSort iteration stopGraph) >>= fun stopOrder =>
  pure
    { compDict := compDict
      compTypes := resolveTypes compDict
      initGraph := initGraph
      startGraph := startGraph
      stopGraph := stopGraph
      initOrder := initOrder
      startOrder := startOrder
      stopOrder := stopOrder }

end BuildArtifact

end KoiNet
