import KoiNet.Infra.BuildArtifact

/-!
# Assembling components

Components are created in the init order of the build artifact, and each
constructor is called with the components created before it.  What a
constructor does is not the assembler's: it returns an object or raises.
-/

namespace KoiNet

open Foundation

/-- The components as objects. -/
structure Objects (Obj Raised : Type) where
  asIs : String → Obj
  /-- `comp(**dependencies)`. -/
  construct : String → Dict String Obj → Except Raised Obj

inductive AssemblyFailure (Raised : Type) where
  | build (error : BuildError)
  | keyError (name : String)
  | construction (raised : Raised)
  deriving Repr

namespace Assembler

variable {Obj Raised : Type}

/-- The state is the list of the constructors called so far. -/
abbrev AssemblyM (Raised α : Type) : Type :=
  Effect (AssemblyFailure Raised) (List String) α

def collectDependencies (components : Dict String Obj) :
    List String → Dict String Obj → AssemblyM Raised (Dict String Obj)
  | [], dependencies => pure dependencies
  | dependency :: rest, dependencies =>
      match components.get? dependency with
      | none => Effect.raise (.build (.missingComponent dependency))
      | some component =>
          collectDependencies components rest
            (dependencies.set dependency component)

variable (iteration : Iteration String) (objects : Objects Obj Raised)
  (artifact : BuildArtifact)

def construct (compName : String) (dependencies : Dict String Obj) :
    AssemblyM Raised Obj :=
  Effect.modify (· ++ [compName]) >>= fun _ =>
  Effect.ofExcept ((objects.construct compName dependencies).mapError
    .construction)

/-- One component, from those created before it. -/
def buildComponent (components : Dict String Obj) (compName : String) :
    AssemblyM Raised Obj :=
  match artifact.compTypes.get? compName with
  | none => Effect.raise (.keyError compName)
  | some .object => pure (objects.asIs compName)
  | some .singleton =>
      collectDependencies components
          (iteration.order (artifact.initGraph.neighbors compName).items)
          Dict.empty >>= fun dependencies =>
      construct objects compName dependencies

def buildFrom : List String → Dict String Obj →
    AssemblyM Raised (Dict String Obj)
  | [], components => pure components
  | compName :: rest, components =>
      buildComponent iteration objects artifact components compName >>=
        fun component =>
      buildFrom rest (components.set compName component)

/-- `Assembler._build_components`. -/
def buildComponents : AssemblyM Raised (Dict String Obj) :=
  buildFrom iteration objects artifact artifact.initOrder Dict.empty

end Assembler

end KoiNet
