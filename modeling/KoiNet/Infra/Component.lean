import KoiNet.Foundation.Dict
import KoiNet.Foundation.OrderedSet

/-!
# Components

A component is described by what the assembly process reads of it: its
explicit type, whether it can be called, the names in its signature, and the
start and stop methods found on it.  A method is a function object that
several components share if they inherit it, and the dependencies declared on
it with `@depends_on` are a mutable set stored on that object.
-/

namespace KoiNet

open Foundation

inductive CompType where
  | singleton
  | object
  deriving DecidableEq, Repr

/-- `START_FUNC_NAME` and `STOP_FUNC_NAME`. -/
inductive MethodName where
  | start
  | stop
  deriving DecidableEq, Repr

/-- A function object, by the class whose body defines it. -/
structure Method where
  owner : String
  name : MethodName
  deriving DecidableEq, Repr

structure Component where
  /-- Set by `@provides`. -/
  explicitType : Option CompType
  callable : Bool
  /-- The names in `inspect.signature(comp).parameters`. -/
  parameters : List String
  /-- The class from which the attribute of this name comes, if it is there
  and not falsy. -/
  definedIn : MethodName → Option String

/-- `getattr(comp, name, None)`. -/
def Component.method (comp : Component) (name : MethodName) :
    Option Method :=
  (comp.definedIn name).map fun owner => { owner := owner, name := name }

/-- Components are singletons if they can be called and objects otherwise,
unless their type is set. -/
def Component.type (comp : Component) : CompType :=
  match comp.explicitType with
  | some explicitType => explicitType
  | none => if comp.callable then .singleton else .object

/-- The `DEPENDS_ON_FIELD` of every function that has one. -/
abbrev Declarations : Type := Dict Method (OrderedSet String)

/-- `@depends_on(*components)`. -/
def dependsOn (components : List String) (declarations : Declarations)
    (method : Method) : Declarations :=
  declarations.set method (OrderedSet.ofList components)

/-- What the body of a class binds; a name can be bound to `None`. -/
abbrev ClassBody : Type := Dict String (Option Component)

/-- An assembler class, as the bodies in its `inspect.getmro`, without that of
`object`. -/
structure Assembler where
  mro : List ClassBody

end KoiNet
