import Mathlib.Data.List.Basic

/-!
# Reference identifiers, manifests and contents

RIDs are kept in parsed form: the two types the protocol itself handles, and
every other type under its context.  A contents dictionary is a JSON object
whose identifier strings are likewise kept as what they parse to, so reading
a field of the wrong kind fails as it does on the wire.  Unlike JSON, Python
reads and holds infinities and NaN; written as JSON they become null.
-/

namespace KoiNet

/-- `orn:koi-net.node:<name>+<hash>`. -/
structure KoiNetNode where
  name : String
  hash : String
  deriving DecidableEq, Repr

/-- `orn:koi-net.edge:<id>`. -/
structure KoiNetEdge where
  id : String
  deriving DecidableEq, Repr

inductive RIDType where
  | koiNetNode
  | koiNetEdge
  | other (context : String)
  deriving DecidableEq, Repr

inductive RID where
  | node (rid : KoiNetNode)
  | edge (rid : KoiNetEdge)
  | other (context reference : String)
  deriving DecidableEq, Repr

def RID.type : RID → RIDType
  | .node _ => .koiNetNode
  | .edge _ => .koiNetEdge
  | .other context _ => .other context

/-- `str(rid)` of a node RID. -/
def KoiNetNode.toString (rid : KoiNetNode) : String :=
  "orn:koi-net.node:" ++ rid.name ++ "+" ++ rid.hash

/-- A double, as its bits. -/
structure Double where
  bits : UInt64
  deriving DecidableEq, Repr

namespace Double

def inf : Double :=
  { bits := 0x7ff0000000000000 }

/-- All bits of the exponent are set in infinities and NaN alone. -/
def isFinite (value : Double) : Bool :=
  value.bits &&& inf.bits ≠ inf.bits

end Double

/-- A decoded JSON value. -/
inductive Value where
  | null
  | bool (value : Bool)
  | num (value : Int)
  | float (value : Double)
  | str (value : String)
  | rid (value : RID)
  | ridType (value : RIDType)
  | list (items : List Value)
  | dict (items : List (String × Value))

namespace Value

/-- `str | None`. -/
def asOptionalStr : Value → Option (Option String)
  | .null => some none
  | .str value => some (some value)
  | _ => none

def asRid : Value → Option RID
  | .rid value => some value
  | _ => none

def asNode : Value → Option KoiNetNode
  | .rid (.node value) => some value
  | _ => none

def asRidType : Value → Option RIDType
  | .ridType value => some value
  | _ => none

/-- `list[RIDType]`. -/
def asRidTypes : Value → Option (List RIDType)
  | .list items => items.mapM asRidType
  | _ => none

mutual

/-- What is read back from the JSON text of a value. -/
def reread : Value → Value
  | .float value => if value.isFinite then .float value else .null
  | .list items => .list (rereadItems items)
  | .dict items => .dict (rereadFields items)
  | value => value

def rereadItems : List Value → List Value
  | [] => []
  | value :: rest => value.reread :: rereadItems rest

def rereadFields : List (String × Value) → List (String × Value)
  | [] => []
  | (name, value) :: rest => (name, value.reread) :: rereadFields rest

end

mutual

/-- How deep the lists and objects of a value are nested. -/
def depth : Value → Nat
  | .list items => depthItems items + 1
  | .dict items => depthFields items + 1
  | _ => 0

def depthItems : List Value → Nat
  | [] => 0
  | value :: rest => max value.depth (depthItems rest)

def depthFields : List (String × Value) → Nat
  | [] => 0
  | (_, value) :: rest => max value.depth (depthFields rest)

end

end Value

/-- A JSON object. -/
abbrev Contents : Type := List (String × Value)

namespace Contents

/-- What is read back from the JSON text of an object. -/
def reread (contents : Contents) : Contents :=
  Value.rereadFields contents

def depth (contents : Contents) : Nat :=
  Value.depthFields contents + 1

def field (contents : Contents) (name : String) : Option Value :=
  match contents with
  | [] => none
  | (head, value) :: rest =>
      if head = name then some value else field rest name

/-- A field without a default: its absence fails validation. -/
def required {α : Type} (contents : Contents) (name : String)
    (decode : Value → Option α) : Option α :=
  match contents.field name with
  | some value => decode value
  | none => none

/-- A field with a default, which is not itself validated. -/
def withDefault {α : Type} (contents : Contents) (name : String)
    (decode : Value → Option α) (default : α) : Option α :=
  match contents.field name with
  | some value => decode value
  | none => some default

/-- A field that is also accepted under its Python name. -/
def aliased (contents : Contents) (wire name : String) : Option Value :=
  match contents.field wire with
  | some value => some value
  | none => contents.field name

end Contents

/-- Instants of an unspecified clock. -/
abbrev Timestamp : Type := Int

structure Manifest where
  rid : RID
  timestamp : Timestamp
  sha256Hash : String
  deriving DecidableEq, Repr

structure Bundle where
  manifest : Manifest
  contents : Contents

namespace Bundle

def rid (bundle : Bundle) : RID :=
  bundle.manifest.rid

def timestamp (bundle : Bundle) : Timestamp :=
  bundle.manifest.timestamp

def hash (bundle : Bundle) : String :=
  bundle.manifest.sha256Hash

end Bundle

end KoiNet
