import KoiNet.Protocol.Rid

/-!
# Node and edge profiles

`modelValidate` decodes a contents dictionary field by field, with the
defaults of the models; unknown fields are ignored.  `EdgeProfile.modelDump`
is its inverse on the edges this node generates itself.
-/

namespace KoiNet

inductive NodeType where
  | full
  | partialNode
  deriving DecidableEq, Repr

structure NodeProvides where
  event : List RIDType
  state : List RIDType
  deriving DecidableEq, Repr

structure NodeProfile where
  context : RID
  baseUrl : Option String
  nodeType : NodeType
  provides : NodeProvides
  publicKey : Option String
  deriving DecidableEq, Repr

def NodeType.decode : Value → Option NodeType
  | .str "FULL" => some .full
  | .str "PARTIAL" => some .partialNode
  | _ => none

def NodeProvides.decode : Value → Option NodeProvides
  | .dict items => do
      let event ← Contents.withDefault items "event" Value.asRidTypes []
      let state ← Contents.withDefault items "state" Value.asRidTypes []
      return { event, state }
  | _ => none

def decodeContext (contents : Contents) (default : RID) : Option RID :=
  match contents.aliased "@context" "context" with
  | some value => value.asRid
  | none => some default

def NodeProfile.defaultContext : RID :=
  .other "orn:koi-net.context" "koi-net.node"

/-- `NodeProfile.model_validate`; `none` is a `ValidationError`. -/
def NodeProfile.modelValidate (contents : Contents) :
    Option NodeProfile := do
  let context ← decodeContext contents NodeProfile.defaultContext
  let baseUrl ← contents.withDefault "base_url" Value.asOptionalStr none
  let nodeType ← contents.required "node_type" NodeType.decode
  let provides ← contents.withDefault "provides" NodeProvides.decode
    { event := [], state := [] }
  let publicKey ← contents.withDefault "public_key" Value.asOptionalStr none
  return { context, baseUrl, nodeType, provides, publicKey }

inductive EdgeStatus where
  | proposed
  | approved
  deriving DecidableEq, Repr

inductive EdgeType where
  | webhook
  | poll
  deriving DecidableEq, Repr

structure EdgeProfile where
  context : RID
  source : KoiNetNode
  target : KoiNetNode
  edgeType : EdgeType
  status : EdgeStatus
  ridTypes : List RIDType
  deriving DecidableEq, Repr

def EdgeStatus.decode : Value → Option EdgeStatus
  | .str "PROPOSED" => some .proposed
  | .str "APPROVED" => some .approved
  | _ => none

def EdgeStatus.encode : EdgeStatus → Value
  | .proposed => .str "PROPOSED"
  | .approved => .str "APPROVED"

def EdgeType.decode : Value → Option EdgeType
  | .str "WEBHOOK" => some .webhook
  | .str "POLL" => some .poll
  | _ => none

def EdgeType.encode : EdgeType → Value
  | .webhook => .str "WEBHOOK"
  | .poll => .str "POLL"

def EdgeProfile.defaultContext : RID :=
  .other "orn:koi-net.context" "koi-net.edge"

/-- `EdgeProfile.model_validate`; `none` is a `ValidationError`. -/
def EdgeProfile.modelValidate (contents : Contents) :
    Option EdgeProfile := do
  let context ← decodeContext contents EdgeProfile.defaultContext
  let source ← contents.required "source" Value.asNode
  let target ← contents.required "target" Value.asNode
  let edgeType ← contents.required "edge_type" EdgeType.decode
  let status ← contents.required "status" EdgeStatus.decode
  let ridTypes ← contents.required "rid_types" Value.asRidTypes
  return { context, source, target, edgeType, status, ridTypes }

def EdgeProfile.modelDump (profile : EdgeProfile) : Contents :=
  [("@context", .rid profile.context),
    ("source", .rid (.node profile.source)),
    ("target", .rid (.node profile.target)),
    ("edge_type", profile.edgeType.encode),
    ("status", profile.status.encode),
    ("rid_types", .list (profile.ridTypes.map .ridType))]

@[simp] theorem EdgeStatus.decode_encode (status : EdgeStatus) :
    EdgeStatus.decode status.encode = some status := by
  cases status <;> rfl

@[simp] theorem EdgeType.decode_encode (edgeType : EdgeType) :
    EdgeType.decode edgeType.encode = some edgeType := by
  cases edgeType <;> rfl

@[simp] theorem Value.asRidTypes_list (types : List RIDType) :
    Value.asRidTypes (.list (types.map .ridType)) = some types := by
  induction types with
  | nil => rfl
  | cons type types induction =>
      simp only [Value.asRidTypes] at induction ⊢
      simp [List.mapM_cons, Value.asRidType, induction]

@[simp] theorem EdgeProfile.modelValidate_modelDump (profile : EdgeProfile) :
    EdgeProfile.modelValidate profile.modelDump = some profile := by
  simp [EdgeProfile.modelValidate, EdgeProfile.modelDump, decodeContext,
    Contents.aliased, Contents.required, Contents.field, Value.asRid,
    Value.asNode]

theorem EdgeProfile.modelDump_ne_nil (profile : EdgeProfile) :
    profile.modelDump ≠ [] := by
  simp [EdgeProfile.modelDump]

end KoiNet
