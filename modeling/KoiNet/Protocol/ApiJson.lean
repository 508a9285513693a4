import KoiNet.Foundation.Json
import KoiNet.Protocol.Envelope

/-!
# API models as JSON

Each model is written field by field under the names of its schema.  How
identifiers, instants and contents are written is not defined here, so every
result is about the values that the given leaf codecs decode again.
-/

namespace KoiNet

open Foundation

/-- Codecs of the leaf types. -/
structure Leaves where
  rid : Codec RID String
  ridType : Codec RIDType String
  datetime : Codec Timestamp String
  contents : Codec Contents (List (String × Json))

namespace Leaves

variable (leaves : Leaves)

def ridJson : Codec RID Json :=
  Json.text leaves.rid

def ridsJson : Codec (List RID) Json :=
  Json.listOf leaves.ridJson

def ridTypesJson : Codec (List RIDType) Json :=
  Json.listOf (Json.text leaves.ridType)

def contentsJson : Codec Contents Json :=
  leaves.contents.comp Json.object

/-- A node RID is written like any other RID. -/
def node : Codec KoiNetNode String :=
  { encode := fun rid => leaves.rid.encode (.node rid)
    decode := fun text =>
      match leaves.rid.decode text with
      | some (.node rid) => some rid
      | _ => none }

def nodeJson : Codec KoiNetNode Json :=
  Json.text leaves.node

variable {leaves}

theorem ridJson_faithful {rid : RID} (faithful : leaves.rid.Faithful rid) :
    leaves.ridJson.Faithful rid :=
  Json.text_faithful faithful

theorem ridsJson_faithful {rids : List RID}
    (faithful : ∀ rid ∈ rids, leaves.rid.Faithful rid) :
    leaves.ridsJson.Faithful rids :=
  Json.listOf_faithful fun rid member => ridJson_faithful (faithful rid member)

theorem ridTypesJson_faithful {ridTypes : List RIDType}
    (faithful : ∀ ridType ∈ ridTypes, leaves.ridType.Faithful ridType) :
    leaves.ridTypesJson.Faithful ridTypes :=
  Json.listOf_faithful fun ridType member =>
    Json.text_faithful (faithful ridType member)

theorem contentsJson_faithful {contents : Contents}
    (faithful : leaves.contents.Faithful contents) :
    leaves.contentsJson.Faithful contents :=
  .comp rfl faithful

theorem nodeJson_faithful {rid : KoiNetNode}
    (faithful : leaves.rid.Faithful (.node rid)) :
    leaves.nodeJson.Faithful rid := by
  apply Json.text_faithful
  unfold node Codec.Faithful
  dsimp only
  rw [faithful]

end Leaves

def EventType.json : Codec EventType Json :=
  { encode := fun
      | .new => .str "NEW"
      | .update => .str "UPDATE"
      | .forget => .str "FORGET"
    decode := fun
      | .str "NEW" => some .new
      | .str "UPDATE" => some .update
      | .str "FORGET" => some .forget
      | _ => none }

theorem EventType.json_faithful (eventType : EventType) :
    EventType.json.Faithful eventType := by
  cases eventType <;> rfl

variable (leaves : Leaves)

def Manifest.json : Codec Manifest Json :=
  { encode := fun manifest => .model
      [("rid", some (leaves.ridJson.encode manifest.rid)),
        ("timestamp",
          some ((Json.text leaves.datetime).encode manifest.timestamp)),
        ("sha256_hash", some (Json.string.encode manifest.sha256Hash))]
    decode := fun json => do
      let rid ← json.required "rid" leaves.ridJson
      let timestamp ← json.required "timestamp" (Json.text leaves.datetime)
      let sha256Hash ← json.required "sha256_hash" Json.string
      return { rid, timestamp, sha256Hash } }

def Bundle.json : Codec Bundle Json :=
  { encode := fun bundle => .model
      [("manifest", some ((Manifest.json leaves).encode bundle.manifest)),
        ("contents", some (leaves.contentsJson.encode bundle.contents))]
    decode := fun json => do
      let manifest ← json.required "manifest" (Manifest.json leaves)
      let contents ← json.required "contents" leaves.contentsJson
      return { manifest, contents } }

def Event.json : Codec Event Json :=
  { encode := fun event => .model
      [("rid", some (leaves.ridJson.encode event.rid)),
        ("event_type", some (EventType.json.encode event.eventType)),
        ("manifest", event.manifest.map (Manifest.json leaves).encode),
        ("contents", event.contents.map leaves.contentsJson.encode)]
    decode := fun json => do
      let rid ← json.required "rid" leaves.ridJson
      let eventType ← json.required "event_type" EventType.json
      let manifest ← json.optional "manifest" (Manifest.json leaves)
      let contents ← json.optional "contents" leaves.contentsJson
      return { rid, eventType, manifest, contents } }

def EventsPayload.json : Codec EventsPayload Json :=
  { encode := fun payload => .model
      [("type", some (.str "events_payload")),
        ("events",
          some ((Json.listOf (Event.json leaves)).encode payload.events))]
    decode := fun json => do
      json.literal "type" "events_payload"
      let events ← json.required "events" (Json.listOf (Event.json leaves))
      return { events } }

def PollEvents.json : Codec PollEvents Json :=
  { encode := fun req => .model
      [("type", some (.str "poll_events")),
        ("limit", some (Json.int.encode req.limit))]
    decode := fun json => do
      json.literal "type" "poll_events"
      let limit ← json.withDefault "limit" Json.int 0
      return { limit } }

def FetchRids.json : Codec FetchRids Json :=
  { encode := fun req => .model
      [("type", some (.str "fetch_rids")),
        ("rid_types", some (leaves.ridTypesJson.encode req.ridTypes))]
    decode := fun json => do
      json.literal "type" "fetch_rids"
      let ridTypes ← json.withDefault "rid_types" leaves.ridTypesJson []
      return { ridTypes } }

def FetchManifests.json : Codec FetchManifests Json :=
  { encode := fun req => .model
      [("type", some (.str "fetch_manifests")),
        ("rid_types", some (leaves.ridTypesJson.encode req.ridTypes)),
        ("rids", some (leaves.ridsJson.encode req.rids))]
    decode := fun json => do
      json.literal "type" "fetch_manifests"
      let ridTypes ← json.withDefault "rid_types" leaves.ridTypesJson []
      let rids ← json.withDefault "rids" leaves.ridsJson []
      return { ridTypes, rids } }

def FetchBundles.json : Codec FetchBundles Json :=
  { encode := fun req => .model
      [("type", some (.str "fetch_bundles")),
        ("rids", some (leaves.ridsJson.encode req.rids))]
    decode := fun json => do
      json.literal "type" "fetch_bundles"
      let rids ← json.required "rids" leaves.ridsJson
      return { rids } }

def RidsPayload.json : Codec RidsPayload Json :=
  { encode := fun payload => .model
      [("type", some (.str "rids_payload")),
        ("rids", some (leaves.ridsJson.encode payload.rids))]
    decode := fun json => do
      json.literal "type" "rids_payload"
      let rids ← json.required "rids" leaves.ridsJson
      return { rids } }

def ManifestsPayload.json : Codec ManifestsPayload Json :=
  { encode := fun payload => .model
      [("type", some (.str "manifests_payload")),
        ("manifests", some ((Json.listOf (Manifest.json leaves)).encode
          payload.manifests)),
        ("not_found", some (leaves.ridsJson.encode payload.notFound))]
    decode := fun json => do
      json.literal "type" "manifests_payload"
      let manifests ← json.required "manifests"
        (Json.listOf (Manifest.json leaves))
      let notFound ← json.withDefault "not_found" leaves.ridsJson []
      return { manifests, notFound } }

def BundlesPayload.json : Codec BundlesPayload Json :=
  { encode := fun payload => .model
      [("type", some (.str "bundles_payload")),
        ("bundles",
          some ((Json.listOf (Bundle.json leaves)).encode payload.bundles)),
        ("not_found", some (leaves.ridsJson.encode payload.notFound)),
        ("deferred", some (leaves.ridsJson.encode payload.deferred))]
    decode := fun json => do
      json.literal "type" "bundles_payload"
      let bundles ← json.required "bundles" (Json.listOf (Bundle.json leaves))
      let notFound ← json.withDefault "not_found" leaves.ridsJson []
      let deferred ← json.withDefault "deferred" leaves.ridsJson []
      return { bundles, notFound, deferred } }

/-- The leaves of a manifest decode from what they are written as. -/
structure Manifest.LeavesFaithful (manifest : Manifest) : Prop where
  rid : leaves.rid.Faithful manifest.rid
  timestamp : leaves.datetime.Faithful manifest.timestamp

structure Bundle.LeavesFaithful (bundle : Bundle) : Prop where
  manifest : bundle.manifest.LeavesFaithful leaves
  contents : leaves.contents.Faithful bundle.contents

structure Event.LeavesFaithful (event : Event) : Prop where
  rid : leaves.rid.Faithful event.rid
  manifest : ∀ manifest ∈ event.manifest, manifest.LeavesFaithful leaves
  contents : ∀ contents ∈ event.contents, leaves.contents.Faithful contents

def EventsPayload.LeavesFaithful (payload : EventsPayload) : Prop :=
  ∀ event ∈ payload.events, event.LeavesFaithful leaves

def FetchRids.LeavesFaithful (req : FetchRids) : Prop :=
  ∀ ridType ∈ req.ridTypes, leaves.ridType.Faithful ridType

structure FetchManifests.LeavesFaithful (req : FetchManifests) : Prop where
  ridTypes : ∀ ridType ∈ req.ridTypes, leaves.ridType.Faithful ridType
  rids : ∀ rid ∈ req.rids, leaves.rid.Faithful rid

def FetchBundles.LeavesFaithful (req : FetchBundles) : Prop :=
  ∀ rid ∈ req.rids, leaves.rid.Faithful rid

def RidsPayload.LeavesFaithful (payload : RidsPayload) : Prop :=
  ∀ rid ∈ payload.rids, leaves.rid.Faithful rid

structure ManifestsPayload.LeavesFaithful (payload : ManifestsPayload) :
    Prop where
  manifests : ∀ manifest ∈ payload.manifests, manifest.LeavesFaithful leaves
  notFound : ∀ rid ∈ payload.notFound, leaves.rid.Faithful rid

structure BundlesPayload.LeavesFaithful (payload : BundlesPayload) :
    Prop where
  bundles : ∀ bundle ∈ payload.bundles, bundle.LeavesFaithful leaves
  notFound : ∀ rid ∈ payload.notFound, leaves.rid.Faithful rid
  deferred : ∀ rid ∈ payload.deferred, leaves.rid.Faithful rid

variable {leaves}

theorem Manifest.json_faithful {manifest : Manifest}
    (faithful : manifest.LeavesFaithful leaves) :
    (Manifest.json leaves).Faithful manifest := by
  have rid := Leaves.ridJson_faithful faithful.rid
  have timestamp := Json.text_faithful faithful.timestamp
  have hash := Json.string_faithful manifest.sha256Hash
  unfold Codec.Faithful at rid timestamp hash ⊢
  simp [Manifest.json, Json.model, Json.required, Json.field, Json.lookup,
    rid, timestamp, hash]

theorem Bundle.json_faithful {bundle : Bundle}
    (faithful : bundle.LeavesFaithful leaves) :
    (Bundle.json leaves).Faithful bundle := by
  have manifest := Manifest.json_faithful faithful.manifest
  have contents := Leaves.contentsJson_faithful faithful.contents
  unfold Codec.Faithful at manifest contents ⊢
  simp [Bundle.json, Json.model, Json.required, Json.field, Json.lookup,
    manifest, contents]

theorem Event.json_faithful {event : Event}
    (faithful : event.LeavesFaithful leaves) :
    (Event.json leaves).Faithful event := by
  obtain ⟨eventRid, eventType, eventManifest, eventContents⟩ := event
  let fields := (Event.json leaves).encode
    { rid := eventRid, eventType, manifest := eventManifest,
      contents := eventContents }
  have rid : fields.required "rid" leaves.ridJson = some eventRid :=
    Json.required_of_faithful rfl (Leaves.ridJson_faithful faithful.rid)
  have type : fields.required "event_type" EventType.json = some eventType :=
    Json.required_of_faithful rfl (EventType.json_faithful eventType)
  have manifest : fields.optional "manifest" (Manifest.json leaves) =
      some eventManifest := by
    apply Json.optional_of_map
    · cases eventManifest <;> cases eventContents <;> rfl
    · intro manifest _ null
      cases null
    · intro manifest member
      exact Manifest.json_faithful (faithful.manifest manifest member)
  have contents : fields.optional "contents" leaves.contentsJson =
      some eventContents := by
    apply Json.optional_of_map
    · cases eventManifest <;> cases eventContents <;> rfl
    · intro contents _ null
      cases null
    · intro contents member
      exact Leaves.contentsJson_faithful (faithful.contents contents member)
  change (Event.json leaves).decode fields = _
  simp [Event.json, rid, type, manifest, contents]

theorem EventsPayload.json_faithful {payload : EventsPayload}
    (faithful : payload.LeavesFaithful leaves) :
    (EventsPayload.json leaves).Faithful payload := by
  let fields := (EventsPayload.json leaves).encode payload
  have type : fields.literal "type" "events_payload" = some () :=
    Json.literal_of_written rfl
  have events : fields.required "events" (Json.listOf (Event.json leaves)) =
      some payload.events :=
    Json.required_of_faithful rfl (Json.listOf_faithful fun event member =>
      Event.json_faithful (faithful event member))
  change (EventsPayload.json leaves).decode fields = _
  simp [EventsPayload.json, type, events]

theorem PollEvents.json_faithful (req : PollEvents) :
    PollEvents.json.Faithful req := by
  let fields := PollEvents.json.encode req
  have type : fields.literal "type" "poll_events" = some () :=
    Json.literal_of_written rfl
  have limit : fields.withDefault "limit" Json.int 0 =
      some req.limit :=
    Json.withDefault_of_faithful rfl (Json.int_faithful _)
  change PollEvents.json.decode fields = _
  simp [PollEvents.json, type, limit]

theorem FetchRids.json_faithful {req : FetchRids}
    (faithful : req.LeavesFaithful leaves) :
    (FetchRids.json leaves).Faithful req := by
  let fields := (FetchRids.json leaves).encode req
  have type : fields.literal "type" "fetch_rids" = some () :=
    Json.literal_of_written rfl
  have ridTypes : fields.withDefault "rid_types" leaves.ridTypesJson [] =
      some req.ridTypes :=
    Json.withDefault_of_faithful rfl (Leaves.ridTypesJson_faithful faithful)
  change (FetchRids.json leaves).decode fields = _
  simp [FetchRids.json, type, ridTypes]

theorem FetchManifests.json_faithful {req : FetchManifests}
    (faithful : req.LeavesFaithful leaves) :
    (FetchManifests.json leaves).Faithful req := by
  let fields := (FetchManifests.json leaves).encode req
  have type : fields.literal "type" "fetch_manifests" = some () :=
    Json.literal_of_written rfl
  have ridTypes : fields.withDefault "rid_types" leaves.ridTypesJson [] =
      some req.ridTypes :=
    Json.withDefault_of_faithful rfl
      (Leaves.ridTypesJson_faithful faithful.ridTypes)
  have rids : fields.withDefault "rids" leaves.ridsJson [] =
      some req.rids :=
    Json.withDefault_of_faithful rfl (Leaves.ridsJson_faithful faithful.rids)
  change (FetchManifests.json leaves).decode fields = _
  simp [FetchManifests.json, type, ridTypes, rids]

theorem FetchBundles.json_faithful {req : FetchBundles}
    (faithful : req.LeavesFaithful leaves) :
    (FetchBundles.json leaves).Faithful req := by
  let fields := (FetchBundles.json leaves).encode req
  have type : fields.literal "type" "fetch_bundles" = some () :=
    Json.literal_of_written rfl
  have rids : fields.required "rids" leaves.ridsJson =
      some req.rids :=
    Json.required_of_faithful rfl (Leaves.ridsJson_faithful faithful)
  change (FetchBundles.json leaves).decode fields = _
  simp [FetchBundles.json, type, rids]

theorem RidsPayload.json_faithful {payload : RidsPayload}
    (faithful : payload.LeavesFaithful leaves) :
    (RidsPayload.json leaves).Faithful payload := by
  let fields := (RidsPayload.json leaves).encode payload
  have type : fields.literal "type" "rids_payload" = some () :=
    Json.literal_of_written rfl
  have rids : fields.required "rids" leaves.ridsJson =
      some payload.rids :=
    Json.required_of_faithful rfl (Leaves.ridsJson_faithful faithful)
  change (RidsPayload.json leaves).decode fields = _
  simp [RidsPayload.json, type, rids]

theorem ManifestsPayload.json_faithful {payload : ManifestsPayload}
    (faithful : payload.LeavesFaithful leaves) :
    (ManifestsPayload.json leaves).Faithful payload := by
  let fields := (ManifestsPayload.json leaves).encode payload
  have type : fields.literal "type" "manifests_payload" = some () :=
    Json.literal_of_written rfl
  have manifests : fields.required "manifests"
      (Json.listOf (Manifest.json leaves)) =
      some payload.manifests :=
    Json.required_of_faithful rfl (Json.listOf_faithful fun manifest member =>
      Manifest.json_faithful (faithful.manifests manifest member))
  have notFound : fields.withDefault "not_found" leaves.ridsJson [] =
      some payload.notFound :=
    Json.withDefault_of_faithful rfl
      (Leaves.ridsJson_faithful faithful.notFound)
  change (ManifestsPayload.json leaves).decode fields = _
  simp [ManifestsPayload.json, type, manifests, notFound]

theorem BundlesPayload.json_faithful {payload : BundlesPayload}
    (faithful : payload.LeavesFaithful leaves) :
    (BundlesPayload.json leaves).Faithful payload := by
  let fields := (BundlesPayload.json leaves).encode payload
  have type : fields.literal "type" "bundles_payload" = some () :=
    Json.literal_of_written rfl
  have bundles : fields.required "bundles" (Json.listOf (Bundle.json leaves)) =
      some payload.bundles :=
    Json.required_of_faithful rfl (Json.listOf_faithful fun bundle member =>
      Bundle.json_faithful (faithful.bundles bundle member))
  have notFound : fields.withDefault "not_found" leaves.ridsJson [] =
      some payload.notFound :=
    Json.withDefault_of_faithful rfl
      (Leaves.ridsJson_faithful faithful.notFound)
  have deferred : fields.withDefault "deferred" leaves.ridsJson [] =
      some payload.deferred :=
    Json.withDefault_of_faithful rfl
      (Leaves.ridsJson_faithful faithful.deferred)
  change (BundlesPayload.json leaves).decode fields = _
  simp [BundlesPayload.json, type, bundles, notFound, deferred]

end KoiNet
