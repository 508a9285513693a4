import KoiNet.Protocol.Exceptions
import KoiNet.Protocol.Rid

/-!
# Events and knowledge objects

An event carries its RID and its manifest separately, and so does the
knowledge object made from it: nothing here ties `rid` to `manifest.rid`.
-/

namespace KoiNet

inductive EventType where
  | new
  | update
  | forget
  deriving DecidableEq, Repr

structure Event where
  rid : RID
  eventType : EventType
  manifest : Option Manifest
  contents : Option Contents

namespace Event

def fromBundle (eventType : EventType) (bundle : Bundle) : Event :=
  { rid := bundle.manifest.rid
    eventType := eventType
    manifest := some bundle.manifest
    contents := some bundle.contents }

def fromManifest (eventType : EventType) (manifest : Manifest) : Event :=
  { rid := manifest.rid
    eventType := eventType
    manifest := some manifest
    contents := none }

def fromRid (eventType : EventType) (rid : RID) : Event :=
  { rid := rid
    eventType := eventType
    manifest := none
    contents := none }

def bundle (event : Event) : Option Bundle :=
  match event.manifest, event.contents with
  | some manifest, some contents => some { manifest, contents }
  | _, _ => none

end Event

structure KnowledgeObject where
  rid : RID
  manifest : Option Manifest := none
  contents : Option Contents := none
  eventType : Option EventType := none
  normalizedEventType : Option EventType := none
  source : Option KoiNetNode := none
  networkTargets : List KoiNetNode := []
  prevBundle : Option Bundle := none

namespace KnowledgeObject

def fromRid (rid : RID) (eventType : Option EventType)
    (source : Option KoiNetNode) : KnowledgeObject :=
  { rid, eventType, source }

def fromManifest (manifest : Manifest) (eventType : Option EventType)
    (source : Option KoiNetNode) : KnowledgeObject :=
  { rid := manifest.rid, manifest := some manifest, eventType, source }

def fromBundle (bundle : Bundle) (eventType : Option EventType)
    (source : Option KoiNetNode) : KnowledgeObject :=
  { rid := bundle.rid
    manifest := some bundle.manifest
    contents := some bundle.contents
    eventType
    source }

def fromEvent (event : Event) (source : Option KoiNetNode) :
    KnowledgeObject :=
  { rid := event.rid
    manifest := event.manifest
    contents := event.contents
    eventType := some event.eventType
    source }

/-- `if not kobj.contents`: missing and empty contents are alike. -/
def lacksContents (kobj : KnowledgeObject) : Bool :=
  match kobj.contents with
  | none => true
  | some contents => contents.isEmpty

def bundle (kobj : KnowledgeObject) : Except Exc Bundle :=
  match kobj.manifest, kobj.contents with
  | some manifest, some contents => .ok { manifest, contents }
  | _, _ => .error .valueError

def normalizedEvent (kobj : KnowledgeObject) : Except Exc Event :=
  match kobj.normalizedEventType with
  | none => .error .valueError
  | some .forget => .ok (Event.fromRid .forget kobj.rid)
  | some eventType =>
      .ok
        { rid := kobj.rid
          eventType := eventType
          manifest := kobj.manifest
          contents := kobj.contents }

theorem normalizedEvent_of_some {kobj : KnowledgeObject}
    {eventType : EventType}
    (normalized : kobj.normalizedEventType = some eventType) :
    ∃ event, kobj.normalizedEvent = .ok event := by
  unfold KnowledgeObject.normalizedEvent
  rw [normalized]
  cases eventType with
  | new => exact ⟨_, rfl⟩
  | update => exact ⟨_, rfl⟩
  | forget => exact ⟨_, rfl⟩

theorem bundle_of_fields {kobj : KnowledgeObject} {manifest : Manifest}
    {contents : Contents} (hasManifest : kobj.manifest = some manifest)
    (hasContents : kobj.contents = some contents) :
    kobj.bundle = .ok { manifest, contents } := by
  simp [bundle, hasManifest, hasContents]

theorem fields_of_bundle {kobj : KnowledgeObject} {bundle : Bundle}
    (bundled : kobj.bundle = .ok bundle) :
    kobj.manifest = some bundle.manifest ∧
      kobj.contents = some bundle.contents := by
  unfold KnowledgeObject.bundle at bundled
  split at bundled
  · rename_i hasManifest hasContents
    cases bundled
    exact ⟨hasManifest, hasContents⟩
  · cases bundled

end KnowledgeObject

end KoiNet
