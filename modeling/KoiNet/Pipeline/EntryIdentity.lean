import KoiNet.Pipeline.CacheEffect

/-!
# Which cache entries an object can change

`BasicRidHandler` guards the object's own RID, while the cache write files the
bundle under the RID its manifest names.  An object changes only the entry of
its own RID exactly as long as these two agree.
-/

namespace KoiNet

open Foundation

namespace KnowledgePipeline

/-- Every entry but the object's own stays, and an object from another node
leaves this node's own entry alone. -/
def OnlyOwnEntry (node : Node) (kobj : KnowledgeObject)
    (before after : Cache) : Prop :=
  (∀ rid, rid ≠ kobj.rid → after.entry rid = before.entry rid) ∧
    (kobj.source ≠ none →
      after.entry (.node node.rid) = before.entry (.node node.rid))

variable {node : Node} {kobj : KnowledgeObject} {state : NodeState}

theorem onlyOwnEntry_unchanged (cache : Cache) :
    OnlyOwnEntry node kobj cache cache :=
  ⟨fun _ _ => rfl, fun _ => rfl⟩

theorem onlyOwnEntry_delete (passes : PassesRid node kobj) (cache : Cache) :
    OnlyOwnEntry node kobj cache (cache.delete kobj.rid) := by
  constructor
  · intro rid different
    rw [Cache.entry_delete, if_neg different]
  · intro external
    rw [Cache.entry_delete, if_neg]
    intro own
    exact passes ⟨own.symm, external⟩

/-- A written bundle stays within the object's own entry exactly if it names
the object's RID or is already filed where it names. -/
theorem onlyOwnEntry_write_iff (passes : PassesRid node kobj) (cache : Cache)
    (bundle : Bundle) :
    OnlyOwnEntry node kobj cache (cache.write bundle) ↔
      bundle.manifest.rid = kobj.rid ∨
        cache.read bundle.manifest.rid = some bundle := by
  constructor
  · intro kept
    by_cases named : bundle.manifest.rid = kobj.rid
    · exact .inl named
    · have same := kept.1 bundle.manifest.rid named
      rw [Cache.entry_write, if_pos rfl] at same
      exact .inr (Cache.read_eq_some_iff.mpr same.symm)
  · rintro (named | filed)
    · constructor
      · intro rid different
        rw [Cache.entry_write, if_neg]
        rw [named]
        exact different
      · intro external
        rw [Cache.entry_write, if_neg]
        intro own
        exact passes ⟨(own.trans named).symm, external⟩
    · have unchanged : ∀ rid,
          (cache.write bundle).entry rid = cache.entry rid := by
        intro rid
        rw [Cache.entry_write]
        split
        · rename_i same
          rw [same]
          exact (Cache.read_eq_some_iff.mp filed).symm
        · rfl
      exact ⟨fun rid _ => unchanged rid, fun _ => unchanged _⟩

variable (registry : Registry node)

/-- Processing changes no entry but the object's own exactly if the bundle it
arrives with, if any, names the object's RID or is already filed. -/
theorem process_onlyOwnEntry_iff (kobj : KnowledgeObject)
    (state : NodeState) :
    OnlyOwnEntry node kobj state.cache
        ((process node registry.handlers kobj).run state).2.cache ↔
      ∀ manifest bundle, Arrives node state kobj manifest bundle →
        bundle.manifest.rid = kobj.rid ∨
          state.cache.read bundle.manifest.rid = some bundle := by
  have effect := process_cacheEffect registry kobj state
  generalize ((process node registry.handlers kobj).run state).2.cache = after
    at effect
  cases effect with
  | write manifest bundle arrives =>
      rw [onlyOwnEntry_write_iff arrives.passes]
      constructor
      · intro named otherManifest other otherArrives
        obtain ⟨_, same⟩ := arrives.functional otherArrives
        rw [same]
        exact named
      · intro named
        exact named manifest bundle arrives
  | delete bundle deletes =>
      apply iff_of_true (onlyOwnEntry_delete deletes.passes _)
      intro manifest other arrives
      exact (arrives.not_deletes deletes).elim
  | nothing notArrives notDeletes =>
      apply iff_of_true (onlyOwnEntry_unchanged _)
      intro manifest bundle arrives
      exact (notArrives manifest bundle arrives).elim

/-- A peer's event about some document whose manifest names the receiving
node itself replaces the bundle of that node's identity. -/
theorem process_replaces_own_identity :
    ¬∀ (node : Node) (registry : Registry node) (kobj : KnowledgeObject)
      (state : NodeState),
      OnlyOwnEntry node kobj state.cache
        ((process node registry.handlers kobj).run state).2.cache := by
  intro always
  let manifest : Manifest :=
    { rid := .node Node.standalone.rid, timestamp := 0, sha256Hash := "" }
  let event : Event :=
    { rid := .other "orn:example" "document"
      eventType := .new
      manifest := some manifest
      contents := some [("k", .null)] }
  let kobj : KnowledgeObject :=
    .fromEvent event (some { name := "peer", hash := "p" })
  let state : NodeState := .fresh .empty
  have kept := (always .standalone (.listed _) kobj state).2 (by decide)
  have written : ((process .standalone
      (Registry.listed .standalone).handlers kobj).run
        state).2.cache.entry (.node Node.standalone.rid) =
      some (some { manifest, contents := [("k", .null)] }) := rfl
  rw [written] at kept
  cases kept

end KnowledgePipeline

end KoiNet
