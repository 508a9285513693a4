import KoiNet.Persistence.CacheMap
import KoiNet.Storage.Processing

/-!
# The files below the pipeline

`CacheFiles` is the directory with the text of each file, `Cache` what can be
read of it.  Over a directory that represents the cache, a write of the
pipeline raises what the write of the file raises and leaves what it leaves;
and with files that keep everything, processing is that of the plain pipeline.
-/

namespace KoiNet

open Foundation

namespace Storage

/-- The storage of a directory of files. -/
def ofFiles (env : CacheEnvironment Exc) (opens : RID → Bool)
    (naive : Timestamp → Bool) : Storage :=
  { opens := opens
    stores := fun bundle =>
      (env.modelDumpJson bundle).map (CacheFiles.parse env)
    naive := naive }

section Files

variable {env : CacheEnvironment Exc} {opens : RID → Bool}
  {naive : Timestamp → Bool} {files : CacheFiles} {state : NodeState}

/-- Writing through the pipeline is writing the file. -/
theorem write_refines {bundle : Bundle}
    (represents : CacheFiles.Represents env files state.cache)
    (back : CacheFiles.NamesBack env bundle.manifest.rid)
    (opened : opens bundle.manifest.rid = true) :
    let written := (CacheFiles.write env bundle).run files
    let stored := ((ofFiles env opens naive).write bundle).run state
    stored.1 = written.1.map (fun _ => ()) ∧
      CacheFiles.Represents env written.2 stored.2.cache := by
  let path := CacheFiles.filePathTo env bundle.manifest.rid
  have emptied : CacheFiles.Represents env (files.makedirs.withText path "")
      (state.cache.withFile bundle.manifest.rid none) :=
    represents.makedirs.withText rfl back
  dsimp only
  rw [CacheFiles.write_run, write_run, if_pos (show (ofFiles env opens
    naive).opens bundle.manifest.rid = true from opened)]
  unfold ofFiles
  dsimp only
  cases env.modelDumpJson bundle with
  | error failure => exact ⟨rfl, emptied⟩
  | ok text =>
      have filled : CacheFiles.Represents env
          ((files.makedirs.withText path "").withText path text)
          ((state.cache.withFile bundle.manifest.rid none).withFile
            bundle.manifest.rid (CacheFiles.parse env text)) :=
        emptied.withText rfl back
      rw [Cache.withFile_withFile] at filled
      exact ⟨rfl, filled⟩

end Files

section Plain

open KnowledgePipeline

variable {storage : Storage} {node : Node} {state : NodeState}
  {kobj : KnowledgeObject}

/-- Where the files take an object and keep what it brings as it is,
processing it is processing it in the plain pipeline. -/
theorem process_eq (registration : Registration)
    (untroubled : ¬storage.Trouble node state kobj)
    (keeps : ∀ manifest bundle, Arrives node state kobj manifest bundle →
      storage.Kept bundle (some bundle)) :
    (storage.process node (registration.stored storage node) kobj).run state =
      (KnowledgePipeline.process node (registration.registry node).handlers
        kobj).run state := by
  let registry := registration.registry node
  have decided := (settle_agrees registration kobj state).run_eq untroubled
  unfold process KnowledgePipeline.process
  rw [Effect.run_bind, Effect.run_bind, decided]
  generalize ran : (KnowledgePipeline.settle node registry.handlers kobj).run
    state = ended
  obtain ⟨result, settled⟩ := ended
  rcases result with failure | _ | final
  · rfl
  · rfl
  · dsimp only
    have applies : (storage.applyToCache final).run settled =
        (KnowledgePipeline.applyToCache final).run settled := by
      rcases settle_returns registry ran with
        ⟨manifest, bundle, arrives, rfl⟩ | ⟨bundle, deletes, rfl⟩
      · rw [KnowledgePipeline.applyToCache_write,
          applyToCache_write (keeps manifest bundle arrives)
            (opened_of_arrives untroubled arrives)]
        rfl
      · rw [KnowledgePipeline.applyToCache_delete,
          applyToCache_delete bundle (opened_of_deletes untroubled deletes)]
    rw [Effect.run_bind, Effect.run_bind, applies]
    generalize (KnowledgePipeline.applyToCache final).run settled = applied
    obtain ⟨result, changed⟩ := applied
    rcases result with failure | _ | applied
    · rfl
    · rfl
    · dsimp only
      rw [publish_stored]

theorem ideal_process (registration : Registration) (kobj : KnowledgeObject)
    (state : NodeState) :
    (ideal.process node (registration.stored ideal node) kobj).run state =
      (KnowledgePipeline.process node (registration.registry node).handlers
        kobj).run state :=
  process_eq registration (not_trouble (fun _ => rfl) fun _ _ => rfl)
    fun _ _ _ => ⟨rfl, rfl⟩

end Plain

end Storage

end KoiNet
