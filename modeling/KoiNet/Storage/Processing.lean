import KoiNet.Storage.Agreement

/-!
# Processing over files that can fail, to its end

Once the cache action is decided as over ideal files, processing goes on from
what the cache action makes of the file; publishing the object reads no file
that could fail.
-/

namespace KoiNet

open Foundation KnowledgePipeline

/-- The state with this in the file of the RID. -/
def NodeState.withFile (state : NodeState) (rid : RID)
    (file : Option Bundle) : NodeState :=
  { state with cache := state.cache.withFile rid file }

namespace Storage

variable {storage : Storage} {node : Node} {registration : Registration}
  {state : NodeState} {kobj : KnowledgeObject}

theorem publish_stored (kobj : KnowledgeObject) :
    publish node (registration.stored storage node) kobj =
      publish node (registration.registry node).handlers kobj := by
  unfold publish
  rw [Registration.stored_chain (by decide) (by decide)]
  congr 1
  funext _
  congr 1
  funext passed
  cases passed with
  | none => rfl
  | some kobj =>
      dsimp only
      rw [Registration.stored_chain (by decide) (by decide)]

theorem write_run (bundle : Bundle) (state : NodeState) :
    (storage.write bundle).run state =
      if storage.opens bundle.manifest.rid then
        match storage.stores bundle with
        | .ok file => (.ok (), state.withFile bundle.manifest.rid file)
        | .error failure =>
            (.error failure, state.withFile bundle.manifest.rid none)
      else (.error .osError, state) := by
  unfold write
  rw [Effect.run_bind, openFile_run]
  cases storage.opens bundle.manifest.rid with
  | false => rfl
  | true =>
      simp only [if_true]
      unfold withFile
      rw [Effect.run_modify_bind, Effect.run_bind, Effect.run_ofExcept]
      cases storage.stores bundle with
      | error failure => rfl
      | ok file =>
          simp only [Effect.run_modify, NodeState.withFile,
            Cache.withFile_withFile]

/-- What the file of the bundle holds after a write that returned. -/
def Kept (storage : Storage) (bundle : Bundle) (file : Option Bundle) : Prop :=
  storage.opens bundle.manifest.rid = true ∧ storage.stores bundle = .ok file

theorem write_returns_iff {bundle : Bundle} {after : NodeState} :
    (storage.write bundle).run state = (.ok (), after) ↔
      ∃ file, storage.Kept bundle file ∧
        after = state.withFile bundle.manifest.rid file := by
  rw [write_run]
  unfold Kept
  cases storage.opens bundle.manifest.rid with
  | false => simp
  | true =>
      cases storage.stores bundle with
      | error failure => simp
      | ok file => simp [eq_comm]

theorem writeType_cases (cache : Cache) (rid : RID) :
    cache.writeType rid = .new ∨ cache.writeType rid = .update := by
  unfold Cache.writeType
  split
  · exact .inr rfl
  · exact .inl rfl

theorem applyToCache_write {bundle : Bundle} {file : Option Bundle}
    (kept : storage.Kept bundle file) (opened : storage.opens kobj.rid = true)
    (cache : Cache) (rid : RID) (state : NodeState) :
    (storage.applyToCache (kobj.settled (cache.writeType rid) bundle)).run
        state =
      (.ok (some (applied state.cache
          (kobj.settled (cache.writeType rid) bundle))),
        state.withFile bundle.manifest.rid file) := by
  have written : (storage.write bundle).run state =
      (.ok (), state.withFile bundle.manifest.rid file) :=
    write_returns_iff.mpr ⟨file, kept, rfl⟩
  rcases writeType_cases cache rid with new | update
  · rw [new]
    exact Effect.run_bind_of_ok written _
  · have read : (storage.read kobj.rid).run state =
        (.ok (state.cache.read kobj.rid), state) := by
      rw [read_run, if_pos opened]
    rw [update]
    refine (Effect.run_bind_of_ok read _).trans ?_
    exact Effect.run_bind_of_ok written _

theorem applyToCache_delete (bundle : Bundle)
    (opened : storage.opens kobj.rid = true) (state : NodeState) :
    (storage.applyToCache (kobj.settled .forget bundle)).run state =
      (.ok (some (kobj.settled .forget bundle)),
        { state with cache := state.cache.delete kobj.rid }) := by
  unfold applyToCache delete
  dsimp only [KnowledgeObject.settled]
  rw [Effect.run_bind, Effect.run_bind, openFile_run, if_pos opened]
  rfl

theorem applyToCache_wrote {bundle : Bundle} {cache : Cache} {rid : RID}
    {result : Option KnowledgeObject} {after : NodeState}
    (ran : (storage.applyToCache
      (kobj.settled (cache.writeType rid) bundle)).run state =
        (.ok result, after)) :
    ∃ file, storage.Kept bundle file ∧
      result = some (applied state.cache
        (kobj.settled (cache.writeType rid) bundle)) ∧
      after = state.withFile bundle.manifest.rid file := by
  rcases writeType_cases cache rid with new | update
  · rw [new] at ran ⊢
    obtain ⟨_, _, made, ran⟩ := Effect.run_bind_eq_ok_iff.mp ran
    cases made
    obtain ⟨_, _, written, ran⟩ := Effect.run_bind_eq_ok_iff.mp ran
    obtain ⟨file, kept, rfl⟩ := write_returns_iff.mp written
    cases ran
    exact ⟨file, kept, rfl, rfl⟩
  · rw [update] at ran ⊢
    obtain ⟨previous, between, read, ran⟩ := Effect.run_bind_eq_ok_iff.mp ran
    change (storage.read kobj.rid).run state = _ at read
    rw [read_run] at read
    split at read
    · cases read
      obtain ⟨_, _, made, ran⟩ := Effect.run_bind_eq_ok_iff.mp ran
      cases made
      obtain ⟨_, _, written, ran⟩ := Effect.run_bind_eq_ok_iff.mp ran
      obtain ⟨file, kept, rfl⟩ := write_returns_iff.mp written
      cases ran
      exact ⟨file, kept, rfl, rfl⟩
    · cases read

theorem applyToCache_deleted {bundle : Bundle}
    {result : Option KnowledgeObject} {after : NodeState}
    (ran : (storage.applyToCache (kobj.settled .forget bundle)).run state =
      (.ok result, after)) :
    result = some (kobj.settled .forget bundle) ∧
      after = { state with cache := state.cache.delete kobj.rid } := by
  cases opened : storage.opens kobj.rid with
  | true =>
      rw [applyToCache_delete bundle opened] at ran
      cases ran
      exact ⟨rfl, rfl⟩
  | false =>
      unfold applyToCache delete at ran
      dsimp only [KnowledgeObject.settled] at ran
      rw [Effect.run_bind, Effect.run_bind, openFile_run, opened] at ran
      cases ran

theorem opened_of_arrives (untroubled : ¬Trouble storage node state kobj)
    {manifest : Manifest} {bundle : Bundle}
    (arrives : Arrives node state kobj manifest bundle) :
    storage.opens kobj.rid = true := by
  obtain ⟨between, after, announced, _⟩ := arrives.offered
  cases opened : storage.opens kobj.rid with
  | true => rfl
  | false =>
      exact (untroubled
        (.announced manifest between arrives.notForget announced opened)).elim

theorem opened_of_deletes (untroubled : ¬Trouble storage node state kobj)
    {bundle : Bundle} (deletes : Deletes node state kobj bundle) :
    storage.opens kobj.rid = true := by
  cases opened : storage.opens kobj.rid with
  | true => rfl
  | false => exact (untroubled (.forgotten deletes.forget opened)).elim

section Process

variable (registration)

theorem settle_of_arrives {manifest : Manifest} {bundle : Bundle}
    (untroubled : ¬Trouble storage node state kobj)
    (arrives : Arrives node state kobj manifest bundle) :
    ∃ settled, Stable node state settled ∧
      (storage.settle node (registration.stored storage node) kobj).run state =
        (.ok (some (kobj.settled (state.cache.writeType kobj.rid) bundle)),
          settled) := by
  let registry := registration.registry node
  have decided := settle_arrives registry arrives
  have stable := settle_stable registry kobj state
  rw [← (settle_agrees registration kobj state).run_eq untroubled]
    at decided stable
  generalize (storage.settle node (registration.stored storage node)
    kobj).run state = ended at decided stable
  obtain ⟨result, settled⟩ := ended
  dsimp only at decided
  subst decided
  exact ⟨settled, stable, rfl⟩

theorem process_of_arrives {manifest : Manifest} {bundle : Bundle}
    {file : Option Bundle} (untroubled : ¬Trouble storage node state kobj)
    (arrives : Arrives node state kobj manifest bundle)
    (kept : storage.Kept bundle file) :
    ∃ settled, Stable node state settled ∧
      (storage.process node (registration.stored storage node) kobj).run
          state =
        (publish node (registration.registry node).handlers
          (applied state.cache
            (kobj.settled (state.cache.writeType kobj.rid) bundle))).run
          (settled.withFile bundle.manifest.rid file) := by
  obtain ⟨settled, stable, ran⟩ :=
    settle_of_arrives registration untroubled arrives
  have same : settled.cache = state.cache := stable.cache
  refine ⟨settled, stable, ?_⟩
  unfold process
  rw [Effect.run_bind_of_ok ran]
  dsimp only
  rw [Effect.run_bind_of_ok (applyToCache_write kept
    (opened_of_arrives untroubled arrives) _ _ settled), same]
  dsimp only
  rw [publish_stored]

/-- A bundle that does not serialise leaves an empty file. -/
theorem process_of_unserialised {manifest : Manifest} {bundle : Bundle}
    {failure : Exc} (untroubled : ¬Trouble storage node state kobj)
    (arrives : Arrives node state kobj manifest bundle)
    (fails : storage.stores bundle = .error failure)
    (named : bundle.manifest.rid = kobj.rid) :
    ∃ settled, Stable node state settled ∧
      (storage.process node (registration.stored storage node) kobj).run
          state =
        (.error failure, settled.withFile bundle.manifest.rid none) := by
  obtain ⟨settled, stable, ran⟩ :=
    settle_of_arrives registration untroubled arrives
  have opened := opened_of_arrives untroubled arrives
  refine ⟨settled, stable, ?_⟩
  have unwritten : (storage.write bundle).run settled =
      (.error failure, settled.withFile bundle.manifest.rid none) := by
    rw [write_run, named, if_pos opened, fails]
  have read : (storage.read kobj.rid).run settled =
      (.ok (settled.cache.read kobj.rid), settled) := by
    rw [read_run, if_pos opened]
  unfold process
  rw [Effect.run_bind_of_ok ran]
  apply Effect.run_bind_of_error
  rcases writeType_cases state.cache kobj.rid with new | update
  · rw [new]
    exact Effect.run_bind_of_error unwritten _
  · rw [update]
    refine (Effect.run_bind_of_ok read _).trans ?_
    exact Effect.run_bind_of_error unwritten _

theorem process_of_deletes {bundle : Bundle}
    (deletes : Deletes node state kobj bundle)
    (opened : storage.opens kobj.rid = true) :
    (storage.process node (registration.stored storage node) kobj).run state =
      (publish node (registration.registry node).handlers
          (kobj.settled .forget bundle)).run
        { state with cache := state.cache.delete kobj.rid } := by
  let registry := registration.registry node
  have untroubled : ¬Trouble storage node state kobj := by
    intro trouble
    cases trouble with
    | forgotten _ unopened =>
        rw [opened] at unopened
        cases unopened
    | announced _ _ notForget => exact notForget deletes.forget
    | incomparable _ _ _ notForget => exact notForget deletes.forget
    | source _ notForget => exact notForget deletes.forget
    | negotiated _ _ _ judged => exact judged.notForget deletes.forget
  have ran := settle_forget registry deletes.passes deletes.forget state
  rw [deletes.cached, ← (settle_agrees registration kobj state).run_eq
    untroubled] at ran
  unfold process
  rw [Effect.run_bind_of_ok ran]
  dsimp only [Option.map_some]
  rw [Effect.run_bind_of_ok (applyToCache_delete bundle opened state)]
  dsimp only
  rw [publish_stored]

theorem process_of_neither (untroubled : ¬Trouble storage node state kobj)
    (notArrives : ∀ manifest bundle, ¬Arrives node state kobj manifest bundle)
    (notDeletes : ∀ bundle, ¬Deletes node state kobj bundle) :
    ∃ result settled, Stable node state settled ∧
      (KnowledgePipeline.settle node (registration.registry node).handlers
        kobj).run state = (result, settled) ∧
      (storage.process node (registration.stored storage node) kobj).run
        state = (result.map fun _ => (), settled) := by
  let registry := registration.registry node
  have agrees : (storage.settle node (registration.stored storage node)
      kobj).run state = _ :=
    (settle_agrees registration kobj state).run_eq untroubled
  have stable := settle_stable registry kobj state
  generalize ran : (KnowledgePipeline.settle node registry.handlers kobj).run
    state = ended at agrees stable
  obtain ⟨result, settled⟩ := ended
  refine ⟨result, settled, stable, rfl, ?_⟩
  unfold process
  rw [Effect.run_bind, agrees]
  rcases result with failure | _ | final
  · rfl
  · rfl
  · exact (settle_of_neither registry notArrives notDeletes ran).elim

/-- An object whose own manifest cannot be tested goes no further. -/
theorem process_of_untested {manifest : Manifest} {failure : Exc}
    (passes : PassesRid node kobj)
    (notForget : kobj.eventType ≠ some .forget)
    (hasManifest : kobj.manifest = some manifest)
    (raised : (BasicManifestHandler.handle storage kobj).run state =
      (.error failure, state)) :
    (storage.process node (registration.stored storage node) kobj).run state =
      (.error failure, state) := by
  let registry := registration.registry node
  have passed : Registry.ridResult node kobj = some kobj := by
    unfold Registry.ridResult
    rw [if_neg passes, if_neg notForget]
  have obtained : (storage.obtainManifest node kobj).run state =
      (.ok (some kobj), state) := by
    unfold obtainManifest
    rw [hasManifest]
    rfl
  have tested : (callHandlerChain .manifest
      (registration.stored storage node) kobj).run state =
        (.error failure, state) := by
    rw [stored_manifestChain]
    exact Effect.run_bind_of_error raised _
  unfold process settle
  rw [Registration.stored_chain (by decide) (by decide)]
  apply Effect.run_bind_of_error
  rw [Effect.run_bind_of_ok (registry.ridChain_run kobj state), passed]
  apply Effect.run_bind_of_error
  unfold obtainBundle
  rw [if_neg notForget, Effect.run_bind_of_ok obtained]
  exact Effect.run_bind_of_error tested _

end Process

end Storage

end KoiNet
