import KoiNet.Components.Cache
import KoiNet.Components.CacheFiles
import KoiNet.Foundation.Base64
import Mathlib.Data.List.Induction

/-!
# The cache files as a map

The directory represents a cache that has an entry for each file.  Reading,
testing and listing agree with one map of bundles as long as the last call
about each RID has not been a failed write, which leaves an empty file.
-/

namespace KoiNet

open Foundation

namespace CacheFiles

variable {Raised : Type} (env : CacheEnvironment Raised)

/-- The name of the RID's file leads back to it. -/
structure NamesBack (rid : RID) : Prop where
  plain : '.' ∉ (env.b64Encode (env.ridStr rid)).toList
  decodes : env.b64Decode (env.b64Encode (env.ridStr rid)) =
    .ok (env.ridStr rid)
  parses : env.fromString (env.ridStr rid) = .ok rid

/-- The JSON of the bundle, if it has one, decodes to it. -/
def ReadsBack (bundle : Bundle) : Prop :=
  ∀ text, env.modelDumpJson bundle = .ok text →
    text ≠ "" ∧ env.modelValidateJson text = some bundle

inductive Call where
  | write (bundle : Bundle)
  | delete (rid : RID)
  | drop

namespace Call

def perform : Call → CacheM Raised Unit
  | .write bundle => CacheFiles.write env bundle >>= fun _ => pure ()
  | .delete rid => CacheFiles.delete env rid
  | .drop => CacheFiles.drop

def fails : Call → Bool
  | .write bundle => !(env.modelDumpJson bundle).isOk
  | .delete _ => false
  | .drop => false

/-- The call may change the file of the RID. -/
def about (rid : RID) : Call → Bool
  | .write bundle => bundle.manifest.rid = rid
  | .delete deleted => deleted = rid
  | .drop => true

def Proper : Call → Prop
  | .write bundle => NamesBack env bundle.manifest.rid ∧ ReadsBack env bundle
  | .delete rid => NamesBack env rid
  | .drop => True

/-- What a call does to the cache that the files represent. -/
def onCache (cache : Cache) (call : Call) : Cache :=
  match call with
  | .write bundle =>
      if call.fails env then
        { files := cache.files.set bundle.manifest.rid none }
      else
        cache.write bundle
  | .delete rid => cache.delete rid
  | .drop => Cache.empty

/-- What a call is to do: a failed one nothing. -/
def onMap (map : Dict RID Bundle) (call : Call) : Dict RID Bundle :=
  match call with
  | .write bundle =>
      if call.fails env then map
      else map.set bundle.manifest.rid bundle
  | .delete rid => map.erase rid
  | .drop => Dict.empty

end Call

/-- The files after the calls, whatever they raise. -/
def filesAfter (calls : List Call) : CacheFiles :=
  calls.foldl (fun files call => ((call.perform env).run files).2)
    { directory := none }

def mapAfter (calls : List Call) : Dict RID Bundle :=
  calls.foldl (Call.onMap env) Dict.empty

/-- The last of the calls that may change the file of the RID. -/
def lastAbout (rid : RID) (calls : List Call) : Option Call :=
  (calls.filter (Call.about rid)).getLast?

/-- Reading, testing and listing show this map. -/
structure Agrees (files : CacheFiles) (map : Dict RID Bundle) : Prop where
  reads : ∀ rid, NamesBack env rid → read env files rid = map.get? rid
  tests : ∀ rid, NamesBack env rid →
    («exists» env files rid = true ↔ rid ∈ map.keys)
  lists : ∀ (listdir : List String → List String),
    (∀ names, (listdir names).Perm names) →
    ∀ ridTypes : Option (List RIDType), ∃ rids,
      listRids env files listdir ridTypes = .ok rids ∧ rids.Nodup ∧
      ∀ rid, rid ∈ rids ↔ rid ∈ map.keys ∧
        (ridTypes.getD [] = [] ∨ rid.type ∈ ridTypes.getD [])

/-- Each entry of the cache has its file, and there are no other files. -/
structure Represents (files : CacheFiles) (cache : Cache) : Prop where
  entry : ∀ rid, NamesBack env rid →
    (files.text (filePathTo env rid)).map (parse env) = cache.entry rid
  named : ∀ directory, files.directory = some directory →
    ∀ path ∈ directory.keys,
      ∃ rid, NamesBack env rid ∧ path = filePathTo env rid
  proper : ∀ rid, cache.entry rid ≠ none → NamesBack env rid

variable {env} {files : CacheFiles} {cache : Cache} {rid : RID}

theorem NamesBack.namedRid (back : NamesBack env rid) :
    namedRid env (filePathTo env rid) = .ok rid := by
  have before : (filePathTo env rid).toList.takeWhile (· ≠ '.') =
      (env.b64Encode (env.ridStr rid)).toList := by
    have kept : ∀ char ∈ (env.b64Encode (env.ridStr rid)).toList,
        decide (char ≠ '.') = true := by
      intro char member
      have different : char ≠ '.' := fun same => back.plain (same ▸ member)
      simpa using different
    unfold filePathTo
    rw [String.toList_append, List.takeWhile_append_of_pos kept]
    exact List.append_nil _
  unfold CacheFiles.namedRid
  rw [before, String.ofList_toList]
  dsimp only
  rw [back.decodes]
  exact back.parses

theorem NamesBack.apart {other : RID} (back : NamesBack env rid)
    (otherBack : NamesBack env other) :
    filePathTo env rid = filePathTo env other ↔ rid = other := by
  constructor
  · intro same
    have named := back.namedRid
    rw [same, otherBack.namedRid] at named
    cases named
    rfl
  · intro same
    rw [same]

/-- A listing of such names leads back to what they name. -/
theorem mapM_namedRid {names : List String}
    (named : ∀ name ∈ names,
      ∃ rid, NamesBack env rid ∧ name = filePathTo env rid) :
    ∃ rids, names.mapM (CacheFiles.namedRid env) = .ok rids ∧
      (∀ rid ∈ rids, NamesBack env rid) ∧
      names = rids.map (filePathTo env) := by
  induction names with
  | nil =>
      exact ⟨[], rfl, fun _ member => absurd member List.not_mem_nil, rfl⟩
  | cons name names induction =>
      obtain ⟨rids, listed, back, same⟩ := induction fun other member =>
        named other (List.mem_cons_of_mem name member)
      obtain ⟨rid, ridBack, nameOf⟩ := named name List.mem_cons_self
      refine ⟨rid :: rids, ?_, ?_, ?_⟩
      · rw [List.mapM_cons, listed, nameOf, ridBack.namedRid]
        rfl
      · exact List.forall_mem_cons.mpr ⟨ridBack, back⟩
      · rw [nameOf, same]
        rfl

theorem text_makedirs (files : CacheFiles) (path : String) :
    files.makedirs.text path = files.text path := by
  unfold text makedirs
  cases files.directory with
  | none => rfl
  | some directory => rfl

theorem write_run (bundle : Bundle) (files : CacheFiles) :
    (write env bundle).run files =
      let opened := files.makedirs.withText
        (filePathTo env bundle.manifest.rid) ""
      match env.modelDumpJson bundle with
      | .ok text =>
          (.ok bundle,
            opened.withText (filePathTo env bundle.manifest.rid) text)
      | .error exc => (.error exc, opened) := by
  unfold write
  rw [Effect.run_modify_bind, Effect.run_modify_bind, Effect.run_bind]
  cases env.modelDumpJson bundle with
  | ok text => rfl
  | error exc => rfl

namespace Represents

theorem congr {other : Cache} (represents : Represents env files cache)
    (same : ∀ rid, cache.entry rid = other.entry rid) :
    Represents env files other := by
  refine ⟨?_, represents.named, ?_⟩
  · intro rid back
    rw [represents.entry rid back, same]
  · intro rid present
    apply represents.proper
    rw [same]
    exact present

theorem absent : Represents env { directory := none } Cache.empty := by
  refine ⟨fun _ _ => rfl, ?_, ?_⟩
  · intro directory present
    cases present
  · intro rid present
    exact absurd rfl present

theorem makedirs (represents : Represents env files cache) :
    Represents env files.makedirs cache := by
  refine ⟨?_, ?_, represents.proper⟩
  · intro rid back
    rw [text_makedirs, represents.entry rid back]
  · intro directory present path member
    cases before : files.directory with
    | none =>
        unfold CacheFiles.makedirs at present
        rw [before] at present
        cases present
        exact absurd member List.not_mem_nil
    | some existing =>
        unfold CacheFiles.makedirs at present
        rw [before] at present
        cases present
        exact represents.named existing before path member

/-- A change of one file changes the entry that it stands for. -/
theorem entry_of_file (represents : Represents env files cache)
    (back : NamesBack env rid) {after : CacheFiles} {text : Option String}
    (holds : ∀ path, after.text path =
      if path = filePathTo env rid then text else files.text path)
    {other : RID} (otherBack : NamesBack env other) :
    (after.text (filePathTo env other)).map (parse env) =
      if other = rid then text.map (parse env) else cache.entry other := by
  rw [holds]
  by_cases same : other = rid
  · rw [if_pos same, if_pos ((otherBack.apart back).mpr same)]
  · rw [if_neg same, if_neg (mt (otherBack.apart back).mp same)]
    exact represents.entry other otherBack

theorem withText {directory : Dict String String} {text : String}
    (represents : Represents env files cache)
    (present : files.directory = some directory) (back : NamesBack env rid) :
    Represents env (files.withText (filePathTo env rid) text)
      { files := cache.files.set rid (parse env text) } := by
  have holds (path : String) :
      (files.withText (filePathTo env rid) text).text path =
        if path = filePathTo env rid then some text else files.text path := by
    unfold CacheFiles.text CacheFiles.withText
    rw [present]
    exact Dict.get?_set directory _ _ _
  refine ⟨?_, ?_, ?_⟩
  · intro other otherBack
    rw [represents.entry_of_file back holds otherBack]
    exact (Dict.get?_set _ _ _ _).symm
  · intro written isWritten path member
    unfold CacheFiles.withText at isWritten
    rw [present] at isWritten
    cases isWritten
    rw [Dict.keys_set] at member
    split at member
    · exact represents.named directory present path member
    · rcases List.mem_append.mp member with before | added
      · exact represents.named directory present path before
      · exact ⟨rid, back, List.mem_singleton.mp added⟩
  · intro other stored
    unfold Cache.entry at stored
    rw [Dict.get?_set] at stored
    split at stored
    · rename_i same
      rw [same]
      exact back
    · exact represents.proper other stored

theorem delete (represents : Represents env files cache)
    (back : NamesBack env rid) :
    Represents env ((CacheFiles.delete env rid).run files).2
      (cache.delete rid) := by
  have holds (path : String) :
      ((CacheFiles.delete env rid).run files).2.text path =
        if path = filePathTo env rid then none else files.text path := by
    unfold CacheFiles.delete CacheFiles.text
    rw [Effect.run_modify]
    dsimp only
    cases files.directory with
    | none =>
        rw [Option.map_none, Option.bind_none, ite_self]
    | some directory => exact Dict.get?_erase directory _ _
  refine ⟨?_, ?_, ?_⟩
  · intro other otherBack
    rw [represents.entry_of_file back holds otherBack, Cache.entry_delete]
    rfl
  · intro remaining isRemaining path member
    unfold CacheFiles.delete at isRemaining
    rw [Effect.run_modify] at isRemaining
    obtain ⟨directory, present, rfl⟩ := Option.map_eq_some_iff.mp isRemaining
    rw [Dict.keys_erase] at member
    exact represents.named directory present path (List.mem_filter.mp member).1
  · intro other stored
    apply represents.proper
    intro missing
    rw [Cache.entry_delete, missing, ite_self] at stored
    exact stored rfl

/-- A failed write leaves an unreadable entry. -/
theorem write {bundle : Bundle} (represents : Represents env files cache)
    (back : NamesBack env bundle.manifest.rid) (reads : ReadsBack env bundle) :
    Represents env ((CacheFiles.write env bundle).run files).2
      ((Call.write bundle).onCache env cache) := by
  have opened : Represents env
      (files.makedirs.withText (filePathTo env bundle.manifest.rid) "") _ :=
    represents.makedirs.withText rfl back
  rw [write_run]
  cases dumped : env.modelDumpJson bundle with
  | error exc =>
      have fails : (Call.write bundle).fails env = true := by
        unfold Call.fails
        dsimp only
        rw [dumped]
        rfl
      unfold Call.onCache
      dsimp only
      rw [if_pos fails]
      exact opened
  | ok text =>
      have returns : ¬(Call.write bundle).fails env = true := by
        unfold Call.fails
        dsimp only
        rw [dumped]
        exact Bool.false_ne_true
      obtain ⟨nonempty, valid⟩ := reads text dumped
      have parsed : parse env text = some bundle := by
        unfold parse
        rw [if_neg nonempty, valid]
      have written : Represents env (CacheFiles.withText
          (filePathTo env bundle.manifest.rid) text _) _ :=
        opened.withText rfl back
      rw [parsed] at written
      unfold Call.onCache
      dsimp only
      rw [if_neg returns]
      apply written.congr
      intro rid
      unfold Cache.entry Cache.write Cache.withFile
      rw [Dict.get?_set, Dict.get?_set, Dict.get?_set]
      split
      · rfl
      · rfl

theorem perform {call : Call} (represents : Represents env files cache)
    (proper : call.Proper env) :
    Represents env ((call.perform env).run files).2 (call.onCache env cache) := by
  cases call with
  | write bundle =>
      have written := represents.write proper.1 proper.2
      unfold Call.perform
      rw [Effect.run_bind]
      generalize (CacheFiles.write env bundle).run files = ended at written
      obtain ⟨result, after⟩ := ended
      cases result with
      | ok returned => exact written
      | error exc => exact written
  | delete rid => exact represents.delete proper
  | drop => exact absent

theorem run {calls : List Call} (represents : Represents env files cache)
    (proper : ∀ call ∈ calls, call.Proper env) :
    Represents env
      (calls.foldl (fun files call => ((call.perform env).run files).2) files)
      (calls.foldl (Call.onCache env) cache) := by
  induction calls generalizing files cache with
  | nil => exact represents
  | cons call calls induction =>
      have first := represents.perform (proper call List.mem_cons_self)
      exact induction first fun other member =>
        proper other (List.mem_cons_of_mem call member)

theorem reads (represents : Represents env files cache)
    (back : NamesBack env rid) :
    CacheFiles.read env files rid = cache.read rid := by
  have entry := represents.entry rid back
  unfold CacheFiles.read Cache.read
  unfold Cache.entry at entry
  rw [← entry]
  cases files.text (filePathTo env rid) with
  | none => rfl
  | some text => rfl

theorem tests (represents : Represents env files cache)
    (back : NamesBack env rid) :
    CacheFiles.exists env files rid = cache.exists rid := by
  have entry := represents.entry rid back
  unfold CacheFiles.exists Cache.exists
  unfold Cache.entry at entry
  rw [← entry, Option.isSome_map]

theorem stored_iff (represents : Represents env files cache) :
    rid ∈ cache.files.keys ↔ NamesBack env rid ∧
      ∃ text, files.text (filePathTo env rid) = some text := by
  rw [Dict.mem_keys_iff]
  constructor
  · intro stored
    obtain ⟨file, present⟩ := stored
    have back : NamesBack env rid := by
      apply represents.proper
      unfold Cache.entry
      rw [present]
      exact Option.some_ne_none file
    have entry := represents.entry rid back
    unfold Cache.entry at entry
    rw [present] at entry
    obtain ⟨text, found, _⟩ := Option.map_eq_some_iff.mp entry
    exact ⟨back, text, found⟩
  · intro filed
    obtain ⟨back, text, found⟩ := filed
    have entry := represents.entry rid back
    rw [found] at entry
    exact ⟨_, entry.symm⟩

theorem keys_of_absent (represents : Represents env files cache)
    (absent : files.directory = none) : cache.files.keys = [] := by
  rw [List.eq_nil_iff_forall_not_mem]
  intro rid member
  obtain ⟨_, text, found⟩ := represents.stored_iff.mp member
  unfold CacheFiles.text at found
  rw [absent] at found
  cases found

theorem mem_named_iff (represents : Represents env files cache)
    {directory : Dict String String}
    (present : files.directory = some directory) {rids : List RID}
    (back : ∀ rid ∈ rids, NamesBack env rid)
    (named : (rids.map (filePathTo env)).Perm directory.keys) :
    rid ∈ rids ↔ rid ∈ cache.files.keys := by
  have holds : (∃ text, files.text (filePathTo env rid) = some text) ↔
      filePathTo env rid ∈ rids.map (filePathTo env) := by
    unfold CacheFiles.text
    rw [present, named.mem_iff, Dict.mem_keys_iff]
    exact Iff.rfl
  rw [represents.stored_iff, holds]
  constructor
  · intro member
    exact ⟨back rid member, List.mem_map_of_mem member⟩
  · intro filed
    obtain ⟨ridBack, path⟩ := filed
    obtain ⟨other, member, sameName⟩ := List.mem_map.mp path
    rw [← ((back other member).apart ridBack).mp sameName]
    exact member

theorem lists (represents : Represents env files cache)
    {listdir : List String → List String}
    (listing : ∀ names, (listdir names).Perm names)
    (ridTypes : Option (List RIDType)) :
    ∃ rids, CacheFiles.listRids env files listdir ridTypes = .ok rids ∧
      rids.Perm (cache.listRids id (ridTypes.getD [])) := by
  unfold CacheFiles.listRids
  cases present : files.directory with
  | none =>
      refine ⟨[], rfl, ?_⟩
      unfold Cache.listRids
      rw [id, represents.keys_of_absent present]
      exact List.Perm.nil
  | some directory =>
      have permutation := listing directory.keys
      have named : ∀ name ∈ listdir directory.keys,
          ∃ rid, NamesBack env rid ∧ name = filePathTo env rid :=
        fun name member => represents.named directory present name
          (permutation.mem_iff.mp member)
      obtain ⟨rids, listed, back, same⟩ := mapM_namedRid named
      rw [same] at permutation
      dsimp only
      rw [listed]
      refine ⟨_, rfl, ?_⟩
      have nodup : rids.Nodup := by
        apply List.Nodup.of_map (filePathTo env)
        exact permutation.nodup_iff.mpr directory.nodup
      have members (rid : RID) : rid ∈ rids ↔ rid ∈ cache.files.keys :=
        represents.mem_named_iff present back permutation
      unfold Cache.listRids
      exact ((List.perm_ext_iff_of_nodup nodup cache.files.nodup).mpr
        members).filter _

end Represents

/-- The cache after the calls. -/
def cacheAfter (env : CacheEnvironment Raised) (calls : List Call) : Cache :=
  calls.foldl (Call.onCache env) Cache.empty

theorem lastAbout_append (calls : List Call) (call : Call) :
    lastAbout rid (calls ++ [call]) =
      if call.about rid then some call else lastAbout rid calls := by
  unfold lastAbout
  rw [List.filter_append]
  split
  · rename_i isAbout
    rw [List.filter_singleton, isAbout]
    exact List.getLast?_concat
  · rename_i notAbout
    rw [List.filter_singleton, Bool.eq_false_iff.mpr notAbout]
    exact congrArg List.getLast? (List.append_nil _)

theorem Call.entry_onCache_of_about {call : Call}
    (isAbout : call.about rid = true) (cache : Cache) (map : Dict RID Bundle) :
    (call.onCache env cache).entry rid =
      if call.fails env then some none
      else ((call.onMap env map).get? rid).map some := by
  cases call with
  | write bundle =>
      have same : bundle.manifest.rid = rid := of_decide_eq_true isAbout
      unfold Call.onCache Call.onMap Cache.entry
      dsimp only
      split
      · rw [same]
        exact Dict.get?_set_self _ _ _
      · unfold Cache.write Cache.withFile
        rw [same, Dict.get?_set_self, Dict.get?_set_self]
        rfl
  | delete deleted =>
      have same : deleted = rid := of_decide_eq_true isAbout
      unfold Call.onCache Call.onMap Call.fails
      dsimp only
      rw [same, Cache.entry_delete, if_pos rfl, Dict.get?_erase_self]
      rfl
  | drop => rfl

theorem Call.entry_onCache_of_not_about {call : Call}
    (notAbout : ¬call.about rid = true) (cache : Cache) :
    (call.onCache env cache).entry rid = cache.entry rid := by
  cases call with
  | write bundle =>
      have apart : rid ≠ bundle.manifest.rid := fun same =>
        notAbout (decide_eq_true same.symm)
      unfold Call.onCache
      dsimp only
      split
      · exact Dict.get?_set_ne _ _ apart
      · rw [Cache.entry_write, if_neg apart]
  | delete deleted =>
      have apart : rid ≠ deleted := fun same =>
        notAbout (decide_eq_true same.symm)
      exact Dict.get?_erase_ne _ apart
  | drop => exact absurd rfl notAbout

theorem Call.get?_onMap_of_not_about {call : Call}
    (notAbout : ¬call.about rid = true) (map : Dict RID Bundle) :
    (call.onMap env map).get? rid = map.get? rid := by
  cases call with
  | write bundle =>
      have apart : rid ≠ bundle.manifest.rid := fun same =>
        notAbout (decide_eq_true same.symm)
      unfold Call.onMap
      dsimp only
      split
      · rfl
      · exact Dict.get?_set_ne _ _ apart
  | delete deleted =>
      have apart : rid ≠ deleted := fun same =>
        notAbout (decide_eq_true same.symm)
      exact Dict.get?_erase_ne _ apart
  | drop => exact absurd rfl notAbout

/-- An entry is that of the map, unless its last write has failed. -/
theorem entry_cacheAfter (calls : List Call) (rid : RID) :
    (cacheAfter env calls).entry rid =
      if (lastAbout rid calls).any (Call.fails env) then some none
      else ((mapAfter env calls).get? rid).map some := by
  induction calls using List.reverseRecOn with
  | nil => rfl
  | append_singleton calls call induction =>
      have cacheStep : cacheAfter env (calls ++ [call]) =
          call.onCache env (cacheAfter env calls) := by
        unfold cacheAfter
        rw [List.foldl_append]
        rfl
      have mapStep : mapAfter env (calls ++ [call]) =
          call.onMap env (mapAfter env calls) := by
        unfold mapAfter
        rw [List.foldl_append]
        rfl
      rw [cacheStep, mapStep, lastAbout_append]
      by_cases isAbout : call.about rid = true
      · rw [if_pos isAbout]
        exact Call.entry_onCache_of_about isAbout _ _
      · rw [if_neg isAbout, Call.entry_onCache_of_not_about isAbout,
          Call.get?_onMap_of_not_about isAbout]
        exact induction

section Agreement

variable {map : Dict RID Bundle}

/-- The stored RIDs are those of the map if the entries are. -/
theorem Represents.mem_keys_iff (represents : Represents env files cache)
    (proper : ∀ rid, map.get? rid ≠ none → NamesBack env rid)
    (same : ∀ rid, NamesBack env rid →
      cache.entry rid = (map.get? rid).map some) :
    rid ∈ cache.files.keys ↔ rid ∈ map.keys := by
  rw [Dict.mem_keys_iff, Dict.mem_keys_iff, ← Option.ne_none_iff_exists',
    ← Option.ne_none_iff_exists']
  constructor
  · intro stored
    have entry := same rid (represents.proper rid stored)
    intro missing
    rw [missing] at entry
    exact stored entry
  · intro stored
    have entry := same rid (proper rid stored)
    intro missing
    unfold Cache.entry at entry
    rw [missing] at entry
    exact stored (Option.map_eq_none_iff.mp entry.symm)

theorem Represents.agrees (represents : Represents env files cache)
    (proper : ∀ rid, map.get? rid ≠ none → NamesBack env rid)
    (same : ∀ rid, NamesBack env rid →
      cache.entry rid = (map.get? rid).map some) :
    Agrees env files map := by
  refine ⟨?_, ?_, ?_⟩
  · intro rid back
    have entry := same rid back
    unfold Cache.entry at entry
    rw [represents.reads back]
    unfold Cache.read
    rw [entry]
    cases map.get? rid with
    | none => rfl
    | some bundle => rfl
  · intro rid back
    rw [represents.tests back, ← represents.mem_keys_iff proper same,
      Dict.mem_keys_iff]
    exact Option.isSome_iff_exists
  · intro listdir listing ridTypes
    have inOrder : ∀ rids : List RID, (id rids).Perm rids := List.Perm.refl
    obtain ⟨rids, listed, permutation⟩ := represents.lists listing ridTypes
    have nodup : (cache.listRids id (ridTypes.getD [])).Nodup :=
      cache.files.nodup.filter _
    refine ⟨rids, listed, permutation.nodup_iff.mpr nodup, ?_⟩
    intro rid
    rw [permutation.mem_iff, Cache.mem_listRids inOrder,
      represents.mem_keys_iff proper same]

theorem Agrees.entry (agrees : Agrees env files map)
    (represents : Represents env files cache) (back : NamesBack env rid) :
    cache.entry rid = (map.get? rid).map some := by
  have reads := agrees.reads rid back
  have tests := agrees.tests rid back
  rw [represents.reads back] at reads
  rw [represents.tests back, Dict.mem_keys_iff] at tests
  unfold Cache.read at reads
  unfold Cache.exists at tests
  unfold Cache.entry
  cases stored : cache.files.get? rid with
  | none =>
      rw [stored] at reads
      rw [← reads]
      rfl
  | some file =>
      rw [stored] at reads tests
      obtain ⟨bundle, found⟩ := tests.mp rfl
      rw [found] at reads ⊢
      exact congrArg some reads

end Agreement

theorem lastAbout_fails {calls : List Call} {call : Call}
    (last : lastAbout rid calls = some call) (fails : call.fails env = true) :
    ∃ bundle, .write bundle ∈ calls ∧ bundle.manifest.rid = rid := by
  have member := List.mem_of_getLast? last
  rw [List.mem_filter] at member
  cases call with
  | write bundle => exact ⟨bundle, member.1, of_decide_eq_true member.2⟩
  | delete rid => cases fails
  | drop => cases fails

/-- The files agree with the map exactly if for no RID the last call about it
is a failed write. -/
theorem agrees_iff_lastAbout {calls : List Call}
    (proper : ∀ call ∈ calls, call.Proper env) :
    Agrees env (filesAfter env calls) (mapAfter env calls) ↔
      ∀ rid call, lastAbout rid calls = some call →
        call.fails env = false := by
  have represents : Represents env (filesAfter env calls)
      (cacheAfter env calls) := Represents.absent.run proper
  constructor
  · intro agrees rid call last
    rw [← Bool.not_eq_true]
    intro fails
    obtain ⟨bundle, member, rfl⟩ := lastAbout_fails last fails
    have entry := agrees.entry represents (proper _ member).1
    rw [entry_cacheAfter, last, Option.any_some, if_pos fails] at entry
    cases found : (mapAfter env calls).get? bundle.manifest.rid with
    | none =>
        rw [found] at entry
        cases entry
    | some stored =>
        rw [found] at entry
        cases entry
  · intro returns
    have same (rid : RID) : (cacheAfter env calls).entry rid =
        ((mapAfter env calls).get? rid).map some := by
      rw [entry_cacheAfter]
      apply if_neg
      rw [Option.any_eq_true]
      intro failed
      obtain ⟨call, last, fails⟩ := failed
      rw [returns rid call last] at fails
      cases fails
    apply represents.agrees
    · intro rid stored
      apply represents.proper
      rw [same]
      exact mt Option.map_eq_none_iff.mp stored
    · exact fun rid _ => same rid

def document : RID :=
  .other "orn:document" "ab"

def documentJson : String :=
  "\x7b\n" ++
  "  \"manifest\": \x7b\n" ++
  "    \"rid\": \"orn:document:ab\",\n" ++
  "    \"timestamp\": \"1970-01-01T00:00:00Z\",\n" ++
  "    \"sha256_hash\": \"hash\"\n" ++
  "  \x7d,\n" ++
  "  \"contents\": \x7b\x7d\n" ++
  "\x7d"

/-- The document with these contents. -/
def documentBundle (contents : Contents) : Bundle :=
  { manifest :=
      { rid := document
        timestamp := 0
        sha256Hash := "hash" }
    contents := contents }

def nested : Nat → Value
  | 0 => .null
  | depth + 1 => .list [nested depth]

/-- The document with too many levels of lists for the JSON serialiser. -/
def nestedBundle : Bundle :=
  documentBundle [("tree", nested 300)]

/-- The names and the JSON of the document, where it has contents only if they
cannot be serialised. -/
def documentEnvironment : CacheEnvironment Unit :=
  { ridStr := fun rid =>
      match rid with
      | .node rid => rid.toString
      | .edge rid => "orn:koi-net.edge:" ++ rid.id
      | .other context reference => context ++ ":" ++ reference
    fromString := fun text =>
      if text = "orn:document:ab" then .ok document else .error ()
    b64Encode := fun text =>
      Base64.encode (text.toList.map fun char => UInt8.ofNat char.toNat)
    b64Decode := fun text =>
      match Base64.decode text with
      | some bytes =>
          .ok (String.ofList (bytes.map fun byte => Char.ofNat byte.toNat))
      | none => .error ()
    modelDumpJson := fun bundle =>
      if bundle.contents.isEmpty then .ok documentJson else .error ()
    modelValidateJson := fun text =>
      if text = documentJson then some (documentBundle []) else none }

theorem document_namesBack : NamesBack documentEnvironment document :=
  { plain := by decide
    decodes := by rfl
    parses := by decide }

theorem documentBundle_proper :
    (Call.write (documentBundle [])).Proper documentEnvironment := by
  refine ⟨document_namesBack, ?_⟩
  intro text dumped
  cases dumped
  exact ⟨by simp [documentJson], rfl⟩

theorem nestedBundle_proper :
    (Call.write nestedBundle).Proper documentEnvironment := by
  refine ⟨document_namesBack, ?_⟩
  intro text dumped
  cases dumped

/-- A failed write, and then one that succeeds. -/
def retried : List Call :=
  [.write nestedBundle, .write (documentBundle [])]

theorem agrees_iff_lastAbout_retried :
    Agrees documentEnvironment (filesAfter documentEnvironment retried)
      (mapAfter documentEnvironment retried) := by
  have proper : ∀ call ∈ retried, call.Proper documentEnvironment := by
    unfold retried
    rw [List.forall_mem_cons, List.forall_mem_singleton]
    exact ⟨nestedBundle_proper, documentBundle_proper⟩
  rw [agrees_iff_lastAbout proper]
  intro rid call last
  by_cases same : document = rid
  · subst same
    cases last
    rfl
  · have untouched : lastAbout rid retried = none := by
      unfold lastAbout
      rw [List.filter_eq_nil_iff.mpr]
      · rfl
      · simpa [retried, Call.about, nestedBundle, documentBundle] using same
    rw [untouched] at last
    cases last

/-- A write, and then one that fails. -/
def overwritten : List Call :=
  [.write (documentBundle []), .write nestedBundle]

/-- A failed write loses the bundle that was written before. -/
theorem failed_write_loses_bundle :
    (∀ call ∈ overwritten, call.Proper documentEnvironment) ∧
      ¬Agrees documentEnvironment (filesAfter documentEnvironment overwritten)
        (mapAfter documentEnvironment overwritten) := by
  have proper : ∀ call ∈ overwritten, call.Proper documentEnvironment := by
    unfold overwritten
    rw [List.forall_mem_cons, List.forall_mem_singleton]
    exact ⟨documentBundle_proper, nestedBundle_proper⟩
  refine ⟨proper, ?_⟩
  intro agrees
  have entry := agrees.entry (Represents.absent.run proper) document_namesBack
  cases entry

end CacheFiles

end KoiNet
