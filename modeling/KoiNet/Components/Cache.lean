import KoiNet.Foundation.Dict
import KoiNet.Protocol.Rid

/-!
# The bundle cache

One file per RID.  A file whose text is not a bundle is listed and exists but
does not read.  The file of a bundle is named by the bundle's own manifest.
`write` and `read` are those of files that keep what is written to them; what
becomes of a call of which the file system or the serialisation fails is in
`Storage`.
-/

namespace KoiNet

open Foundation

structure Cache where
  files : Dict RID (Option Bundle)

namespace Cache

def empty : Cache :=
  { files := Dict.empty }

/-- The file of an RID now holds this bundle, or nothing readable. -/
def withFile (cache : Cache) (rid : RID) (file : Option Bundle) : Cache :=
  { files := cache.files.set rid file }

def write (cache : Cache) (bundle : Bundle) : Cache :=
  cache.withFile bundle.manifest.rid (some bundle)

def «exists» (cache : Cache) (rid : RID) : Bool :=
  (cache.files.get? rid).isSome

def read (cache : Cache) (rid : RID) : Option Bundle :=
  (cache.files.get? rid).join

/-- The file of an RID, readable or not. -/
def entry (cache : Cache) (rid : RID) : Option (Option Bundle) :=
  cache.files.get? rid

def delete (cache : Cache) (rid : RID) : Cache :=
  { files := cache.files.erase rid }

/-- `list_rids` over a directory listing; no types means all types. -/
def listRids (cache : Cache) (listdir : List RID → List RID)
    (ridTypes : List RIDType) : List RID :=
  (listdir cache.files.keys).filter fun rid =>
    ridTypes.isEmpty || ridTypes.contains rid.type

@[simp] theorem read_empty (rid : RID) : empty.read rid = none :=
  rfl

theorem entry_withFile (cache : Cache) (rid other : RID)
    (file : Option Bundle) :
    (cache.withFile rid file).entry other =
      if other = rid then some file else cache.entry other :=
  Dict.get?_set _ _ _ _

theorem read_withFile (cache : Cache) (rid other : RID)
    (file : Option Bundle) :
    (cache.withFile rid file).read other =
      if other = rid then file else cache.read other := by
  unfold read withFile
  rw [Dict.get?_set]
  split <;> rfl

theorem withFile_withFile (cache : Cache) (rid : RID)
    (first second : Option Bundle) :
    (cache.withFile rid first).withFile rid second =
      cache.withFile rid second := by
  unfold withFile
  simp only [Dict.set_set]

theorem read_write (cache : Cache) (bundle : Bundle) (rid : RID) :
    (cache.write bundle).read rid =
      if rid = bundle.manifest.rid then some bundle else cache.read rid :=
  cache.read_withFile _ _ _

@[simp] theorem read_write_self (cache : Cache) (bundle : Bundle) :
    (cache.write bundle).read bundle.manifest.rid = some bundle := by
  simp [read_write]

theorem read_write_ne (cache : Cache) (bundle : Bundle) {rid : RID}
    (different : rid ≠ bundle.manifest.rid) :
    (cache.write bundle).read rid = cache.read rid := by
  simp [read_write, different]

theorem read_delete (cache : Cache) (rid other : RID) :
    (cache.delete rid).read other =
      if other = rid then none else cache.read other := by
  unfold read delete
  rw [Dict.get?_erase]
  split <;> rfl

@[simp] theorem read_delete_self (cache : Cache) (rid : RID) :
    (cache.delete rid).read rid = none := by
  simp [read_delete]

theorem read_delete_ne (cache : Cache) {rid other : RID}
    (different : other ≠ rid) :
    (cache.delete rid).read other = cache.read other := by
  simp [read_delete, different]

theorem read_of_write {cache : Cache} {written bundle : Bundle} {rid : RID}
    (cached : (cache.write written).read rid = some bundle) :
    rid = written.manifest.rid ∧ bundle = written ∨
      cache.read rid = some bundle := by
  rw [read_write] at cached
  split at cached
  · rename_i named
    cases cached
    exact .inl ⟨named, rfl⟩
  · exact .inr cached

theorem read_of_delete {cache : Cache} {rid other : RID} {bundle : Bundle}
    (cached : (cache.delete rid).read other = some bundle) :
    cache.read other = some bundle := by
  rw [read_delete] at cached
  split at cached
  · cases cached
  · exact cached

theorem read_write_ne_none {cache : Cache} {rid : RID}
    (cached : cache.read rid ≠ none) (written : Bundle) :
    (cache.write written).read rid ≠ none := by
  rw [read_write]
  split
  · simp
  · exact cached

theorem entry_write (cache : Cache) (bundle : Bundle) (rid : RID) :
    (cache.write bundle).entry rid =
      if rid = bundle.manifest.rid then some (some bundle)
      else cache.entry rid :=
  cache.entry_withFile _ _ _

theorem entry_delete (cache : Cache) (rid other : RID) :
    (cache.delete rid).entry other =
      if other = rid then none else cache.entry other :=
  Dict.get?_erase _ _ _

theorem read_eq_some_iff {cache : Cache} {rid : RID} {bundle : Bundle} :
    cache.read rid = some bundle ↔ cache.entry rid = some (some bundle) := by
  unfold read entry
  cases cache.files.get? rid with
  | none => simp
  | some file => simp

/-- Every file is named by the bundle in it. -/
def Filed (cache : Cache) : Prop :=
  ∀ rid bundle, cache.read rid = some bundle → bundle.manifest.rid = rid

theorem filed_empty : empty.Filed := by
  intro rid bundle cached
  cases cached

theorem Filed.write {cache : Cache} (filed : cache.Filed) (bundle : Bundle) :
    (cache.write bundle).Filed := by
  intro rid found cached
  rcases read_of_write cached with ⟨named, same⟩ | before
  · rw [same, named]
  · exact filed rid found before

theorem Filed.delete {cache : Cache} (filed : cache.Filed) (rid : RID) :
    (cache.delete rid).Filed :=
  fun other found cached => filed other found (read_of_delete cached)

theorem mem_listRids {cache : Cache} {listdir : List RID → List RID}
    (listing : ∀ rids, (listdir rids).Perm rids) {ridTypes : List RIDType}
    {rid : RID} :
    rid ∈ cache.listRids listdir ridTypes ↔
      rid ∈ cache.files.keys ∧ (ridTypes = [] ∨ rid.type ∈ ridTypes) := by
  simp [listRids, (listing _).mem_iff]

end Cache

end KoiNet
