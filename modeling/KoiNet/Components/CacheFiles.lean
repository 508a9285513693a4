import KoiNet.Foundation.Dict
import KoiNet.Foundation.Effect
import KoiNet.Protocol.Rid

/-!
# The files of the cache

Bundles are stored as JSON documents in a directory, each in a file named by
the base-64 encoding of its RID.  Opening a file for writing truncates it, and
a bundle is serialised after its file has been opened.
-/

namespace KoiNet

open Foundation

/-- RID strings, file names and JSON. -/
structure CacheEnvironment (Raised : Type) where
  /-- `str(rid)`. -/
  ridStr : RID → String
  fromString : String → Except Raised RID
  b64Encode : String → String
  b64Decode : String → Except Raised String
  modelDumpJson : Bundle → Except Raised String
  /-- Nothing where a `ValidationError` is raised. -/
  modelValidateJson : String → Option Bundle

/-- The cache directory, if it exists, with the text of each file. -/
structure CacheFiles where
  directory : Option (Dict String String)

namespace CacheFiles

variable {Raised : Type}

abbrev CacheM (Raised α : Type) : Type :=
  Effect Raised CacheFiles α

/-- The text of a file. -/
def text (files : CacheFiles) (path : String) : Option String :=
  files.directory.bind fun directory => directory.get? path

/-- `os.makedirs`, if the directory does not exist. -/
def makedirs (files : CacheFiles) : CacheFiles :=
  { directory := some (files.directory.getD Dict.empty) }

/-- The file holds this text; there is none in a missing directory. -/
def withText (path text : String) (files : CacheFiles) : CacheFiles :=
  { directory := files.directory.map fun directory => directory.set path text }

variable (env : CacheEnvironment Raised)

def filePathTo (rid : RID) : String :=
  env.b64Encode (env.ridStr rid) ++ ".json"

def write (bundle : Bundle) : CacheM Raised Bundle := do
  Effect.modify makedirs
  -- `open(.., "w")`
  Effect.modify (withText (filePathTo env bundle.manifest.rid) "")
  let text ← Effect.ofExcept (env.modelDumpJson bundle)
  Effect.modify (withText (filePathTo env bundle.manifest.rid) text)
  return bundle

def «exists» (files : CacheFiles) (rid : RID) : Bool :=
  (files.text (filePathTo env rid)).isSome

/-- What a file holds. -/
def parse (fileContent : String) : Option Bundle :=
  if fileContent = "" then none
  else env.modelValidateJson fileContent

def read (files : CacheFiles) (rid : RID) : Option Bundle :=
  match files.text (filePathTo env rid) with
  | some fileContent => parse env fileContent
  -- `except FileNotFoundError`
  | none => none

/-- The RID that a file is named by. -/
def namedRid (filename : String) : Except Raised RID := do
  let encodedRidStr := String.ofList (filename.toList.takeWhile (· ≠ '.'))
  let ridStr ← env.b64Decode encodedRidStr
  env.fromString ridStr

/-- `list_rids`, where `listdir` lists the directory; no types means all
types. -/
def listRids (files : CacheFiles) (listdir : List String → List String)
    (ridTypes : Option (List RIDType)) : Except Raised (List RID) :=
  match files.directory with
  | none => .ok []
  | some directory => do
      let rids ← (listdir directory.keys).mapM (namedRid env)
      return rids.filter fun rid =>
        (ridTypes.getD []).isEmpty || (ridTypes.getD []).contains rid.type

def delete (rid : RID) : CacheM Raised Unit :=
  Effect.modify fun files =>
    { directory := files.directory.map fun directory =>
        directory.erase (filePathTo env rid) }

/-- `shutil.rmtree`. -/
def drop : CacheM Raised Unit :=
  Effect.modify fun _ => { directory := none }

end CacheFiles

end KoiNet
