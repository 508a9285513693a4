import KoiNet.Foundation.Effect

/-!
# The config provider

The config is loaded from a YAML file and saved to it.  Saving opens the file
for writing, which truncates it, before anything is serialised, and rewrites
the text read by the last load if serialising raises.
-/

namespace KoiNet

open Foundation

/-- Text files, the YAML library and the config schema. -/
structure ConfigEnvironment (Config Data Bytes Raised : Type) where
  encode : String → Bytes
  decode : Bytes → Except Raised String
  /-- `self._schema.model_validate(yaml.load(text))`. -/
  validate : String → Except Raised Config
  /-- `self._schema()`. -/
  defaults : Except Raised Config
  isFileNotFound : Raised → Bool
  modelDump : Config → Except Raised Data
  /-- What `yaml.dump` writes to the stream, and what it raises if it does. -/
  yamlDump : Data → String × Option Raised

inductive ConfigFailure (Raised : Type) where
  | raised (exc : Raised)
  /-- `open` finds no file. -/
  | fileNotFound
  | attributeError (name : String)
  deriving DecidableEq, Repr

/-- The provider and its file; the attributes are unset at first. -/
structure ConfigProvider (Config Bytes : Type) where
  file : Option Bytes
  fileContent : Option String
  delegate : Option Config

namespace ConfigProvider

variable {Config Data Bytes Raised : Type}

/-- Before `__init__` loads the config. -/
def created (file : Option Bytes) : ConfigProvider Config Bytes :=
  { file := file
    fileContent := none
    delegate := none }

/-- The config file holds this text. -/
def withText (env : ConfigEnvironment Config Data Bytes Raised)
    (provider : ConfigProvider Config Bytes) (text : String) :
    ConfigProvider Config Bytes :=
  { provider with file := some (env.encode text) }

abbrev ConfigM (Config Bytes Raised α : Type) : Type :=
  Effect (ConfigFailure Raised) (ConfigProvider Config Bytes) α

/-- What a missing attribute of the provider raises: it is looked up on the
delegate. -/
def getAttribute {α : Type} (name : String)
    (value : ConfigProvider Config Bytes → Option α) :
    ConfigM Config Bytes Raised α := do
  match value (← Effect.get) with
  | some value => return value
  | none => Effect.raise (.attributeError name)

theorem getAttribute_some {α : Type} {name : String}
    {attr : ConfigProvider Config Bytes → Option α} {found : α}
    {provider : ConfigProvider Config Bytes}
    (isSet : attr provider = some found) :
    (getAttribute name attr : ConfigM Config Bytes Raised α).run provider =
      (.ok found, provider) := by
  unfold getAttribute
  rw [Effect.run_get_bind, isSet]
  rfl

theorem getAttribute_none {α : Type} {name : String}
    {attr : ConfigProvider Config Bytes → Option α}
    {provider : ConfigProvider Config Bytes} (unset : attr provider = none) :
    (getAttribute name attr : ConfigM Config Bytes Raised α).run provider =
      (.error (.attributeError name), provider) := by
  unfold getAttribute
  rw [Effect.run_get_bind, unset]
  rfl

variable (env : ConfigEnvironment Config Data Bytes Raised)

/-- A call outside the provider. -/
def external {α : Type} (result : Except Raised α) :
    ConfigM Config Bytes Raised α :=
  Effect.ofExcept (result.mapError .raised)

/-- `except FileNotFoundError`. -/
def isFileNotFound : ConfigFailure Raised → Bool
  | .raised exc => env.isFileNotFound exc
  | .fileNotFound => true
  | .attributeError _ => false

def readConfig : ConfigM Config Bytes Raised Config := do
  match (← Effect.get).file with
  | none => Effect.raise .fileNotFound
  | some bytes =>
      let text ← external (env.decode bytes)
      Effect.modify fun provider => { provider with fileContent := some text }
      external (env.validate text)

/-- `_load_from_yaml`. -/
def loadFromYaml : ConfigM Config Bytes Raised Unit := do
  let config ← Effect.tryExcept (readConfig env) (isFileNotFound env)
    (external env.defaults)
  Effect.modify fun provider => { provider with delegate := some config }

/-- Serialise the config to the opened file. -/
def dump : ConfigM Config Bytes Raised Unit := do
  let config ← getAttribute "_delegate" delegate
  let data ← external (env.modelDump config)
  Effect.modify fun provider => provider.withText env (env.yamlDump data).1
  match (env.yamlDump data).2 with
  | none => return ()
  | some exc => Effect.raise (.raised exc)

/-- Rewrite the original content, unless it is empty. -/
def rewrite : ConfigM Config Bytes Raised Unit := do
  let content ← getAttribute "_file_content" fileContent
  if content ≠ "" then
    Effect.modify fun provider => provider.withText env content
  else
    return ()

/-- `save_to_yaml`. -/
def saveToYaml : ConfigM Config Bytes Raised Unit := do
  -- `open(.., "w")`
  Effect.modify fun provider => provider.withText env ""
  Effect.onRaise (dump env) (rewrite env)

end ConfigProvider

end KoiNet
