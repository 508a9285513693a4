import KoiNet.Components.Startup

/-!
# What initialising and starting return with

A config is read from the file as it was written to it.  Initialising takes the
private key from the PEM file, or writes both files for a new key; starting
saves the config with a port that is free.
-/

namespace KoiNet

open Foundation

section Files

variable {Data Bytes Raised : Type}
  (env : StartupEnvironment Data Bytes Raised)

/-- The config file holds this config. -/
def Reads (file : Option Bytes) (config : FullNodeConfig) : Prop :=
  ∃ bytes text, file = some bytes ∧ env.schema.decode bytes = .ok text ∧
    env.schema.validate text = .ok config

/-- The config is loaded from this file, or by default. -/
def Loads (file : Option Bytes) (config : FullNodeConfig) : Prop :=
  Reads env file config ∨
    (∀ other, ¬Reads env file other) ∧ env.schema.defaults = .ok config

/-- The config is written to the file. -/
def Writes (config : FullNodeConfig) (file : Option Bytes) : Prop :=
  ∃ data text, env.schema.modelDump config = .ok data ∧
    env.schema.yamlDump data = (text, none) ∧
    file = some (env.schema.encode text)

/-- What is written of the config is read as it was. -/
def ReadsBack (config : FullNodeConfig) : Prop :=
  ∀ file, Writes env config file → Reads env file config

variable {env}

theorem Reads.unique {file : Option Bytes} {first second : FullNodeConfig}
    (read : Reads env file first) (other : Reads env file second) :
    first = second := by
  obtain ⟨bytes, text, rfl, decoded, validated⟩ := read
  obtain ⟨_, _, same, otherDecoded, otherValidated⟩ := other
  cases same
  rw [decoded] at otherDecoded
  cases otherDecoded
  rw [validated] at otherValidated
  cases otherValidated
  rfl

open ConfigProvider

section Provider

variable {provider after : ConfigProvider FullNodeConfig Bytes}
  {schema : ConfigEnvironment FullNodeConfig Data Bytes Raised}

theorem external_run {α : Type} {result : Except Raised α} {value : α}
    (computed : result = .ok value) :
    (external result : ConfigM FullNodeConfig Bytes Raised α).run provider =
      (.ok value, provider) := by
  rw [computed]
  rfl

theorem ConfigProvider.loadFromYaml_run {bytes : Bytes} {text : String}
    {config : FullNodeConfig} (stored : provider.file = some bytes)
    (decoded : schema.decode bytes = .ok text)
    (validated : schema.validate text = .ok config) :
    (loadFromYaml schema).run provider =
      (.ok (), { provider with
        fileContent := some text
        delegate := some config }) := by
  have read : (readConfig schema).run provider =
      (.ok config, { provider with fileContent := some text }) := by
    unfold readConfig
    rw [Effect.run_get_bind, stored]
    dsimp only
    rw [Effect.run_bind_of_ok (external_run decoded), Effect.run_modify_bind,
      external_run validated, stored]
  unfold loadFromYaml Effect.tryExcept
  rw [Effect.run_bind]
  dsimp only
  rw [read]
  rfl

theorem saveToYaml_run {config : FullNodeConfig} {data : Data} {text : String}
    (delegated : provider.delegate = some config)
    (dumped : schema.modelDump config = .ok data)
    (written : schema.yamlDump data = (text, none)) :
    (saveToYaml schema).run provider =
      (.ok (), provider.withText schema text) := by
  have found : (getAttribute "_delegate" delegate :
      ConfigM FullNodeConfig Bytes Raised FullNodeConfig).run
        (provider.withText schema "") =
      (.ok config, provider.withText schema "") :=
    getAttribute_some delegated
  have dumps : (dump schema).run (provider.withText schema "") =
      (.ok (), provider.withText schema text) := by
    unfold dump
    rw [Effect.run_bind_of_ok found,
      Effect.run_bind_of_ok (external_run dumped),
      Effect.run_modify_bind, written]
    rfl
  unfold saveToYaml Effect.onRaise
  rw [Effect.run_modify_bind]
  dsimp only
  rw [dumps]

end Provider

variable {state after : Installation env.keys.PrivateKey Bytes}

theorem getConfig_run {config : FullNodeConfig}
    (delegated : state.provider.delegate = some config) :
    (getConfig env).run state = (.ok config, state) := by
  have found : (getAttribute "_delegate" delegate :
      ConfigM FullNodeConfig Bytes Raised FullNodeConfig).run state.provider =
      (.ok config, state.provider) :=
    getAttribute_some delegated
  exact Installation.providerPart.run_within_eq found

theorem saveConfig_run {config : FullNodeConfig} {data : Data} {text : String}
    (delegated : state.provider.delegate = some config)
    (dumped : env.schema.modelDump config = .ok data)
    (written : env.schema.yamlDump data = (text, none)) :
    (saveConfig env).run state =
      (.ok (), { state with
        provider := state.provider.withText env.schema text }) := by
  exact Installation.providerPart.run_within_eq
    (saveToYaml_run delegated dumped written)

theorem loadPrivKey_of_pem (generated : env.keys.PrivateKey) {text : String}
    (stored : state.pem = some text) :
    (SecureManager.loadPrivKey env generated).run state =
      (SecureManager.readPrivKey env text).run state := by
  unfold SecureManager.loadPrivKey
  rw [Effect.run_get_bind, stored]

namespace PortManager

theorem moved_server (config : FullNodeConfig) (port : Nat) :
    (moved config port).server = { config.server with port := port } := by
  unfold moved
  dsimp only
  split <;> rfl

theorem acquirePort_run {inUse : String → Nat → Bool} {config : FullNodeConfig}
    {port : Nat} {data : Data} {text : String}
    (delegated : state.provider.delegate = some config)
    (free : freePort (inUse config.server.host) (65536 - config.server.port)
      config.server.port = some port)
    (dumped : env.schema.modelDump (moved config port) = .ok data)
    (written : env.schema.yamlDump data = (text, none)) :
    (acquirePort env inUse).run state =
      (.ok (), { state with
        provider := { state.provider with
          delegate := some (moved config port) }.withText env.schema
            text }) := by
  unfold acquirePort
  rw [Effect.run_bind_of_ok (getConfig_run delegated), free]
  dsimp only
  rw [Effect.run_modify_bind]
  exact saveConfig_run rfl dumped written

end PortManager

theorem readConfig_file (schema : ConfigEnvironment FullNodeConfig Data Bytes
    Raised) :
    (Frame.unchanged ConfigProvider.file).Keeps (readConfig schema) := by
  refine Frame.keeps_bind Frame.keeps_get fun provider => ?_
  cases provider.file with
  | none => exact Frame.keeps_raise _
  | some bytes =>
      refine Frame.keeps_bind (Frame.keeps_ofExcept _) fun text => ?_
      exact Frame.keeps_bind (Frame.keeps_modify fun _ => rfl) fun _ =>
        Frame.keeps_ofExcept _

theorem loadFromYaml_file (schema : ConfigEnvironment FullNodeConfig Data
    Bytes Raised) :
    (Frame.unchanged ConfigProvider.file).Keeps (loadFromYaml schema) :=
  Frame.keeps_bind
    (Frame.keeps_tryExcept (readConfig_file schema) (Frame.keeps_ofExcept _))
    fun _ => Frame.keeps_modify fun _ => rfl

/-- The contents of the two files. -/
def Installation.onDisk {Key : Type} (state : Installation Key Bytes) :
    Option Bytes × Option String :=
  (state.provider.file, state.pem)

theorem readPrivKey_onDisk (text : String) :
    (Frame.unchanged Installation.onDisk).Keeps
      (SecureManager.readPrivKey env text) := by
  have getKeeps : (Frame.unchanged Installation.onDisk).Keeps
      (getConfig env) := by
    intro state
    unfold getConfig getAttribute
    cases delegated : state.provider.delegate <;>
      simp [Part.run_within, Installation.providerPart, delegated,
        Frame.unchanged]
  refine Frame.keeps_bind getKeeps fun config => ?_
  exact Frame.keeps_bind (Frame.keeps_ofExcept _) fun privKey =>
    Frame.keeps_modify fun _ => rfl

theorem postInit_onDisk (generated : env.keys.PrivateKey) {text : String}
    (stored : state.pem = some text) :
    ((postInit env generated).run state).2.onDisk = state.onDisk := by
  have fileKept := loadFromYaml_file env.schema state.provider
  cases ran : (loadFromYaml env.schema).run state.provider with
  | mk result provider =>
      rw [ran] at fileKept
      have within : (Installation.providerPart.within
          (loadFromYaml env.schema) : StartupM env Unit).run state =
            (result, { state with provider := provider }) :=
        Installation.providerPart.run_within_eq ran
      have loaded : { state with provider := provider }.onDisk =
          state.onDisk :=
        Prod.ext fileKept rfl
      cases result with
      | error failure =>
          unfold postInit
          rw [Effect.run_bind_of_error within]
          exact loaded
      | ok value =>
          have found : { state with provider := provider }.pem = some text :=
            stored
          unfold postInit
          rw [Effect.run_bind_of_ok within, loadPrivKey_of_pem generated found]
          exact (readPrivKey_onDisk text _).trans loaded

theorem postInit_run {generated privKey : env.keys.PrivateKey} {text : String}
    {config : FullNodeConfig} {provider : ConfigProvider FullNodeConfig Bytes}
    (stored : state.pem = some text)
    (loaded : (loadFromYaml env.schema).run state.provider =
      (.ok (), provider))
    (delegated : provider.delegate = some config)
    (decrypted : env.keys.fromPem text env.privKeyPassword = .ok privKey) :
    (postInit env generated).run state =
      (.ok (),
        { provider := provider
          pem := state.pem
          privKey := some privKey }) := by
  have found : { state with provider := provider }.pem = some text := stored
  have within : (Installation.providerPart.within (loadFromYaml env.schema) :
      StartupM env Unit).run state =
        (.ok (), { state with provider := provider }) :=
    Installation.providerPart.run_within_eq loaded
  unfold postInit
  rw [Effect.run_bind_of_ok within, loadPrivKey_of_pem generated found]
  unfold SecureManager.readPrivKey
  rw [Effect.run_bind_of_ok (getConfig_run delegated), decrypted]
  rfl

end Files

end KoiNet
