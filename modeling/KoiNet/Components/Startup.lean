import KoiNet.Components.ConfigProvider
import KoiNet.Foundation.Part
import KoiNet.Protocol.Profile
import KoiNet.Protocol.Signing

/-!
# Keys and ports

When a node is initialised it loads its config and its private key, or makes a
key and takes its RID from it.  When it is started it looks for a free port and
keeps the URL in its profile up to date.  Both write to the root directory, of
which only the config file and the PEM file are kept here.
-/

namespace KoiNet

open Foundation

structure ServerConfig where
  host : String := "127.0.0.1"
  port : Nat := 8000
  path : Option String := some "/koi-net"
  deriving DecidableEq, Repr

def ServerConfig.url (server : ServerConfig) : String :=
  "http://" ++ server.host ++ ":" ++ toString server.port ++
    server.path.getD ""

/-- What a full node is initialised and started with, but for what comes from
the environment. -/
structure FullNodeConfig where
  nodeName : String
  nodeRid : Option KoiNetNode := none
  nodeProfile : NodeProfile
  server : ServerConfig := {}
  deriving DecidableEq, Repr

namespace FullNodeConfig

def withBaseUrl (config : FullNodeConfig) (baseUrl : Option String) :
    FullNodeConfig :=
  { config with nodeProfile := { config.nodeProfile with baseUrl := baseUrl } }

/-- Generates the base URL if it is missing. -/
def checkUrl (config : FullNodeConfig) : FullNodeConfig :=
  match config.nodeProfile.baseUrl with
  | none | some "" => config.withBaseUrl (some config.server.url)
  | some _ => config

end FullNodeConfig

/-- What is used of the cryptographic library to keep a key in a file. -/
structure PemLibrary (Raised : Type) extends SigningLibrary where
  toPem : PrivateKey → String → Except Raised String
  fromPem : String → String → Except Raised PrivateKey

def PublicKey.toNodeRid (library : SigningLibrary)
    (sha256Hash : String → String) (pubKey : library.Key) (name : String) :
    KoiNetNode :=
  { name := name
    hash := sha256Hash (PublicKey.toDer library pubKey) }

structure StartupEnvironment (Data Bytes Raised : Type) where
  files : ConfigEnvironment FullNodeConfig Data Bytes Raised
  keys : PemLibrary Raised
  /-- `config.env.priv_key_password`, which is not saved: each load of the
  config takes it from the environment. -/
  privKeyPassword : String
  sha256Hash : String → String
  /-- What `connect_ex` raises for a port above 65535. -/
  overflowError : Raised

/-- The schema, with its validator. -/
def StartupEnvironment.schema {Data Bytes Raised : Type}
    (env : StartupEnvironment Data Bytes Raised) :
    ConfigEnvironment FullNodeConfig Data Bytes Raised :=
  { env.files with
    validate := fun text =>
      (env.files.validate text).map FullNodeConfig.checkUrl
    defaults := env.files.defaults.map FullNodeConfig.checkUrl }

/-- The config provider with its file, the PEM file and the loaded key. -/
structure Installation (Key Bytes : Type) where
  provider : ConfigProvider FullNodeConfig Bytes
  pem : Option String
  privKey : Option Key

namespace Installation

variable {Key Bytes : Type}

def providerPart :
    Part (Installation Key Bytes) (ConfigProvider FullNodeConfig Bytes) :=
  { get := fun state => state.provider
    set := fun state provider => { state with provider := provider }
    get_set := fun _ _ => rfl
    set_get := fun _ => rfl
    set_set := fun _ _ _ => rfl }

/-- Another process finds the files only. -/
def exited (state : Installation Key Bytes) : Installation Key Bytes :=
  { state with
    provider := .created state.provider.file
    privKey := none }

/-- `ConfigProvider.wipe`. -/
def wiped (state : Installation Key Bytes) : Installation Key Bytes :=
  { state with
    provider := { state.provider with file := none }
    pem := none }

/-- Set attributes of the config. -/
def setConfig (config : FullNodeConfig) (state : Installation Key Bytes) :
    Installation Key Bytes :=
  { state with provider := { state.provider with delegate := some config } }

end Installation

section Startup

variable {Data Bytes Raised : Type}
  (env : StartupEnvironment Data Bytes Raised)

abbrev StartupM (env : StartupEnvironment Data Bytes Raised) (α : Type) :
    Type :=
  Effect (ConfigFailure Raised) (Installation env.keys.PrivateKey Bytes) α

open Installation

/-- The config that the provider gives access to. -/
def getConfig : StartupM env FullNodeConfig :=
  providerPart.within
    (ConfigProvider.getAttribute "_delegate" ConfigProvider.delegate)

def saveConfig : StartupM env Unit :=
  providerPart.within (ConfigProvider.saveToYaml env.schema)

namespace SecureManager

/-- The config of the node with this key. -/
def identify (config : FullNodeConfig) (privKey : env.keys.PrivateKey) :
    FullNodeConfig :=
  let pubKey := env.keys.publicKey privKey
  { config with
    nodeRid := some (PublicKey.toNodeRid env.keys.toSigningLibrary
      env.sha256Hash pubKey config.nodeName)
    nodeProfile :=
      { config.nodeProfile with
        publicKey :=
          some (PublicKey.toDer env.keys.toSigningLibrary pubKey) } }

/-- The generated key is an argument. -/
def createPrivKey (generated : env.keys.PrivateKey) : StartupM env Unit := do
  Effect.modify fun state =>
    { state with
      privKey := some generated
      -- `open(.., "w")`
      pem := some "" }
  let config ← getConfig env
  let text ← Effect.ofExcept
    ((env.keys.toPem generated env.privKeyPassword).mapError .raised)
  Effect.modify fun state => { state with pem := some text }
  Effect.modify (setConfig (identify env config generated))
  saveConfig env

def readPrivKey (text : String) : StartupM env Unit := do
  let _ ← getConfig env
  let privKey ← Effect.ofExcept
    ((env.keys.fromPem text env.privKeyPassword).mapError .raised)
  Effect.modify fun state => { state with privKey := some privKey }

def loadPrivKey (generated : env.keys.PrivateKey) : StartupM env Unit := do
  match (← Effect.get).pem with
  | none => createPrivKey env generated
  | some text => readPrivKey env text

end SecureManager

namespace PortManager

/-- The first port not in use, of so many from this one on. -/
def freePort (inUse : Nat → Bool) : Nat → Nat → Option Nat
  | 0, _ => none
  | tries + 1, port =>
      if inUse port then freePort inUse tries (port + 1) else some port

/-- The config with the port that was found. -/
def moved (config : FullNodeConfig) (port : Nat) : FullNodeConfig :=
  let server := { config.server with port := port }
  let baseUrlIsDerived :=
    config.nodeProfile.baseUrl = some config.server.url
  if baseUrlIsDerived ∧ port ≠ config.server.port then
    { config with server := server }.withBaseUrl (some server.url)
  else
    { config with server := server }

def acquirePort (inUse : String → Nat → Bool) : StartupM env Unit := do
  let config ← getConfig env
  match freePort (inUse config.server.host) (65536 - config.server.port)
      config.server.port with
  | none =>
      Effect.modify (setConfig
        { config with
          server :=
            { config.server with port := max 65536 config.server.port } })
      Effect.raise (.raised env.overflowError)
  | some port =>
      Effect.modify (setConfig (moved config port))
      saveConfig env

end PortManager

/-- The components that run code when they are initialised. -/
def postInit (generated : env.keys.PrivateKey) : StartupM env Unit := do
  providerPart.within (ConfigProvider.loadFromYaml env.schema)
  SecureManager.loadPrivKey env generated

/-- The start methods of the config provider and the port manager. -/
def startConfig (inUse : String → Nat → Bool) : StartupM env Unit := do
  saveConfig env
  PortManager.acquirePort env inUse

end Startup

end KoiNet
