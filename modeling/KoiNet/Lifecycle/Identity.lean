import KoiNet.Components.NodeServer
import KoiNet.Foundation.Execution
import KoiNet.Lifecycle.Initialising

/-!
# The identity of a node over restarts

Once a node has made its private key, every later process finds it in the PEM
file and finds the RID and the public key that belong to it in the config file,
until both files are wiped.  While it runs, its profile names the URL at which
its server listens.
-/

namespace KoiNet

open Foundation

section Lifetimes

variable {Data Bytes Raised : Type}
  (env : StartupEnvironment Data Bytes Raised)

/-- The RID and the public key of the config are those of the key. -/
structure Identified (config : FullNodeConfig)
    (privKey : env.keys.PrivateKey) : Prop where
  named : ∃ rid, config.nodeRid = some rid ∧
    rid.hash = env.sha256Hash (PublicKey.toDer env.keys.toSigningLibrary
      (env.keys.publicKey privKey))
  publishes : config.nodeProfile.publicKey =
    some (PublicKey.toDer env.keys.toSigningLibrary
      (env.keys.publicKey privKey))

/-- The profile names the URL of the server. -/
def FullNodeConfig.Listens (config : FullNodeConfig) : Prop :=
  config.nodeProfile.baseUrl = some config.server.url

variable {env} {legible : FullNodeConfig → Prop}
  {state after : Installation env.keys.PrivateKey Bytes}

/-- What the processes of a node do to its root directory. -/
inductive Installation.Action (Key : Type) where
  /-- A new process initialises the node; the key is used if it has none. -/
  | inits (generated : Key)
  | starts (inUse : String → Nat → Bool)
  /-- The config is changed and saved. -/
  | edits (config : FullNodeConfig)
  | wipes

/-- An edit that leaves the node its identity and its URL. -/
structure KeepsIdentity (config edited : FullNodeConfig) : Prop where
  nodeRid : edited.nodeRid = config.nodeRid
  publicKey : edited.nodeProfile.publicKey = config.nodeProfile.publicKey
  listens : edited.Listens

open Installation in
/-- Only an initialisation that finds a key in the directory may raise; its
process ends. -/
inductive Installation.Step (env : StartupEnvironment Data Bytes Raised)
    (legible : FullNodeConfig → Prop) :
    Action env.keys.PrivateKey → Installation env.keys.PrivateKey Bytes →
      Installation env.keys.PrivateKey Bytes → Prop where
  | inits {generated : env.keys.PrivateKey}
      {state after : Installation env.keys.PrivateKey Bytes} :
      (postInit env generated).run state.exited = (.ok (), after) →
      Step env legible (.inits generated) state after
  | failsToInit {generated : env.keys.PrivateKey}
      {state after : Installation env.keys.PrivateKey Bytes}
      {failure : ConfigFailure Raised} :
      state.pem ≠ none →
      (postInit env generated).run state.exited = (.error failure, after) →
      Step env legible (.inits generated) state after.exited
  | starts {inUse : String → Nat → Bool}
      {state after : Installation env.keys.PrivateKey Bytes} :
      (startConfig env inUse).run state = (.ok (), after) →
      Step env legible (.starts inUse) state after
  | edits {config edited : FullNodeConfig}
      {state after : Installation env.keys.PrivateKey Bytes} :
      state.provider.delegate = some config → KeepsIdentity config edited →
      legible edited →
      (saveConfig env).run (state.setConfig edited) = (.ok (), after) →
      Step env legible (.edits edited) state after
  | wipes {state : Installation env.keys.PrivateKey Bytes} :
      Step env legible .wipes state state.wiped

/-- What the node has in common with the nodes it talks to. -/
abbrev StartupEnvironment.medium (env : StartupEnvironment Data Bytes Raised)
    (leaves : Leaves) (text : Codec Json String) : Medium :=
  { library := env.keys.toSigningLibrary
    sha256Hash := env.sha256Hash
    leaves := leaves
    text := text }

variable (env legible) in
/-- What is written can be read again, the config for a class of configs that
the node does not leave: a name with a `+` would not be read back from the RID.
The default config names no URL. -/
structure Restores : Prop where
  config : ∀ config : FullNodeConfig, legible config → config.Listens →
    ReadsBack env config
  identify : ∀ config privKey, legible config →
    legible (SecureManager.identify env config privKey)
  moved : ∀ config port, legible config →
    legible (PortManager.moved config port)
  default : ∀ config, env.schema.defaults = .ok config → legible config
  privKey : ∀ privKey password text, env.keys.toPem privKey password = .ok text →
    env.keys.fromPem text password = .ok privKey
  unnamed : ∀ config, env.files.defaults = .ok config →
    config.nodeProfile.baseUrl = none

variable (env legible) in
/-- The config goes with this key in the PEM file and with this RID. -/
structure Belongs (privKey : env.keys.PrivateKey) (rid : KoiNetNode)
    (text : String) (config : FullNodeConfig) : Prop where
  nodeRid : config.nodeRid = some rid
  identified : Identified env config privKey
  legible : legible config
  listens : config.Listens
  decrypts : env.keys.fromPem text env.privKeyPassword = .ok privKey

variable (env legible) in
/-- A process that has loaded a config has a key that goes with it. -/
def Installation.Running (state : Installation env.keys.PrivateKey Bytes) :
    Prop :=
  ∀ config, state.provider.delegate = some config →
    legible config ∧ config.Listens ∧
      ∃ privKey, state.privKey = some privKey ∧ Identified env config privKey

open Installation in
variable (env legible) in
/-- The directory has no key. -/
structure Installation.Blank
    (state : Installation env.keys.PrivateKey Bytes) : Prop where
  noPem : state.pem = none
  loads : ∀ config, Loads env state.provider.file config →
    legible config ∧ config.Listens
  running : Running env legible state

variable (env legible) in
/-- The directory has this key and this RID, and so has every process. -/
structure Installation.Installed (privKey : env.keys.PrivateKey)
    (rid : KoiNetNode) (state : Installation env.keys.PrivateKey Bytes) :
    Prop where
  stored : ∃ text, state.pem = some text ∧
    (∃ config, Reads env state.provider.file config ∧
      Belongs env legible privKey rid text config) ∧
    ∀ config, state.provider.delegate = some config →
      state.privKey = some privKey ∧ Belongs env legible privKey rid text config

open Installation

theorem checkUrl_listens {config : FullNodeConfig}
    (unnamed : config.nodeProfile.baseUrl = none) :
    config.checkUrl.Listens := by
  unfold FullNodeConfig.checkUrl
  rw [unnamed]
  rfl

theorem ServerConfig.url_ne_empty (server : ServerConfig) :
    server.url ≠ "" := by
  intro same
  have lengths := congrArg String.length same
  simp [ServerConfig.url] at lengths

theorem checkUrl_of_listens {config : FullNodeConfig}
    (listens : config.Listens) : config.checkUrl = config := by
  unfold FullNodeConfig.checkUrl
  rw [listens]
  split
  · rename_i missing
    cases missing
  · rename_i empty
    exact absurd (Option.some.inj empty) config.server.url_ne_empty
  · rfl

theorem Restores.defaults (restores : Restores env legible)
    {config : FullNodeConfig} (default : env.schema.defaults = .ok config) :
    legible config ∧ config.Listens := by
  refine ⟨restores.default config default, ?_⟩
  change env.files.defaults.map FullNodeConfig.checkUrl = .ok config at default
  cases given : env.files.defaults with
  | error exc =>
      rw [given] at default
      cases default
  | ok chosen =>
      rw [given] at default
      cases default
      exact checkUrl_listens (restores.unnamed chosen given)

theorem Restores.reads (restores : Restores env legible)
    {config : FullNodeConfig} {file : Option Bytes} (named : legible config)
    (listens : config.Listens) (written : Writes env config file) :
    Reads env file config :=
  restores.config config named listens file written

theorem Loads.of_reads {file : Option Bytes} {config loaded : FullNodeConfig}
    (loads : Loads env file loaded) (reads : Reads env file config) :
    loaded = config := by
  rcases loads with read | ⟨unread, _⟩
  · exact read.unique reads
  · exact absurd reads (unread config)

theorem Identified.congr {privKey : env.keys.PrivateKey}
    {config edited : FullNodeConfig}
    (identified : Identified env config privKey)
    (edit : KeepsIdentity config edited) : Identified env edited privKey :=
  { named := by
      rw [edit.nodeRid]
      exact identified.named
    publishes := edit.publicKey.trans identified.publishes }

theorem Belongs.congr {privKey : env.keys.PrivateKey} {rid : KoiNetNode}
    {text : String} {config edited : FullNodeConfig}
    (belongs : Belongs env legible privKey rid text config)
    (edit : KeepsIdentity config edited) (named : legible edited) :
    Belongs env legible privKey rid text edited :=
  { nodeRid := edit.nodeRid.trans belongs.nodeRid
    identified := belongs.identified.congr edit
    legible := named
    listens := edit.listens
    decrypts := belongs.decrypts }

theorem PortManager.moved_listens {config : FullNodeConfig}
    (listens : config.Listens) (port : Nat) : (moved config port).Listens := by
  unfold moved
  dsimp only
  split
  · rfl
  · rename_i stays
    have same : port = config.server.port := by
      by_contra differs
      exact stays ⟨listens, differs⟩
    subst same
    exact listens

namespace Installation

variable {privKey : env.keys.PrivateKey} {rid : KoiNetNode}
  {action : Action env.keys.PrivateKey}

theorem Installed.running (installed : Installed env legible privKey rid state) :
    Running env legible state := by
  obtain ⟨text, _, _, loaded⟩ := installed.stored
  intro config delegated
  obtain ⟨hasKey, belongs⟩ := loaded config delegated
  exact ⟨belongs.legible, belongs.listens, privKey, hasKey,
    belongs.identified⟩

/-- A process that changes its config and saves it. -/
theorem Installed.saved (restores : Restores env legible)
    (installed : Installed env legible privKey rid state)
    {config edited : FullNodeConfig}
    {provider : ConfigProvider FullNodeConfig Bytes}
    (delegated : state.provider.delegate = some config)
    (edit : KeepsIdentity config edited) (named : legible edited)
    (kept : provider.delegate = some edited)
    (written : Writes env edited provider.file) :
    Installed env legible privKey rid { state with provider := provider } := by
  obtain ⟨text, stored, _, loaded⟩ := installed.stored
  obtain ⟨hasKey, belongs⟩ := loaded config delegated
  have belongs := belongs.congr edit named
  refine ⟨text, stored,
    ⟨edited, restores.reads named edit.listens written, belongs⟩,
    fun other same => ?_⟩
  cases kept.symm.trans same
  exact ⟨hasKey, belongs⟩

theorem Blank.saved (restores : Restores env legible)
    (blank : Blank env legible state)
    {config edited : FullNodeConfig}
    {provider : ConfigProvider FullNodeConfig Bytes}
    (delegated : state.provider.delegate = some config)
    (edit : KeepsIdentity config edited) (named : legible edited)
    (kept : provider.delegate = some edited)
    (written : Writes env edited provider.file) :
    Blank env legible { state with provider := provider } := by
  obtain ⟨_, _, key, hasKey, identified⟩ := blank.running config delegated
  refine
    { noPem := blank.noPem
      loads := fun loaded loads => ?_
      running := fun other same => ?_ }
  · rw [loads.of_reads (restores.reads named edit.listens written)]
    exact ⟨named, edit.listens⟩
  · cases kept.symm.trans same
    exact ⟨named, edit.listens, key, hasKey, identified.congr edit⟩

theorem Blank.wiped (restores : Restores env legible)
    (running : Running env legible state) :
    Blank env legible state.wiped :=
  { noPem := rfl
    loads := by
      rintro config (⟨_, _, missing, _⟩ | ⟨_, default⟩)
      · cases missing
      · exact restores.defaults default
    running := running }

theorem Installed.failed (installed : Installed env legible privKey rid state)
    {generated : env.keys.PrivateKey} {failure : ConfigFailure Raised}
    (raised : (postInit env generated).run state.exited =
      (.error failure, after)) :
    Installed env legible privKey rid after.exited := by
  obtain ⟨text, stored, ⟨config, reads, belongs⟩, _⟩ := installed.stored
  have kept := postInit_onDisk generated
    (show state.exited.pem = some text from stored)
  rw [raised] at kept
  obtain ⟨sameFile, samePem⟩ := Prod.mk.inj kept
  refine ⟨text, samePem.trans stored, ⟨config, ?_, belongs⟩, ?_⟩
  · change Reads env after.provider.file config
    rw [sameFile]
    exact reads
  · intro other unset
    cases unset

variable (env legible) in
/-- The directory has no key yet, or one that every process has. -/
def Sound (state : Installation env.keys.PrivateKey Bytes) : Prop :=
  Blank env legible state ∨
    ∃ privKey rid, Installed env legible privKey rid state

theorem Sound.running (sound : Sound env legible state) :
    Running env legible state := by
  rcases sound with blank | ⟨privKey, rid, installed⟩
  · exact blank.running
  · exact installed.running

variable {first middle last : Installation env.keys.PrivateKey Bytes}
  {actions later : List (Action env.keys.PrivateKey)}

end Installation

end Lifetimes

namespace Restart

open Installation

def privKey : Bytes :=
  [0, 0, 0]

/-- The PEM text of this key only. -/
def keys : PemLibrary String :=
  { Wire.lengthSigning with
    toPem := fun (key : Bytes) password =>
      if key = privKey then .ok ("key " ++ password) else .error "unsupported"
    fromPem := fun text password =>
      if text = "key " ++ password then .ok privKey
      else .error "ValueError" }

def standard : FullNodeConfig :=
  { nodeName := "newcomer"
    nodeProfile :=
      { context := NodeProfile.defaultContext
        baseUrl := none
        nodeType := .full
        provides := { event := [], state := [] }
        publicKey := none } }

/-- After the first initialisation. -/
def named : FullNodeConfig :=
  { standard with
    nodeRid := some { name := "newcomer", hash := Base64.encode privKey }
    nodeProfile :=
      { standard.nodeProfile with
        baseUrl := some standard.server.url
        publicKey := some (Base64.encode privKey) } }

/-- After a start while the port is in use. -/
def moved : FullNodeConfig :=
  PortManager.moved named 8001

/-- The two configs are written by their ports. -/
def render (config : FullNodeConfig) : String × Option String :=
  if config = named then ("port: 8000", none)
  else if config = moved then ("port: 8001", none)
  else ("", some "RepresenterError")

def parse (text : String) : Except String FullNodeConfig :=
  if text = "port: 8000" then .ok named
  else if text = "port: 8001" then .ok moved
  else .error "ValidationError"

def env : StartupEnvironment FullNodeConfig String String :=
  { files :=
      { encode := id
        decode := .ok
        validate := parse
        defaults := .ok standard
        isFileNotFound := fun _ => false
        modelDump := .ok
        yamlDump := render }
    keys := keys
    privKeyPassword := "password"
    sha256Hash := id
    overflowError := "OverflowError" }

theorem named_listens : named.Listens :=
  rfl

theorem moved_listens : moved.Listens :=
  PortManager.moved_listens named_listens 8001

theorem moved_ne_named : moved ≠ named := by
  intro same
  have servers := congrArg FullNodeConfig.server same
  unfold moved at servers
  rw [PortManager.moved_server] at servers
  exact absurd (congrArg ServerConfig.port servers) (by decide)

theorem render_named : render named = ("port: 8000", none) :=
  if_pos rfl

theorem render_moved : render moved = ("port: 8001", none) := by
  unfold render
  rw [if_neg moved_ne_named, if_pos rfl]

theorem reads {text : String} {config : FullNodeConfig}
    (parsed : parse text = .ok config) (listens : config.Listens) :
    Reads env (some text) config := by
  refine ⟨_, _, rfl, rfl, ?_⟩
  change (parse text).map FullNodeConfig.checkUrl = .ok config
  rw [parsed]
  exact congrArg Except.ok (checkUrl_of_listens listens)

theorem parse_render {config : FullNodeConfig} {text : String}
    (rendered : render config = (text, none)) : parse text = .ok config := by
  unfold render at rendered
  split at rendered
  · rename_i same
    cases rendered
    exact (if_pos rfl).trans (congrArg Except.ok same.symm)
  · split at rendered
    · rename_i same
      cases rendered
      exact congrArg Except.ok same.symm
    · cases rendered

/-- The name of the node can stand in its RID. -/
def legible (config : FullNodeConfig) : Prop :=
  '+' ∉ config.nodeName.toList

theorem restores : Restores env legible :=
  { config := by
      rintro config - listens file ⟨dumped, text, modelled, written, rfl⟩
      cases modelled
      exact reads (parse_render written) listens
    identify := fun _ _ named => named
    moved := by
      intro config port named
      unfold PortManager.moved
      dsimp only
      split
      · exact named
      · exact named
    default := by
      intro config default
      cases default
      unfold legible
      decide
    privKey := by
      intro (key : Bytes) password text encrypted
      change (if key = privKey then Except.ok ("key " ++ password)
        else .error "unsupported") = .ok text at encrypted
      change (if text = "key " ++ password then Except.ok privKey
        else Except.error "ValueError") = .ok key
      split at encrypted
      · rename_i same
        cases encrypted
        rw [if_pos rfl, same]
      · cases encrypted
    unnamed := by
      intro config default
      cases default
      rfl }

def empty : Installation Bytes String :=
  { provider := .created none
    pem := none
    privKey := none }

theorem blank : Blank env legible empty :=
  { noPem := rfl
    loads := by
      rintro config (⟨_, _, missing, _⟩ | ⟨_, default⟩)
      · cases missing
      · exact restores.defaults default
    running := fun config unset => by cases unset }

/-- The directory of a node with this config file, and its process. -/
def loadedWith (config : FullNodeConfig) (text : String) :
    Installation Bytes String :=
  { provider :=
      { file := some text
        fileContent := none
        delegate := some config }
    pem := some "key password"
    privKey := some privKey }

def busy (_host : String) (port : Nat) : Bool :=
  port = 8000

theorem inits : Step env legible (.inits privKey) empty
    (loadedWith named "port: 8000") := by
  refine .inits ?_
  calc (postInit env privKey).run empty.exited
      = (saveConfig env).run
          { provider :=
              { file := none
                fileContent := none
                delegate := some named }
            pem := some "key password"
            privKey := some privKey } := rfl
    _ = _ := saveConfig_run rfl rfl render_named

theorem starts : Step env legible (.starts busy) (loadedWith named "port: 8000")
    (loadedWith moved "port: 8001") := by
  have saved : (saveConfig env).run (loadedWith named "port: 8000") =
      (.ok (), loadedWith named "port: 8000") :=
    saveConfig_run rfl rfl render_named
  have free : PortManager.freePort (busy named.server.host)
      (65536 - named.server.port) named.server.port = some 8001 := by
    decide
  exact .starts ((Effect.run_bind_of_ok saved _).trans
    (PortManager.acquirePort_run rfl free rfl render_moved))

/-- The next process. -/
def reloaded : Installation Bytes String :=
  { provider :=
      { file := some "port: 8001"
        fileContent := some "port: 8001"
        delegate := some moved }
    pem := some "key password"
    privKey := some privKey }

theorem restarts (generated : Bytes) :
    Step env legible (.inits generated) (loadedWith moved "port: 8001")
      reloaded := by
  have decrypted : env.keys.fromPem "key password" env.privKeyPassword =
      .ok privKey :=
    rfl
  have validated : env.schema.validate "port: 8001" = .ok moved :=
    congrArg Except.ok (checkUrl_of_listens moved_listens)
  exact .inits (postInit_run rfl
    (ConfigProvider.loadFromYaml_run rfl rfl validated) rfl decrypted)

def text : Codec Json String :=
  { encode := Newcomer.dumps
    decode := fun _ => none }

end Restart

end KoiNet
